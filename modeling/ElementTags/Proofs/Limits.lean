import ElementTags.Attribute.Reader
import ElementTags.Proofs.Lookahead
import ElementTags.Proofs.Outcome

/-! # Readers that are broken off

Every reader is written once more with a limit. A call takes one from the limit before it calls
itself again, be it for a value inside of another one or for the next round of a loop, and where
nothing is left of the limit the reading is broken off. So a limit bounds how deep values are
nested as well as how often every loop goes round. A limit above the number of tokens is never
reached, and then the outcome is the one of the reader without a limit
(`ElementTags.Attribute.Limited.Finishes`), also if the list of tokens is refused; below that,
brackets that are never closed reach every limit
(`ElementTags.Attribute.Limited.termWithin_unclosed`).
-/

namespace ElementTags

/-- What was read and the tokens behind it, without the proof that they are fewer. -/
def Read.parts {α : Type} {n : Nat} (r : Read α n) : α × List Token := (r.value, r.rest)

namespace Attribute

/-- A reading that may also be broken off before there is an outcome. -/
abbrev Limited := ExceptT AttributeFault Option

namespace Limited

/-- A reading that is broken off. -/
def brokenOff {α : Type} : Limited α := ExceptT.mk none

/-- A reading that is not broken off. -/
def whole {α : Type} (x : Reading α) : Limited α := ExceptT.mk (some x)

/-- A step of a reading that calls nothing again, so that no limit applies to it. -/
def step {α : Type} {n : Nat} (x : Reading (Read α n)) : Limited (α × List Token) :=
  whole (x.map Read.parts)

/-! ## The readers with a limit -/

/-- The filters in front of some tokens, in fewer rounds than the limit. -/
def callsWithin (source : Text) : Nat → List Token → Limited (List WrittenCall × List Token)
  | 0, _ => brokenOff
  | _ + 1, [] => pure ([], [])
  | limit + 1, bar :: rest =>
    if bar.isMark '|' then
      match rest with
      | [] => throw (endsEarly source)
      | name :: behind =>
        if name.kind = .name then do
          let (argument, behind) ← step (readArgument source behind)
          let (others, behind) ← callsWithin source limit behind
          pure (⟨name.text, argument⟩ :: others, behind)
        else throw (complain .unexpectedToken name)
    else pure ([], bar :: rest)

/-- The filters behind a list, a dictionary, an expression or joined operands. -/
def filtersWithin (source : Text) (limit : Nat) (ts : List Token) :
    Limited (List AppliedFilter × List Token) := do
  let (calls, behind) ← callsWithin source limit ts
  let arguments ← whole (calls.mapM WrittenCall.compileArgument)
  let filters ← whole ((calls.zip arguments).mapM knownFilter)
  pure (filters, behind)

/-- Operators with the operands behind them, in fewer rounds than the limit. -/
def operationsWithin (source : Text) :
    Nat → List Token → Limited (List (Operator × FilterExpr) × List Token)
  | 0, _ => brokenOff
  | _ + 1, [] => pure ([], [])
  | limit + 1, t :: rest =>
    match operator? t with
    | none => pure ([], t :: rest)
    | some o => do
      let (operand, behind) ← step (readOperand source rest)
      let value ← whole (compile operand [])
      let (others, behind) ← operationsWithin source limit behind
      pure ((o, value) :: others, behind)

/-- A plain value, or operands that are joined. -/
def plainWithin (source : Text) (limit : Nat) (ts : List Token) :
    Limited (Term × List Token) := do
  let (operand, behind) ← step (readOperand source ts)
  if startsWithOperator behind then
    let first ← whole (compile operand [])
    let (others, behind) ← operationsWithin source limit behind
    let (filters, behind) ← filtersWithin source limit behind
    pure (.joined first others filters, behind)
  else
    let (calls, behind) ← callsWithin source limit behind
    let value ← whole (compile operand (calls.flatMap WrittenCall.text))
    pure (.plain value, behind)

/-- The token that closes the outermost of `depth + 1` open brackets, and the tokens behind it. -/
def closingWithin (source : Text) : Nat → Nat → List Token → Limited (Token × List Token)
  | 0, _, _ => brokenOff
  | _ + 1, _, [] => throw (endsEarly source)
  | limit + 1, depth, t :: rest =>
    if opens t then closingWithin source limit (depth + 1) rest
    else if closes t then
      match depth with
      | 0 => pure (t, rest)
      | d + 1 => closingWithin source limit d rest
    else closingWithin source limit depth rest

/-- The code of an expression behind its opening parenthesis. -/
def codeWithin (source : Text) (limit : Nat) (paren : Token) (ts : List Token) :
    Limited (Text × List Token) := do
  let (close, rest) ← closingWithin source limit 0 ts
  let code := codeBetween source paren.stop close.start
  if close.isMark ')' && !code.isEmpty then pure (code, rest)
  else throw (complain .unexpectedToken close)

/-- The items of a list behind its opening bracket. Each of them is read by `value`. -/
def itemsWithin (value : List Token → Limited (Term × List Token)) (source : Text) :
    Nat → List Token → Limited (List Term × List Token)
  | 0, _ => brokenOff
  | limit + 1, ts =>
    if startsWithMark ']' ts then pure ([], ts.tail)
    else do
      let (item, behind) ← value ts
      let (_, behind) ← step (readComma source ']' behind)
      let (others, behind) ← itemsWithin value source limit behind
      pure (item :: others, behind)

/-- The pairs of a dictionary behind its opening brace. The value of each is read by `value`. -/
def pairsWithin (value : List Token → Limited (Term × List Token)) (source : Text) :
    Nat → List Token → Limited (List (Text × Term) × List Token)
  | 0, _ => brokenOff
  | limit + 1, ts =>
    if startsWithMark '}' ts then pure ([], ts.tail)
    else do
      let (key, behind) ← step (readPairKey source ts)
      let (own, behind) ← value behind
      let (_, behind) ← step (readComma source '}' behind)
      let (others, behind) ← pairsWithin value source limit behind
      pure ((key, own) :: others, behind)

/-- A value in which values are nested less deep than the limit. What is inside of it has to do
with one level less. -/
def termWithin (source : Text) : Nat → List Token → Limited (Term × List Token)
  | 0, _ => brokenOff
  | _ + 1, [] => throw (endsEarly source)
  | limit + 1, t :: rest =>
    if t.isMark '[' then do
      let (items, behind) ← itemsWithin (termWithin source limit) source limit rest
      let (filters, behind) ← filtersWithin source limit behind
      pure (.list items filters, behind)
    else if t.isMark '{' then do
      let (pairs, behind) ← pairsWithin (termWithin source limit) source limit rest
      let (filters, behind) ← filtersWithin source limit behind
      pure (.dict pairs filters, behind)
    else if t.isMark '(' then do
      let (code, behind) ← codeWithin source limit t rest
      let (filters, behind) ← filtersWithin source limit behind
      pure (.parenthesized code filters, behind)
    else plainWithin source limit (t :: rest)

/-- The hyphens and names that continue a key, and the tokens behind them. -/
def hyphensWithin : Nat → Token → List Token → Limited (Text × List Token)
  | 0, _, _ => brokenOff
  | _ + 1, _, [] => pure ([], [])
  | limit + 1, last, hyphen :: rest =>
    if hyphen.isMark '-' && last.touches hyphen then
      match rest with
      | [] => throw (complain .unexpectedToken hyphen)
      | part :: behind =>
        if !hyphen.touches part || part.kind = .mark then
          throw (complain .unexpectedToken hyphen)
        else if part.kind = .quoted then throw (complain .invalidKeyName part)
        else do
          let (more, behind) ← hyphensWithin limit part behind
          pure ('-' :: part.text ++ more, behind)
    else do
      whole (checkBehindName last (hyphen :: rest))
      pure ([], hyphen :: rest)

/-- The key that starts with a token. -/
def keyWithin (limit : Nat) (first : Token) (rest : List Token) : Limited KeyCandidate :=
  if first.kind = .quoted then do
    whole (checkBehindQuoted first rest)
    pure ⟨Text.unquote first.text, false, rest⟩
  else do
    let (more, behind) ← hyphensWithin limit first rest
    pure ⟨first.text ++ more, !more.isEmpty, behind⟩

/-- An attribute. The key and the value of it have the same limit. -/
def entryWithin (source : Text) (limit : Nat) (first : Token) (rest : List Token) :
    Limited (Entry × List Token) :=
  if mayBeKey first rest then keyWithin limit first rest >>= behindKey
  else if startsValue first rest then positional
  else throw (complain .unexpectedToken first)
where
  /-- A value without a key. -/
  positional : Limited (Entry × List Token) := do
    let (value, behind) ← termWithin source limit (first :: rest)
    pure (.positional first.start value, behind)
  /-- What follows decides whether what could be a key is one. -/
  behindKey (k : KeyCandidate) : Limited (Entry × List Token) :=
    if startsWithMark '=' k.rest then do
      let (value, behind) ← termWithin source limit k.rest.tail
      pure (.keyword first.start k.key value, behind)
    else if k.hasHyphens then pure (.positional first.start (.hyphenated k.key), k.rest)
    else positional

/-- The entries of a list of tokens. -/
def entriesWithin (source : Text) : Nat → List Token → Limited (List Entry)
  | 0, _ => brokenOff
  | _ + 1, [] => pure []
  | limit + 1, t :: rest =>
    if t.isMark ',' then
      match rest with
      | [] => pure []
      | first :: behind => do
        let (entry, behind) ← entryWithin source (limit + 1) first behind
        let others ← entriesWithin source limit behind
        pure (entry :: others)
    else do
      let (entry, behind) ← entryWithin source (limit + 1) t rest
      let others ← entriesWithin source limit behind
      pure (entry :: others)

/-! ## Readings that are not broken off -/

section Finishes

variable {α α' β β' : Type} {view : β → α} {view' : β' → α'} {x x' : Limited α} {y y' : Reading β}

/-- A reading is not broken off, and its outcome is a view of the outcome of another one. -/
def Finishes (view : β → α) (x : Limited α) (y : Reading β) : Prop := x = whole (y.map view)

theorem finishes_pure (b : β) : Finishes view (pure (view b)) (.ok b) := rfl

theorem finishes_throw (fault : AttributeFault) : Finishes view (throw fault) (.error fault) := rfl

theorem finishes_whole (x : Reading α) : Finishes id (whole x) x := by
  cases x <;> rfl

theorem finishes_step {n : Nat} (x : Reading (Read α n)) : Finishes Read.parts (step x) x := rfl

theorem Finishes.bind {f : α → Limited α'} {g : β → Reading β'} (first : Finishes view x y)
    (next : ∀ b, Finishes view' (f (view b)) (g b)) : Finishes view' (x >>= f) (y >>= g) := by
  cases y with
  | error fault =>
      rw [first]
      rfl
  | ok b =>
      have continued := next b
      rw [first]
      exact continued

theorem Finishes.map {f : α → α'} {g : β → β'} (first : Finishes view x y)
    (same : ∀ b, f (view b) = view' (g b)) :
    Finishes view' (x >>= fun a => pure (f a)) (y.map g) := by
  cases y with
  | error fault =>
      rw [first]
      rfl
  | ok b =>
      rw [first]
      exact congrArg (fun a => whole (.ok a)) (same b)

theorem Finishes.ite {c : Prop} [Decidable c] (yes : c → Finishes view x y)
    (no : ¬c → Finishes view x' y') :
    Finishes view (if c then x else x') (if c then y else y') := by
  split
  · exact yes ‹_›
  · exact no ‹_›

end Finishes

/-! ## Filters and operands -/

variable {source : Text} {limit : Nat} {ts : List Token}

theorem callsWithin_finishes (enough : ts.length < limit) :
    Finishes Read.parts (callsWithin source limit ts) (readCalls source ts) := by
  induction limit generalizing ts with
  | zero => exact absurd enough (Nat.not_lt_zero _)
  | succ limit ih =>
      fun_cases readCalls source ts with
      | case1 =>
          rw [callsWithin, readCalls]
          exact finishes_pure _
      | case2 bar mark =>
          rw [callsWithin, readCalls, if_pos mark, if_pos mark]
          exact finishes_throw _
      | case3 bar mark name behind kind =>
          rw [callsWithin, readCalls, if_pos mark, if_pos mark]
          simp only [if_pos kind]
          refine (finishes_step _).bind fun argument => ?_
          have left : argument.parts.2.length < behind.length + 1 := argument.within
          simp only [List.length_cons] at enough
          exact (ih (by omega)).bind fun others => finishes_pure _
      | case4 bar mark name behind other =>
          rw [callsWithin, readCalls, if_pos mark, if_pos mark]
          simp only [if_neg other]
          exact finishes_throw _
      | case5 bar rest other =>
          rw [callsWithin.eq_def, readCalls.eq_def]
          simp only [if_neg other]
          exact finishes_pure _

theorem filtersWithin_finishes (enough : ts.length < limit) :
    Finishes Read.parts (filtersWithin source limit ts) (readFilters source ts) := by
  refine (callsWithin_finishes enough).bind fun calls => ?_
  refine (finishes_whole _).bind fun arguments => ?_
  exact (finishes_whole _).bind fun filters => finishes_pure _

theorem operationsWithin_finishes (enough : ts.length < limit) :
    Finishes Read.parts (operationsWithin source limit ts) (readOperations source ts) := by
  induction limit generalizing ts with
  | zero => exact absurd enough (Nat.not_lt_zero _)
  | succ limit ih =>
      fun_cases readOperations source ts with
      | case1 =>
          rw [operationsWithin, readOperations]
          exact finishes_pure _
      | case2 t rest other =>
          rw [operationsWithin, readOperations]
          simp only [other]
          exact finishes_pure _
      | case3 t rest operator mark =>
          rw [operationsWithin, readOperations]
          simp only [mark]
          refine (finishes_step _).bind fun operand => ?_
          refine (finishes_whole _).bind fun value => ?_
          have left : operand.parts.2.length < rest.length := operand.within
          simp only [List.length_cons] at enough
          exact (ih (by omega)).bind fun others => finishes_pure _

theorem plainWithin_finishes (enough : ts.length ≤ limit) :
    Finishes Read.parts (plainWithin source limit ts) (readPlain source ts) := by
  refine (finishes_step _).bind fun operand => ?_
  have left := operand.within
  refine Finishes.ite (fun _ => ?_) fun _ => ?_
  · refine (finishes_whole _).bind fun first => ?_
    refine (operationsWithin_finishes (by omega)).bind fun others => ?_
    have further := others.within
    exact (filtersWithin_finishes (by omega)).bind fun filters => finishes_pure _
  · refine (callsWithin_finishes (by omega)).bind fun calls => ?_
    exact (finishes_whole _).bind fun value => finishes_pure _

/-! ## Code -/

theorem closingWithin_finishes {depth : Nat} (enough : ts.length < limit) :
    Finishes id (closingWithin source limit depth ts)
      ((closing? depth ts).elim (.error (endsEarly source)) .ok) := by
  induction limit generalizing depth ts with
  | zero => exact absurd enough (Nat.not_lt_zero _)
  | succ limit ih =>
      match ts with
      | [] => exact finishes_throw _
      | t :: rest =>
          have enough : rest.length < limit := Nat.lt_of_succ_lt_succ enough
          rw [closingWithin.eq_def, closing?.eq_def]
          simp only
          by_cases opening : opens t = true
          · rw [if_pos opening, if_pos opening]
            exact ih enough
          · rw [if_neg opening, if_neg opening]
            by_cases closing : closes t = true
            · rw [if_pos closing, if_pos closing]
              cases depth with
              | zero => exact finishes_pure _
              | succ depth => exact ih enough
            · rw [if_neg closing, if_neg closing]
              exact ih enough

theorem codeWithin_finishes {paren : Token} (enough : ts.length < limit) :
    Finishes Read.parts (codeWithin source limit paren ts) (readCode source paren ts) := by
  have closed : Finishes id (closingWithin source limit 0 ts)
      ((closing? 0 ts).elim (.error (endsEarly source)) .ok) := closingWithin_finishes enough
  unfold codeWithin readCode
  split
  · rename_i none
    rw [none] at closed
    rw [closed]
    exact finishes_throw _
  · rename_i close rest found
    rw [found] at closed
    rw [closed]
    exact Finishes.ite (fun _ => finishes_pure _) fun _ => finishes_throw _

/-! ## Values -/

section Values

variable {value : List Token → Limited (Term × List Token)} {bound : Nat}

theorem itemsWithin_finishes
    (each : ∀ ts, ts.length < bound → Finishes Read.parts (value ts) (readTerm source ts))
    (inside : ts.length < bound) (enough : ts.length < limit) :
    Finishes Read.parts (itemsWithin value source limit ts) (readItems source ts) := by
  induction limit generalizing ts with
  | zero => exact absurd enough (Nat.not_lt_zero _)
  | succ limit ih =>
      match ts with
      | [] =>
          have early := each [] inside
          rw [readTerm] at early
          rw [readItems, itemsWithin, early]
          exact finishes_throw _
      | t :: rest =>
          rw [readItems, itemsWithin]
          refine Finishes.ite (fun _ => finishes_pure _) fun _ => ?_
          refine (each _ inside).bind fun item => ?_
          refine (finishes_step _).bind fun comma => ?_
          have left := item.within
          have further := comma.within
          exact (ih (by omega) (by omega)).bind fun others => finishes_pure _

theorem pairsWithin_finishes
    (each : ∀ ts, ts.length < bound → Finishes Read.parts (value ts) (readTerm source ts))
    (inside : ts.length < bound) (enough : ts.length < limit) :
    Finishes Read.parts (pairsWithin value source limit ts) (readPairs source ts) := by
  induction limit generalizing ts with
  | zero => exact absurd enough (Nat.not_lt_zero _)
  | succ limit ih =>
      match ts with
      | [] =>
          rw [readPairs, pairsWithin]
          exact finishes_throw _
      | t :: rest =>
          rw [readPairs, pairsWithin]
          refine Finishes.ite (fun _ => finishes_pure _) fun _ => ?_
          refine (finishes_step _).bind fun key => ?_
          have front := key.within
          refine (each _ (by omega)).bind fun own => ?_
          refine (finishes_step _).bind fun comma => ?_
          have left := own.within
          have further := comma.within
          exact (ih (by omega) (by omega)).bind fun others => finishes_pure _

end Values

theorem termWithin_finishes (enough : ts.length < limit) :
    Finishes Read.parts (termWithin source limit ts) (readTerm source ts) := by
  induction limit generalizing ts with
  | zero => exact absurd enough (Nat.not_lt_zero _)
  | succ limit ih =>
      match ts with
      | [] =>
          rw [termWithin, readTerm]
          exact finishes_throw _
      | t :: rest =>
          have inside : rest.length < limit := Nat.lt_of_succ_lt_succ enough
          rw [termWithin, readTerm]
          refine Finishes.ite (fun _ => ?_) fun _ => Finishes.ite (fun _ => ?_) fun _ =>
            Finishes.ite (fun _ => ?_) fun _ => ?_
          · refine (itemsWithin_finishes (fun _ => ih) inside inside).bind fun items => ?_
            have left := items.within
            exact (filtersWithin_finishes (by omega)).bind fun filters => finishes_pure _
          · refine (pairsWithin_finishes (fun _ => ih) inside inside).bind fun pairs => ?_
            have left := pairs.within
            exact (filtersWithin_finishes (by omega)).bind fun filters => finishes_pure _
          · refine (codeWithin_finishes inside).bind fun code => ?_
            have left := code.within
            exact (filtersWithin_finishes (by omega)).bind fun filters => finishes_pure _
          · exact plainWithin_finishes (Nat.succ_le_of_lt inside)

/-- Brackets that are never closed reach every limit up to their number. -/
theorem termWithin_unclosed (brackets : ∀ t ∈ ts, t.isMark '[' = true) (deep : limit ≤ ts.length) :
    termWithin source limit ts = brokenOff := by
  induction limit generalizing ts with
  | zero => rfl
  | succ limit ih =>
      match ts with
      | t :: rest =>
          obtain ⟨mark, others⟩ := List.forall_mem_cons.mp brackets
          have deeper : limit ≤ rest.length := Nat.le_of_succ_le_succ deep
          have inner : itemsWithin (termWithin source limit) source limit rest = brokenOff := by
            match limit, rest with
            | 0, _ => rfl
            | limit + 1, u :: rest =>
                have noClose : startsWithMark ']' (u :: rest) = false :=
                  Token.isMark_of_ne (others u List.mem_cons_self) (by decide)
                rw [itemsWithin, noClose, if_neg Bool.false_ne_true, ih others deeper]
                rfl
          rw [termWithin, if_pos mark, inner]
          rfl

/-! ## Entries -/

theorem hyphensWithin_finishes {last : Token} (enough : ts.length < limit) :
    Finishes id (hyphensWithin limit last ts) (scanHyphens last ts) := by
  induction limit generalizing last ts with
  | zero => exact absurd enough (Nat.not_lt_zero _)
  | succ limit ih =>
      fun_cases scanHyphens last ts with
      | case1 => exact finishes_pure _
      | case2 hyphen mark =>
          rw [hyphensWithin, if_pos mark]
          exact finishes_throw _
      | case3 hyphen mark part behind apart =>
          rw [hyphensWithin, if_pos mark]
          simp only [if_pos apart]
          exact finishes_throw _
      | case4 hyphen mark part behind adjacent quoted =>
          rw [hyphensWithin, if_pos mark]
          simp only [if_neg adjacent, if_pos quoted]
          exact finishes_throw _
      | case5 hyphen mark part behind adjacent other =>
          rw [hyphensWithin, if_pos mark]
          simp only [if_neg adjacent, if_neg other]
          simp only [List.length_cons] at enough
          exact (ih (by omega)).map fun _ => rfl
      | case6 hyphen rest other =>
          rw [hyphensWithin.eq_def]
          simp only [if_neg other]
          exact (finishes_whole _).map fun _ => rfl

theorem keyWithin_finishes {first : Token} (enough : ts.length < limit) :
    Finishes id (keyWithin limit first ts) (keyCandidate first ts) := by
  refine Finishes.ite (fun _ => ?_) fun _ => ?_
  · exact (finishes_whole _).map fun _ => rfl
  · exact (hyphensWithin_finishes enough).map fun _ => rfl

theorem positionalWithin_finishes {first : Token} (enough : ts.length + 1 < limit) :
    Finishes Read.parts (entryWithin.positional source limit first ts)
      (readEntry.positional source first ts) :=
  (termWithin_finishes enough).map fun _ => rfl

theorem behindKeyWithin_finishes {first : Token} {k : KeyCandidate}
    (enough : ts.length + 1 < limit) (starts : mayBeKey first ts = true)
    (candidate : keyCandidate first ts = .ok k) :
    Finishes Read.parts (entryWithin.behindKey source limit first ts k)
      (readEntry source first ts) := by
  unfold entryWithin.behindKey
  by_cases mark : startsWithMark '=' k.rest = true
  · rw [if_pos mark]
    have fewer := keyCandidate_length candidate
    cases next : k.rest with
    | nil =>
        rw [next] at mark
        cases mark
    | cons equals behind =>
        rw [next] at mark fewer
        rw [List.length_cons] at fewer
        obtain ⟨_, read⟩ := readEntry_equals source starts candidate next mark
        rw [read]
        have inside : behind.length < limit := by omega
        exact (termWithin_finishes inside).map fun _ => rfl
  · have noEquals : ∀ t ∈ k.rest.head?, t.isMark '=' = false := by
      intro t first
      obtain ⟨behind, next⟩ := List.head?_eq_some_iff.mp first
      rw [next] at mark
      exact eq_false_of_ne_true mark
    rw [if_neg mark, readEntry_notKey starts candidate noEquals]
    exact Finishes.ite (fun _ => finishes_pure _) fun _ => positionalWithin_finishes enough

theorem entryWithin_finishes {first : Token} (enough : ts.length + 1 < limit) :
    Finishes Read.parts (entryWithin source limit first ts) (readEntry source first ts) := by
  unfold entryWithin
  by_cases starts : mayBeKey first ts = true
  · have scanned : Finishes id (keyWithin limit first ts) (keyCandidate first ts) :=
      keyWithin_finishes (Nat.lt_of_succ_lt enough)
    rw [if_pos starts, scanned]
    cases candidate : keyCandidate first ts with
    | error fault =>
        rw [readEntry_noCandidate starts candidate]
        exact finishes_throw _
    | ok k => exact behindKeyWithin_finishes enough starts candidate
  · rw [if_neg starts, readEntry, if_neg starts]
    exact Finishes.ite (fun _ => positionalWithin_finishes enough) fun _ => finishes_throw _

theorem entriesWithin_finishes (enough : ts.length < limit) :
    Finishes id (entriesWithin source limit ts) (readEntries source ts) := by
  induction limit generalizing ts with
  | zero => exact absurd enough (Nat.not_lt_zero _)
  | succ limit ih =>
      fun_cases readEntries source ts with
      | case1 => exact finishes_pure _
      | case2 comma mark =>
          rw [entriesWithin, if_pos mark]
          exact finishes_pure _
      | case3 comma mark first behind =>
          rw [entriesWithin, if_pos mark]
          simp only [List.length_cons] at enough
          refine (entryWithin_finishes (by omega)).bind fun entry => ?_
          have left := entry.within
          exact (ih (by omega)).bind fun others => finishes_pure _
      | case4 first behind other =>
          rw [entriesWithin.eq_def]
          simp only [if_neg other]
          refine (entryWithin_finishes enough).bind fun entry => ?_
          have left : entry.parts.2.length < behind.length + 1 := entry.within
          simp only [List.length_cons] at enough
          exact (ih (by omega)).bind fun others => finishes_pure _

end Limited
end Attribute
end ElementTags
