import ElementTags.Attribute.Entry
import ElementTags.Attribute.Token

/-!
# Reading attribute lists

The grammar of attribute lists, read from left to right over the tokens. Every step returns the
tokens behind what it read together with the proof that they are fewer, so that reading ends for
every list of tokens, also for one with brackets that are never closed.

A plain value is put together from its tokens and handed to `FilterExpr.ofText`. A literal stands
for a plain text in an attribute, not for a safe one.
-/

namespace ElementTags

/-- What was read and the tokens behind it, of which there are fewer than `bound`. -/
structure Read (α : Type) (bound : Nat) where
  value : α
  rest : List Token
  within : rest.length < bound

namespace Read

/-- The result under a larger bound. -/
def widen {α : Type} {a b : Nat} (r : Read α a) (h : a ≤ b) : Read α b :=
  ⟨r.value, r.rest, Nat.lt_of_lt_of_le r.within h⟩

/-- A result made from another one. -/
def map {α β : Type} {n : Nat} (f : α → β) (r : Read α n) : Read β n :=
  ⟨f r.value, r.rest, r.within⟩

end Read

namespace Attribute

/-- Reading attributes may be refused. -/
abbrev Reading := Except AttributeFault

/-- What is shown behind the attributes of a tag. It stands for the missing token where a list ends
too early. -/
def blockEnd : Text := ['%', '}']

/-- A complaint about a token. -/
def complain (complaint : Complaint) (t : Token) : AttributeFault :=
  .grammar ⟨complaint, t.text, t.start⟩

/-- The complaint that a list ends too early. -/
def endsEarly (source : Text) : AttributeFault :=
  .grammar ⟨.unexpectedToken, blockEnd, source.length⟩

/-- The complaint about the first of some tokens, or about the end if there is none. -/
def unexpected (source : Text) : List Token → AttributeFault
  | [] => endsEarly source
  | t :: _ => complain .unexpectedToken t

/-- The number at the start of some tokens that is written with a minus sign right before its first
digit, and the tokens behind it. -/
def negative? : List Token → Option (Token × List Token)
  | sign :: number :: rest =>
    if sign.isMark '-' && number.kind = .name && (number.text.head?.map Text.isDigit).getD false &&
        sign.touches number then
      some (number, rest)
    else none
  | _ => none

/-- The tokens behind the opening parenthesis of a localized literal. -/
def localized? : List Token → Option (List Token)
  | name :: paren :: rest =>
    if name.kind = .name && name.text = ['_'] && paren.isMark '(' && name.touches paren
      then some rest
    else none
  | _ => none

theorem negative?_length {ts rest : List Token} {t : Token} (h : negative? ts = some (t, rest)) :
    rest.length < ts.length := by
  unfold negative? at h
  split at h
  · split at h
    · obtain ⟨-, rfl⟩ := Prod.mk.inj (Option.some.inj h)
      simp only [List.length_cons]
      omega
    · simp at h
  · simp at h

theorem localized?_length {ts rest : List Token} (h : localized? ts = some rest) :
    rest.length < ts.length := by
  unfold localized? at h
  split at h
  · split at h
    · obtain rfl := Option.some.inj h
      simp only [List.length_cons]
      omega
    · simp at h
  · simp at h

/-! ## Plain values -/

/-- An operand as it is written, and whether it is a literal in quotes. -/
structure WrittenOperand where
  text : Text
  isLiteral : Bool

/-- The rest of a localized literal behind its opening parenthesis. -/
def readLocalized (source : Text) (ts : List Token) :
    Reading (Read WrittenOperand ts.length) :=
  match ts with
  | [] => .error (endsEarly source)
  | literal :: rest =>
    if literal.kind = .quoted then
      match rest with
      | close :: behind =>
        if close.isMark ')' then
          .ok ⟨⟨'_' :: '(' :: literal.text ++ [')'], false⟩, behind, by
            simp only [List.length_cons]; omega⟩
        else .error (complain .unexpectedToken close)
      | [] => .error (endsEarly source)
    else .error (complain .unexpectedToken literal)

/-- An operand: a negative number, a localized literal, a literal in quotes, or a name. -/
def readOperand (source : Text) (ts : List Token) : Reading (Read WrittenOperand ts.length) :=
  match hn : negative? ts with
  | some (number, rest) => .ok ⟨⟨'-' :: number.text, false⟩, rest, negative?_length hn⟩
  | none =>
    match ht : localized? ts with
    | some rest => (readLocalized source rest).map (·.widen (Nat.le_of_lt (localized?_length ht)))
    | none =>
      match ts with
      | [] => .error (endsEarly source)
      | t :: rest =>
        if t.kind = .mark then .error (complain .unexpectedToken t)
        else .ok ⟨⟨t.text, decide (t.kind = .quoted)⟩, rest, by simp⟩

/-- The expression of a plain value, where a literal stands for a plain text. -/
def compile (operand : WrittenOperand) (filters : Text) : Reading FilterExpr :=
  match FilterExpr.ofText (operand.text ++ filters) with
  | .error fault => .error (.value fault)
  | .ok e =>
    if operand.isLiteral then
      .ok { e with operand := .constant (.text (Text.unquote operand.text)) }
    else .ok e

/-! ## Filters -/

/-- A filter as it is written: its name and its argument. -/
structure WrittenCall where
  name : Text
  argument : Option WrittenOperand

/-- The argument behind the name of a filter, if there is a colon. -/
def readArgument (source : Text) (ts : List Token) :
    Reading (Read (Option WrittenOperand) (ts.length + 1)) :=
  match ts with
  | colon :: rest =>
    if colon.isMark ':' then
      (readOperand source rest).map fun r =>
        (r.map some).widen (by simp only [List.length_cons]; omega)
    else .ok ⟨none, colon :: rest, by simp⟩
  | [] => .ok ⟨none, [], by simp⟩

/-- The filters in front of some tokens, as they are written. -/
def readCalls (source : Text) (ts : List Token) :
    Reading (Read (List WrittenCall) (ts.length + 1)) :=
  match ts with
  | [] => .ok ⟨[], [], by simp⟩
  | bar :: rest =>
    if bar.isMark '|' then
      match rest with
      | [] => .error (endsEarly source)
      | name :: behind =>
        if name.kind = .name then do
          let argument ← readArgument source behind
          let others ← readCalls source argument.rest
          pure ⟨⟨name.text, argument.value⟩ :: others.value, others.rest, by
            have h1 := argument.within
            have h2 := others.within
            simp only [List.length_cons]
            omega⟩
        else .error (complain .unexpectedToken name)
    else .ok ⟨[], bar :: rest, by simp⟩
termination_by ts.length
decreasing_by
  have := argument.within
  simp only [List.length_cons]
  omega

/-- A filter as the text of a plain value continues with it. -/
def WrittenCall.text (call : WrittenCall) : Text :=
  '|' :: call.name ++
    match call.argument with
    | some operand => ':' :: operand.text
    | none => []

/-- The argument of a filter that is applied to something else than a plain value. -/
def WrittenCall.compileArgument (call : WrittenCall) : Reading (Option FilterExpr) :=
  call.argument.mapM (compile · [])

/-- The known filter of a name. -/
def knownFilter (call : WrittenCall × Option FilterExpr) : Reading AppliedFilter :=
  match Filter.ofName? call.1.name with
  | some f => .ok ⟨f, call.2⟩
  | none => .error (.value (.unknownFilter call.1.name))

/-- The filters behind a list, a dictionary, an expression or joined operands. All arguments are
looked at before the names of the filters. -/
def readFilters (source : Text) (ts : List Token) :
    Reading (Read (List AppliedFilter) (ts.length + 1)) := do
  let calls ← readCalls source ts
  let arguments ← calls.value.mapM WrittenCall.compileArgument
  let filters ← (calls.value.zip arguments).mapM knownFilter
  pure (calls.map fun _ => filters)

/-! ## Joined operands -/

/-- The operator that a token is. -/
def operator? (t : Token) : Option Operator :=
  match t.kind, t.text with
  | .mark, [c] => Operator.ofMark? c
  | _, _ => none

/-- Operators with the operands behind them. -/
def readOperations (source : Text) (ts : List Token) :
    Reading (Read (List (Operator × FilterExpr)) (ts.length + 1)) :=
  match ts with
  | [] => .ok ⟨[], [], by simp⟩
  | t :: rest =>
    match operator? t with
    | none => .ok ⟨[], t :: rest, by simp⟩
    | some o => do
      let operand ← readOperand source rest
      let value ← compile operand.value []
      let others ← readOperations source operand.rest
      pure ⟨(o, value) :: others.value, others.rest, by
        have h1 := operand.within
        have h2 := others.within
        simp only [List.length_cons]
        omega⟩
termination_by ts.length
decreasing_by
  have := operand.within
  simp only [List.length_cons]
  omega

/-- Whether the first of some tokens is an operator. -/
def startsWithOperator : List Token → Bool
  | t :: _ => (operator? t).isSome
  | [] => false

/-- An operand, followed either by filters of its own or by operators, other operands, and filters
of the result. -/
def readPlain (source : Text) (ts : List Token) : Reading (Read Term ts.length) := do
  let operand ← readOperand source ts
  if startsWithOperator operand.rest then
    let first ← compile operand.value []
    let others ← readOperations source operand.rest
    let filters ← readFilters source others.rest
    pure ⟨.joined first others.value filters.value, filters.rest, by
      have h1 := operand.within
      have h2 := others.within
      have h3 := filters.within
      omega⟩
  else
    let calls ← readCalls source operand.rest
    let value ← compile operand.value (calls.value.flatMap WrittenCall.text)
    pure ⟨.plain value, calls.rest, by
      have h1 := operand.within
      have h2 := calls.within
      omega⟩

/-! ## Expressions in parentheses -/

/-- Whether a token opens a bracket of any kind. -/
def opens (t : Token) : Bool := t.isMark '(' || t.isMark '[' || t.isMark '{'

/-- Whether a token closes a bracket of any kind. -/
def closes (t : Token) : Bool := t.isMark ')' || t.isMark ']' || t.isMark '}'

/-- The token that closes the outermost of `depth + 1` open brackets, and the tokens behind it.
Brackets of all kinds count alike. -/
def closing? : Nat → List Token → Option (Token × List Token)
  | _, [] => none
  | depth, t :: rest =>
    if opens t then closing? (depth + 1) rest
    else if closes t then
      match depth with
      | 0 => some (t, rest)
      | d + 1 => closing? d rest
    else closing? depth rest

theorem closing?_length {depth : Nat} {ts rest : List Token} {t : Token}
    (h : closing? depth ts = some (t, rest)) : rest.length < ts.length := by
  induction ts generalizing depth with
  | nil => simp [closing?] at h
  | cons a ts ih =>
    unfold closing? at h
    split at h
    · have := ih h
      simp only [List.length_cons]
      omega
    · split at h
      · split at h
        · obtain ⟨-, rfl⟩ := Prod.mk.inj (Option.some.inj h)
          simp
        · have := ih h
          simp only [List.length_cons]
          omega
      · have := ih h
        simp only [List.length_cons]
        omega

/-- The code between two positions of the source, without blanks around it. -/
def codeBetween (source : Text) (start stop : Nat) : Text :=
  Text.strip ((source.take stop).drop start)

/-- The code of an expression behind its opening parenthesis. -/
def readCode (source : Text) (paren : Token) (ts : List Token) : Reading (Read Text ts.length) :=
  match h : closing? 0 ts with
  | none => .error (endsEarly source)
  | some (close, rest) =>
    let code := codeBetween source paren.stop close.start
    if close.isMark ')' && !code.isEmpty then .ok ⟨code, rest, closing?_length h⟩
    else .error (complain .unexpectedToken close)

/-! ## Values -/

/-- The key of a pair in a dictionary: a literal, or a name that stands for itself. -/
def readPairKey (source : Text) (ts : List Token) : Reading (Read Text ts.length) :=
  match ts with
  | [] => .error (endsEarly source)
  | key :: rest =>
    match key.kind with
    | .mark => .error (complain .unexpectedToken key)
    | .quoted => readColon (Text.unquote key.text) rest
    | .name => readColon key.text rest
where
  /-- The colon behind a key. -/
  readColon (key : Text) (rest : List Token) : Reading (Read Text (rest.length + 1)) :=
    match rest with
    | colon :: behind =>
      if colon.isMark ':' then .ok ⟨key, behind, by simp only [List.length_cons]; omega⟩
      else .error (complain .unexpectedToken colon)
    | [] => .error (endsEarly source)

/-- Whether the first of some tokens is a certain mark. -/
def startsWithMark (c : Char) : List Token → Bool
  | t :: _ => t.isMark c
  | [] => false

/-- The tokens behind the comma that may follow an item; anything else has to be the mark that
closes the list or dictionary. -/
def readComma (source : Text) (close : Char) (ts : List Token) :
    Reading (Read Unit (ts.length + 1)) :=
  match ts with
  | [] => .error (endsEarly source)
  | t :: rest =>
    if t.isMark ',' then .ok ⟨(), rest, by simp only [List.length_cons]; omega⟩
    else if t.isMark close then .ok ⟨(), t :: rest, by simp⟩
    else .error (complain .unexpectedToken t)

mutual

/-- A value. -/
def readTerm (source : Text) (ts : List Token) : Reading (Read Term ts.length) :=
  match ts with
  | [] => .error (endsEarly source)
  | t :: rest =>
    if t.isMark '[' then do
      let items ← readItems source rest
      let filters ← readFilters source items.rest
      pure ⟨.list items.value filters.value, filters.rest, by
        have h1 := items.within
        have h2 := filters.within
        simp only [List.length_cons]
        omega⟩
    else if t.isMark '{' then do
      let pairs ← readPairs source rest
      let filters ← readFilters source pairs.rest
      pure ⟨.dict pairs.value filters.value, filters.rest, by
        have h1 := pairs.within
        have h2 := filters.within
        simp only [List.length_cons]
        omega⟩
    else if t.isMark '(' then do
      let code ← readCode source t rest
      let filters ← readFilters source code.rest
      pure ⟨.parenthesized code.value filters.value, filters.rest, by
        have h1 := code.within
        have h2 := filters.within
        simp only [List.length_cons]
        omega⟩
    else readPlain source (t :: rest)
termination_by (ts.length, 0)
decreasing_by
  · exact Prod.Lex.left _ _ (by simp)
  · exact Prod.Lex.left _ _ (by simp)

/-- The items of a list behind its opening bracket. A comma may follow the last one. -/
def readItems (source : Text) (ts : List Token) : Reading (Read (List Term) ts.length) :=
  match ts with
  | [] => .error (endsEarly source)
  | t :: rest =>
    if t.isMark ']' then .ok ⟨[], rest, by simp⟩
    else do
      let item ← readTerm source (t :: rest)
      let comma ← readComma source ']' item.rest
      let others ← readItems source comma.rest
      pure ⟨item.value :: others.value, others.rest, by
        have h1 := item.within
        have h2 := comma.within
        have h3 := others.within
        omega⟩
termination_by (ts.length, 1)
decreasing_by
  · exact Prod.Lex.right _ (by simp)
  · have h1 := item.within
    have h2 := comma.within
    exact Prod.Lex.left _ _ (by omega)

/-- The pairs of a dictionary behind its opening brace. A comma may follow the last one. -/
def readPairs (source : Text) (ts : List Token) : Reading (Read (List (Text × Term)) ts.length) :=
  match ts with
  | [] => .error (endsEarly source)
  | t :: rest =>
    if t.isMark '}' then .ok ⟨[], rest, by simp⟩
    else do
      let key ← readPairKey source (t :: rest)
      let value ← readTerm source key.rest
      let comma ← readComma source '}' value.rest
      let others ← readPairs source comma.rest
      pure ⟨(key.value, value.value) :: others.value, others.rest, by
        have h1 := key.within
        have h2 := value.within
        have h3 := comma.within
        have h4 := others.within
        omega⟩
termination_by (ts.length, 1)
decreasing_by
  · have h1 := key.within
    exact Prod.Lex.left _ _ (by omega)
  · have h1 := key.within
    have h2 := value.within
    have h3 := comma.within
    exact Prod.Lex.left _ _ (by omega)

end

/-! ## Entries -/

/-- The key that some tokens may start with: its text, whether it has hyphens, and the tokens behind
it. -/
structure KeyCandidate where
  key : Text
  hasHyphens : Bool
  rest : List Token

/-- No text in quotes may touch the name in front of it. -/
def checkBehindName (last : Token) (ts : List Token) : Reading Unit :=
  match ts with
  | t :: _ =>
    if t.kind = .quoted && last.touches t then .error (complain .invalidKeyName t) else .ok ()
  | [] => .ok ()

/-- The hyphens and names that continue a key without blanks in between, and the tokens behind
them. -/
def scanHyphens (last : Token) (ts : List Token) : Reading (Text × List Token) :=
  match ts with
  | [] => .ok ([], [])
  | hyphen :: rest =>
    if hyphen.isMark '-' && last.touches hyphen then
      match rest with
      | [] => .error (complain .unexpectedToken hyphen)
      | part :: behind =>
        if !hyphen.touches part || part.kind = .mark then .error (complain .unexpectedToken hyphen)
        else if part.kind = .quoted then .error (complain .invalidKeyName part)
        else (scanHyphens part behind).map fun (more, behind) => ('-' :: part.text ++ more, behind)
    else (checkBehindName last (hyphen :: rest)).map fun _ => ([], hyphen :: rest)

/-- No name, no text in quotes and no hyphen may touch a text in quotes that could be a key. -/
def checkBehindQuoted (quoted : Token) (ts : List Token) : Reading Unit :=
  match ts with
  | t :: _ =>
    if quoted.touches t && (t.kind ≠ .mark || t.isMark '-') then .error (complain .invalidKeyName t)
    else .ok ()
  | [] => .ok ()

/-- The key that starts with a token. -/
def keyCandidate (first : Token) (rest : List Token) : Reading KeyCandidate :=
  if first.kind = .quoted then
    (checkBehindQuoted first rest).map fun _ => ⟨Text.unquote first.text, false, rest⟩
  else
    (scanHyphens first rest).map fun (more, behind) => ⟨first.text ++ more, !more.isEmpty, behind⟩

/-- Whether an attribute may start with a key at these tokens. -/
def mayBeKey (first : Token) (rest : List Token) : Bool :=
  first.kind = .quoted || (first.kind = .name && (localized? (first :: rest)).isNone)

/-- Whether a value without a key may start at these tokens. -/
def startsValue (first : Token) (rest : List Token) : Bool :=
  opens first || (negative? (first :: rest)).isSome || (localized? (first :: rest)).isSome

theorem scanHyphens_length {last : Token} {ts behind : List Token} {more : Text}
    (h : scanHyphens last ts = .ok (more, behind)) : behind.length ≤ ts.length := by
  fun_induction scanHyphens last ts generalizing more behind with
  | case1 =>
    obtain ⟨-, rfl⟩ := Prod.mk.inj (Except.ok.inj h)
    simp
  | case2 => simp at h
  | case3 => simp at h
  | case4 => simp at h
  | case5 last hyphen _ part rest _ _ ih =>
    cases hs : scanHyphens part rest with
    | error e => simp [hs, Except.map] at h
    | ok r =>
      obtain ⟨m, b⟩ := r
      simp only [hs, Except.map, Except.ok.injEq, Prod.mk.injEq] at h
      obtain ⟨-, rfl⟩ := h
      have := ih hs
      simp only [List.length_cons]
      omega
  | case6 last hyphen rest =>
    cases hc : checkBehindName last (hyphen :: rest) with
    | error e => simp [hc, Except.map] at h
    | ok r =>
      simp only [hc, Except.map, Except.ok.injEq, Prod.mk.injEq] at h
      obtain ⟨-, rfl⟩ := h
      simp

/-- A key takes at least one token. -/
theorem keyCandidate_length {first : Token} {rest : List Token} {k : KeyCandidate}
    (h : keyCandidate first rest = .ok k) : k.rest.length ≤ rest.length := by
  unfold keyCandidate at h
  split at h
  · cases hc : checkBehindQuoted first rest with
    | error e => simp [hc, Except.map] at h
    | ok r =>
      simp only [hc, Except.map, Except.ok.injEq] at h
      subst h
      simp
  · cases hs : scanHyphens first rest with
    | error e => simp [hs, Except.map] at h
    | ok r =>
      simp only [hs, Except.map, Except.ok.injEq] at h
      subst h
      exact scanHyphens_length hs

/-- An attribute. A key is one only if an equals sign follows; a name with hyphens is looked up as
it is, and anything else is a value. -/
def readEntry (source : Text) (first : Token) (rest : List Token) :
    Reading (Read Entry (rest.length + 1)) :=
  if mayBeKey first rest then
    match hk : keyCandidate first rest with
    | .error fault => .error fault
    | .ok k =>
      match hr : k.rest with
      | equals :: behind =>
        if equals.isMark '=' then
          (readTerm source behind).map fun value =>
            (value.map (Entry.keyword first.start k.key)).widen (by
              have := keyCandidate_length hk
              rw [hr, List.length_cons] at this
              omega)
        else notKey k hk
      | [] => notKey k hk
  else if startsValue first rest then positional
  else .error (complain .unexpectedToken first)
where
  /-- A value without a key. -/
  positional : Reading (Read Entry (rest.length + 1)) :=
    (readTerm source (first :: rest)).map fun value => value.map (Entry.positional first.start)
  /-- What could have been a key is a value. -/
  notKey (k : KeyCandidate) (hk : keyCandidate first rest = .ok k) :
      Reading (Read Entry (rest.length + 1)) :=
    if k.hasHyphens then
      .ok ⟨.positional first.start (.hyphenated k.key), k.rest,
        Nat.lt_succ_of_le (keyCandidate_length hk)⟩
    else positional

/-- The entries of a list of tokens. A comma may stand in front of each entry, and behind the last
one. -/
def readEntries (source : Text) (ts : List Token) : Reading (List Entry) :=
  match ts with
  | [] => .ok []
  | t :: rest =>
    if t.isMark ',' then
      match rest with
      | [] => .ok []
      | first :: behind => do
        let entry ← readEntry source first behind
        let others ← readEntries source entry.rest
        pure (entry.value :: others)
    else do
      let entry ← readEntry source t rest
      let others ← readEntries source entry.rest
      pure (entry.value :: others)
termination_by ts.length
decreasing_by
  · have := entry.within
    simp only [List.length_cons]
    omega
  · have := entry.within
    simp only [List.length_cons]
    omega

/-- The entries that an attribute list spells. -/
def read (source : Text) : Reading (List Entry) :=
  match Token.scan source with
  | .error fault => .error (.grammar fault)
  | .ok tokens => readEntries source tokens

end Attribute
end ElementTags
