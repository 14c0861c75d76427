import ElementTags.Proofs.Lookahead
import ElementTags.Proofs.Outcome
import ElementTags.Proofs.Part
import ElementTags.Proofs.Placement

/-! # Reading moved tokens

The readers look at the kinds and texts of tokens, at which of them touch, and at
the source between two parentheses. So they read the same tokens further behind in
another source alike (`ElementTags.Attribute.Displaced`), and their faults
correspond if those do that can arise: the complaints about the tokens at hand, the
complaint that the list ends too early, and the faults of values.
-/

namespace ElementTags

namespace Attribute

open Outcome Token

/-- How far some tokens move from one source to another, and which faults correspond. -/
structure Displaced (k : Nat) (source target : Text) (tokens : List Token)
    (faults : AttributeFault → AttributeFault → Prop) : Prop where
  code : ∀ o ∈ tokens, ∀ c ∈ tokens,
    codeBetween target (o.shift k).stop (c.shift k).start = codeBetween source o.stop c.start
  early : faults (endsEarly source) (endsEarly target)
  complaint : ∀ t ∈ tokens, ∀ complaint,
    faults (complain complaint t) (complain complaint (t.shift k))
  value : ∀ fault, faults (.value fault) (.value fault)

/-- The same was read, and the same tokens are left, up to their positions. -/
def Moved {α : Type} (k : Nat) (tokens : List Token) {m n : Nat} (r : Read α m) (r' : Read α n) :
    Prop :=
  r'.value = r.value ∧ r'.rest = r.rest.map (Token.shift k) ∧ r.rest ⊆ tokens

variable {k : Nat} {source target : Text} {tokens ts : List Token}
  {faults : AttributeFault → AttributeFault → Prop}

/-- The code of a source is code of every text that ends with it. -/
theorem codeBetween_behind (before source : Text) (start stop : Nat) :
    codeBetween (before ++ source) (start + before.length) (stop + before.length) =
      codeBetween source start stop := by
  rw [codeBetween, codeBetween, Nat.add_comm stop, Nat.add_comm start,
    List.take_length_add_append, List.drop_length_add_append]

/-- The code in a part of a source is code of the source. -/
theorem codeBetween_part (before source behind : Text) {start stop : Nat}
    (within : stop ≤ source.length) :
    codeBetween (before ++ (source ++ behind)) (start + before.length) (stop + before.length) =
      codeBetween source start stop := by
  rw [codeBetween_behind, codeBetween, codeBetween, List.take_append_of_le_length within]

/-! ## Looking ahead -/

theorem negative?_shift (k : Nat) (ts : List Token) :
    negative? (ts.map (Token.shift k)) =
      (negative? ts).map fun (t, rest) => (t.shift k, rest.map (Token.shift k)) := by
  match ts with
  | [] => rfl
  | [_] => rfl
  | sign :: number :: rest =>
      simp only [List.map_cons, negative?, shift_isMark, shift_kind, shift_text, shift_touches]
      rw [apply_ite (Option.map _)]
      rfl

theorem localized?_shift (k : Nat) (ts : List Token) :
    localized? (ts.map (Token.shift k)) = (localized? ts).map (·.map (Token.shift k)) := by
  match ts with
  | [] => rfl
  | [_] => rfl
  | name :: paren :: rest =>
      simp only [List.map_cons, localized?, shift_isMark, shift_kind, shift_text, shift_touches]
      rw [apply_ite (Option.map _)]
      rfl

theorem opens_shift (k : Nat) (t : Token) : opens (t.shift k) = opens t := rfl

theorem closes_shift (k : Nat) (t : Token) : closes (t.shift k) = closes t := rfl

theorem startsWithOperator_shift (k : Nat) (ts : List Token) :
    startsWithOperator (ts.map (Token.shift k)) = startsWithOperator ts := by
  cases ts <;> rfl

theorem closing?_shift (k depth : Nat) (ts : List Token) :
    closing? depth (ts.map (Token.shift k)) =
      (closing? depth ts).map fun (t, rest) => (t.shift k, rest.map (Token.shift k)) := by
  induction ts generalizing depth with
  | nil => rfl
  | cons t ts ih =>
      rw [List.map_cons]
      simp only [closing?, opens_shift, closes_shift, ih]
      split
      · rfl
      · split
        · cases depth <;> rfl
        · rfl

/-! ## Operands -/

theorem readLocalized_moved (displaced : Displaced k source target tokens faults)
    (inside : ts ⊆ tokens) :
    Related (Moved k tokens) faults (readLocalized source ts)
      (readLocalized target (ts.map (Token.shift k))) := by
  cases ts with
  | nil => exact .error displaced.early
  | cons literal rest =>
      rw [List.map_cons]
      unfold readLocalized
      refine Related.ite Iff.rfl (fun _ => ?_) fun _ =>
        .error (displaced.complaint literal (inside List.mem_cons_self) _)
      cases rest with
      | nil => exact .error displaced.early
      | cons close behind =>
          rw [List.map_cons]
          refine Related.ite Iff.rfl (fun _ => .ok ⟨rfl, rfl, fun t member => ?_⟩) fun _ => ?_
          · exact inside (List.mem_cons_of_mem _ (List.mem_cons_of_mem _ member))
          · exact .error (displaced.complaint close
              (inside (List.mem_cons_of_mem _ List.mem_cons_self)) _)

theorem readOperand_moved (displaced : Displaced k source target tokens faults)
    (inside : ts ⊆ tokens) :
    Related (Moved k tokens) faults (readOperand source ts)
      (readOperand target (ts.map (Token.shift k))) := by
  cases negative : negative? ts with
  | some found =>
      obtain ⟨number, rest⟩ := found
      have there : negative? (ts.map (Token.shift k)) =
          some (number.shift k, rest.map (Token.shift k)) := by
        rw [negative?_shift, negative]
        rfl
      rw [readOperand_negative negative, readOperand_negative there]
      obtain ⟨sign, rfl, -⟩ := negative?_eq_some_iff.mp negative
      exact .ok ⟨rfl, rfl, fun t member =>
        inside (List.mem_cons_of_mem _ (List.mem_cons_of_mem _ member))⟩
  | none =>
      have positive : negative? (ts.map (Token.shift k)) = none := by
        rw [negative?_shift, negative]
        rfl
      cases localized : localized? ts with
      | some rest =>
          have there : localized? (ts.map (Token.shift k)) = some (rest.map (Token.shift k)) := by
            rw [localized?_shift, localized]
            rfl
          rw [readOperand_localized negative localized, readOperand_localized positive there]
          obtain ⟨name, paren, rfl, -⟩ := localized?_eq_some_iff.mp localized
          refine Related.map (readLocalized_moved displaced fun t member =>
            inside (List.mem_cons_of_mem _ (List.mem_cons_of_mem _ member))) ?_
          exact fun r r' moved => moved
      | none =>
          have plain : localized? (ts.map (Token.shift k)) = none := by
            rw [localized?_shift, localized]
            rfl
          cases ts with
          | nil => exact .error displaced.early
          | cons t rest =>
              rw [List.map_cons] at positive plain ⊢
              rw [readOperand_cons negative localized, readOperand_cons positive plain]
              exact Related.ite Iff.rfl
                (fun _ => .error (displaced.complaint t (inside List.mem_cons_self) _))
                fun _ => .ok ⟨rfl, rfl, fun t member => inside (List.mem_cons_of_mem _ member)⟩

/-! ## Filters and plain values -/

theorem readArgument_moved (displaced : Displaced k source target tokens faults)
    (inside : ts ⊆ tokens) :
    Related (Moved k tokens) faults (readArgument source ts)
      (readArgument target (ts.map (Token.shift k))) := by
  cases ts with
  | nil => exact .ok ⟨rfl, rfl, List.nil_subset _⟩
  | cons colon rest =>
      rw [List.map_cons, readArgument, readArgument]
      refine Related.ite Iff.rfl (fun _ => ?_) fun _ => .ok ⟨rfl, rfl, inside⟩
      refine Related.map (readOperand_moved displaced fun t member =>
        inside (List.mem_cons_of_mem _ member)) ?_
      rintro r r' ⟨value, left, member⟩
      exact ⟨congrArg some value, left, member⟩

theorem readCalls_moved (displaced : Displaced k source target tokens faults)
    (inside : ts ⊆ tokens) :
    Related (Moved k tokens) faults (readCalls source ts)
      (readCalls target (ts.map (Token.shift k))) := by
  induction ts using readCalls.induct with
  | case1 =>
      rw [List.map_nil, readCalls, readCalls]
      exact .ok ⟨rfl, rfl, inside⟩
  | case2 bar mark =>
      have there : (bar.shift k).isMark '|' = true := mark
      rw [List.map_singleton, readCalls, readCalls, if_pos mark, if_pos there]
      exact .error displaced.early
  | case3 bar mark name behind kind ih =>
      have there : (bar.shift k).isMark '|' = true := mark
      have named : (name.shift k).kind = .name := kind
      rw [List.map_cons, List.map_cons, readCalls, readCalls, if_pos mark, if_pos there]
      simp only [if_pos kind, if_pos named]
      have further : behind ⊆ tokens := fun t member =>
        inside (List.mem_cons_of_mem _ (List.mem_cons_of_mem _ member))
      refine Related.bind (readArgument_moved displaced further) ?_
      rintro argument ⟨_, _, _⟩ ⟨rfl, rfl, left⟩
      refine Related.bind (ih argument left) ?_
      rintro others ⟨_, _, _⟩ ⟨rfl, rfl, last⟩
      exact .ok ⟨rfl, rfl, last⟩
  | case4 bar mark name behind other =>
      have there : (bar.shift k).isMark '|' = true := mark
      have unnamed : ¬(name.shift k).kind = .name := other
      rw [List.map_cons, List.map_cons, readCalls, readCalls, if_pos mark, if_pos there]
      simp only [if_neg other, if_neg unnamed]
      exact .error (displaced.complaint name
        (inside (List.mem_cons_of_mem _ List.mem_cons_self)) _)
  | case5 t behind other =>
      have there : ¬(t.shift k).isMark '|' = true := other
      rw [List.map_cons, readCalls.eq_def, readCalls.eq_def]
      simp only [if_neg other, if_neg there]
      exact .ok ⟨rfl, rfl, inside⟩

/-- The host looks at the same texts. -/
theorem compile_related (displaced : Displaced k source target tokens faults)
    (operand : WrittenOperand) (filters : Text) :
    Related Eq faults (compile operand filters) (compile operand filters) := by
  refine Related.refl _ fun fault failed => ?_
  unfold compile at failed
  split at failed
  · cases failed
    exact displaced.value _
  · split at failed <;> cases failed

theorem compileArgument_related (displaced : Displaced k source target tokens faults)
    (call : WrittenCall) :
    Related Eq faults call.compileArgument call.compileArgument := by
  refine Related.refl _ fun fault failed => ?_
  obtain ⟨name, argument⟩ := call
  cases argument with
  | none => cases failed
  | some operand =>
      have argument := compile_related displaced operand []
      unfold WrittenCall.compileArgument at failed
      cases compiled : compile operand [] with
      | ok e =>
          simp only [Option.mapM_some, compiled] at failed
          cases failed
      | error e =>
          simp only [Option.mapM_some, compiled] at failed
          cases failed
          rw [compiled] at argument
          cases argument with
          | error corresponding => exact corresponding

theorem mapM_related {α β : Type} {f : α → Reading β}
    (each : ∀ a, Related Eq faults (f a) (f a)) (list : List α) :
    Related Eq faults (list.mapM f) (list.mapM f) := by
  induction list with
  | nil => exact .ok rfl
  | cons a list ih =>
      rw [List.mapM_cons]
      refine Related.bind (each a) ?_
      rintro b _ rfl
      refine Related.bind ih ?_
      rintro others _ rfl
      exact .ok rfl

theorem readFilters_moved (displaced : Displaced k source target tokens faults)
    (inside : ts ⊆ tokens) :
    Related (Moved k tokens) faults (readFilters source ts)
      (readFilters target (ts.map (Token.shift k))) := by
  unfold readFilters
  refine Related.bind (readCalls_moved displaced inside) ?_
  rintro calls ⟨_, _, _⟩ ⟨rfl, rfl, left⟩
  refine Related.bind (mapM_related (compileArgument_related displaced) calls.value) ?_
  rintro arguments _ rfl
  refine Related.bind (mapM_related (fun call => ?_) (calls.value.zip arguments)) ?_
  · refine Related.refl _ fun fault failed => ?_
    unfold knownFilter at failed
    split at failed
    · cases failed
    · cases failed
      exact displaced.value _
  · rintro applied _ rfl
    exact .ok ⟨rfl, rfl, left⟩

theorem readOperations_moved (displaced : Displaced k source target tokens faults)
    (inside : ts ⊆ tokens) :
    Related (Moved k tokens) faults (readOperations source ts)
      (readOperations target (ts.map (Token.shift k))) := by
  induction ts using readOperations.induct with
  | case1 =>
      rw [List.map_nil, readOperations, readOperations]
      exact .ok ⟨rfl, rfl, inside⟩
  | case2 t behind other =>
      have there : operator? (t.shift k) = none := other
      rw [List.map_cons, readOperations, readOperations]
      simp only [other, there]
      exact .ok ⟨rfl, rfl, inside⟩
  | case3 t behind operator mark ih =>
      have there : operator? (t.shift k) = some operator := mark
      rw [List.map_cons, readOperations, readOperations]
      simp only [mark, there]
      have further : behind ⊆ tokens := fun u member => inside (List.mem_cons_of_mem _ member)
      refine Related.bind (readOperand_moved displaced further) ?_
      rintro operand ⟨_, _, _⟩ ⟨rfl, rfl, left⟩
      refine Related.bind (compile_related displaced _ _) ?_
      rintro value _ rfl
      refine Related.bind (ih operand left) ?_
      rintro others ⟨_, _, _⟩ ⟨rfl, rfl, last⟩
      exact .ok ⟨rfl, rfl, last⟩

theorem readPlain_moved (displaced : Displaced k source target tokens faults)
    (inside : ts ⊆ tokens) :
    Related (Moved k tokens) faults (readPlain source ts)
      (readPlain target (ts.map (Token.shift k))) := by
  unfold readPlain
  refine Related.bind (readOperand_moved displaced inside) ?_
  rintro operand ⟨_, _, _⟩ ⟨rfl, rfl, left⟩
  simp only [startsWithOperator_shift]
  split
  · refine Related.bind (compile_related displaced _ _) ?_
    rintro value _ rfl
    refine Related.bind (readOperations_moved displaced left) ?_
    rintro others ⟨_, _, _⟩ ⟨rfl, rfl, further⟩
    refine Related.bind (readFilters_moved displaced further) ?_
    rintro applied ⟨_, _, _⟩ ⟨rfl, rfl, last⟩
    exact .ok ⟨rfl, rfl, last⟩
  · refine Related.bind (readCalls_moved displaced left) ?_
    rintro calls ⟨_, _, _⟩ ⟨rfl, rfl, last⟩
    refine Related.bind (compile_related displaced _ _) ?_
    rintro value _ rfl
    exact .ok ⟨rfl, rfl, last⟩

/-! ## Values -/

theorem closing?_mem {depth : Nat} {rest : List Token} {close : Token}
    (found : closing? depth ts = some (close, rest)) : close ∈ ts ∧ rest ⊆ ts := by
  obtain ⟨inner, rfl, -⟩ := closing?_eq_some_iff.mp found
  refine ⟨List.mem_append_right _ List.mem_cons_self, fun t member => ?_⟩
  exact List.mem_append_right _ (List.mem_cons_of_mem _ member)

theorem readCode_moved (displaced : Displaced k source target tokens faults) {paren : Token}
    (start : paren ∈ tokens) (inside : ts ⊆ tokens) :
    Related (Moved k tokens) faults (readCode source paren ts)
      (readCode target (paren.shift k) (ts.map (Token.shift k))) := by
  unfold readCode
  split
  · rename_i none
    split
    · exact .error displaced.early
    · rename_i there
      rw [closing?_shift, none] at there
      cases there
  · rename_i close rest found
    split
    · rename_i none
      rw [closing?_shift, found] at none
      cases none
    · rename_i there
      rw [closing?_shift, found] at there
      obtain ⟨rfl, rfl⟩ := Prod.mk.inj (Option.some.inj there)
      obtain ⟨here, left⟩ := closing?_mem found
      simp only [displaced.code paren start close (inside here)]
      exact Related.ite Iff.rfl (fun _ => .ok ⟨rfl, rfl, fun t member => inside (left member)⟩)
        fun _ => .error (displaced.complaint close (inside here) _)

theorem readColon_moved (displaced : Displaced k source target tokens faults) (key : Text)
    (inside : ts ⊆ tokens) :
    Related (Moved k tokens) faults (readPairKey.readColon source key ts)
      (readPairKey.readColon target key (ts.map (Token.shift k))) := by
  cases ts with
  | nil => exact .error displaced.early
  | cons colon behind =>
      rw [List.map_cons]
      unfold readPairKey.readColon
      exact Related.ite Iff.rfl
        (fun _ => .ok ⟨rfl, rfl, fun t member => inside (List.mem_cons_of_mem _ member)⟩)
        fun _ => .error (displaced.complaint colon (inside List.mem_cons_self) _)

theorem readPairKey_moved (displaced : Displaced k source target tokens faults)
    (inside : ts ⊆ tokens) :
    Related (Moved k tokens) faults (readPairKey source ts)
      (readPairKey target (ts.map (Token.shift k))) := by
  cases ts with
  | nil => exact .error displaced.early
  | cons t behind =>
      have further : behind ⊆ tokens := fun u member => inside (List.mem_cons_of_mem _ member)
      rw [List.map_cons]
      unfold readPairKey
      simp only [shift_kind, shift_text]
      cases t.kind with
      | mark => exact .error (displaced.complaint t (inside List.mem_cons_self) _)
      | quoted =>
          exact (readColon_moved displaced _ further).mono fun _ _ moved => moved
      | name => exact (readColon_moved displaced _ further).mono fun _ _ moved => moved

theorem readComma_moved (displaced : Displaced k source target tokens faults) (close : Char)
    (inside : ts ⊆ tokens) :
    Related (Moved k tokens) faults (readComma source close ts)
      (readComma target close (ts.map (Token.shift k))) := by
  cases ts with
  | nil => exact .error displaced.early
  | cons t behind =>
      have further : behind ⊆ tokens := fun u member => inside (List.mem_cons_of_mem _ member)
      rw [List.map_cons, readComma, readComma]
      refine Related.ite Iff.rfl (fun _ => .ok ⟨rfl, rfl, further⟩) fun _ => ?_
      exact Related.ite Iff.rfl (fun _ => .ok ⟨rfl, rfl, inside⟩)
        fun _ => .error (displaced.complaint t (inside List.mem_cons_self) _)

/-- What it says for a value to be read alike. -/
def TermMoved (k : Nat) (source target : Text) (tokens : List Token)
    (faults : AttributeFault → AttributeFault → Prop) (ts : List Token) : Prop :=
  ts ⊆ tokens → Related (Moved k tokens) faults (readTerm source ts)
    (readTerm target (ts.map (Token.shift k)))

/-- What it says for items to be read alike. -/
def ItemsMoved (k : Nat) (source target : Text) (tokens : List Token)
    (faults : AttributeFault → AttributeFault → Prop) (ts : List Token) : Prop :=
  ts ⊆ tokens → Related (Moved k tokens) faults (readItems source ts)
    (readItems target (ts.map (Token.shift k)))

/-- What it says for pairs to be read alike. -/
def PairsMoved (k : Nat) (source target : Text) (tokens : List Token)
    (faults : AttributeFault → AttributeFault → Prop) (ts : List Token) : Prop :=
  ts ⊆ tokens → Related (Moved k tokens) faults (readPairs source ts)
    (readPairs target (ts.map (Token.shift k)))

theorem terms_moved (displaced : Displaced k source target tokens faults) :
    (∀ ts, TermMoved k source target tokens faults ts) ∧
      (∀ ts, PairsMoved k source target tokens faults ts) ∧
      ∀ ts, ItemsMoved k source target tokens faults ts := by
  refine readTerm.mutual_induct (TermMoved k source target tokens faults)
    (PairsMoved k source target tokens faults) (ItemsMoved k source target tokens faults)
    ?_ ?_ ?_ ?_ ?_ ?_ ?_ ?_ ?_ ?_ ?_
  · intro _
    rw [List.map_nil, readTerm, readTerm]
    exact .error displaced.early
  · intro t ts mark items inside
    have there : (t.shift k).isMark '[' = true := mark
    rw [List.map_cons, readTerm, readTerm, if_pos mark, if_pos there]
    refine Related.bind (items fun u member => inside (List.mem_cons_of_mem _ member)) ?_
    rintro values ⟨_, _, _⟩ ⟨rfl, rfl, left⟩
    refine Related.bind (readFilters_moved displaced left) ?_
    rintro applied ⟨_, _, _⟩ ⟨rfl, rfl, last⟩
    exact .ok ⟨rfl, rfl, last⟩
  · intro t ts noList mark pairs inside
    have thereNoList : ¬(t.shift k).isMark '[' = true := noList
    have there : (t.shift k).isMark '\x7b' = true := mark
    rw [List.map_cons, readTerm, readTerm, if_neg noList, if_neg thereNoList, if_pos mark,
      if_pos there]
    refine Related.bind (pairs fun u member => inside (List.mem_cons_of_mem _ member)) ?_
    rintro values ⟨_, _, _⟩ ⟨rfl, rfl, left⟩
    refine Related.bind (readFilters_moved displaced left) ?_
    rintro applied ⟨_, _, _⟩ ⟨rfl, rfl, last⟩
    exact .ok ⟨rfl, rfl, last⟩
  · intro t ts noList noDict mark inside
    have thereNoList : ¬(t.shift k).isMark '[' = true := noList
    have thereNoDict : ¬(t.shift k).isMark '\x7b' = true := noDict
    have there : (t.shift k).isMark '(' = true := mark
    rw [List.map_cons, readTerm, readTerm, if_neg noList, if_neg thereNoList, if_neg noDict,
      if_neg thereNoDict, if_pos mark, if_pos there]
    refine Related.bind (readCode_moved displaced (inside List.mem_cons_self)
      fun u member => inside (List.mem_cons_of_mem _ member)) ?_
    rintro code ⟨_, _, _⟩ ⟨rfl, rfl, left⟩
    refine Related.bind (readFilters_moved displaced left) ?_
    rintro applied ⟨_, _, _⟩ ⟨rfl, rfl, last⟩
    exact .ok ⟨rfl, rfl, last⟩
  · intro t ts noList noDict noCode inside
    have thereNoList : ¬(t.shift k).isMark '[' = true := noList
    have thereNoDict : ¬(t.shift k).isMark '\x7b' = true := noDict
    have thereNoCode : ¬(t.shift k).isMark '(' = true := noCode
    have plain := readPlain_moved displaced inside
    rw [List.map_cons] at plain ⊢
    rw [readTerm, readTerm, if_neg noList, if_neg thereNoList, if_neg noDict, if_neg thereNoDict,
      if_neg noCode, if_neg thereNoCode]
    exact plain
  · intro _
    rw [List.map_nil, readPairs, readPairs]
    exact .error displaced.early
  · intro t ts mark inside
    have there : (t.shift k).isMark '\x7d' = true := mark
    rw [List.map_cons, readPairs, readPairs, if_pos mark, if_pos there]
    exact .ok ⟨rfl, rfl, fun u member => inside (List.mem_cons_of_mem _ member)⟩
  · intro t ts other item others inside
    have there : ¬(t.shift k).isMark '\x7d' = true := other
    have keys := readPairKey_moved displaced inside
    rw [List.map_cons] at keys ⊢
    rw [readPairs, readPairs, if_neg other, if_neg there]
    refine Related.bind keys ?_
    rintro key ⟨_, _, _⟩ ⟨rfl, rfl, behindKey⟩
    refine Related.bind (item key behindKey) ?_
    rintro value ⟨_, _, _⟩ ⟨rfl, rfl, behindItem⟩
    refine Related.bind (readComma_moved displaced _ behindItem) ?_
    rintro comma ⟨_, _, _⟩ ⟨rfl, rfl, left⟩
    refine Related.bind (others key value comma left) ?_
    rintro values ⟨_, _, _⟩ ⟨rfl, rfl, last⟩
    exact .ok ⟨rfl, rfl, last⟩
  · intro _
    rw [List.map_nil, readItems, readItems]
    exact .error displaced.early
  · intro t ts mark inside
    have there : (t.shift k).isMark ']' = true := mark
    rw [List.map_cons, readItems, readItems, if_pos mark, if_pos there]
    exact .ok ⟨rfl, rfl, fun u member => inside (List.mem_cons_of_mem _ member)⟩
  · intro t ts other item others inside
    have there : ¬(t.shift k).isMark ']' = true := other
    have items := item inside
    rw [List.map_cons] at items ⊢
    rw [readItems, readItems, if_neg other, if_neg there]
    refine Related.bind items ?_
    rintro value ⟨_, _, _⟩ ⟨rfl, rfl, behindItem⟩
    refine Related.bind (readComma_moved displaced _ behindItem) ?_
    rintro comma ⟨_, _, _⟩ ⟨rfl, rfl, left⟩
    refine Related.bind (others value comma left) ?_
    rintro values ⟨_, _, _⟩ ⟨rfl, rfl, last⟩
    exact .ok ⟨rfl, rfl, last⟩

/-! ## Keys and entries -/

theorem checkBehindName_related (displaced : Displaced k source target tokens faults)
    (last : Token) (inside : ts ⊆ tokens) :
    Related Eq faults (checkBehindName last ts)
      (checkBehindName (last.shift k) (ts.map (Token.shift k))) := by
  cases ts with
  | nil => exact .ok rfl
  | cons t behind =>
      simp only [List.map_cons, checkBehindName, shift_kind, shift_touches]
      exact Related.ite Iff.rfl
        (fun _ => .error (displaced.complaint t (inside List.mem_cons_self) _)) fun _ => .ok rfl

theorem checkBehindQuoted_related (displaced : Displaced k source target tokens faults)
    (quoted : Token) (inside : ts ⊆ tokens) :
    Related Eq faults (checkBehindQuoted quoted ts)
      (checkBehindQuoted (quoted.shift k) (ts.map (Token.shift k))) := by
  cases ts with
  | nil => exact .ok rfl
  | cons t behind =>
      simp only [List.map_cons, checkBehindQuoted, shift_kind, shift_isMark, shift_touches]
      exact Related.ite Iff.rfl
        (fun _ => .error (displaced.complaint t (inside List.mem_cons_self) _)) fun _ => .ok rfl

theorem hyphen_shift (k : Nat) (last hyphen : Token) :
    ((hyphen.shift k).isMark '-' && (last.shift k).touches (hyphen.shift k)) =
      (hyphen.isMark '-' && last.touches hyphen) := by
  rw [shift_isMark, shift_touches]

theorem apart_shift (k : Nat) (hyphen part : Token) :
    (!hyphen.touches part || decide (part.kind = .mark)) = true ↔
      (!(hyphen.shift k).touches (part.shift k) ||
        decide ((part.shift k).kind = .mark)) = true := by
  rw [shift_touches]
  exact Iff.rfl

theorem scanHyphens_moved (displaced : Displaced k source target tokens faults) {last : Token}
    (inside : ts ⊆ tokens) :
    Related (fun found moved => moved.1 = found.1 ∧ moved.2 = found.2.map (Token.shift k) ∧
        found.2 ⊆ tokens) faults (scanHyphens last ts)
      (scanHyphens (last.shift k) (ts.map (Token.shift k))) := by
  induction last, ts using scanHyphens.induct with
  | case1 last => exact .ok ⟨rfl, rfl, inside⟩
  | case2 last hyphen mark =>
      have there := (hyphen_shift k last hyphen).trans mark
      rw [List.map_singleton, scanHyphens, scanHyphens, if_pos mark, if_pos there]
      exact .error (displaced.complaint hyphen (inside List.mem_cons_self) _)
  | case3 last hyphen mark part behind apart =>
      have there := (hyphen_shift k last hyphen).trans mark
      rw [List.map_cons, List.map_cons, scanHyphens, scanHyphens, if_pos mark, if_pos there]
      exact Related.ite (apart_shift k hyphen part)
        (fun _ => .error (displaced.complaint hyphen (inside List.mem_cons_self) _))
        fun other => absurd apart other
  | case4 last hyphen mark part behind adjacent quoted =>
      have there := (hyphen_shift k last hyphen).trans mark
      rw [List.map_cons, List.map_cons, scanHyphens, scanHyphens, if_pos mark, if_pos there]
      refine Related.ite (apart_shift k hyphen part) (fun apart => absurd apart adjacent)
        fun _ => ?_
      refine Related.ite Iff.rfl (fun _ => ?_) fun other => absurd quoted other
      exact .error (displaced.complaint part
        (inside (List.mem_cons_of_mem _ List.mem_cons_self)) _)
  | case5 last hyphen mark part behind adjacent notQuoted ih =>
      have there := (hyphen_shift k last hyphen).trans mark
      have further : behind ⊆ tokens := fun t member =>
        inside (List.mem_cons_of_mem _ (List.mem_cons_of_mem _ member))
      rw [List.map_cons, List.map_cons, scanHyphens, scanHyphens, if_pos mark, if_pos there]
      refine Related.ite (apart_shift k hyphen part) (fun apart => absurd apart adjacent)
        fun _ => ?_
      refine Related.ite Iff.rfl (fun quoted => absurd quoted notQuoted) fun _ => ?_
      refine Related.map (ih further) ?_
      rintro found moved ⟨more, left, last⟩
      exact ⟨congrArg ('-' :: part.text ++ ·) more, left, last⟩
  | case6 last t behind other =>
      have there : ¬((t.shift k).isMark '-' && (last.shift k).touches (t.shift k)) = true := by
        rw [hyphen_shift]
        exact other
      have passed := checkBehindName_related displaced last inside
      rw [List.map_cons] at passed ⊢
      rw [scanHyphens.eq_def, scanHyphens.eq_def (last.shift k)]
      simp only [if_neg other, if_neg there]
      exact Related.map passed fun _ _ _ => ⟨rfl, rfl, inside⟩

theorem keyCandidate_moved (displaced : Displaced k source target tokens faults) (first : Token)
    (inside : ts ⊆ tokens) :
    Related (fun found moved => moved.key = found.key ∧ moved.hasHyphens = found.hasHyphens ∧
        moved.rest = found.rest.map (Token.shift k) ∧ found.rest ⊆ tokens) faults
      (keyCandidate first ts) (keyCandidate (first.shift k) (ts.map (Token.shift k))) := by
  unfold keyCandidate
  refine Related.ite Iff.rfl (fun _ => ?_) fun _ => ?_
  · exact Related.map (checkBehindQuoted_related displaced first inside)
      fun _ _ _ => ⟨rfl, rfl, rfl, inside⟩
  · refine Related.map (scanHyphens_moved displaced inside) ?_
    rintro found moved ⟨more, left, last⟩
    exact ⟨congrArg (first.text ++ ·) more, congrArg (!·.isEmpty) more, left, last⟩

theorem mayBeKey_shift (k : Nat) (first : Token) (ts : List Token) :
    mayBeKey (first.shift k) (ts.map (Token.shift k)) = mayBeKey first ts := by
  rw [mayBeKey, ← List.map_cons, localized?_shift, Option.isNone_map]
  rfl

theorem startsValue_shift (k : Nat) (first : Token) (ts : List Token) :
    startsValue (first.shift k) (ts.map (Token.shift k)) = startsValue first ts := by
  rw [startsValue, ← List.map_cons, localized?_shift, negative?_shift, Option.isSome_map,
    Option.isSome_map]
  rfl

/-- The same attribute was read, further behind. -/
def EntryMoved (k : Nat) (tokens : List Token) {m n : Nat} (r : Read Entry m) (r' : Read Entry n) :
    Prop :=
  r'.value = r.value.shift k ∧ r'.rest = r.rest.map (Token.shift k) ∧ r.rest ⊆ tokens

theorem readEntry_positional_moved (displaced : Displaced k source target tokens faults)
    {first : Token} (inside : first :: ts ⊆ tokens) :
    Related (EntryMoved k tokens) faults (readEntry.positional source first ts)
      (readEntry.positional target (first.shift k) (ts.map (Token.shift k))) := by
  refine Related.map ((terms_moved displaced).1 (first :: ts) inside) ?_
  rintro r ⟨_, _, _⟩ ⟨rfl, rfl, left⟩
  exact ⟨rfl, rfl, left⟩

theorem readEntry_notKey_moved (displaced : Displaced k source target tokens faults)
    {first : Token} (inside : first :: ts ⊆ tokens) {key : KeyCandidate} {there : KeyCandidate}
    (candidate : keyCandidate first ts = .ok key)
    (candidateThere : keyCandidate (first.shift k) (ts.map (Token.shift k)) = .ok there)
    (same : there.key = key.key ∧ there.hasHyphens = key.hasHyphens ∧
      there.rest = key.rest.map (Token.shift k) ∧ key.rest ⊆ tokens) :
    Related (EntryMoved k tokens) faults (readEntry.notKey source first ts key candidate)
      (readEntry.notKey target (first.shift k) (ts.map (Token.shift k)) there candidateThere) := by
  obtain ⟨text, hyphens, rest, left⟩ := same
  unfold readEntry.notKey
  by_cases joined : key.hasHyphens = true
  · have joinedThere : there.hasHyphens = true := hyphens.trans joined
    rw [if_pos joined, if_pos joinedThere]
    refine .ok ⟨?_, rest, left⟩
    rw [text]
    rfl
  · have single : ¬there.hasHyphens = true := by
      rw [hyphens]
      exact joined
    rw [if_neg joined, if_neg single]
    exact readEntry_positional_moved displaced inside

theorem readEntry_key_moved (displaced : Displaced k source target tokens faults)
    {first : Token} (inside : first :: ts ⊆ tokens) (starts : mayBeKey first ts = true)
    (startsThere : mayBeKey (first.shift k) (ts.map (Token.shift k)) = true)
    {key there : KeyCandidate} (candidate : keyCandidate first ts = .ok key)
    (candidateThere : keyCandidate (first.shift k) (ts.map (Token.shift k)) = .ok there)
    (same : there.key = key.key ∧ there.hasHyphens = key.hasHyphens ∧
      there.rest = key.rest.map (Token.shift k) ∧ key.rest ⊆ tokens) :
    Related (EntryMoved k tokens) faults (readEntry source first ts)
      (readEntry target (first.shift k) (ts.map (Token.shift k))) := by
  have without (noEquals : ∀ t ∈ key.rest.head?, t.isMark '=' = false) :
      Related (EntryMoved k tokens) faults (readEntry source first ts)
        (readEntry target (first.shift k) (ts.map (Token.shift k))) := by
    have noEqualsThere : ∀ t ∈ there.rest.head?, t.isMark '=' = false := by
      intro t next
      rw [same.2.2.1, List.head?_map] at next
      obtain ⟨u, here, rfl⟩ := Option.map_eq_some_iff.mp next
      exact noEquals u here
    rw [readEntry_notKey starts candidate noEquals,
      readEntry_notKey startsThere candidateThere noEqualsThere]
    exact readEntry_notKey_moved displaced inside candidate candidateThere same
  cases next : key.rest with
  | nil =>
      refine without fun t none => ?_
      rw [next] at none
      cases none
  | cons equals behind =>
      by_cases mark : equals.isMark '=' = true
      · obtain ⟨text, _, rest, left⟩ := same
        have nextThere : there.rest = equals.shift k :: behind.map (Token.shift k) := by
          rw [rest, next]
          rfl
        obtain ⟨_, read⟩ := readEntry_equals source starts candidate next mark
        obtain ⟨_, readThere⟩ :=
          readEntry_equals target startsThere candidateThere nextThere mark
        rw [read, readThere, text]
        have further : behind ⊆ tokens := by
          intro t member
          refine left ?_
          rw [next]
          exact List.mem_cons_of_mem _ member
        refine Related.map ((terms_moved displaced).1 behind further) ?_
        rintro r ⟨_, _, _⟩ ⟨rfl, rfl, last⟩
        exact ⟨rfl, rfl, last⟩
      · refine without fun t here => ?_
        rw [next] at here
        obtain rfl := Option.some.inj here
        exact eq_false_of_ne_true mark

theorem readEntry_moved (displaced : Displaced k source target tokens faults) {first : Token}
    (inside : first :: ts ⊆ tokens) :
    Related (EntryMoved k tokens) faults (readEntry source first ts)
      (readEntry target (first.shift k) (ts.map (Token.shift k))) := by
  have behind : ts ⊆ tokens := fun t member => inside (List.mem_cons_of_mem _ member)
  by_cases starts : mayBeKey first ts = true
  · have startsThere : mayBeKey (first.shift k) (ts.map (Token.shift k)) = true := by
      rw [mayBeKey_shift]
      exact starts
    have candidates := keyCandidate_moved displaced first behind
    cases candidate : keyCandidate first ts with
    | error fault =>
        cases candidateThere : keyCandidate (first.shift k) (ts.map (Token.shift k)) with
        | ok there =>
            rw [candidate, candidateThere] at candidates
            cases candidates
        | error faultThere =>
            rw [candidate, candidateThere] at candidates
            rw [readEntry_noCandidate starts candidate,
              readEntry_noCandidate startsThere candidateThere]
            cases candidates with
            | error corresponding => exact .error corresponding
    | ok key =>
        cases candidateThere : keyCandidate (first.shift k) (ts.map (Token.shift k)) with
        | error faultThere =>
            rw [candidate, candidateThere] at candidates
            cases candidates
        | ok there =>
            rw [candidate, candidateThere] at candidates
            cases candidates with
            | ok same =>
                exact readEntry_key_moved displaced inside starts startsThere candidate
                  candidateThere same
  · have startsThere : ¬mayBeKey (first.shift k) (ts.map (Token.shift k)) = true := by
      rw [mayBeKey_shift]
      exact starts
    unfold readEntry
    rw [if_neg starts, if_neg startsThere, startsValue_shift]
    exact Related.ite Iff.rfl (fun _ => readEntry_positional_moved displaced inside)
      fun _ => .error (displaced.complaint first (inside List.mem_cons_self) _)

/-- Moved tokens are read as the same entries, further behind, or are refused alike. -/
theorem readEntries_moved (displaced : Displaced k source target tokens faults)
    (inside : ts ⊆ tokens) :
    Related (fun entries moved => moved = entries.map (Entry.shift k)) faults
      (readEntries source ts) (readEntries target (ts.map (Token.shift k))) := by
  induction ts using readEntries.induct with
  | case1 =>
      rw [List.map_nil, readEntries, readEntries]
      exact .ok rfl
  | case2 comma mark =>
      have there : (comma.shift k).isMark ',' = true := mark
      rw [List.map_singleton, readEntries, readEntries, if_pos mark, if_pos there]
      exact .ok rfl
  | case3 comma mark first behind ih =>
      have there : (comma.shift k).isMark ',' = true := mark
      rw [List.map_cons, List.map_cons, readEntries, readEntries, if_pos mark, if_pos there]
      refine Related.bind (readEntry_moved displaced fun t member =>
        inside (List.mem_cons_of_mem _ member)) ?_
      rintro entry ⟨_, _, _⟩ ⟨rfl, rfl, left⟩
      refine Related.bind (ih entry left) ?_
      rintro others _ rfl
      exact .ok rfl
  | case4 first behind other ih =>
      have there : ¬(first.shift k).isMark ',' = true := other
      rw [List.map_cons, readEntries.eq_def, readEntries.eq_def target]
      simp only [if_neg other, if_neg there]
      refine Related.bind (readEntry_moved displaced inside) ?_
      rintro entry ⟨_, _, _⟩ ⟨rfl, rfl, left⟩
      refine Related.bind (ih entry left) ?_
      rintro others _ rfl
      exact .ok rfl

end Attribute
end ElementTags
