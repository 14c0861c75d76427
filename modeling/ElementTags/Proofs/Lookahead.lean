import ElementTags.Proofs.Balance

/-! # Where the grammar looks ahead

A minus sign belongs to a number, and an underscore to a localized literal, only
when the next token touches it. The conditions are read back from the functions
that look ahead, together with the ways in which the marks of the grammar exclude
each other.
-/

namespace ElementTags

namespace Token

/-- A token is of one kind only. -/
theorem kind_ne {t : Token} {kind other : TokenKind} (here : t.kind = kind)
    (apart : kind ≠ other) : t.kind ≠ other := by
  rw [here]
  exact apart

theorem kind_of_isMark {t : Token} {c : Char} (mark : t.isMark c = true) : t.kind = .mark :=
  (isMark_iff.mp mark).1

/-- A token of another kind is no mark. -/
theorem isMark_of_kind {t : Token} (other : t.kind ≠ .mark) (c : Char) : t.isMark c = false := by
  cases mark : t.isMark c with
  | false => rfl
  | true => exact absurd (kind_of_isMark mark) other

/-- A token that is one mark is not another one. -/
theorem isMark_of_ne {t : Token} {c d : Char} (mark : t.isMark c = true) (other : c ≠ d) :
    t.isMark d = false := by
  rw [isMark_unique mark, decide_eq_false other]

end Token

namespace Attribute

theorem negative?_eq_some_iff {ts rest : List Token} {number : Token} :
    negative? ts = some (number, rest) ↔
      ∃ sign, ts = sign :: number :: rest ∧ sign.isMark '-' = true ∧ number.kind = .name ∧
        (number.text.head?.map Text.isDigit).getD false = true ∧ sign.touches number = true := by
  constructor
  · intro found
    unfold negative? at found
    split at found
    · rename_i sign next behind
      split at found
      · rename_i conditions
        obtain ⟨rfl, rfl⟩ := Prod.mk.inj (Option.some.inj found)
        simp only [Bool.and_eq_true, decide_eq_true_eq] at conditions
        obtain ⟨⟨⟨mark, kind⟩, digit⟩, adjacent⟩ := conditions
        exact ⟨sign, rfl, mark, kind, digit, adjacent⟩
      · cases found
    · cases found
  · rintro ⟨sign, rfl, mark, kind, digit, adjacent⟩
    rw [negative?, mark, kind, digit, adjacent]
    rfl

theorem localized?_eq_some_iff {ts rest : List Token} :
    localized? ts = some rest ↔
      ∃ name paren, ts = name :: paren :: rest ∧ name.kind = .name ∧ name.text = ['_'] ∧
        paren.isMark '(' = true ∧ name.touches paren = true := by
  constructor
  · intro found
    unfold localized? at found
    split at found
    · rename_i name paren behind
      split at found
      · rename_i conditions
        obtain rfl := Option.some.inj found
        simp only [Bool.and_eq_true, decide_eq_true_eq] at conditions
        obtain ⟨⟨⟨kind, text⟩, mark⟩, adjacent⟩ := conditions
        exact ⟨name, paren, rfl, kind, text, mark, adjacent⟩
      · cases found
    · cases found
  · rintro ⟨name, paren, rfl, kind, text, mark, adjacent⟩
    rw [localized?, kind, text, mark, adjacent]
    rfl

/-- A number is negative only if a mark comes first. -/
theorem negative?_of_kind {t : Token} {ts : List Token} (other : t.kind ≠ .mark) :
    negative? (t :: ts) = none := by
  rw [Option.eq_none_iff_forall_ne_some]
  rintro ⟨number, rest⟩ found
  obtain ⟨sign, same, mark, -⟩ := negative?_eq_some_iff.mp found
  obtain ⟨rfl, -⟩ := List.cons.inj same
  exact other (Token.kind_of_isMark mark)

/-- A literal is localized only if a name comes first. -/
theorem localized?_of_kind {t : Token} {ts : List Token} (other : t.kind ≠ .name) :
    localized? (t :: ts) = none := by
  rw [Option.eq_none_iff_forall_ne_some]
  intro rest found
  obtain ⟨name, paren, same, kind, -⟩ := localized?_eq_some_iff.mp found
  obtain ⟨rfl, -⟩ := List.cons.inj same
  exact other kind

/-! ## The four forms of an operand -/

theorem readOperand_negative {source : Text} {ts rest : List Token} {number : Token}
    (found : negative? ts = some (number, rest)) :
    readOperand source ts = .ok ⟨⟨'-' :: number.text, false⟩, rest, negative?_length found⟩ := by
  unfold readOperand
  split
  · rename_i here
    rw [found] at here
    cases here
    rfl
  · rename_i none
    rw [found] at none
    cases none

theorem readOperand_localized {source : Text} {ts rest : List Token}
    (positive : negative? ts = none) (found : localized? ts = some rest) :
    readOperand source ts =
      (readLocalized source rest).map (·.widen (Nat.le_of_lt (localized?_length found))) := by
  unfold readOperand
  split
  · rename_i here
    rw [positive] at here
    cases here
  · split
    · rename_i here
      rw [found] at here
      cases here
      rfl
    · rename_i none
      rw [found] at none
      cases none

theorem readOperand_cons {source : Text} {t : Token} {rest : List Token}
    (positive : negative? (t :: rest) = none) (plain : localized? (t :: rest) = none) :
    readOperand source (t :: rest) =
      if t.kind = .mark then .error (complain .unexpectedToken t)
      else .ok ⟨⟨t.text, decide (t.kind = .quoted)⟩, rest, Nat.lt_succ_self _⟩ := by
  unfold readOperand
  split
  · rename_i here
    rw [positive] at here
    cases here
  · split
    · rename_i here
      rw [plain] at here
      cases here
    · rfl

/-! ## Operators and keys -/

theorem operator?_eq_some_iff {t : Token} {operator : Operator} :
    operator? t = some operator ↔ t.isMark operator.mark = true := by
  rw [Token.isMark_iff]
  unfold operator?
  split
  · rename_i c kind text
    rw [kind, text]
    constructor
    · intro found
      refine ⟨rfl, ?_⟩
      unfold Operator.ofMark? at found
      split at found
      all_goals first
        | (obtain rfl := Option.some.inj found; rfl)
        | cases found
    · rintro ⟨-, same⟩
      obtain rfl := (List.cons.inj same).1
      exact Operator.ofMark?_mark operator
  · rename_i other
    constructor
    · intro found
      cases found
    · rintro ⟨kind, text⟩
      exact absurd text (other _ kind)

theorem startsWithOperator_eq_false_iff {ts : List Token} :
    startsWithOperator ts = false ↔ ∀ t ∈ ts.head?, operator? t = none := by
  cases ts with
  | nil =>
      constructor
      · intro _ t first
        cases first
      · intro _
        rfl
  | cons u us =>
      rw [startsWithOperator, Option.isSome_eq_false_iff, Option.isNone_iff_eq_none]
      constructor
      · intro none t first
        obtain rfl := Option.some.inj first
        exact none
      · intro none
        exact none u rfl

theorem checkBehindName_eq_ok_iff {last : Token} {ts : List Token} :
    checkBehindName last ts = .ok () ↔
      ∀ t ∈ ts.head?, last.touches t = true → t.kind ≠ .quoted := by
  cases ts with
  | nil =>
      constructor
      · intro _ t first
        cases first
      · intro _
        rfl
  | cons u us =>
      simp only [checkBehindName, List.head?_cons, Option.mem_def, Option.some.injEq, forall_eq',
        Bool.and_eq_true, decide_eq_true_eq]
      constructor
      · intro passed touching quoted
        rw [if_pos ⟨quoted, touching⟩] at passed
        cases passed
      · intro apart
        rw [if_neg fun both => apart both.2 both.1]

theorem checkBehindQuoted_eq_ok_iff {quoted : Token} {ts : List Token} :
    checkBehindQuoted quoted ts = .ok () ↔
      ∀ t ∈ ts.head?, quoted.touches t = true → t.kind = .mark ∧ t.isMark '-' = false := by
  cases ts with
  | nil =>
      constructor
      · intro _ t first
        cases first
      · intro _
        rfl
  | cons u us =>
      simp only [checkBehindQuoted, List.head?_cons, Option.mem_def, Option.some.injEq, forall_eq',
        Bool.and_eq_true, Bool.or_eq_true, decide_eq_true_eq]
      constructor
      · intro passed touching
        split at passed
        · cases passed
        · rename_i apart
          refine ⟨Decidable.byContradiction fun other => apart ⟨touching, .inl other⟩, ?_⟩
          exact eq_false_of_ne_true fun hyphen => apart ⟨touching, .inr hyphen⟩
      · intro apart
        refine if_neg ?_
        rintro ⟨touching, other | hyphen⟩
        · exact other (apart touching).1
        · rw [(apart touching).2] at hyphen
          cases hyphen

/-! ## The forms of an attribute -/

/-- An equals sign behind what may be a key makes it one. -/
theorem readEntry_equals (source : Text) {first equals : Token} {rest behind : List Token}
    {k : KeyCandidate} (starts : mayBeKey first rest = true)
    (candidate : keyCandidate first rest = .ok k) (next : k.rest = equals :: behind)
    (mark : equals.isMark '=' = true) :
    ∃ bound : behind.length ≤ rest.length + 1, readEntry source first rest =
      (readTerm source behind).map fun value =>
        (value.map (.keyword first.start k.key)).widen bound := by
  have fewer := keyCandidate_length candidate
  rw [next, List.length_cons] at fewer
  refine ⟨by omega, ?_⟩
  unfold readEntry
  rw [if_pos starts]
  split
  · rename_i failed
    rw [candidate] at failed
    cases failed
  · rename_i found
    rw [candidate] at found
    cases found
    split
    · rename_i here
      rw [next] at here
      obtain ⟨rfl, rfl⟩ := List.cons.inj here
      rw [if_pos mark]
    · rename_i here
      rw [next] at here
      cases here

theorem readEntry_notKey {source : Text} {first : Token} {rest : List Token} {k : KeyCandidate}
    (starts : mayBeKey first rest = true) (candidate : keyCandidate first rest = .ok k)
    (noEquals : ∀ t ∈ k.rest.head?, t.isMark '=' = false) :
    readEntry source first rest = readEntry.notKey source first rest k candidate := by
  unfold readEntry
  rw [if_pos starts]
  split
  · rename_i failed
    rw [candidate] at failed
    cases failed
  · rename_i found
    rw [candidate] at found
    cases found
    split
    · rename_i equals behind next
      rw [next] at noEquals
      rw [noEquals equals rfl, if_neg Bool.false_ne_true]
    · rfl

theorem readEntry_noCandidate {source : Text} {first : Token} {rest : List Token}
    {fault : AttributeFault} (starts : mayBeKey first rest = true)
    (candidate : keyCandidate first rest = .error fault) :
    readEntry source first rest = .error fault := by
  unfold readEntry
  rw [if_pos starts]
  split
  · rename_i found
    rw [candidate] at found
    cases found
    rfl
  · rename_i found
    rw [candidate] at found
    cases found

end Attribute
end ElementTags
