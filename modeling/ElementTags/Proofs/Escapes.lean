import Mathlib.Algebra.Group.Nat.Even
import Mathlib.Algebra.Ring.Parity
import ElementTags.Proofs.Segmentation

/-! # Where a quoted text ends

A backslash takes the next character along, so that a quote behind it does not close
a quoted text. Read off the finished text, a quote is taken along if the run of
backslashes in front of it is odd, and the first quote behind an even run, which may
be empty, closes the text (`ElementTags.Token.quotedTail_eq_some_iff`).
-/

namespace ElementTags

namespace Text

/-- The length of the run of backslashes at the end of a text. -/
def escapes (s : Text) : Nat := (s.reverse.takeWhile (· = '\\')).length

/-- Every occurrence of a quote in a text stands behind an odd run of backslashes. -/
def Shielded (quote : Char) (s : Text) : Prop :=
  ∀ front back, s = front ++ quote :: back → Odd (escapes front)

variable {quote c : Char} {s : Text}

/-- A run of backslashes goes on into an earlier text only if it fills the later one. -/
theorem escapes_append (front s : Text) :
    escapes (front ++ s) =
      if escapes s = s.length then s.length + escapes front else escapes s := by
  rw [escapes, List.reverse_append, List.takeWhile_append, List.length_reverse]
  split
  · rw [if_pos ‹_›, List.length_append, List.length_reverse]
    rfl
  · rw [if_neg ‹_›]
    rfl

/-- No run goes on across another character. -/
theorem escapes_cons (plain : c ≠ '\\') (s : Text) : escapes (c :: s) = escapes s := by
  have none : escapes [c] = 0 := by
    rw [escapes, List.reverse_singleton, List.takeWhile_cons_of_neg (by simpa using plain)]
    rfl
  rw [← List.singleton_append, escapes_append, none]
  split
  · exact Eq.symm ‹_›
  · rfl

/-- A backslash and the character that it takes along do not change whether a run is even. -/
theorem even_escapes_pair (c : Char) (s : Text) :
    Even (escapes ('\\' :: c :: s)) ↔ Even (escapes s) := by
  have pair : Even (escapes ['\\', c]) := by
    by_cases same : c = '\\'
    · subst same
      decide
    · have none : escapes ['\\', c] = 0 := by
        rw [escapes, List.reverse_cons, List.reverse_singleton, List.singleton_append,
          List.takeWhile_cons_of_neg (by simpa using same)]
        rfl
      rw [none]
      exact Even.zero
  change Even (escapes (['\\', c] ++ s)) ↔ _
  rw [escapes_append]
  split
  · rename_i filled
    rw [filled, Nat.even_add]
    exact ⟨fun both => both.mpr pair, fun even => ⟨fun _ => pair, fun _ => even⟩⟩
  · rfl

theorem shielded_nil (quote : Char) : Shielded quote [] := fun _ _ split =>
  absurd split.symm (List.append_ne_nil_of_right_ne_nil _ (List.cons_ne_nil _ _))

/-- A character other than the backslash shields nothing. -/
theorem shielded_cons (plain : c ≠ '\\') :
    Shielded quote (c :: s) ↔ c ≠ quote ∧ Shielded quote s := by
  constructor
  · refine fun shielded => ⟨fun same => ?_, fun front back split => ?_⟩
    · subst same
      exact absurd (shielded [] s rfl) (by decide)
    · rw [← escapes_cons plain]
      exact shielded (c :: front) back (congrArg (c :: ·) split)
  · rintro ⟨other, shielded⟩ front back split
    cases front with
    | nil => exact absurd (List.cons.inj split).1 other
    | cons d front =>
        obtain ⟨rfl, rest⟩ := List.cons.inj split
        rw [escapes_cons plain]
        exact shielded front back rest

/-- A backslash shields the next character only. -/
theorem shielded_pair (plain : quote ≠ '\\') (c : Char) :
    Shielded quote ('\\' :: c :: s) ↔ Shielded quote s := by
  constructor
  · intro shielded front back split
    have odd := shielded ('\\' :: c :: front) back (by rw [split]; rfl)
    rwa [← Nat.not_even_iff_odd, even_escapes_pair, Nat.not_even_iff_odd] at odd
  · intro shielded front back split
    match front with
    | [] => exact absurd (List.cons.inj split).1.symm plain
    | [d] =>
        obtain ⟨rfl, -⟩ := List.cons.inj split
        decide
    | d :: e :: front =>
        obtain ⟨rfl, behind⟩ := List.cons.inj split
        obtain ⟨rfl, rest⟩ := List.cons.inj behind
        rw [← Nat.not_even_iff_odd, even_escapes_pair, Nat.not_even_iff_odd]
        exact shielded front back rest

end Text

namespace Token

open Text

variable {quote : Char} {s body rest : Text}

/-- A quoted text is not closed if every quote that follows is taken along. -/
theorem quotedTail_eq_none_iff (plain : quote ≠ '\\') :
    quotedTail quote s = none ↔ Shielded quote s := by
  fun_induction quotedTail quote s with
  | case1 => exact ⟨fun _ => shielded_nil quote, fun _ => rfl⟩
  | case2 =>
      refine ⟨fun _ front back split => ?_, fun _ => rfl⟩
      cases front with
      | nil => exact absurd (List.cons.inj split).1.symm plain
      | cons d front =>
          exact absurd (List.cons.inj split).2.symm
            (List.append_ne_nil_of_right_ne_nil _ (List.cons_ne_nil _ _))
  | case3 c s ih => rw [Option.map_eq_none_iff, ih, shielded_pair plain]
  | case4 s =>
      rw [shielded_cons plain]
      exact ⟨fun none => (by cases none), fun both => absurd rfl both.1⟩
  | case5 c s single escaped other ih =>
      have ordinary := ne_backslash single escaped
      rw [Option.map_eq_none_iff, ih, shielded_cons ordinary]
      exact ⟨fun shielded => ⟨other, shielded⟩, And.right⟩

/-- What is read of a quoted text ends with its quote, which is not taken along. -/
theorem closing_of_quotedTail (plain : quote ≠ '\\')
    (closed : quotedTail quote s = some (body, rest)) : ∃ inner, body = inner ++ [quote] ∧
      s = inner ++ quote :: rest ∧ Even (escapes inner) ∧ Shielded quote inner := by
  fun_induction quotedTail quote s generalizing body with
  | case1 => cases closed
  | case2 => cases closed
  | case3 c s ih =>
      obtain ⟨⟨b, r⟩, found, same⟩ := Option.map_eq_some_iff.mp closed
      obtain ⟨rfl, rfl⟩ := Prod.mk.inj same
      obtain ⟨inner, rfl, rfl, even, shielded⟩ := ih found
      exact ⟨'\\' :: c :: inner, rfl, rfl, (even_escapes_pair c inner).mpr even,
        (shielded_pair plain c).mpr shielded⟩
  | case4 s =>
      obtain ⟨rfl, rfl⟩ := Prod.mk.inj (Option.some.inj closed)
      exact ⟨[], rfl, rfl, Even.zero, shielded_nil quote⟩
  | case5 c s single escaped other ih =>
      have ordinary := ne_backslash single escaped
      obtain ⟨⟨b, r⟩, found, same⟩ := Option.map_eq_some_iff.mp closed
      obtain ⟨rfl, rfl⟩ := Prod.mk.inj same
      obtain ⟨inner, rfl, rfl, even, shielded⟩ := ih found
      refine ⟨c :: inner, rfl, rfl, ?_, (shielded_cons ordinary).mpr ⟨other, shielded⟩⟩
      rwa [escapes_cons ordinary]

/-- Only one quote can be the first that is not taken along. -/
theorem closing_unique {inner other rest behind : Text}
    (same : inner ++ quote :: rest = other ++ quote :: behind) (even : Even (escapes inner))
    (shielded : Shielded quote inner) (otherEven : Even (escapes other))
    (otherShielded : Shielded quote other) : inner = other ∧ rest = behind := by
  -- A quote that came earlier would stand in the longer of the two texts.
  have apart {front back middle : Text} (even : Even (escapes front))
      (longer : back = front ++ quote :: middle) (shielded : Shielded quote back) : False :=
    Nat.not_even_iff_odd.mpr (shielded front middle longer) even
  rcases List.append_eq_append_iff.mp same with ⟨middle, longer, tail⟩ | ⟨middle, longer, tail⟩
  · cases middle with
    | nil =>
        rw [List.append_nil] at longer
        exact ⟨longer.symm, (List.cons.inj tail).2⟩
    | cons c middle =>
        obtain rfl := (List.cons.inj tail).1
        exact (apart even longer otherShielded).elim
  · cases middle with
    | nil =>
        rw [List.append_nil] at longer
        exact ⟨longer, (List.cons.inj tail).2.symm⟩
    | cons c middle =>
        obtain rfl := (List.cons.inj tail).1
        exact (apart otherEven longer shielded).elim

/-- A quoted text is closed by the first quote that is not taken along. -/
theorem quotedTail_eq_some_iff (plain : quote ≠ '\\') :
    quotedTail quote s = some (body, rest) ↔ ∃ inner, body = inner ++ [quote] ∧
      s = inner ++ quote :: rest ∧ Even (escapes inner) ∧ Shielded quote inner := by
  constructor
  · exact closing_of_quotedTail plain
  · rintro ⟨inner, rfl, rfl, even, shielded⟩
    cases closed : quotedTail quote (inner ++ quote :: rest) with
    | none =>
        have odd := (quotedTail_eq_none_iff plain).mp closed inner rest rfl
        exact absurd even (Nat.not_even_iff_odd.mpr odd)
    | some both =>
        obtain ⟨body, behind⟩ := both
        obtain ⟨other, rfl, split, otherEven, otherShielded⟩ := closing_of_quotedTail plain closed
        obtain ⟨rfl, rfl⟩ := closing_unique split even shielded otherEven otherShielded
        rfl

end Token
end ElementTags
