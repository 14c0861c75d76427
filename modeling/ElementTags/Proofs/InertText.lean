import ElementTags.Proofs.Joining
import ElementTags.Text.Escape

/-! # Text without markup

A text is inert if HTML finds nothing in it but characters and entities: no angle
bracket, no apostrophe, and no ampersand that does not begin one of the five
entities. Escaped texts are inert, and inert texts may be put one behind the other,
since no entity goes on across the end of a text.
-/

namespace ElementTags.Text

/-- The entities of the characters with a meaning in HTML. -/
def entities : List Text :=
  ["&amp;".toList, "&lt;".toList, "&gt;".toList, "&quot;".toList, "&#x27;".toList]

/-- A text without angle brackets and apostrophes in which every ampersand begins an entity. -/
structure Inert (s : Text) : Prop where
  noMarkup : '<' ∉ s ∧ '>' ∉ s ∧ '\'' ∉ s
  ampersands : ∀ before behind, s = before ++ '&' :: behind →
    ∃ name ∈ entities, name <+: '&' :: behind

/-- A text none of whose characters has an entity. -/
def Plain (s : Text) : Prop := ∀ c ∈ s, entity c = [c]

instance (s : Text) : Decidable s.Plain := List.decidableBAll (fun c => entity c = [c]) s

/-- A text without special characters other than double quotes is inert. -/
theorem inert_of_not_mem {s : Text} (noMarkup : '<' ∉ s ∧ '>' ∉ s ∧ '\'' ∉ s)
    (noAmpersand : '&' ∉ s) : Inert s where
  noMarkup := noMarkup
  ampersands := by
    intro before behind split
    exact absurd (split ▸ List.mem_append_right _ List.mem_cons_self) noAmpersand

theorem inert_nil : Inert [] := inert_of_not_mem (by decide) List.not_mem_nil

/-- Inert texts may be put one behind the other. -/
theorem Inert.append {s t : Text} (left : Inert s) (right : Inert t) : Inert (s ++ t) where
  noMarkup := by
    simp only [List.mem_append, not_or]
    exact ⟨⟨left.noMarkup.1, right.noMarkup.1⟩, ⟨left.noMarkup.2.1, right.noMarkup.2.1⟩,
      left.noMarkup.2.2, right.noMarkup.2.2⟩
  ampersands := by
    intro before behind split
    rcases List.append_eq_append_iff.mp split with ⟨middle, rfl, there⟩ | ⟨middle, here, there⟩
    · exact right.ampersands middle behind there
    · cases middle with
      | nil => exact right.ampersands [] behind there.symm
      | cons c middle =>
          rw [List.cons_append] at there
          obtain ⟨rfl, rfl⟩ := List.cons.inj there
          obtain ⟨name, known, start⟩ := left.ampersands before middle here
          exact ⟨name, known, start.trans (List.prefix_append ('&' :: middle) t)⟩

/-! ## Escaped texts -/

/-- A character is written as an entity or as itself. -/
theorem entity_cases (c : Char) : entity c ∈ entities ∨ entity c = [c] := by
  unfold entity
  split
  case h_6 => exact .inr rfl
  all_goals exact .inl (by decide)

/-- An ampersand stands only at the start of an entity. -/
theorem inert_of_mem_entities {name : Text} (known : name ∈ entities) : Inert name where
  noMarkup := by
    have all : ∀ name ∈ entities, '<' ∉ name ∧ '>' ∉ name ∧ '\'' ∉ name := by decide
    exact all name known
  ampersands := by
    intro before behind split
    cases before with
    | nil => exact ⟨name, known, by rw [split]; exact List.prefix_rfl⟩
    | cons c before =>
        have single : ∀ name ∈ entities, '&' ∉ name.tail := by decide
        refine absurd ?_ (single name known)
        rw [split, List.cons_append, List.tail_cons]
        exact List.mem_append_right _ List.mem_cons_self

theorem inert_singleton {c : Char} (plain : entity c = [c]) : Inert [c] := by
  refine inert_of_not_mem ⟨?_, ?_, ?_⟩ ?_ <;> rw [List.mem_singleton] <;> rintro rfl <;>
    exact absurd plain (by decide)

theorem inert_entity (c : Char) : Inert (entity c) := by
  rcases entity_cases c with known | plain
  · exact inert_of_mem_entities known
  · rw [plain]
    exact inert_singleton plain

theorem inert_escape (s : Text) : Inert (escape s) := by
  induction s with
  | nil => exact inert_nil
  | cons c s ih => exact (inert_entity c).append ih

theorem quote_not_mem_escape (s : Text) : '"' ∉ escape s := by
  induction s with
  | nil => exact List.not_mem_nil
  | cons c s ih =>
      rw [escape_cons, List.mem_append, not_or]
      refine ⟨?_, ih⟩
      rcases entity_cases c with known | plain
      · have all : ∀ name ∈ entities, '"' ∉ name := by decide
        exact all _ known
      · rw [plain, List.mem_singleton]
        rintro rfl
        exact absurd plain (by decide)

/-- A text without special characters is its own escaped text. -/
theorem Plain.escape_eq {s : Text} (plain : Plain s) : escape s = s := by
  induction s with
  | nil => rfl
  | cons c s ih =>
      obtain ⟨first, rest⟩ := List.forall_mem_cons.mp plain
      rw [escape_cons, first, ih rest]
      rfl

end ElementTags.Text
