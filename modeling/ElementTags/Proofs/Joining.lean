import ElementTags.Text.Basic

/-! # Joined texts

A text is cut at every occurrence of a separator and joined again, and what holds of
the parts of a joined text and of the separator between them holds of the whole.
-/

namespace ElementTags

namespace Text

theorem pieces_ne_nil (separator : Char) (s : Text) : pieces separator s ≠ [] := by
  cases s with
  | nil => exact List.cons_ne_nil _ _
  | cons c rest =>
      rw [pieces]
      split
      · exact List.cons_ne_nil _ _
      · split <;> exact List.cons_ne_nil _ _

/-- The first piece ends in front of the first separator. -/
theorem head?_pieces (separator : Char) (s : Text) :
    (pieces separator s).head? = some (s.takeWhile (· ≠ separator)) := by
  induction s with
  | nil => rfl
  | cons c rest ih =>
      rw [pieces, List.takeWhile_cons]
      by_cases separates : c = separator
      · have kept : decide (c ≠ separator) = false := decide_eq_false (not_not_intro separates)
        rw [if_pos separates, kept, if_neg Bool.false_ne_true]
        rfl
      · rw [if_neg separates, if_pos (decide_eq_true separates)]
        cases split : pieces separator rest with
        | nil => exact absurd split (pieces_ne_nil _ _)
        | cons piece others =>
            rw [split] at ih
            exact congrArg (fun found => some (c :: found)) (Option.some.inj ih)

/-- No separator is left in a piece. -/
theorem not_mem_of_mem_pieces {separator : Char} {s piece : Text}
    (member : piece ∈ pieces separator s) : separator ∉ piece := by
  induction s generalizing piece with
  | nil =>
      obtain rfl := List.mem_singleton.mp member
      exact List.not_mem_nil
  | cons c rest ih =>
      rw [pieces] at member
      split at member
      · rcases List.mem_cons.mp member with rfl | later
        · exact List.not_mem_nil
        · exact ih later
      · rename_i apart
        cases split : pieces separator rest with
        | nil => exact absurd split (pieces_ne_nil _ _)
        | cons first others =>
            rw [split] at member ih
            rcases List.mem_cons.mp member with rfl | later
            · rw [List.mem_cons, not_or]
              exact ⟨Ne.symm apart, ih List.mem_cons_self⟩
            · exact ih (List.mem_cons_of_mem _ later)

theorem join_singleton (separator piece : Text) : join separator [piece] = piece :=
  List.intercalate_singleton

theorem join_cons {separator piece : Text} {others : List Text} (more : others ≠ []) :
    join separator (piece :: others) = piece ++ (separator ++ join separator others) := by
  cases others with
  | nil => exact absurd rfl more
  | cons next others =>
      rw [join, List.intercalate_cons_cons, List.append_assoc]
      rfl

/-- The pieces of a text joined by what separates them are the text. -/
theorem join_pieces (separator : Char) (s : Text) :
    join [separator] (pieces separator s) = s := by
  induction s with
  | nil => rfl
  | cons c rest ih =>
      rw [pieces]
      by_cases separates : c = separator
      · rw [if_pos separates, join_cons (pieces_ne_nil _ _), ih, separates]
        rfl
      · rw [if_neg separates]
        cases split : pieces separator rest with
        | nil => exact absurd split (pieces_ne_nil _ _)
        | cons piece others =>
            rw [split] at ih
            cases others with
            | nil => rw [← ih, join_singleton, join_singleton]
            | cons next others =>
                rw [← ih, join_cons (List.cons_ne_nil _ _), join_cons (List.cons_ne_nil _ _)]
                rfl

/-- What holds of the parts and of the separator, and is kept when texts are appended, holds of the
joined text. -/
theorem join_of_append {holds : Text → Prop} {separator : Text} {parts : List Text}
    (nil : holds []) (append : ∀ s t, holds s → holds t → holds (s ++ t))
    (between : holds separator) (each : ∀ part ∈ parts, holds part) :
    holds (join separator parts) := by
  induction parts with
  | nil => exact nil
  | cons part others ih =>
      obtain ⟨first, rest⟩ := List.forall_mem_cons.mp each
      by_cases more : others = []
      · subst more
        rw [join_singleton]
        exact first
      · rw [join_cons more]
        exact append _ _ first (append _ _ between (ih rest))

/-- The occurrences of a character that is not in the separator. -/
theorem count_join {c : Char} {separator : Text} (other : c ∉ separator) (parts : List Text) :
    (join separator parts).count c = parts.flatten.count c := by
  induction parts with
  | nil => rfl
  | cons part others ih =>
      by_cases more : others = []
      · subst more
        rw [join_singleton, List.flatten_singleton]
      · rw [join_cons more, List.count_append, List.count_append, List.count_eq_zero.mpr other, ih,
          List.flatten_cons, List.count_append, Nat.zero_add]

end Text
end ElementTags
