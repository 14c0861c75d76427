import ElementTags.Proofs.Marks
import ElementTags.Value.Arithmetic

/-! # Operators on unmarked values

The operators between attribute operands make unmarked values from unmarked values
(`ElementTags.Value.unmarked_append` and the like). Filling a text could hand a safe
text on, but an unmarked value has none to fill in, so every part of the result is a
plain text.
-/

namespace ElementTags.Value

open Outcome

variable {lazily : Prop} {a b v w : Value} {items xs ys : List Value}

/-! ## Sets -/

namespace Places

variable {p : Places} {code : Nat}

theorem mem_insert (member : w ∈ (p.insert code v).toList) : w ∈ p.toList ∨ w = v := by
  obtain ⟨place, here, same⟩ := List.mem_filterMap.mp member
  rcases List.mem_or_eq_of_mem_set here with before | new
  · exact .inl (List.mem_filterMap.mpr ⟨place, before, same⟩)
  · subst new
    exact .inr (Option.some.inj same).symm

theorem mem_foldl {f : Places → Value → Places}
    (step : ∀ p v w, w ∈ (f p v).toList → w ∈ p.toList ∨ w = v)
    (member : w ∈ (items.foldl f p).toList) : w ∈ p.toList ∨ w ∈ items := by
  induction items generalizing p with
  | nil => exact .inl member
  | cons v rest ih =>
      rcases ih member with before | behind
      · rcases step p v w before with earlier | new
        · exact .inl earlier
        · exact .inr (List.mem_cons.mpr (.inl new))
      · exact .inr (List.mem_cons_of_mem _ behind)

theorem toList_free (size : Nat) : (free size).toList = [] := by
  unfold toList free
  rw [List.filterMap_eq_nil_iff]
  intro place member
  exact List.eq_of_mem_replicate member

theorem mem_resized {least : Nat} (member : w ∈ (p.resized least).toList) : w ∈ p.toList := by
  rcases mem_foldl (fun _ _ _ => mem_insert) member with nowhere | here
  · rw [toList_free] at nowhere
    cases nowhere
  · exact here

theorem mem_add (member : w ∈ (p.add v).toList) : w ∈ p.toList ∨ w = v := by
  unfold add at member
  dsimp only at member
  split at member
  · exact mem_insert (mem_resized member)
  · exact mem_insert member

theorem mem_addAll (member : w ∈ (p.addAll items).toList) : w ∈ p.toList ∨ w ∈ items := by
  rcases mem_foldl (fun _ _ _ => mem_insert) member with before | new
  · split at before
    · exact .inl (mem_resized before)
    · exact .inl before
  · exact .inr new

end Places

theorem mem_foldl_addDistinct (member : w ∈ ys.foldl addDistinct xs) : w ∈ xs ∨ w ∈ ys := by
  induction ys generalizing xs with
  | nil => exact .inl member
  | cons y ys ih =>
      rcases ih member with before | behind
      · unfold addDistinct at before
        split at before
        · exact .inl before
        · rcases List.mem_append.mp before with earlier | new
          · exact .inl earlier
          · exact .inr (List.mem_cons.mpr (.inl (List.mem_singleton.mp new)))
      · exact .inr (List.mem_cons_of_mem _ behind)

/-- The items of a set are among those that it is made from. -/
theorem gathered_subset (items : List Value) : gathered items ⊆ items := by
  have distinct {w : Value} (member : w ∈ items.foldl addDistinct []) : w ∈ items := by
    rcases mem_foldl_addDistinct member with nowhere | here
    · cases nowhere
    · exact here
  intro w member
  unfold gathered at member
  dsimp only at member
  split at member
  · rcases Places.mem_foldl (fun _ _ _ => Places.mem_add) member with nowhere | here
    · rw [Places.toList_free] at nowhere
      cases nowhere
    · exact distinct here
  · exact distinct member

theorem copied_subset (items : List Value) : copied items ⊆ items := by
  intro w member
  unfold copied at member
  split at member
  · rcases Places.mem_addAll member with nowhere | here
    · rw [Places.toList_free] at nowhere
      cases nowhere
    · exact here
  · exact member

theorem reduced_subset (xs ys : List Value) : reduced xs ys ⊆ xs := by
  intro w member
  unfold reduced at member
  dsimp only at member
  split at member
  · exact copied_subset xs (List.mem_filter.mp member).1
  · exact (List.mem_filter.mp (gathered_subset _ member)).1

/-! ## Numbers -/

theorem unmarked_onNumbers {whole : Int → Int → Except EvalFault Value}
    {real : Float → Float → Except EvalFault Value} {x y : Numeric}
    (exact : ∀ m n v, whole m n = .ok v → v.Unmarked lazily)
    (rounded : ∀ x y v, real x y = .ok v → v.Unmarked lazily)
    (result : onNumbers whole real x y = .ok v) : v.Unmarked lazily := by
  unfold onNumbers at result
  split at result
  · exact exact _ _ v result
  · obtain ⟨x, -, result⟩ := bind_eq_ok.mp result
    obtain ⟨y, -, result⟩ := bind_eq_ok.mp result
    exact rounded x y v result

/-- What a total operation on numbers makes is a number. -/
theorem unmarked_onNumbers_of_total {whole : Int → Int → Int} {real : Float → Float → Float}
    {x y : Numeric}
    (result : onNumbers (fun m n => .ok (int (whole m n))) (fun x y => .ok (float (real x y))) x y =
      .ok v) : v.Unmarked lazily := by
  refine unmarked_onNumbers ?_ ?_ result
  · rintro m n _ ⟨⟩
    exact unmarked_int _
  · rintro x y _ ⟨⟩
    exact unmarked_float _

theorem unmarked_onComplex
    {operation : Number.Complex → Number.Complex → Except EvalFault Number.Complex}
    (result : onComplex operation a b = .ok v) : v.Unmarked lazily := by
  unfold onComplex at result
  split at result
  · obtain ⟨x, -, result⟩ := bind_eq_ok.mp result
    obtain ⟨y, -, result⟩ := bind_eq_ok.mp result
    obtain ⟨z, -, result⟩ := bind_eq_ok.mp result
    cases result
    exact unmarked_complex z.re z.im
  · obtain ⟨x, -, result⟩ := bind_eq_ok.mp result
    obtain ⟨y, -, result⟩ := bind_eq_ok.mp result
    obtain ⟨z, -, result⟩ := bind_eq_ok.mp result
    cases result
    exact unmarked_complex z.re z.im
  · cases result

theorem unmarked_byNonzero {operation : Float → Float → Float} {x y : Float}
    (result : byNonzero operation x y = .ok v) : v.Unmarked lazily := by
  unfold byNonzero at result
  split at result
  · cases result
  · cases result
    exact unmarked_float _

theorem unmarked_divideWhole {m n : Int} (result : divideWhole m n = .ok v) :
    v.Unmarked lazily := by
  unfold divideWhole at result
  dsimp only at result
  split at result
  · cases result
  · split at result
    · cases result
    · cases result
      exact unmarked_float _

/-! ## Joining and repeating -/

/-- Texts that are joined are safe only if both are. -/
theorem unmarked_joinTexts (plain : a.Unmarked True ∨ b.Unmarked lazily)
    (result : joinTexts a b = some (.ok v)) : v.Unmarked lazily := by
  unfold joinTexts at result
  split at result
  -- The result is marked in two cases only, in both of which the operands are.
  case h_5 =>
    rcases plain with left | right
    · exact absurd left (not_unmarked_safe _)
    · exact absurd right (not_unmarked_safe _)
  case h_7 =>
    rcases plain with left | right
    · exact absurd (unmarked_lazy.mp left trivial) (by decide)
    · exact absurd right (not_unmarked_safe _)
  all_goals
    cases result <;> exact unmarked_text _

theorem unmarked_add (left : a.Unmarked lazily) (right : b.Unmarked lazily)
    (result : add a b = .ok v) : v.Unmarked lazily := by
  unfold add at result
  split at result
  · exact unmarked_onNumbers_of_total result
  · split at result
    · rename_i joined
      exact unmarked_joinTexts (.inr right) (result ▸ joined)
    · split at result
      · cases result
        rw [unmarked_list] at left right ⊢
        exact List.forall_mem_append.mpr ⟨left, right⟩
      · cases result
        rw [unmarked_tuple] at left right ⊢
        exact List.forall_mem_append.mpr ⟨left, right⟩
      · cases result
        exact unmarked_bytes _
      · exact unmarked_onComplex result

/-- A text of any kind that is added to something unmarked makes nothing safe. -/
theorem unmarked_add_text (left : a.Unmarked True) (isText : b.anyChars?.isSome)
    (result : add a b = .ok v) : v.Unmarked lazily := by
  unfold add at result
  split at result
  · rename_i number
    cases b with
    | text => cases number
    | safe => cases number
    | lazy => cases number
    | _ => cases isText
  · split at result
    · rename_i joined
      exact unmarked_joinTexts (.inl left) (result ▸ joined)
    · split at result
      · cases isText
      · cases isText
      · cases isText
      · exact unmarked_onComplex result

theorem unmarked_append (left : a.Unmarked lazily) (right : b.Unmarked lazily)
    (result : append a b = .ok v) : v.Unmarked lazily := by
  unfold append at result
  split at result
  · obtain ⟨s, -, result⟩ := bind_eq_ok.mp result
    obtain ⟨t, -, result⟩ := bind_eq_ok.mp result
    cases result
    exact unmarked_text _
  · exact unmarked_add left right result

theorem repeatItems_subset {α : Type} {tooLong : EvalFault} {items all : List α} {count : Int}
    (result : repeatItems tooLong items count = .ok all) : all ⊆ items := by
  unfold repeatItems at result
  split at result
  · split at result
    · cases result
    · cases result
      exact List.nil_subset items
  · split at result
    · cases result
    · split at result
      · cases result
      · split at result
        · cases result
        · cases result
          intro x member
          obtain ⟨copy, here, inside⟩ := List.mem_flatten.mp member
          exact List.eq_of_mem_replicate here ▸ inside

theorem unmarked_repeated {count : Int} (unmarked : v.Unmarked lazily)
    (result : repeated v count = .ok w) : w.Unmarked lazily := by
  unfold repeated at result
  split at result
  · obtain ⟨s, -, rfl⟩ := map_eq_ok.mp result
    exact unmarked_text s
  · obtain ⟨s, -, rfl⟩ := map_eq_ok.mp result
    exact unmarked_text s
  · obtain ⟨s, -, rfl⟩ := map_eq_ok.mp result
    exact unmarked_text s
  · obtain ⟨octets, -, rfl⟩ := map_eq_ok.mp result
    exact unmarked_bytes octets
  · obtain ⟨all, copies, rfl⟩ := map_eq_ok.mp result
    exact .list fun x member => unmarked_list.mp unmarked x (repeatItems_subset copies member)
  · obtain ⟨all, copies, rfl⟩ := map_eq_ok.mp result
    exact .tuple fun x member => unmarked_tuple.mp unmarked x (repeatItems_subset copies member)
  · cases result

theorem unmarked_multiply (left : a.Unmarked lazily) (right : b.Unmarked lazily)
    (result : multiply a b = .ok v) : v.Unmarked lazily := by
  unfold multiply at result
  split at result
  · exact unmarked_onNumbers_of_total result
  · split at result
    · split at result
      · exact unmarked_onComplex result
      · exact unmarked_repeated left result
    · split at result
      · exact unmarked_onComplex result
      · exact unmarked_repeated right result
    · exact unmarked_onComplex result

/-! ## Taking away and dividing -/

theorem unmarked_possibleItems (unmarked : v.Unmarked lazily)
    (found : possibleItems v = .ok items) : ∀ w ∈ items, w.Unmarked lazily := by
  unfold possibleItems at found
  split at found
  · rename_i shown
    split at found
    · cases found
      exact fun w member => unmarked.items? shown w (gathered_subset _ member)
    · cases found
  · cases found

theorem unmarked_onSets {operation : List Value → List Value → List Value}
    (within : ∀ xs ys, operation xs ys ⊆ xs) (left : a.Unmarked lazily)
    (result : onSets operation a b = .ok v) : v.Unmarked lazily := by
  unfold onSets at result
  split at result
  · cases result
    exact .set fun w member => unmarked_set.mp left w (within _ _ member)
  · split at result
    · obtain ⟨xs, here, result⟩ := bind_eq_ok.mp result
      obtain ⟨ys, -, result⟩ := bind_eq_ok.mp result
      cases result
      exact .set fun w member => unmarked_possibleItems left here w (within _ _ member)
    · cases result

theorem unmarked_subtract (left : a.Unmarked lazily) (result : subtract a b = .ok v) :
    v.Unmarked lazily := by
  unfold subtract at result
  split at result
  · exact unmarked_onNumbers_of_total result
  · split at result
    · rename_i less
      cases result
      exact unmarked_onSets reduced_subset left less
    · exact unmarked_onComplex result

theorem unmarked_divide (result : divide a b = .ok v) : v.Unmarked lazily := by
  unfold divide at result
  split at result
  · exact unmarked_onNumbers (fun _ _ _ => unmarked_divideWhole) (fun _ _ _ => unmarked_byNonzero)
      result
  · exact unmarked_onComplex result

/-! ## Filling -/

/-- The text of an unmarked value is a plain one. -/
theorem shownValue_of_unmarked (unmarked : v.Unmarked True) (shown : v.shownValue = .ok w) :
    ∃ s, w = text s := by
  unfold shownValue at shown
  split at shown
  · cases shown
    unfold spelled
    split
    · exact absurd unmarked (not_unmarked_safe _)
    · exact absurd (unmarked_lazy.mp unmarked trivial) (by decide)
    · exact ⟨_, rfl⟩
  · cases shown

namespace Format

/-- All values that are still to be taken, and those that can be had by name, are unmarked. -/
structure Supply.Unmarked (supply : Supply) : Prop where
  values : ∀ v ∈ supply.values, v.Unmarked True
  named : ∀ pairs ∈ supply.named, PairsUnmarked True pairs

variable {supply after : Supply} {source rest : Text}

theorem Supply.unmarked_of (unmarked : v.Unmarked True) : (Supply.of v).Unmarked := by
  unfold Supply.of
  split
  · exact ⟨unmarked_tuple.mp unmarked, fun pairs none => by cases none⟩
  · exact ⟨List.forall_mem_singleton.mpr unmarked, fun pairs shown => unmarked.pairs? shown⟩

theorem Supply.Unmarked.next (unmarked : supply.Unmarked) (taken : supply.next = .ok (v, after)) :
    v.Unmarked True ∧ after.Unmarked := by
  unfold Supply.next at taken
  split at taken
  · rename_i holds
    cases taken
    obtain ⟨first, others⟩ := List.forall_mem_cons.mp (holds ▸ unmarked.values)
    exact ⟨first, others, unmarked.named⟩
  · cases taken

theorem Supply.Unmarked.readSize {limit : Nat} {n : Int} (unmarked : supply.Unmarked)
    (read : readSize limit supply source = .ok (n, after, rest)) : after.Unmarked := by
  unfold Format.readSize at read
  split at read
  · obtain ⟨⟨v, behind⟩, taken, read⟩ := bind_eq_ok.mp read
    dsimp only at read
    split at read
    · split at read
      · cases read
        exact (unmarked.next taken).2
      · cases read
    · cases read
  · dsimp only at read
    split at read
    · cases read
      exact unmarked
    · cases read

/-- What is made of one value is a plain text. -/
theorem Spec.part_of_unmarked {spec : Spec} {letter : Char} (unmarked : v.Unmarked True)
    (made : spec.part letter v = .ok w) : ∃ s, w = text s := by
  unfold Spec.part at made
  split at made
  · obtain ⟨shown, spelled, same⟩ := map_eq_ok.mp made
    obtain ⟨s, rfl⟩ := shownValue_of_unmarked unmarked spelled
    exact ⟨_, same.symm⟩
  · obtain ⟨s, -, rfl⟩ := map_eq_ok.mp made
    exact ⟨s, rfl⟩

theorem Supply.Unmarked.readSpec {named : Option Value} (unmarked : supply.Unmarked)
    (chosen : ∀ v ∈ named, v.Unmarked True)
    (read : readSpec supply named source = .ok (v, after, rest)) :
    (∃ s, v = text s) ∧ after.Unmarked := by
  unfold Format.readSpec at read
  obtain ⟨⟨width, first, behind⟩, sized, read⟩ := bind_eq_ok.mp read
  have unmarked := unmarked.readSize sized
  dsimp -zeta only at read
  extract_lets spec finish at read
  have finished : ∀ x : Spec × Supply × Text, x.2.1.Unmarked → finish x = .ok (v, after, rest) →
      (∃ s, v = text s) ∧ after.Unmarked := by
    intro x unmarked read
    dsimp -zeta only [finish] at read
    extract_lets behind at read
    clear_value behind
    split at read
    · cases read
    · extract_lets show? at read
      have made : ∀ y : Value × Supply, y.1.Unmarked True → y.2.Unmarked →
          show? y = .ok (v, after, rest) → (∃ s, v = text s) ∧ after.Unmarked := by
        intro y unmarked kept read
        dsimp only [show?] at read
        split at read
        · obtain ⟨shown, part, read⟩ := bind_eq_ok.mp read
          cases read
          exact ⟨Spec.part_of_unmarked unmarked part, kept⟩
        · cases read
      split at read
      · exact made (_, _) (chosen _ rfl) unmarked read
      · obtain ⟨y, taken, read⟩ := bind_eq_ok.mp read
        exact made y (unmarked.next taken).1 (unmarked.next taken).2 read
  split at read
  · obtain ⟨⟨precision, second, behind⟩, precise, read⟩ := bind_eq_ok.mp read
    exact finished (_, second, behind) (unmarked.readSize precise) read
  · exact finished (_, first, _) unmarked read

theorem Supply.Unmarked.readConversion (unmarked : supply.Unmarked)
    (read : readConversion supply source = .ok (v, after, rest)) :
    (∃ s, v = text s) ∧ after.Unmarked := by
  unfold Format.readConversion at read
  split at read
  · extract_lets lookUp at read
    split at read
    · rename_i pairs known
      have looked : lookUp pairs = .ok (v, after, rest) := read
      obtain ⟨⟨name, behind⟩, -, read⟩ := bind_eq_ok.mp looked
      dsimp only at read
      split at read
      · rename_i value found
        have kept : Supply.Unmarked { supply with mayRemain := true } :=
          ⟨unmarked.values, unmarked.named⟩
        refine kept.readSpec ?_ read
        rintro _ ⟨⟩
        exact unmarked_lookup (unmarked.named pairs known) found
      · cases read
    · cases read
  · cases read
    exact ⟨⟨_, rfl⟩, unmarked⟩
  · exact unmarked.readSpec (fun v none => by cases none) read

/-- The parts of a text that is filled with unmarked values are plain texts. -/
theorem partsWithin_of_unmarked {steps : Nat} {parts : List Value} (unmarked : supply.Unmarked)
    (made : partsWithin steps supply source = .ok parts) : ∀ part ∈ parts, ∃ s, part = text s := by
  fun_induction partsWithin steps supply source generalizing parts with
  | case1 =>
      cases made
      exact List.forall_mem_nil _
  | case2 =>
      cases made
      exact List.forall_mem_nil _
  | case3 => cases made
  | case4 _ _ rest ih =>
      obtain ⟨⟨shown, next, behind⟩, read, made⟩ := bind_eq_ok.mp made
      obtain ⟨plain, unmarked⟩ := unmarked.readConversion read
      obtain ⟨others, rest, made⟩ := bind_eq_ok.mp made
      cases made
      exact List.forall_mem_cons.mpr ⟨plain, ih _ _ unmarked rest⟩
  | case5 _ _ c rest _ ih =>
      obtain ⟨others, rest, made⟩ := bind_eq_ok.mp made
      cases made
      exact List.forall_mem_cons.mpr ⟨⟨_, rfl⟩, ih unmarked rest⟩

theorem joinParts_of_texts {parts : List Value} (plain : ∀ part ∈ parts, ∃ s, part = text s) :
    ∃ s, joinParts parts = text s := by
  induction parts with
  | nil => exact ⟨[], rfl⟩
  | cons part rest ih =>
      obtain ⟨⟨s, rfl⟩, others⟩ := List.forall_mem_cons.mp plain
      unfold joinParts
      split
      · exact ih others
      · exact ⟨_, rfl⟩

/-- A text filled with an unmarked value is plain. -/
theorem fill_of_unmarked {pattern : Text} (unmarked : v.Unmarked True)
    (filled : fill pattern v = .ok w) : ∃ s, w = text s := by
  obtain ⟨parts, made, rfl⟩ := map_eq_ok.mp filled
  exact joinParts_of_texts (partsWithin_of_unmarked (Supply.unmarked_of unmarked) made)

end Format

theorem unmarked_remainder (left : a.Unmarked True) (right : b.Unmarked True)
    (result : remainder a b = .ok v) : v.Unmarked lazily := by
  have plain {s : Text} (filled : Format.fill s b = .ok v) : v.Unmarked lazily := by
    obtain ⟨t, rfl⟩ := Format.fill_of_unmarked right filled
    exact unmarked_text t
  unfold remainder at result
  split at result
  · exact plain result
  · exact absurd left (not_unmarked_safe _)
  · exact absurd (unmarked_lazy.mp left trivial) (by decide)
  · exact plain result
  · split at result
    · refine unmarked_onNumbers ?_ ?_ result
      · intro m n v result
        split at result
        · cases result
        · cases result
          exact unmarked_int _
      · exact fun _ _ _ => unmarked_byNonzero
    · cases result

end ElementTags.Value
