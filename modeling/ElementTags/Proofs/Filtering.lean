import ElementTags.Filter.Basic
import ElementTags.Proofs.Operands

/-! # Honest filters

A filter is honest if it makes a safe text only from values that hold one
(`ElementTags.Filter.Honest`). All but four filters are, and they mark nothing within
their results either (`ElementTags.Filter.Honest.apply`). Two of them may hand their
argument on, so that a safe text given as the argument comes out again; the others
make unmarked values from unmarked ones whatever text their argument is.
-/

namespace ElementTags.Filter

open Outcome

variable {f : Filter} {autoescape : Bool} {v w a : Value} {argument : Option Value}

/-- From values in which nothing is marked as safe, the filter never makes a safe text. -/
def Honest (f : Filter) : Prop :=
  ∀ autoescape v argument result, v.Unmarked True → (∀ a ∈ argument, a.Unmarked True) →
    f.apply autoescape v argument = .ok result → result.isSafe = false

/-- Whether a filter marks what it makes as safe. -/
def marks : Filter → Bool
  | escape => true
  | forceEscape => true
  | join => true
  | safe => true
  | _ => false

/-- Whether the argument of a filter may be its result. -/
def handsOn : Filter → Bool
  | defaultTo => true
  | defaultIfAbsent => true
  | _ => false

/-- What a filter may be given as its argument: something unmarked or, unless it hands its argument
on, a text of any kind. -/
def Suits (f : Filter) (a : Value) : Prop :=
  a.Unmarked True ∨ (f.handsOn = false ∧ a.anyChars?.isSome)

theorem marks_of_honest (honest : f.Honest) : f.marks = false := by
  have made (argument : Option Value) (s : Text)
      (result : f.apply true (.text []) argument = .ok (.safe s))
      (plain : ∀ a ∈ argument, a.Unmarked True) : f.marks = false :=
    Bool.noConfusion (honest true _ _ _ (.atom rfl) plain result)
  cases f with
  | escape => exact made none [] rfl fun _ none => by cases none
  | forceEscape => exact made none [] rfl fun _ none => by cases none
  | join =>
      refine made (some (.text [])) [] rfl ?_
      rintro _ ⟨⟩
      exact .atom rfl
  | safe => exact made none [] rfl fun _ none => by cases none
  | _ => rfl

/-! ## What the filters make -/

theorem unmarked_onText {keeps : Bool} {change : Text → Text} (unmarked : v.Unmarked True)
    (result : onText keeps change v = .ok w) : w.Unmarked True := by
  obtain ⟨shown, spelled, rfl⟩ := map_eq_ok.mp result
  obtain ⟨s, rfl⟩ := Value.shownValue_of_unmarked unmarked spelled
  exact .atom rfl

theorem unmarked_runAdd (unmarked : v.Unmarked True) (suits : add.Suits a)
    (result : runAdd v a = .ok w) : w.Unmarked True := by
  unfold runAdd at result
  split at result
  · cases result
    exact .atom rfl
  · cases result
  · split at result
    · rename_i joined
      cases result
      rcases suits with plain | ⟨-, isText⟩
      · exact Value.unmarked_add unmarked plain joined
      · exact Value.unmarked_add_text unmarked isText joined
    · cases result
      exact .atom rfl

theorem unmarked_runCut (unmarked : v.Unmarked True) (result : runCut v a = .ok w) :
    w.Unmarked True := by
  unfold runCut at result
  split at result
  · exact unmarked_onText unmarked result
  · obtain ⟨_, -, result⟩ := bind_eq_ok.mp result
    cases result

theorem unmarked_runItem {position : Int} (unmarked : v.Unmarked True)
    (result : runItem position v = .ok w) : w.Unmarked True := by
  unfold runItem at result
  split at result
  · cases result
    exact .atom rfl
  · exact unmarked.subscript result

theorem unmarked_runSlice (unmarked : v.Unmarked True) : (runSlice v a).Unmarked True := by
  unfold runSlice
  dsimp only
  split
  · rename_i part found
    split at found
    · exact unmarked.slice found
    · exact unmarked.slice found
    · exact unmarked.slice found
    · cases found
      exact unmarked
  · exact unmarked

theorem unmarked_runYesNo (unmarked : v.Unmarked True) (result : runYesNo v a = .ok w) :
    w.Unmarked True := by
  unfold runYesNo at result
  extract_lets answers choose at result
  have chosen (yes no maybe : Text) : (choose yes no maybe).Unmarked True := by
    dsimp only [choose]
    split
    · exact .atom rfl
    · exact .atom rfl
  clear_value answers
  split at result
  · cases result
  · split at result
    · cases result
      exact chosen _ _ _
    · cases result
      exact chosen _ _ _
    · cases result
      exact unmarked

/-- What is handed on is unmarked. -/
theorem unmarked_given (handsOn : f.handsOn = true) (suits : f.Suits a) : a.Unmarked True := by
  rcases suits with plain | ⟨kept, -⟩
  · exact plain
  · rw [handsOn] at kept
    cases kept

theorem unmarked_run (plain : f.marks = false) (unmarked : v.Unmarked True)
    (suits : ∀ a ∈ argument, f.Suits a) (result : f.run autoescape v argument = .ok w) :
    w.Unmarked True := by
  unfold run at result
  split at result
  · exact unmarked_runAdd unmarked (suits _ rfl) result
  · exact unmarked_onText unmarked result
  · exact unmarked_runCut unmarked result
  · cases result
    split
    · exact unmarked
    · exact unmarked_given rfl (suits _ rfl)
  · cases result
    split
    · exact unmarked_given rfl (suits _ rfl)
    · exact unmarked
  · obtain ⟨n, -, result⟩ := bind_eq_ok.mp result
    obtain ⟨d, -, result⟩ := bind_eq_ok.mp result
    split at result
    · cases result
    · cases result
      exact .atom rfl
  · cases plain
  · cases plain
  · exact unmarked_runItem unmarked result
  · exact unmarked_runItem unmarked result
  · cases plain
  · cases result
    exact .atom rfl
  · exact unmarked_onText unmarked result
  · exact unmarked_onText unmarked result
  · cases plain
  · cases result
    exact unmarked_runSlice unmarked
  · exact unmarked_runYesNo unmarked result
  · cases result

theorem unmarked_apply (plain : f.marks = false) (unmarked : v.Unmarked True)
    (suits : ∀ a ∈ argument, f.Suits a) (result : f.apply autoescape v argument = .ok w) :
    w.Unmarked True := by
  obtain ⟨made, run, rfl⟩ := map_eq_ok.mp result
  -- A filter that keeps the mark has none to keep.
  rw [unmarked.isSafe, Bool.and_false, if_neg Bool.false_ne_true]
  exact unmarked_run plain unmarked suits run

/-- The filters that mark nothing are the honest ones. -/
theorem honest_iff : f.Honest ↔ f.marks = false := by
  refine ⟨marks_of_honest, fun plain autoescape v argument w unmarked given result => ?_⟩
  exact (unmarked_apply plain unmarked (fun a member => .inl (given a member)) result).isSafe

/-- An honest filter marks nothing within what it makes of unmarked values. -/
theorem Honest.apply (honest : f.Honest) (unmarked : v.Unmarked True)
    (suits : ∀ a ∈ argument, f.Suits a) (result : f.apply autoescape v argument = .ok w) :
    w.Unmarked True :=
  unmarked_apply (marks_of_honest honest) unmarked suits result

end ElementTags.Filter
