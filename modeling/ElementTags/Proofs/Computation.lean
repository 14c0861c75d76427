import ElementTags.Scope

/-! # Steps of a computation

A computation with a state, such as a scope, goes on with the result and the state that
its first step leaves, and ends with the fault of its first step if that fails. It keeps
an invariant of the state if its steps do (`ElementTags.Computation.Keeps`).
-/

namespace ElementTags.Computation

variable {ε σ α β : Type} {x : ExceptT ε (StateM σ) α} {f : α → ExceptT ε (StateM σ) β}
  {state after : σ}

theorem bind_eq (x : ExceptT ε (StateM σ) α) (f : α → ExceptT ε (StateM σ) β) (state : σ) :
    (x >>= f) state = ExceptT.bindCont f (x state).1 (x state).2 := rfl

theorem bind_of_ok {a : α} (first : x state = (.ok a, after)) : (x >>= f) state = f a after := by
  rw [bind_eq, first]
  rfl

theorem bind_of_error {fault : ε} (first : x state = (.error fault, after)) :
    (x >>= f) state = (.error fault, after) := by
  rw [bind_eq, first]
  rfl

/-! ## What a computation keeps -/

/-- From a state with an invariant, a computation leads to a state with the invariant, and what it
gives has a property. -/
def Keeps (invariant : σ → Prop) (x : ExceptT ε (StateM σ) α) (holds : α → Prop) : Prop :=
  ∀ state, invariant state → invariant (x state).2 ∧ ∀ a, (x state).1 = .ok a → holds a

section

variable {invariant : σ → Prop} {holds : α → Prop} {next : β → Prop}

theorem keeps_pure {a : α} (here : holds a) :
    Keeps invariant (pure a : ExceptT ε (StateM σ) α) holds := by
  refine fun state kept => ⟨kept, ?_⟩
  rintro _ ⟨⟩
  exact here

theorem Keeps.bind (first : Keeps invariant x holds)
    (behind : ∀ a, holds a → Keeps invariant (f a) next) : Keeps invariant (x >>= f) next := by
  intro state kept
  obtain ⟨kept, gives⟩ := first state kept
  cases result : (x state).1 with
  | ok a =>
      rw [bind_of_ok (Prod.ext result rfl)]
      exact behind a (gives a result) _ kept
  | error fault =>
      rw [bind_of_error (Prod.ext result rfl)]
      exact ⟨kept, fun _ failed => by cases failed⟩

/-- Steps that keep a property of what they work on keep it one behind the other. -/
theorem keeps_foldlM {γ : Type} {step : α → γ → ExceptT ε (StateM σ) α}
    (each : ∀ a c, holds a → Keeps invariant (step a c) holds) (steps : List γ) {a : α}
    (here : holds a) : Keeps invariant (steps.foldlM step a) holds := by
  induction steps generalizing a with
  | nil => exact keeps_pure here
  | cons c rest ih =>
      rw [List.foldlM_cons]
      exact (each a c here).bind fun b there => ih there

end

end ElementTags.Computation
