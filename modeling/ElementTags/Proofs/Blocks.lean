import ElementTags.Channel.Program

/-! # Leaving a block restores the scope

A program only touches the innermost layer of the scope in which it runs: what it opens
further in, it leaves again (`ElementTags.Channel.Run.Restores`). So the layer that a
block removes when it is left is the one that it opened, and the scope is as it was
before, however the body ended (`ElementTags.Channel.Program.run_restores`).
-/

namespace ElementTags

/-! ## The innermost layer -/

theorem Scope.layers_set {scope : Scope} {top : Layer} {rest : List Layer}
    (layers : scope.layers = top :: rest) (name : Text) (value : Value) :
    (scope.set name value).layers = top.set name value :: rest := by
  rw [Scope.set, layers]

/-- What a layer is pushed on comes back when the layer is removed. -/
theorem Scope.pop?_push {scope : Scope} (nonempty : scope.layers ≠ []) (layer : Layer) :
    (scope.push layer).pop? = some (layer, scope) := by
  obtain ⟨top, rest, layers⟩ := List.exists_cons_of_ne_nil nonempty
  rw [Scope.push, Scope.pop?]
  simp only [layers]
  rw [← layers]

namespace Channel

variable {n n' n'' inside : Nesting} {provided : List Layer}

/-! ## Scopes that differ in the innermost layer -/

/-- The second scope is the first one but for the innermost layer, and the same blocks are open. -/
def Nesting.Rests (n n' : Nesting) : Prop :=
  ∃ top, n' = { n with scope := { n.scope with layers := top :: n.scope.layers.tail } }

namespace Nesting.Rests

theorem refl (nonempty : n.scope.layers ≠ []) : n.Rests n :=
  ⟨n.scope.layers.head nonempty, by rw [List.cons_head_tail]⟩

theorem trans (first : n.Rests n') (second : n'.Rests n'') : n.Rests n'' := by
  obtain ⟨top, rfl⟩ := first
  obtain ⟨top', rfl⟩ := second
  exact ⟨top', rfl⟩

theorem nonempty (rests : n.Rests n') : n'.scope.layers ≠ [] := by
  obtain ⟨top, rfl⟩ := rests
  exact List.cons_ne_nil _ _

theorem set (nonempty : n.scope.layers ≠ []) (name : Text) (value : Value) :
    n.Rests (n.set name value) := by
  obtain ⟨top, rest, layers⟩ := List.exists_cons_of_ne_nil nonempty
  refine ⟨Layer.set top name value, ?_⟩
  rw [Nesting.set, Scope.set, layers]
  rfl

end Nesting.Rests

/-- Entering a block opens one layer. -/
theorem Nesting.enter_eq_ok {values : Layer} {channel : Value}
    (entered : n.enter values = .ok (channel, inside)) :
    inside = ⟨n.scope.push [(variableName, channel)], n.opened + 1⟩ := by
  rw [Nesting.enter] at entered
  cases opened : Channel.provide n.scope values with
  | error fault =>
      rw [opened] at entered
      cases entered
  | ok result =>
      rw [opened] at entered
      cases entered
      rw [Channel.provide] at opened
      split at opened
      · cases opened
      · split at opened
        · cases opened
        · cases opened
          rfl

theorem Nesting.nonempty_of_enter {values : Layer} {result : Value × Nesting}
    (entered : n.enter values = .ok result) : result.2.scope.layers ≠ [] := by
  rw [Nesting.enter_eq_ok entered]
  exact List.cons_ne_nil _ _

/-- A block is left at the layer that it opened. -/
theorem Nesting.leave_of_rests {values : Layer} {channel : Value} (nonempty : n.scope.layers ≠ [])
    (entered : n.enter values = .ok (channel, inside)) (rests : inside.Rests n') :
    n'.leave = (.ok (), n) := by
  obtain ⟨top, rfl⟩ := rests
  rw [Nesting.enter_eq_ok entered, Nesting.leave]
  have removed : ({ n.scope with layers := top :: n.scope.layers } : Scope).pop? = _ :=
    Scope.pop?_push nonempty top
  simp only [Scope.push, List.tail_cons, removed]

theorem Nesting.unlayer_of_rests {layer : Layer} (nonempty : n.scope.layers ≠ [])
    (rests : (n.push layer).Rests n') : n'.unlayer = (.ok (), n) := by
  obtain ⟨top, rfl⟩ := rests
  rw [Nesting.unlayer, Nesting.pop]
  have removed : ({ n.scope with layers := top :: n.scope.layers } : Scope).pop? = _ :=
    Scope.pop?_push nonempty top
  simp only [Nesting.push, Scope.push, List.tail_cons, removed]

/-! ## Runs -/

/-- A run that changes nothing but the innermost layer, and whose blocks are left as they were
entered, with the failures of their bodies. -/
structure Run.Restores (n : Nesting) (run : Run) : Prop where
  rests : n.Rests run.nesting
  passages : ∀ p ∈ run.passages, p.after = p.before ∧ p.block = p.body

namespace Run

theorem Restores.still (nonempty : n.scope.layers ≠ []) (outcome : Except Fault Unit) :
    Restores n (.still provided n outcome) :=
  ⟨.refl nonempty, fun _ none => (by cases none)⟩

theorem Restores.refused (nonempty : n.scope.layers ≠ []) (fault : Fault) :
    Restores n (.refused n fault) :=
  ⟨.refl nonempty, fun _ none => (by cases none)⟩

theorem Restores.andThen {first : Run} {next : Nesting → Run} (start : Restores n first)
    (further : ∀ n', n.Rests n' → Restores n' (next n')) : Restores n (first.andThen next) := by
  rw [Run.andThen]
  cases first.outcome with
  | error fault => exact start
  | ok _ =>
      obtain ⟨rests, passages⟩ := further _ start.rests
      refine ⟨start.rests.trans rests, fun p member => ?_⟩
      rcases List.mem_append.mp member with early | late
      · exact start.passages p early
      · exact passages p late

/-- Leaving a layer behind a run leads back to where the layer was opened. -/
theorem Restores.layered {inner : Run} {layer : Layer} (nonempty : n.scope.layers ≠ [])
    (body : Restores (n.push layer) inner) :
    inner.leaving provided Nesting.unlayer =
      ⟨inner.outcome, n, inner.moments ++ [⟨n.scope, provided⟩], inner.passages⟩ := by
  rw [leaving, Nesting.unlayer_of_rests nonempty body.rests]
  rfl

/-- Leaving a block behind a run leads back to where the block was entered, and to the outcome of
the run. -/
theorem Restores.passed {inner : Run} {values : Layer} {channel : Value}
    (nonempty : n.scope.layers ≠ []) (entered : n.enter values = .ok (channel, inside))
    (body : Restores inside inner) :
    inner.passed provided n =
      ⟨inner.outcome, n, inner.moments ++ [⟨n.scope, provided⟩],
        inner.passages ++ [⟨n, n, inner.outcome, inner.outcome⟩]⟩ := by
  rw [Run.passed, leaving, Nesting.leave_of_rests nonempty entered body.rests]
  rfl

end Run

open Run

/-- A program restores what it opened. -/
theorem Program.restores (program : Program) :
    ∀ (provided : List Layer) (n : Nesting), n.scope.layers ≠ [] →
      Restores n (program.run provided n) := by
  induction program with
  | done => exact fun provided n nonempty => .still nonempty _
  | fail fault => exact fun provided n nonempty => .still nonempty _
  | set name value next ih =>
      intro provided n nonempty
      refine (Restores.still nonempty _).andThen fun n rests => ?_
      have written := Nesting.Rests.set rests.nonempty name value
      obtain ⟨behind, passages⟩ := ih provided _ written.nonempty
      exact ⟨written.trans behind, passages⟩
  | get name next ih =>
      intro provided n nonempty
      exact (Restores.still nonempty _).andThen fun n rests => ih provided n rests.nonempty
  | inject name default next ih =>
      intro provided n nonempty
      exact (Restores.still nonempty _).andThen fun n rests => ih provided n rests.nonempty
  | provide values body next inner ih =>
      intro provided n nonempty
      refine (Restores.still nonempty _).andThen fun n rests => ?_
      refine Restores.andThen ?_ fun n rests => ih provided n rests.nonempty
      cases entered : n.enter values with
      | error fault => exact .refused rests.nonempty fault
      | ok result =>
          have body := inner (values :: provided) result.2 (Nesting.nonempty_of_enter entered)
          dsimp only
          rw [body.passed rests.nonempty entered]
          refine ⟨.refl rests.nonempty, fun p member => ?_⟩
          rcases List.mem_append.mp member with within | last
          · exact body.passages p within
          · rw [List.mem_singleton.mp last]
            exact ⟨rfl, rfl⟩
  | layered layer body next inner ih =>
      intro provided n nonempty
      refine (Restores.still nonempty _).andThen fun n rests => ?_
      refine Restores.andThen ?_ fun n rests => ih provided n rests.nonempty
      have body := inner provided (n.push layer) (List.cons_ne_nil _ _)
      rw [body.layered rests.nonempty]
      exact ⟨.refl rests.nonempty, body.passages⟩

/-- **Leaving a block restores the scope.** Whatever a program does in a scope with some layer,
every block that provided values is left, normally or by a failure, with the scope in which it was
entered, and it fails as its body does. -/
theorem Program.run_restores (program : Program) (nonempty : n.scope.layers ≠ []) :
    ∀ passage ∈ (program.run [] n).passages,
      passage.after = passage.before ∧ passage.block = passage.body :=
  (program.restores [] n nonempty).passages

/-- A block whose body sets a variable and fails. -/
theorem Program.run_restores_failure :
    ∃ passage ∈ ((Program.provide [("model".toList, .text "abc".toList)]
        (.set "shown".toList .null (.fail .lastLayer)) .done).run []
          ⟨Scope.ofData [] true, 0⟩).passages,
      passage.after = passage.before ∧ passage.block = .error .lastLayer := by
  refine ⟨_, List.mem_cons_self, ?_⟩
  obtain ⟨same, failed⟩ := run_restores (n := ⟨Scope.ofData [] true, 0⟩)
    (Program.provide [("model".toList, .text "abc".toList)]
      (.set "shown".toList .null (.fail .lastLayer)) .done)
    (List.cons_ne_nil _ _) _ List.mem_cons_self
  exact ⟨same, failed⟩

end Channel
end ElementTags
