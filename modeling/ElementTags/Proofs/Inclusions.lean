import ElementTags.Proofs.Keeping
import ElementTags.Proofs.Twins

/-! # What rendering keeps

Rendering keeps the settings of an engine whose tags depend on their arguments only,
also if templates include others, which are compiled while they are rendered
(`ElementTags.Shelf.keeps_renderWithin`). A rendering is compared with itself
(`ElementTags.Pairing.alone`), which shows what it keeps of its stage
(`ElementTags.Rendering.paired_alone_iff`).
-/

namespace ElementTags

open ElementTags.Computation Node

/-- Everything of an engine is as it was, apart from the settings nothing is known of it, and all
tags in included templates have a property. -/
def Pairing.alone (settings : Configuration × Bool) (holds : Tag → Prop) : Pairing where
  ledgers ledger other := ledger = other ∧ ledger.Set settings
  included known other := known = other ∧ ∀ i ∈ known, AllTags holds i.nodes
  tags := holds
  isClosed := false
  traced {ledger _ line} _ same :=
    ⟨congrArg (·.trace line) same.1, (ledger.settings_trace line).trans same.2⟩
  evaluated x scope same := ⟨congrArg (fun ledger => (ledger.evaluate x scope).2.1) same.1, same.2⟩

/-- An engine and itself. -/
def Twins.alone {configuration : Configuration} (formed : configuration.WellFormed)
    (tracing : Bool) : Twins :=
  ⟨configuration, configuration, formed, formed, rfl, tracing, [], []⟩

variable {configuration : Configuration} {tracing : Bool} {settings : Configuration × Bool}
  {holds : Tag → Prop}

theorem Twins.ledgers_alone {formed : configuration.WellFormed} {ledger : Ledger}
    (set : ledger.Set (configuration, tracing)) :
    (Twins.alone formed tracing).Ledgers ledger ledger := by
  obtain ⟨configured, traced⟩ := Prod.mk.inj set
  exact ⟨configured, configured, traced, traced, ledger.lines, ledger.lines,
    (List.append_nil _).symm, (List.append_nil _).symm, .refl _ _⟩

/-- A script that does the same in an engine and itself keeps the settings of the engine. -/
theorem Script.Alike.alone {α : Type} {formed : configuration.WellFormed} {script : Script α}
    (alike : Script.Alike (Twins.alone formed tracing).Ledgers script script) :
    Script.Alike (Pairing.alone (configuration, tracing) holds).ledgers script script := by
  induction script with
  | done result => exact .done result
  | look next ih =>
      refine .look fun s t surround => ?_
      obtain ⟨⟨ledger, set⟩, scope⟩ := surround
      obtain ⟨ledger, scope⟩ := s
      obtain ⟨other, behind⟩ := t
      cases ledger
      cases scope
      exact ih _ (alike.look_inv ⟨Twins.ledgers_alone set, rfl⟩)
  | change s next ih =>
      obtain ⟨surround, behind⟩ := alike.change_inv
      have set : s.ledger.Set (configuration, tracing) :=
        Prod.ext surround.ledgers.first surround.ledgers.tracing
      exact .change ⟨⟨rfl, set⟩, rfl⟩ (ih behind)
  | askBody next ih => exact .askBody fun b => ih b (alike.askBody_inv b)
  | askRendered accessor next ih =>
      exact .askRendered accessor fun rendered => ih rendered (alike.askRendered_inv rendered)
  | callBody accessor next ih => exact .callBody accessor fun r => ih r (alike.callBody_inv r)

/-- So does a tag whose behaviour depends on its arguments only. -/
theorem Pairing.performs_alone {tag : Tag} (formed : configuration.WellFormed)
    (depends : tag.ArgumentsOnly) :
    (Pairing.alone (configuration, tracing) holds).Performs tag := fun attributes =>
  (depends (Twins.alone formed tracing) _ attributes).alone

/-! ## Stages -/

/-- The engine of a stage is set to something, and the tags in included templates and in bodies have
a property. -/
structure Stage.Set (settings : Configuration × Bool) (holds : Tag → Prop) (stage : Stage) :
    Prop where
  ledger : stage.ledger.Set settings
  included : ∀ i ∈ stage.included, AllTags holds i.nodes
  bodies : ∀ cell ∈ stage.bodies, AllTags holds cell.nodes

namespace Rendering

variable {α : Type} {good : α → Prop} {x : Rendering α}

theorem stages_alone_iff {stage other : Stage} :
    (Pairing.alone settings holds).Stages stage other ↔
      stage = other ∧ stage.Set settings holds := by
  constructor
  · rintro ⟨⟨ledger, set⟩, scope, ⟨included, tags⟩, bodies, fit⟩
    obtain ⟨ledger, scope, included, bodies⟩ := stage
    cases ledger
    cases scope
    cases included
    cases bodies
    exact ⟨rfl, set, tags, fun cell known => (fit cell known).tags⟩
  · rintro ⟨rfl, set⟩
    exact ⟨⟨rfl, set.ledger⟩, rfl, ⟨rfl, set.included⟩, rfl,
      fun cell known => fit_open_iff.mpr (set.bodies cell known)⟩

/-- A rendering compared with itself shows what it keeps. -/
theorem paired_alone_iff :
    Paired (Pairing.alone settings holds) good x x ↔ Keeps (Stage.Set settings holds) x good := by
  constructor
  · intro paired stage set
    have here := paired stage stage (stages_alone_iff.mpr ⟨rfl, set⟩)
    generalize x stage = ran at here ⊢
    obtain ⟨result, after⟩ := ran
    cases here with
    | ok gives corresponds =>
        refine ⟨(stages_alone_iff.mp corresponds).2, ?_⟩
        rintro _ ⟨⟩
        exact gives
    | error corresponds =>
        exact ⟨(stages_alone_iff.mp corresponds).2, fun _ failed => by cases failed⟩
  · intro keeps stage other corresponds
    obtain ⟨rfl, set⟩ := stages_alone_iff.mp corresponds
    obtain ⟨kept, gives⟩ := keeps stage set
    have further := stages_alone_iff.mpr ⟨rfl, kept⟩
    generalize x stage = ran at gives further ⊢
    obtain ⟨fault | a, after⟩ := ran
    · exact .error further
    · exact .ok (gives a rfl) further

end Rendering

namespace Shelf

open Rendering

variable {shelf : Shelf}

/-- A look-up has nothing to do with the bodies. -/
theorem lookUp_withBodies (serial : Nat) (names : List Text) (stage : Stage) (bodies : List Cell) :
    shelf.lookUp serial names { stage with bodies := bodies } =
      ((shelf.lookUp serial names stage).1,
        { (shelf.lookUp serial names stage).2 with bodies := bodies }) := by
  unfold lookUp
  dsimp only
  split
  · rfl
  · split
    · rfl
    · rename_i name source _
      unfold Shelf.compile
      generalize ofTemplate shelf.library (some name) source stage.ledger = compiled
      obtain ⟨fault | nodes, ledger⟩ := compiled <;> rfl

/-- A template that is included uses tags of the library only. -/
theorem keeps_lookUp (known : ∀ tag ∈ shelf.library.tags, holds tag) (serial : Nat)
    (names : List Text) :
    Keeps (Stage.Set settings holds) (shelf.lookUp serial names) (AllTags holds) := by
  intro stage set
  unfold lookUp
  split
  · rename_i found
    refine ⟨set, ?_⟩
    rintro _ ⟨⟩
    exact set.included _ (List.mem_of_find?_eq_some found)
  · split
    · exact ⟨set, fun _ failed => by cases failed⟩
    · rename_i name source _
      have compiled : Keeps (Ledger.Set settings) (ofTemplate shelf.library (some name) source)
          (AllTags holds) := keeps_ofTemplate known (some name) source
      obtain ⟨kept, tags⟩ := compiled stage.ledger set.ledger
      unfold Shelf.compile
      generalize ofTemplate shelf.library (some name) source stage.ledger = ran at kept tags
      obtain ⟨fault | nodes, ledger⟩ := ran
      · exact ⟨{ set with ledger := kept }, fun _ failed => by cases failed⟩
      · refine ⟨{ set with
          ledger := kept
          included := List.forall_mem_cons.mpr ⟨tags nodes rfl, set.included⟩ }, ?_⟩
        rintro _ ⟨⟩
        exact tags nodes rfl

/-- **Rendering keeps the settings of the engine** if its tags depend on their arguments only, also
where templates are included. -/
theorem keeps_renderWithin (formed : configuration.WellFormed)
    (known : ∀ tag ∈ shelf.library.tags, tag.ArgumentsOnly) (depth : Nat) {nodes : List Node}
    (tags : AllTags Tag.ArgumentsOnly nodes) :
    Keeps (Stage.Set (configuration, tracing) Tag.ArgumentsOnly) (shelf.renderWithin depth nodes)
      (Any Text) := by
  refine paired_alone_iff.mp (paired_renderWithin
    (fun tag depends => Pairing.performs_alone formed depends) (fun _ serial names => ?_) depth
    (fit_open_iff.mpr tags))
  refine paired_alone_iff.mpr fun stage set => ?_
  obtain ⟨kept, found⟩ := keeps_lookUp known serial names stage set
  exact ⟨kept, fun nodes gives => fit_open_iff.mpr (found nodes gives)⟩

end Shelf

end ElementTags
