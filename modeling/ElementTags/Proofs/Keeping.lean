import ElementTags.Proofs.CompileTrace
import ElementTags.Proofs.Pairing

/-! # What compiling keeps

Compiling a template touches neither the configuration of the engine nor whether it logs
steps, also when it fails, and the nodes of the template use tags of the library only
(`ElementTags.Node.keeps_ofTemplate`). Both hold of every step that takes a piece into a
draft, whose open blocks remember tags and bodies until they end.
-/

namespace ElementTags

open ElementTags.Computation

/-- What an engine is set to: its configuration, and whether it logs steps. -/
def Ledger.settings (ledger : Ledger) : Configuration × Bool :=
  (ledger.configuration, ledger.tracing)

theorem Ledger.settings_trace (ledger : Ledger) (line : LogLine) :
    (ledger.trace line).settings = ledger.settings := by
  unfold trace
  split <;> rfl

/-- An engine is set as it was. -/
def Ledger.Set (settings : Configuration × Bool) (ledger : Ledger) : Prop :=
  ledger.settings = settings

variable {settings : Configuration × Bool} {holds : Tag → Prop}

namespace Compiling

theorem keeps_trace (line : LogLine) :
    Keeps (Ledger.Set settings) (trace line) fun _ => True := fun ledger kept =>
  ⟨(ledger.settings_trace line).trans kept, fun _ _ => trivial⟩

theorem keeps_takeIdentifier : Keeps (Ledger.Set settings) takeIdentifier fun _ => True :=
  fun _ kept => ⟨kept, fun _ _ => trivial⟩

theorem keeps_takeSerial : Keeps (Ledger.Set settings) takeSerial fun _ => True :=
  fun _ kept => ⟨kept, fun _ _ => trivial⟩

end Compiling

open Compiling Node

/-! ## Tags in a draft -/

/-- The tags in an open block have a property: the one that it is a use of, and those in the bodies
that it remembers. -/
def Opening.Uses (holds : Tag → Prop) : Opening → Prop
  | .element tag _ _ _ => holds tag
  | .choice earlier _ => ∀ branch ∈ earlier, AllTags holds branch.2
  | .otherwise earlier => ∀ branch ∈ earlier, AllTags holds branch.2
  | .loop _ _ _ => True
  | .whenEmpty _ _ _ body => AllTags holds body
  | .binding _ => True
  | .escaping _ => True
  | .host _ parts _ _ => AllTags holds parts

namespace Draft

/-- The tags in a draft have a property. -/
structure Uses (holds : Tag → Prop) (draft : Draft) : Prop where
  nodes : AllTags holds draft.nodes
  frames : ∀ frame ∈ draft.frames, frame.opening.Uses holds ∧ AllTags holds frame.nodes

variable {draft : Draft}

theorem Uses.add (uses : draft.Uses holds) {node : Node} (tags : AllTags holds [node]) :
    (draft.add node).Uses holds := by
  obtain ⟨nodes, frames⟩ := draft
  obtain ⟨outside, inside⟩ := uses
  cases frames with
  | nil => exact ⟨allTags_append.mpr ⟨outside, tags⟩, inside⟩
  | cons frame rest =>
      obtain ⟨first, others⟩ := List.forall_mem_cons.mp inside
      refine ⟨outside, List.forall_mem_cons.mpr ⟨⟨first.1, ?_⟩, others⟩⟩
      exact allTags_append.mpr ⟨first.2, tags⟩

theorem Uses.addAll (uses : draft.Uses holds) {nodes : List Node} (tags : AllTags holds nodes) :
    (nodes.foldl Draft.add draft).Uses holds := by
  induction nodes generalizing draft with
  | nil => exact uses
  | cons node rest ih =>
      rw [← List.singleton_append, allTags_append] at tags
      exact ih (uses.add tags.1) tags.2

theorem Uses.enter (uses : draft.Uses holds) {opening : Opening} (opens : opening.Uses holds)
    (name : Text) (line : Nat) : (draft.enter opening name line).Uses holds :=
  ⟨uses.nodes, List.forall_mem_cons.mpr ⟨⟨opens, allTags_nil holds⟩, uses.frames⟩⟩

theorem allTags_choiceOf {branches : List (FilterExpr × List Node)} {otherwise : List Node}
    (inside : ∀ branch ∈ branches, AllTags holds branch.2) (instead : AllTags holds otherwise) :
    AllTags holds (choiceOf branches otherwise) := by
  induction branches with
  | nil => exact instead
  | cons branch rest ih =>
      obtain ⟨first, others⟩ := List.forall_mem_cons.mp inside
      exact allTags_singleton.mpr (List.forall_mem_append.mpr ⟨first, ih others⟩)

/-! ## Steps of compiling -/

theorem keeps_openElement {tag : Tag} (here : holds tag) (b : Block) (uses : draft.Uses holds) :
    Keeps (Ledger.Set settings) (openElement tag b draft) (Uses holds) := by
  refine keeps_takeIdentifier.bind fun identifier _ => (keeps_usesGrammar tag).bind fun _ _ => ?_
  refine (keeps_ofExcept _).bind fun head _ => (keeps_trace _).bind fun _ _ => ?_
  split
  · refine keeps_pure (uses.enter ?_ _ _)
    exact here
  · refine (keeps_trace _).bind fun _ _ => keeps_pure (uses.add ?_)
    exact allTags_singleton.mpr (List.forall_mem_cons.mpr ⟨here, allTags_nil holds⟩)

theorem keeps_proceed (name : Text) (line : Nat) {parts : List Node}
    (inside : AllTags holds parts) (uses : draft.Uses holds) (step : HostStep) :
    Keeps (Ledger.Set settings) (proceed name line parts draft step) (Uses holds) := by
  cases step with
  | part skips endings next =>
      have opens : (Opening.host skips parts endings next).Uses holds := inside
      exact keeps_pure (uses.enter opens _ _)
  | done weave => exact keeps_pure (uses.add (allTags_singleton.mpr inside))
  | reject fault => exact keeps_reject

theorem keeps_openStatement (origin : Option Text) (name : Text) (line : Nat)
    (uses : draft.Uses holds) (statement : Statement) :
    Keeps (Ledger.Set settings) (openStatement origin name line draft statement) (Uses holds) := by
  have opened {opening : Opening} (opens : opening.Uses holds) :
      Keeps (Ledger.Set settings) (pure (draft.enter opening name line) : Compiling Draft)
        (Uses holds) :=
    keeps_pure (uses.enter opens name line)
  cases statement with
  | choice condition => exact @opened (.choice [] condition) (List.forall_mem_nil _)
  | loop names collection backwards => exact @opened (.loop names collection backwards) trivial
  | binding bindings => exact @opened (.binding bindings) trivial
  | escaping on => exact @opened (.escaping on) trivial
  | inclusion template =>
      refine keeps_takeSerial.bind fun serial _ => keeps_pure (uses.add ?_)
      exact allTags_singleton.mpr (List.forall_mem_nil _)
  | host step => exact keeps_proceed name line (allTags_nil holds) uses step

theorem keeps_openBlock {library : Library} (known : ∀ tag ∈ library.tags, holds tag)
    (origin : Option Text) (name : Text) (b : Block) (uses : draft.Uses holds) :
    Keeps (Ledger.Set settings) (openBlock library origin name b draft) (Uses holds) := by
  unfold openBlock
  split
  · rename_i tag found
    exact keeps_openElement (known tag (List.mem_of_find?_eq_some found)) b uses
  · split
    · exact (keeps_ofExcept _).bind fun statement _ => keeps_openStatement origin name _ uses _
    · exact keeps_reject

theorem keeps_closeBlock (b : Block) {frame : Frame} (opens : frame.opening.Uses holds)
    (inside : AllTags holds frame.nodes) (uses : draft.Uses holds) :
    Keeps (Ledger.Set settings) (closeBlock b frame draft) (Uses holds) := by
  unfold closeBlock
  split
  all_goals
    rename_i opening
    rw [opening] at opens
  · refine (keeps_trace _).bind fun _ _ => keeps_pure (uses.add ?_)
    exact allTags_singleton.mpr (List.forall_mem_cons.mpr ⟨opens, inside⟩)
  · rename_i earlier condition
    have branches : ∀ branch ∈ earlier ++ [(condition, frame.nodes)], AllTags holds branch.2 :=
      List.forall_mem_append.mpr ⟨opens, List.forall_mem_singleton.mpr inside⟩
    split
    · refine (keeps_ofExcept _).bind fun next _ => keeps_pure (uses.enter ?_ _ _)
      exact branches
    · split
      · refine keeps_pure (uses.enter ?_ _ _)
        exact branches
      · split
        · exact keeps_pure (uses.addAll (allTags_choiceOf branches (allTags_nil holds)))
        · exact keeps_reject
  · split
    · exact keeps_pure (uses.addAll (allTags_choiceOf opens inside))
    · exact keeps_reject
  · split
    · refine keeps_pure (uses.enter ?_ _ _)
      exact inside
    · refine keeps_pure (uses.add (allTags_singleton.mpr ?_))
      exact List.forall_mem_append.mpr ⟨inside, allTags_nil holds⟩
  · exact keeps_pure (uses.add (allTags_singleton.mpr (List.forall_mem_append.mpr ⟨opens, inside⟩)))
  · exact keeps_pure (uses.add (allTags_singleton.mpr inside))
  · exact keeps_pure (uses.add (allTags_singleton.mpr inside))
  · have group : AllTags holds [.group frame.nodes] := allTags_singleton.mpr inside
    exact keeps_proceed _ _ (allTags_append.mpr ⟨opens, group⟩) uses _

theorem keeps_takeBlock {library : Library} (known : ∀ tag ∈ library.tags, holds tag)
    (origin : Option Text) (b : Block) (uses : draft.Uses holds) :
    Keeps (Ledger.Set settings) (takeBlock library origin draft b) (Uses holds) := by
  unfold takeBlock
  split
  · exact keeps_reject
  · rename_i name frame outer _ opened
    have inside := uses.frames
    rw [opened] at inside
    obtain ⟨first, others⟩ := List.forall_mem_cons.mp inside
    split
    · exact keeps_closeBlock b first.1 first.2 ⟨uses.nodes, others⟩
    · exact keeps_openBlock known origin name b uses
  · exact keeps_openBlock known origin _ b uses

theorem keeps_compile {library : Library} (known : ∀ tag ∈ library.tags, holds tag)
    (origin : Option Text) (piece : Piece) (uses : draft.Uses holds) :
    Keeps (Ledger.Set settings) (compile library origin draft piece) (Uses holds) := by
  cases piece with
  | text s => exact keeps_pure (uses.add (allTags_singleton.mpr (List.forall_mem_nil _)))
  | verbatim s => exact keeps_pure (uses.add (allTags_singleton.mpr (List.forall_mem_nil _)))
  | comment => exact keeps_pure uses
  | value contents line =>
      rw [compile]
      split
      · exact keeps_reject
      · refine (keeps_ofExcept _).bind fun e _ => keeps_pure (uses.add ?_)
        exact allTags_singleton.mpr (List.forall_mem_nil _)
  | block b => exact keeps_takeBlock known origin b uses

theorem keeps_take {library : Library} (known : ∀ tag ∈ library.tags, holds tag)
    (origin : Option Text) (piece : Piece) (uses : draft.Uses holds) :
    Keeps (Ledger.Set settings) (take library origin draft piece) (Uses holds) := by
  unfold take
  split
  · exact keeps_pure uses
  · exact keeps_compile known origin piece uses

theorem keeps_finish (uses : draft.Uses holds) :
    Keeps (Ledger.Set settings) draft.finish (AllTags holds) := by
  unfold finish
  split
  · exact keeps_pure uses.nodes
  · exact keeps_reject

end Draft

/-- **Compiling keeps the settings of the engine.** The nodes of a template use tags of the library
only. -/
theorem Node.keeps_ofTemplate {library : Library} (known : ∀ tag ∈ library.tags, holds tag)
    (origin : Option Text) (source : Text) :
    Keeps (Ledger.Set settings) (ofTemplate library origin source) (AllTags holds) := by
  have nothing : Draft.Uses holds {} := ⟨allTags_nil holds, List.forall_mem_nil _⟩
  refine Keeps.bind (keeps_foldlM ?_ _ nothing) fun draft uses => Draft.keeps_finish uses
  exact fun draft piece uses => Draft.keeps_take known origin piece uses

end ElementTags
