import ElementTags.Attribute.Resolve
import ElementTags.Behaviour
import ElementTags.Template.Node

/-!
# What rendering works on

A stage is what a template is rendered on: the ledger of the engine, the scope, and the templates
that were included in this scope and the bodies of the tags that were rendered in it so far. A
rendering may change the stage, also when it fails.

The script of a tag is performed on a stage. A body is rendered when a script calls it while it has
no text, and has the text from then on, which later calls give. A call that fails leaves the body as
it was. As long as the body is being rendered it has no text yet, so that a call in the meantime
renders it once more.
-/

namespace ElementTags

/-- An included template: the inclusion that asked for it, the names it asked for, and its nodes. -/
structure Included where
  serial : Nat
  names : List Text
  nodes : List Node

/-- The body of a tag that is or was rendered: the nodes between the tags, and their text once they
were rendered. -/
structure Cell where
  nodes : List Node
  text? : Option Text := none

/-- What a template is rendered on. -/
structure Stage where
  ledger : Ledger
  scope : Scope
  included : List Included := []
  /-- The bodies of the tags that were rendered, the first one first. -/
  bodies : List Cell := []

/-- Rendering may change the stage, also when it fails. -/
abbrev Rendering := ExceptT Fault (StateM Stage)

namespace Stage

/-- A stage on which no template was included and no tag was rendered. -/
def start (ledger : Ledger) (scope : Scope) : Stage where
  ledger := ledger
  scope := scope

@[simp]
theorem start_ledger (ledger : Ledger) (scope : Scope) : (start ledger scope).ledger = ledger := rfl

@[simp]
theorem start_scope (ledger : Ledger) (scope : Scope) : (start ledger scope).scope = scope := rfl

/-- What a behaviour sees of a stage. -/
def surroundings (stage : Stage) : Surroundings := ⟨stage.ledger, stage.scope⟩

/-- The stage in new surroundings. -/
def inSurroundings (stage : Stage) (s : Surroundings) : Stage :=
  { stage with ledger := s.ledger, scope := s.scope }

/-- The text of a body, if it was rendered. -/
def text? (stage : Stage) (accessor : Accessor) : Option Text :=
  stage.bodies[accessor]?.bind (·.text?)

/-- The stage on which a body has a text. -/
def keepText (stage : Stage) (accessor : Accessor) (s : Text) : Stage :=
  { stage with bodies := stage.bodies.modify accessor fun cell => { cell with text? := some s } }

/-- The stage with some nodes as a further body. -/
def takeUp (stage : Stage) (nodes : List Node) : Stage :=
  { stage with bodies := stage.bodies ++ [{ nodes := nodes }] }

/-- A body that was just taken up has no text. -/
theorem text?_takeUp_fresh (stage : Stage) (nodes : List Node) :
    (stage.takeUp nodes).text? stage.bodies.length = none := by
  simp [text?, takeUp]

@[simp]
theorem text?_takeUp (stage : Stage) (nodes : List Node) (accessor : Accessor) :
    (stage.takeUp nodes).text? accessor = stage.text? accessor := by
  unfold text? takeUp
  rcases Nat.lt_trichotomy accessor stage.bodies.length with known | rfl | beyond
  · rw [List.getElem?_append_left known]
  · simp
  · rw [List.getElem?_append_right (Nat.le_of_lt beyond),
      List.getElem?_eq_none (Nat.le_of_lt beyond)]
    simp [Nat.sub_ne_zero_of_lt beyond]

/-- A body keeps its nodes when it is given a text. -/
theorem nodes_keepText (stage : Stage) (accessor : Accessor) (s : Text) :
    (stage.keepText accessor s).bodies.map (·.nodes) = stage.bodies.map (·.nodes) := by
  refine List.ext_getElem? fun i => ?_
  rw [keepText, List.getElem?_map, List.getElem?_map, List.getElem?_modify]
  split <;> cases stage.bodies[i]? <;> rfl

theorem forall_nodes_keepText {holds : List Node → Prop} {stage : Stage}
    (all : ∀ cell ∈ stage.bodies, holds cell.nodes) (accessor : Accessor) (s : Text) :
    ∀ cell ∈ (stage.keepText accessor s).bodies, holds cell.nodes := by
  rw [← List.forall_mem_map, nodes_keepText, List.forall_mem_map]
  exact all

theorem forall_nodes_takeUp {holds : List Node → Prop} {stage : Stage}
    (all : ∀ cell ∈ stage.bodies, holds cell.nodes) {nodes : List Node} (further : holds nodes) :
    ∀ cell ∈ (stage.takeUp nodes).bodies, holds cell.nodes :=
  List.forall_mem_append.mpr ⟨all, List.forall_mem_singleton.mpr further⟩

theorem text?_keepText_self {stage : Stage} {accessor : Accessor}
    (known : accessor < stage.bodies.length) (s : Text) :
    (stage.keepText accessor s).text? accessor = some s := by
  simp [text?, keepText, known]

theorem text?_keepText_of_ne {accessor other : Accessor} (differ : other ≠ accessor)
    (stage : Stage) (s : Text) :
    (stage.keepText other s).text? accessor = stage.text? accessor := by
  simp [text?, keepText, differ]

end Stage

namespace Rendering

/-- Fails. -/
def fail {α : Type} (fault : Fault) : Rendering α := fun stage => (.error fault, stage)

/-- A result that may be a failure. -/
def ofEval {α : Type} (result : Except EvalFault α) : Rendering α := fun stage =>
  match result with
  | .ok a => (.ok a, stage)
  | .error fault => (.error (.eval fault), stage)

/-- The scope. -/
def scope : Rendering Scope := fun stage => (.ok stage.scope, stage)

/-- Changes the scope. -/
def changeScope (f : Scope → Scope) : Rendering Unit := fun stage =>
  (.ok (), { stage with scope := f stage.scope })

/-- Logs a line about a step, if steps are logged. -/
def trace (line : LogLine) : Rendering Unit := fun stage =>
  (.ok (), { stage with ledger := stage.ledger.trace line })

/-- A computation on the scope as part of a rendering. -/
def ofScoped {α : Type} (action : Scoped α) : Rendering α := fun stage =>
  match stage.ledger.evaluate action stage.scope with
  | (result, ledger, scope) => ofEval result { stage with ledger := ledger, scope := scope }

/-- Renders something in a new layer, which is removed afterwards, also when that fails. -/
def inLayer {α : Type} (layer : Layer) (action : Rendering α) : Rendering α := fun stage =>
  match action { stage with scope := stage.scope.push layer } with
  | (result, after) => (result, { after with scope := after.scope.dropTop })

/-- The text that nodes give together. What a tag gives may be no text, and then there is none. -/
def join (outputs : List Value) : Except EvalFault Text :=
  match outputs.mapM Value.chars? with
  | some parts => .ok parts.flatten
  | none => .error .wrongType

/-- The text that nodes give together, as part of a rendering. -/
def joined (outputs : List Value) : Rendering Text := ofEval (join outputs)

/-- Takes up the body of a tag. -/
def takeUp (nodes : List Node) : Rendering Accessor := fun stage =>
  (.ok stage.bodies.length, stage.takeUp nodes)

/-- The nodes of a body. -/
def nodesOf (accessor : Accessor) : Rendering (List Node) := fun stage =>
  match stage.bodies[accessor]? with
  | some cell => (.ok cell.nodes, stage)
  | none => (.error (.eval .wrongType), stage)

/-- Calls a body, which `render` renders: it gives its text, if it has one, and is rendered
otherwise. -/
def call (accessor : Accessor) (render : Rendering Text) : Rendering Text := fun stage =>
  match stage.text? accessor with
  | some s => (.ok s, stage)
  | none =>
    match render stage with
    | (.ok s, after) => (.ok s, after.keepText accessor s)
    | (.error fault, after) => (.error fault, after)

/-- Performs a script on a stage. `own` is the body of the tag, and `bodies` renders the bodies that
are called. -/
def perform {α : Type} (own : Accessor) (bodies : Accessor → Rendering Text) :
    Script α → StateM Stage α
  | .done result => fun stage => (result, stage)
  | .look next => fun stage => perform own bodies (next stage.surroundings) stage
  | .change s next => fun stage => perform own bodies next (stage.inSurroundings s)
  | .askBody next => perform own bodies (next (.deferred own))
  | .askRendered a next => fun stage => perform own bodies (next (stage.text? a).isSome) stage
  | .callBody a next => fun stage =>
    match call a (bodies a) stage with
    | (reply, after) => perform own bodies (next reply) after

theorem perform_askRendered {α : Type} (own : Accessor) (bodies : Accessor → Rendering Text)
    (accessor : Accessor) (next : Bool → Script α) (stage : Stage) :
    perform own bodies (.askRendered accessor next) stage =
      perform own bodies (next (stage.text? accessor).isSome) stage := rfl

theorem perform_callBody {α : Type} (own : Accessor) (bodies : Accessor → Rendering Text)
    (accessor : Accessor) (next : Except Fault Text → Script α) (stage : Stage) :
    perform own bodies (.callBody accessor next) stage =
      perform own bodies (next (call accessor (bodies accessor) stage).1)
        (call accessor (bodies accessor) stage).2 := rfl

/-- Performs the script of a tag whose body has the nodes that `inner` renders, where `others`
renders other bodies. -/
def acting {α : Type} (own : Accessor) (inner : Rendering Text) (others : Accessor → Rendering Text)
    (action : Acting α) : Rendering α :=
  perform own (fun accessor => if accessor = own then inner else others accessor) action

end Rendering

/-- Performs a script of a tag whose body is a value. -/
def Script.runWith {α : Type} (body : Value) : Script α → StateM Surroundings α
  | done result => fun s => (result, s)
  | look next => fun s => runWith body (next s) s
  | change s next => fun _ => runWith body next s
  | askBody next => runWith body (next (.given body))
  | askRendered _ next => runWith body (next false)
  | callBody _ next => runWith body (next (.error (.eval .wrongType)))

end ElementTags
