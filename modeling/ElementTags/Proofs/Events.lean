import ElementTags.Proofs.Computation
import ElementTags.Proofs.Visits
import ElementTags.Template.Render

/-! # What happens while nodes are rendered

Rendering nodes visits the uses of tags in them, some of them several times and some
never. While a tag is rendered, its script may call bodies, its own one or others, and each
call may render the nodes of the body, which visits tags again. So what happens is a tree of
visits and calls (`ElementTags.Event`), which is told by recursion on the nodes
(`ElementTags.Node.history`).

As for rendering itself, it is left open for nodes what happens elsewhere: in included
templates and in the bodies of other tags (`ElementTags.Past`). On a shelf this is told by
recursion on the depth (`ElementTags.Shelf.historyWithin`).
-/

namespace ElementTags

/-- A call of a body: the stages before and behind it, what it comes to, and whether the nodes of
the body are rendered for it. -/
structure BodyCall where
  accessor : Accessor
  before : Stage
  reply : Except Fault Text
  after : Stage
  isRendering : Bool

/-- A visit of a use of a tag or a call of a body, and what happens within it. -/
inductive Event
  | visit (tag identifier : Text) (isDone : Bool) (inside : List Event)
  | call (made : BodyCall) (inside : List Event)

namespace Event

mutual

/-- The visits of an event. What is visited within a call is visited where the call is made. -/
def visits : Event → List Visit
  | visit tag identifier isDone inside => [.visit tag identifier isDone (visitsAll inside)]
  | call _ inside => visitsAll inside

/-- The visits of events, one after the other. -/
def visitsAll : List Event → List Visit
  | [] => []
  | event :: rest => visits event ++ visitsAll rest

end

theorem visitsAll_append (front back : List Event) :
    visitsAll (front ++ back) = visitsAll front ++ visitsAll back := by
  induction front with
  | nil => rfl
  | cons event front ih => rw [List.cons_append, visitsAll, visitsAll, ih, List.append_assoc]

theorem visitsAll_singleton (event : Event) : visitsAll [event] = visits event :=
  List.append_nil _

/-! ### Calls of a body -/

mutual

/-- The calls of a body that an event consists of. -/
def callsOf (accessor : Accessor) : Event → List BodyCall
  | visit _ _ _ inside => callsOfAll accessor inside
  | call made inside =>
    if made.accessor = accessor then made :: callsOfAll accessor inside
    else callsOfAll accessor inside

/-- The calls of a body that events consist of. -/
def callsOfAll (accessor : Accessor) : List Event → List BodyCall
  | [] => []
  | event :: rest => callsOf accessor event ++ callsOfAll accessor rest

end

mutual

/-- Whether no call of a body in an event lies within another one. -/
def isFlat (accessor : Accessor) : Event → Bool
  | visit _ _ _ inside => areFlat accessor inside
  | call made inside =>
    areFlat accessor inside && (made.accessor != accessor || (callsOfAll accessor inside).isEmpty)

/-- Whether no call of a body in events lies within another one. -/
def areFlat (accessor : Accessor) : List Event → Bool
  | [] => true
  | event :: rest => isFlat accessor event && areFlat accessor rest

end

theorem callsOfAll_append (accessor : Accessor) (front back : List Event) :
    callsOfAll accessor (front ++ back) =
      callsOfAll accessor front ++ callsOfAll accessor back := by
  induction front with
  | nil => rfl
  | cons event front ih =>
      rw [List.cons_append, callsOfAll, ih, callsOfAll, List.append_assoc]

theorem areFlat_append (accessor : Accessor) (front back : List Event) :
    areFlat accessor (front ++ back) = (areFlat accessor front && areFlat accessor back) := by
  induction front with
  | nil => rfl
  | cons event front ih => rw [List.cons_append, areFlat, ih, areFlat, Bool.and_assoc]

end Event

/-- What happens where things are rendered that do not stand where they are asked for. -/
structure Past where
  template : Nat → Option Text → Value → Stage → List Event
  body : Accessor → Stage → List Event

namespace Rendering

variable {α : Type}

/-- What happens behind a rendering that succeeds. -/
def behind (x : Rendering α) (next : α → Stage → List Event) (stage : Stage) : List Event :=
  match x stage with
  | (.ok a, after) => next a after
  | (.error _, _) => []

/-- What happens in a new layer of the scope. -/
def eventsInLayer (layer : Layer) (events : Stage → List Event) (stage : Stage) : List Event :=
  events { stage with scope := stage.scope.push layer }

/-- A call of a body on a stage. `render` renders the body, and `inside` tells what happens then. -/
def callEvent (accessor : Accessor) (render : Rendering Text) (inside : Stage → List Event)
    (stage : Stage) : Event :=
  .call ⟨accessor, stage, (call accessor render stage).1, (call accessor render stage).2,
    (stage.text? accessor).isNone⟩ (if (stage.text? accessor).isNone then inside stage else [])

section

variable {accessor : Accessor} {render : Rendering Text} {events : Stage → List Event}
  {stage after : Stage} {s : Text} {fault : Fault}

theorem call_of_text (known : stage.text? accessor = some s) :
    call accessor render stage = (.ok s, stage) := by rw [call, known]

theorem call_of_ok (unknown : stage.text? accessor = none) (ran : render stage = (.ok s, after)) :
    call accessor render stage = (.ok s, after.keepText accessor s) := by rw [call, unknown, ran]

theorem call_of_error (unknown : stage.text? accessor = none)
    (ran : render stage = (.error fault, after)) :
    call accessor render stage = (.error fault, after) := by rw [call, unknown, ran]

theorem callEvent_of_text (known : stage.text? accessor = some s) :
    callEvent accessor render events stage = .call ⟨accessor, stage, .ok s, stage, false⟩ [] := by
  rw [callEvent, call_of_text known, known]
  rfl

theorem callEvent_of_none (unknown : stage.text? accessor = none) :
    callEvent accessor render events stage =
      .call ⟨accessor, stage, (call accessor render stage).1, (call accessor render stage).2, true⟩
        (events stage) := by
  rw [callEvent, unknown]
  rfl

end

/-- What happens while a script is performed on a stage, which only calls of bodies can tell. -/
def callEvents (own : Accessor) (bodies : Accessor → Rendering Text)
    (inside : Accessor → Stage → List Event) : Script α → Stage → List Event
  | .done _, _ => []
  | .look next, stage => callEvents own bodies inside (next stage.surroundings) stage
  | .change s next, stage => callEvents own bodies inside next (stage.inSurroundings s)
  | .askBody next, stage => callEvents own bodies inside (next (.deferred own)) stage
  | .askRendered a next, stage =>
    callEvents own bodies inside (next (stage.text? a).isSome) stage
  | .callBody a next, stage =>
    callEvent a (bodies a) (inside a) stage ::
      callEvents own bodies inside (next (call a (bodies a) stage).1)
        (call a (bodies a) stage).2

end Rendering

namespace Node

open Rendering

/-- The text that the nodes of a body give together. -/
def bodyText (elsewhere : Elsewhere) (body : List Node) : Rendering Text := do
  joined (← renderAll elsewhere body)

/-- How bodies are rendered while a tag is rendered whose own body has some nodes. -/
def bodiesOf (elsewhere : Elsewhere) (body : List Node) (own : Accessor) :
    Accessor → Rendering Text :=
  fun accessor => if accessor = own then bodyText elsewhere body else elsewhere.body accessor

/-- The stage on which the attributes of a tag are resolved. -/
def announced (tag : Tag) (identifier : Text) (stage : Stage) : Stage :=
  { stage with ledger := stage.ledger.trace (Ledger.openingLine stepName tag.name identifier) }

/-- The stage that a tag leaves, which is reported if the tag is done. -/
def reported (tag : Tag) (identifier : Text) :
    Except Fault Value × Stage → Except Fault Value × Stage
  | (.ok v, after) =>
    (.ok v, { after with
      ledger := after.ledger.trace (Ledger.closingLine stepName tag.name identifier) })
  | (.error fault, after) => (.error fault, after)

theorem bodies_reported (tag : Tag) (identifier : Text) (ran : Except Fault Value × Stage) :
    (reported tag identifier ran).2.bodies = ran.2.bodies := by
  obtain ⟨fault | v, after⟩ := ran <;> rfl

theorem toBool_reported (tag : Tag) (identifier : Text) (ran : Except Fault Value × Stage) :
    (reported tag identifier ran).1.toBool = ran.1.toBool := by
  obtain ⟨fault | v, after⟩ := ran <;> rfl

/-- What comes of a tag with resolved attributes, from a stage on which its body is taken up. -/
def played (elsewhere : Elsewhere) (tag : Tag) (attributes : List Value) (body : List Node)
    (ready : Stage) : Except Fault Value × Stage :=
  perform ready.bodies.length (bodiesOf elsewhere body ready.bodies.length) (tag.act attributes)
    (ready.takeUp body)

/-- A tag is announced, its attributes are resolved, its body is taken up, its script is performed,
and it is reported. -/
theorem render_element (elsewhere : Elsewhere) (tag : Tag) (identifier source : Text)
    (entries : List Entry) (body : List Node) (stage : Stage) :
    render elsewhere (.element tag identifier source entries body) stage =
      match ofScoped (Entry.resolveAll entries) (announced tag identifier stage) with
      | (.ok attributes, ready) =>
        reported tag identifier (played elsewhere tag attributes body ready)
      | (.error fault, after) => (.error fault, after) := by
  rw [render, Computation.bind_of_ok (show trace _ stage = (.ok (), announced tag identifier stage)
    from rfl), Computation.bind_eq]
  rcases ofScoped (Entry.resolveAll entries) (announced tag identifier stage) with
    ⟨fault | attributes, ready⟩
  · rfl
  · change (perform ready.bodies.length (bodiesOf elsewhere body ready.bodies.length)
      (tag.act attributes) >>= fun output => do
        trace (Ledger.closingLine stepName tag.name identifier)
        pure output : Rendering Value) (ready.takeUp body) = reported tag identifier _
    rw [Computation.bind_eq, played]
    rcases perform ready.bodies.length (bodiesOf elsewhere body ready.bodies.length)
      (tag.act attributes) (ready.takeUp body) with ⟨fault | output, after⟩ <;> rfl

/-- What happens where the body of a loop is rendered for one item. -/
def visited (names : List Text) (item : Value) (inside : Stage → List Event) :
    Stage → List Event :=
  match names with
  | [name] =>
    behind (ofScoped (Scoped.adopt item)) fun item =>
      behind (changeScope (·.set name item)) fun _ => inside
  | names =>
    behind (ofEval (unpack names item)) fun layer =>
      behind (changeScope (·.push layer)) fun _ => inside

/-- What happens where the body of a loop is rendered for all items from some index on. -/
def visitedAll (names : List Text) (state : Value) (count : Nat) (body : Rendering (List Value))
    (inside : Stage → List Event) : Nat → List Value → Stage → List Event
  | _, [] => fun _ => []
  | index, item :: rest =>
    behind (announcePlace state count index) fun _ stage =>
      visited names item inside stage ++ behind (visit names item body)
        (fun _ => visitedAll names state count body inside (index + 1) rest) stage

/-- What happens where a block of the host is rendered, given what happens in its parts. -/
def wovenEvents (part : Nat → Rendering Text) (inside : Nat → Stage → List Event) :
    Weave → Stage → List Event
  | .done _ => fun _ => []
  | .look next => behind scope fun s => wovenEvents part inside (next s)
  | .change s next => behind (changeScope fun _ => s) fun _ => wovenEvents part inside next
  | .evaluate e missing next =>
    behind (valueOrFault e missing) fun result => wovenEvents part inside (next result)
  | .part index next => fun stage =>
    inside index stage ++ behind (part index) (fun s => wovenEvents part inside (next s)) stage
  | .within layer deeper next => fun stage =>
    eventsInLayer layer (wovenEvents part inside deeper) stage ++
      behind (inLayer layer (woven part deeper)) (fun s => wovenEvents part inside (next s)) stage

mutual

/-- What happens while a node is rendered on a stage. A visit of a tag is done if the tag is
rendered, and around the calls of bodies that its script makes. -/
def history (elsewhere : Elsewhere) (past : Past) : Node → Stage → List Event
  | text _ => fun _ => []
  | value _ => fun _ => []
  | choice condition body otherwise =>
    behind (holds condition) fun held =>
      if held then historyAll elsewhere past body else historyAll elsewhere past otherwise
  | loop names collection backwards body whenEmpty =>
    behind scope fun outside => eventsInLayer [] <|
      behind (valueOf collection .null) fun v => behind (ofEval (loopItems v)) fun items =>
        if items.isEmpty then historyAll elsewhere past whenEmpty
        else behind (ofEval (loopOrder backwards v items)) fun ordered =>
          behind (announceLoop (outside.get? loopVariable)) fun state =>
            visitedAll names state ordered.length (renderAll elsewhere body)
              (historyAll elsewhere past body) 0 ordered
  | binding bindings body =>
    behind (bindingLayer bindings) fun layer =>
      eventsInLayer layer (historyAll elsewhere past body)
  | escaping on body =>
    behind scope fun _ => behind (changeScope fun scope => { scope with autoescape := on })
      fun _ => historyAll elsewhere past body
  | inclusion serial origin name =>
    behind (ofScoped (name.resolve (.text []))) fun v => past.template serial origin v
  | group body => historyAll elsewhere past body
  | host weave parts =>
    wovenEvents (renderAt elsewhere parts) (historyAt elsewhere past parts) weave
  | element tag identifier source entries body => fun stage =>
    [.visit tag.name identifier
      (render elsewhere (element tag identifier source entries body) stage).1.toBool
      (behind (ofScoped (Entry.resolveAll entries)) (fun attributes ready =>
        callEvents ready.bodies.length (bodiesOf elsewhere body ready.bodies.length)
          (fun accessor => if accessor = ready.bodies.length then historyAll elsewhere past body
            else past.body accessor) (tag.act attributes) (ready.takeUp body))
        (announced tag identifier stage))]

/-- What happens while nodes are rendered one after the other. -/
def historyAll (elsewhere : Elsewhere) (past : Past) : List Node → Stage → List Event
  | [] => fun _ => []
  | n :: rest => fun stage =>
    history elsewhere past n stage ++
      behind (render elsewhere n) (fun _ => historyAll elsewhere past rest) stage

/-- What happens while one of several nodes is rendered. -/
def historyAt (elsewhere : Elsewhere) (past : Past) : List Node → Nat → Stage → List Event
  | [], _ => fun _ => []
  | n :: _, 0 => history elsewhere past n
  | _ :: rest, index + 1 => historyAt elsewhere past rest index

end

/-- What happens while a tag with resolved attributes is performed. -/
def playedEvents (elsewhere : Elsewhere) (past : Past) (tag : Tag) (attributes : List Value)
    (body : List Node) (ready : Stage) : List Event :=
  callEvents ready.bodies.length (bodiesOf elsewhere body ready.bodies.length)
    (fun accessor => if accessor = ready.bodies.length then historyAll elsewhere past body
      else past.body accessor) (tag.act attributes) (ready.takeUp body)

/-- A use of a tag is one visit, around what happens while the tag is performed. -/
theorem history_element (elsewhere : Elsewhere) (past : Past) (tag : Tag)
    (identifier source : Text) (entries : List Entry) (body : List Node) (stage : Stage) :
    history elsewhere past (.element tag identifier source entries body) stage =
      [.visit tag.name identifier
        (render elsewhere (.element tag identifier source entries body) stage).1.toBool
        (match ofScoped (Entry.resolveAll entries) (announced tag identifier stage) with
        | (.ok attributes, ready) => playedEvents elsewhere past tag attributes body ready
        | (.error _, _) => [])] := by
  rw [history]
  dsimp only
  rw [behind]
  rcases ofScoped (Entry.resolveAll entries) (announced tag identifier stage) with
    ⟨fault | attributes, ready⟩ <;> rfl

end Node

namespace Shelf

open Rendering Node

/-- What happens while nodes are rendered in which inclusions and calls of other bodies are nested
at most to some depth. -/
def historyWithin (shelf : Shelf) : Nat → List Node → Stage → List Event
  | 0, _ => fun _ => []
  | depth + 1, nodes =>
    historyAll (shelf.elsewhere depth)
      { template := fun serial origin v =>
          behind (fun stage => (namesOf origin v, stage)) fun names =>
            behind (shelf.lookUp serial names) fun nodes =>
              eventsInLayer [] (shelf.historyWithin depth nodes)
        body := fun accessor => behind (nodesOf accessor) fun nodes =>
          shelf.historyWithin depth nodes } nodes

/-- What happens on a shelf where things are rendered that do not stand where they are asked for. -/
def past (shelf : Shelf) (depth : Nat) : Past where
  template serial origin v := behind (fun stage => (namesOf origin v, stage)) fun names =>
    behind (shelf.lookUp serial names) fun nodes =>
      eventsInLayer [] (shelf.historyWithin depth nodes)
  body accessor := behind (nodesOf accessor) fun nodes => shelf.historyWithin depth nodes

theorem historyWithin_succ (shelf : Shelf) (depth : Nat) (nodes : List Node) :
    shelf.historyWithin (depth + 1) nodes =
      historyAll (shelf.elsewhere depth) (shelf.past depth) nodes := rfl

end Shelf
end ElementTags
