import ElementTags.Template.Draft
import ElementTags.Template.Path
import ElementTags.Template.Stage
import ElementTags.Value.Written

/-!
# Rendering templates

The nodes of a template are rendered one after the other, and what they give is joined. How an
included template is found and rendered, and how the body of another tag is rendered, is left open
for nodes and settled at the end, since templates may include each other, and bodies may be called
within each other. An inclusion looks its template up once for each scope. All this is nested only
to some depth.
-/

namespace ElementTags

/-- How things are rendered that do not stand where they are asked for. -/
structure Elsewhere where
  /-- The template that an inclusion names, given the number of the inclusion and the name of the
  template in which it stands. -/
  template : Nat → Option Text → Value → Rendering Text
  /-- The nodes of the body of another tag. -/
  body : Accessor → Rendering Text

namespace Node

open Rendering

/-- The step that the log calls rendering. -/
def stepName : String := "RENDER"

/-- The value of an expression, with an identity. -/
def valueOf (e : FilterExpr) (missing : Value) : Rendering Value :=
  ofScoped do Scoped.adopt (← e.resolve missing)

/-- What is written for the value of an expression. An undefined variable counts as the empty text.
-/
def writtenValue (e : FilterExpr) : Rendering Text :=
  ofScoped do
    let v ← e.resolve (.text [])
    Scoped.reading fun scope => (scope.current v).written scope.autoescape

/-- Whether a condition holds. A condition that asks for an undefined argument does not. -/
def holds (condition : FilterExpr) : Rendering Bool :=
  ofScoped (Scoped.recover (do pure (← condition.resolve .null).isTruthy) fun fault =>
    match fault with
    | .undefinedVariable => .ok false
    | fault => .error fault)

/-! ## Loops -/

/-- The variable that tells a loop where it is. -/
def loopVariable : Text := "forloop".toList

/-- An entry of what a loop tells about itself. -/
def loopEntry (name : String) (v : Value) : Value × Value := (.text name.toList, v)

/-- What a loop with `count` items, of which it is at the one at `index`, tells about its place. -/
def loopPlace (count index : Nat) : List (Value × Value) :=
  let number (n : Nat) : Value := .int n
  [ loopEntry "counter0" (number index), loopEntry "counter" (number (index + 1)),
    loopEntry "revcounter" (number (count - index)),
    loopEntry "revcounter0" (number (count - index - 1)),
    loopEntry "first" (.bool (index = 0)), loopEntry "last" (.bool (index + 1 = count)) ]

/-- Sets the variable of a loop to a new mapping, which is the result. It tells what the loop around
it tells. -/
def announceLoop (outer : Option Value) : Rendering Value :=
  ofScoped do
    let state ← Scoped.adopt (.dict [loopEntry "parentloop" (outer.getD (.dict []))])
    Scoped.change (·.set loopVariable state)
    pure state

/-- Puts the place of a loop into the mapping that tells about the loop. -/
def announcePlace (state : Value) (count index : Nat) : Rendering Unit :=
  ofScoped do
    let pairs := ((← Scoped.current state).pairs?).getD []
    let told := (loopPlace count index).foldl (fun ps (k, v) => Value.put ps k v) pairs
    Scoped.record state (.dict told state.identity)

/-- The items of the collection of a loop; an absent collection has none. -/
def loopItems (v : Value) : Except EvalFault (List Value) :=
  match v with
  | .null => .ok []
  | v =>
    match v.items? with
    | some items => .ok items
    | none => .error .wrongType

/-- The items of a collection in the order in which a loop goes through them. A set has no last item
to start from. -/
def loopOrder (backwards : Bool) (v : Value) (items : List Value) :
    Except EvalFault (List Value) :=
  match backwards, v with
  | true, .set _ _ => .error .wrongType
  | true, _ => .ok items.reverse
  | false, _ => .ok items

/-- The layer that gives several names the parts of an item, of which there have to be as many. -/
def unpack (names : List Text) (item : Value) : Except EvalFault Layer :=
  let parts := item.items?.getD []
  if item.length?.getD 1 = names.length then
    .ok ((names.zip parts).foldl (fun layer (name, v) => layer.set name v) [])
  else .error .unsuitableValue

/-- Renders the body of a loop for one item. A single name is set in the layer of the loop, several
ones are set in a layer of their own. -/
def visit (names : List Text) (item : Value) (body : Rendering (List Value)) :
    Rendering (List Value) :=
  match names with
  | [name] => do
    let item ← ofScoped (Scoped.adopt item)
    changeScope (·.set name item)
    body
  | names => do
    let layer ← ofEval (unpack names item)
    changeScope (·.push layer)
    let outputs ← body
    changeScope (·.dropTop)
    pure outputs

/-- Renders the body of a loop for all items from some index on. -/
def visitAll (names : List Text) (state : Value) (count : Nat) (body : Rendering (List Value)) :
    Nat → List Value → Rendering (List Value)
  | _, [] => pure []
  | index, item :: rest => do
    announcePlace state count index
    let outputs ← visit names item body
    let more ← visitAll names state count body (index + 1) rest
    pure (outputs ++ more)

/-! ## Bindings -/

/-- The names that no binding may have. -/
def reservedNames : List Text := ["self".toList, "context".toList]

/-- The values of bindings. An undefined variable counts as the empty text. -/
def boundValues : List (Text × FilterExpr) → Rendering Layer
  | [] => pure []
  | (name, e) :: rest => do
    let v ← valueOf e (.text [])
    let layer ← boundValues rest
    pure ((name, v) :: layer)

/-- The layer of bindings. -/
def bindingLayer (bindings : List (Text × FilterExpr)) : Rendering Layer := do
  let layer ← boundValues bindings
  if bindings.any fun b => reservedNames.contains b.1 then fail (.eval .wrongType)
  else pure layer

/-! ## Blocks of the host -/

/-- The value of an expression, with an identity, or why it has none. -/
def valueOrFault (e : FilterExpr) (missing : Value) : Rendering (Except EvalFault Value) :=
  ofScoped (Scoped.recover (do pure (.ok (← Scoped.adopt (← e.resolve missing)))) fun fault =>
    .ok (.error fault))

/-- What a block of the host writes, given how its parts are rendered. -/
def woven (part : Nat → Rendering Text) : Weave → Rendering Text
  | .done result => fun stage => (result, stage)
  | .look next => do woven part (next (← scope))
  | .change s next => do
    changeScope fun _ => s
    woven part next
  | .evaluate e missing next => do woven part (next (← valueOrFault e missing))
  | .part index next => do woven part (next (← part index))
  | .within layer inside next => do woven part (next (← inLayer layer (woven part inside)))

/-! ## Nodes -/

mutual

/-- What a node gives. -/
def render (elsewhere : Elsewhere) : Node → Rendering Value
  | text s => pure (.text s)
  | value e => do
    let s ← writtenValue e
    pure (.text s)
  | choice condition body otherwise => do
    if ← holds condition then do
      let s ← joined (← renderAll elsewhere body)
      pure (.text s)
    else do
      let s ← joined (← renderAll elsewhere otherwise)
      pure (.text s)
  | loop names collection backwards body whenEmpty => do
    let outer := (← scope).get? loopVariable
    let outputs ← inLayer [] do
      let v ← valueOf collection .null
      let items ← ofEval (loopItems v)
      if items.isEmpty then renderAll elsewhere whenEmpty
      else do
        let ordered ← ofEval (loopOrder backwards v items)
        let state ← announceLoop outer
        visitAll names state ordered.length (renderAll elsewhere body) 0 ordered
    pure (.text (← joined outputs))
  | binding bindings body => do
    let layer ← bindingLayer bindings
    let s ← inLayer layer do joined (← renderAll elsewhere body)
    pure (.text s)
  | escaping on body => do
    let before := (← scope).autoescape
    changeScope fun scope => { scope with autoescape := on }
    let s ← joined (← renderAll elsewhere body)
    changeScope fun scope => { scope with autoescape := before }
    pure (.text s)
  | inclusion serial origin name => do
    let v ← ofScoped (name.resolve (.text []))
    let s ← elsewhere.template serial origin v
    pure (.text s)
  | group body => do
    let s ← joined (← renderAll elsewhere body)
    pure (.text s)
  | host weave parts => do
    let s ← woven (renderAt elsewhere parts) weave
    pure (.text s)
  | element tag identifier _ entries body => do
    trace (Ledger.openingLine stepName tag.name identifier)
    let attributes ← ofScoped (Entry.resolveAll entries)
    let own ← takeUp body
    let output ← acting own (do joined (← renderAll elsewhere body)) elsewhere.body
      (tag.act attributes)
    trace (Ledger.closingLine stepName tag.name identifier)
    pure output

/-- What nodes give, one after the other. -/
def renderAll (elsewhere : Elsewhere) : List Node → Rendering (List Value)
  | [] => pure []
  | n :: rest => do
    let output ← render elsewhere n
    let outputs ← renderAll elsewhere rest
    pure (output :: outputs)

/-- What one of several nodes writes. Where there is none, nothing is written. -/
def renderAt (elsewhere : Elsewhere) : List Node → Nat → Rendering Text
  | [], _ => pure []
  | n :: _, 0 => do joined [← render elsewhere n]
  | _ :: rest, index + 1 => renderAt elsewhere rest index

end

end Node

/-! ## Inclusions -/

/-- The templates that can be included, by name, and the tags that they can use. -/
structure Shelf where
  library : Library
  sources : List (Text × Text)

namespace Shelf

open Rendering

/-- The names that a value gives to look for: a text is one name, seen from the template in which it
stands, and a collection gives those of its items that are names. -/
def namesOf (origin : Option Text) (v : Value) : Except Fault (List Text) :=
  if v.isTruthy then
    match v.chars?, v.items? with
    | some name, _ =>
      match Path.seenFrom origin false name with
      | .ok name => .ok [name]
      | .error fault => .error (.template fault)
    | none, some items =>
      if items.all (·.isHashable) then .ok (items.filterMap (·.chars?))
      else .error (.eval .wrongType)
    | none, none => .error (.eval .wrongType)
  else .ok []

/-- The first of some names that a template has, and the source of the template. -/
def source? (shelf : Shelf) (names : List Text) : Option (Text × Text) :=
  names.findSome? fun name => shelf.sources.find? (·.1 = name)

/-- Compiles a template with a name while another one is rendered. -/
def compile (shelf : Shelf) (name source : Text) : Rendering (List Node) := fun stage =>
  match Node.ofTemplate shelf.library (some name) source stage.ledger with
  | (result, ledger) => (result, { stage with ledger := ledger })

/-- The template with one of some names that an inclusion asks for. It is looked up once for each
scope. -/
def lookUp (shelf : Shelf) (serial : Nat) (names : List Text) :
    Rendering (List Node) := fun stage =>
  match stage.included.find? fun i => i.serial = serial && i.names = names with
  | some known => (.ok known.nodes, stage)
  | none =>
    match shelf.source? names with
    | none => (.error .missingTemplate, stage)
    | some (name, source) =>
      match shelf.compile name source stage with
      | (.ok nodes, after) =>
        (.ok nodes, { after with included := ⟨serial, names, nodes⟩ :: after.included })
      | (.error fault, after) => (.error fault, after)

/-- Renders nodes in which inclusions and calls of other bodies are nested at most to some depth. -/
def renderWithin (shelf : Shelf) : Nat → List Node → Rendering Text
  | 0, _ => fail .endlessInclusion
  | depth + 1, nodes => do
    let outputs ← Node.renderAll
      { template := fun serial origin v => do
          let nodes ← shelf.lookUp serial (← fun stage => (namesOf origin v, stage))
          inLayer [] (shelf.renderWithin depth nodes)
        body := fun accessor => do shelf.renderWithin depth (← nodesOf accessor) } nodes
    joined outputs

/-- How things are rendered on a shelf that do not stand where they are asked for. -/
def elsewhere (shelf : Shelf) (depth : Nat) : Elsewhere where
  template serial origin v := do
    let nodes ← shelf.lookUp serial (← fun stage => (namesOf origin v, stage))
    inLayer [] (shelf.renderWithin depth nodes)
  body accessor := do shelf.renderWithin depth (← nodesOf accessor)

theorem renderWithin_succ (shelf : Shelf) (depth : Nat) (nodes : List Node) :
    shelf.renderWithin (depth + 1) nodes =
      (do joined (← Node.renderAll (shelf.elsewhere depth) nodes)) := rfl

/-- What is nested deeper than this is taken to have no end. The number is no setting: it stands for
the depth of calls at which an interpreter runs out of stack. -/
def maxDepth : Nat := 100

/-- Renders the nodes of a template. -/
def render (shelf : Shelf) (nodes : List Node) : Rendering Text := shelf.renderWithin maxDepth nodes

end Shelf
end ElementTags
