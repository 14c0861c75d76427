import ElementTags.Channel
import ElementTags.Ledger
import ElementTags.Value.Arithmetic

/-!
# Render behaviours

What a tag does when it is rendered is described by a script: it may look at its surroundings and
change them, ask for its body, call bodies, and finish with a result. A script that calls a body
learns whether that succeeded, so that it can put its surroundings in order before it gives up. The
body need not be its own: a script may hand its body on, and another one may call it while the tag
is rendered or later.

The default behaviour writes an element: a start tag with the attributes and, for a container, the
body and an end tag. The other behaviours are variations of it.
-/

namespace ElementTags

/-- What a behaviour can see and change. -/
structure Surroundings where
  ledger : Ledger
  scope : Scope

/-- The body that a tag is rendered with. -/
inductive Body
  /-- The nodes between the tags, which are rendered when the body is called. -/
  | deferred (accessor : Accessor)
  /-- A value. -/
  | given (v : Value)

/-- A description of what to do, with a result. -/
inductive Script (α : Type)
  | done (result : α)
  | look (next : Surroundings → Script α)
  | change (surroundings : Surroundings) (next : Script α)
  | askBody (next : Body → Script α)
  /-- Asks whether a deferred body was rendered. -/
  | askRendered (accessor : Accessor) (next : Bool → Script α)
  /-- Calls a deferred body, the own one or another. -/
  | callBody (accessor : Accessor) (next : Except Fault Text → Script α)

namespace Script

/-- One script followed by another that depends on its result. -/
def bind {α β : Type} : Script α → (α → Script β) → Script β
  | done a, f => f a
  | look next, f => look fun s => (next s).bind f
  | change s next, f => change s (next.bind f)
  | askBody next, f => askBody fun b => (next b).bind f
  | askRendered a next, f => askRendered a fun rendered => (next rendered).bind f
  | callBody a next, f => callBody a fun r => (next r).bind f

instance : Monad Script where
  pure := done
  bind := bind

/-- A script goes on with its result. -/
theorem bind_assoc {α β γ : Type} (script : Script α) (f : α → Script β) (g : β → Script γ) :
    (script.bind f).bind g = script.bind fun a => (f a).bind g := by
  induction script with
  | done a => rfl
  | look next ih => exact congrArg look (funext ih)
  | change s next ih => exact congrArg (change s) ih
  | askBody next ih => exact congrArg askBody (funext ih)
  | askRendered a next ih => exact congrArg (askRendered a) (funext ih)
  | callBody a next ih => exact congrArg (callBody a) (funext ih)

theorem bind_done {α : Type} (script : Script α) : script.bind done = script := by
  induction script with
  | done a => rfl
  | look next ih => exact congrArg look (funext ih)
  | change s next ih => exact congrArg (change s) ih
  | askBody next ih => exact congrArg askBody (funext ih)
  | askRendered a next ih => exact congrArg (askRendered a) (funext ih)
  | callBody a next ih => exact congrArg (callBody a) (funext ih)

instance : LawfulMonad Script :=
  LawfulMonad.mk' Script bind_done (fun _ _ => rfl) bind_assoc

end Script

/-- A script that may give up. -/
abbrev Acting := ExceptT Fault Script

/-- The element that a tag writes. -/
structure Element where
  name : Text
  isContainer : Bool

/-- What a tag does with its attributes when it is rendered. -/
abbrev Behaviour := Element → Value → Acting Value

namespace Acting

/-- The surroundings as they are. -/
def surroundings : Acting Surroundings := Script.look fun s => .done (.ok s)

/-- Gives the surroundings a new state. -/
def put (s : Surroundings) : Acting Unit := Script.change s (.done (.ok ()))

/-- The scope as it is. -/
def scope : Acting Scope := do pure (← surroundings).scope

/-- Finishes with a result or gives up. -/
def ofExcept {α : Type} (result : Except Fault α) : Acting α := Script.done result

/-- Finishes with a computed value or gives up. -/
def ofEval {α : Type} (result : Except EvalFault α) : Acting α :=
  match result with
  | .ok a => Script.done (.ok a)
  | .error fault => Script.done (.error (.eval fault))

/-- The body. -/
def body : Acting Body := Script.askBody fun b => .done (.ok b)

/-- Changes the scope. -/
def changeScope (f : Scope → Scope) : Acting Unit := do
  let s ← surroundings
  put { s with scope := f s.scope }

/-- Whether a deferred body was rendered. -/
def isRendered (accessor : Accessor) : Acting Bool :=
  Script.askRendered accessor fun rendered => .done (.ok rendered)

/-- The text that a deferred body gives. -/
def call (accessor : Accessor) : Acting Text := Script.callBody accessor fun r => .done r

/-- The result of calling a value. -/
def callValue : Value → Except EvalFault Value
  | .callable result _ => .ok result
  | _ => .error .wrongType

/-- The result of calling the own body, which has to be something that can be called. -/
def callBody : Acting Value := do
  match ← body with
  | .deferred accessor => do pure (.safe (← call accessor))
  | .given v => ofEval (callValue v)

/-- Writes values as attributes and logs what is dropped. -/
def serialize (attributes : Value) : Acting Text := do
  let s ← surroundings
  let (result, lines) := Markup.serializeValue s.ledger.configuration (s.scope.current attributes)
  put { s with ledger := s.ledger.log lines }
  ofExcept result

/-- The outcome of an action, also when it gives up. -/
def attempt {α : Type} (action : Acting α) : Acting (Except Fault α) :=
  Script.bind action fun r => .done (.ok r)

/-- Does something while values are provided to the tags in the body. The layer with the channel is
removed afterwards, also when the action gives up. -/
def providing {α : Type} (values : Layer) (action : Acting α) : Acting α := do
  let s ← surroundings
  let (_, opened) ← ofEval (Channel.provide s.scope values)
  put { s with scope := opened }
  let result ← attempt action
  let after ← surroundings
  put { after with scope := after.scope.dropTop }
  ofExcept result

end Acting

namespace Behaviour

open Acting

/-- The start tag of an element with written attributes. -/
def startTag (name attributes : Text) : Text :=
  '<' :: name ++ (if attributes.isEmpty then [] else ' ' :: attributes) ++ ['>']

/-- The end tag of an element. -/
def endTag (name : Text) : Text := '<' :: '/' :: name ++ ['>']

/-- What is written for the body: nothing if it is a false value. -/
def fragment (v : Value) : Except EvalFault Text := if v.isTruthy then v.shown else .ok []

/-- What is written for a value that is given as the body; something that can be called is called.
-/
def givenFragment : Value → Except EvalFault Text
  | .callable result _ => fragment result
  | v => fragment v

/-- What is written for the body that a tag is rendered with. -/
def ownFragment : Acting Text := do
  match ← body with
  | .deferred _ => do ofEval (fragment (← callBody))
  | .given v => ofEval (givenFragment v)

/-- An element with attributes and something between its tags, which is not asked for unless the
element is a container. -/
def element (e : Element) (attributes : Value) (inner : Acting Text) : Acting Value := do
  let start := startTag e.name (← serialize attributes)
  if e.isContainer then do
    let html ← inner
    pure (.text (start ++ html ++ endTag e.name))
  else pure (.text start)

/-- The default: an element with the attributes and the body of the tag. -/
def default : Behaviour := fun e attributes => element e attributes ownFragment

/-- The default with a value in place of the body. -/
def withBody (e : Element) (attributes v : Value) : Acting Value :=
  element e attributes (ofEval (givenFragment v))

/-- The default with a text behind the body. -/
def append (s : Text) : Behaviour := fun e attributes => do
  let v ← callBody
  withBody e attributes (← ofEval (v.add (.text s)))

/-- The characters of the results of calling the body several times. -/
def callRepeatedly : Nat → Acting Text
  | 0 => pure []
  | n + 1 => do
    let v ← callBody
    let more ← callRepeatedly n
    match v.chars? with
    | some s => pure (s ++ more)
    | none => throw (.eval .wrongType)

/-- The default with the body several times. -/
def repeated (times : Nat) : Behaviour := fun e attributes => do
  withBody e attributes (.text (← callRepeatedly times))

/-- The default with a fixed value in place of the body. -/
def fixedBody (v : Value) : Behaviour := fun e attributes => withBody e attributes v

/-- The attributes of a tag, which are a list. -/
def valuesOf : Value → List Value
  | .list vs _ => vs
  | _ => []

/-- The default with values in front of the attributes. -/
def prepend (values : List Value) : Behaviour := fun e attributes =>
  default e (.list (values ++ valuesOf attributes))

/-- The default while values are provided to the tags in the body. -/
def provide (values : Layer) : Behaviour := fun e attributes =>
  providing values (default e attributes)

/-- The keyword attributes as a layer, if they are the last of the attributes. Their keys have to be
texts. -/
def keywordLayer (attributes : Value) : Except EvalFault Layer :=
  match (valuesOf attributes).getLast? with
  | some (.keywords ps _) => ps.mapM fun (k, v) =>
    match k.chars? with
    | some name => .ok (name, v)
    | none => .error .wrongType
  | _ => .ok []

/-- The default while the keyword attributes are provided to the tags in the body. -/
def provideAttributes : Behaviour := fun e attributes => do
  providing (← ofEval (keywordLayer attributes)) (default e attributes)

/-- The value that is provided under a name, as it is now. -/
def provided (scope : Scope) (name : Text) (other : Value) : Except EvalFault Value :=
  (Channel.inject scope name other).map scope.current

/-- The default with the escaped text of a provided value in place of the body. -/
def inject (name : Text) (other : Value) : Behaviour := fun e attributes => do
  let v ← ofEval (provided (← scope) name other)
  withBody e attributes (.safe (Text.escape (← ofEval v.shown)))

/-- The default with a provided value as a further attribute. -/
def injectAttribute (name key : Text) : Behaviour := fun e attributes => do
  let v ← ofEval (provided (← scope) name .null)
  default e (.list (valuesOf attributes ++ [.keywords [(.text key, v)]]))

/-- How often behaviours have counted, in brackets. -/
def count : Behaviour := fun _ _ => do
  let s ← surroundings
  let n := s.ledger.tally + 1
  put { s with ledger := { s.ledger with tally := n } }
  pure (.text ('[' :: Text.ofNat n ++ [']']))

/-- Gives up. -/
def refuse (message : Text) : Behaviour := fun _ _ => throw (.raised message)

/-- The description of the body. -/
def describeBody : Acting Text := do
  match ← body with
  | .deferred accessor => do
    let rendered ← isRendered accessor
    pure ("<BodyAccessor: rendered=".toList ++ (Value.bool rendered).describe ++ ['>'])
  | .given v => ofEval v.described

/-- The body between its descriptions before and after it is called. -/
def probe : Behaviour := fun _ _ => do
  let before ← describeBody
  let v ← callBody
  let front ← ofEval ((Value.text before).add v)
  let after ← describeBody
  ofEval (front.add (.text after))

/-- A fixed value. -/
def constant (v : Value) : Behaviour := fun _ _ => pure v

/-- The default with the attributes as a tuple, which breaks the contract. -/
def tupleAttributes : Behaviour := fun e attributes => default e (.tuple (valuesOf attributes))

/-- Another behaviour, once the body was handed on under a name. -/
def handingOn (name : Text) (behaviour : Behaviour) : Behaviour := fun e attributes => do
  match ← body with
  | .deferred accessor => changeScope (·.handOn name accessor)
  | .given _ => pure ()
  behaviour e attributes

/-- The result of calling the body that was handed on under a name, which is taken back first. There
is nothing to call if no body was. -/
def callHanded (name : Text) : Behaviour := fun _ _ => do
  match (← scope).handed? name with
  | some accessor => do
    changeScope (·.handBack name)
    pure (.safe (← call accessor))
  | none => pure (.text [])

/-- A variable as the helpers of tags show it, and the attributes. -/
def helpers (name : Text) : Behaviour := fun _ attributes => do
  let v := ((← scope).value? name).getD .null
  let escaped ← ofEval (Markup.escapeAny v)
  let safe ← ofEval (Markup.safeAny v)
  let html ← serialize attributes
  let shown ← ofEval ([escaped, safe, Markup.escapeValue v].mapM Value.shown)
  pure (.text (Text.join [';'] (shown ++ [html])))

end Behaviour
end ElementTags
