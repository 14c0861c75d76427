import ElementTags.Template.Render

/-!
# Sessions

A session is an engine with its ledger, one library of tags, the templates that can be included, and
what was made so far: tags, compiled templates and stored scopes. Each step gives an answer or a
fault, and the session goes on after a fault with what the step had changed until then.
-/

namespace ElementTags

/-- A scope that is kept between steps, with the templates that were included and the bodies of the
tags that were rendered in it. -/
structure StoredScope where
  scope : Scope
  included : List Included := []
  bodies : List Cell := []

/-- A scope in which nothing was rendered yet. -/
def StoredScope.start (scope : Scope) : StoredScope where
  scope := scope

/-- An engine and what was made with it. -/
structure Session where
  ledger : Ledger
  library : Library := {}
  /-- The templates that can be included, by name. -/
  sources : List (Text × Text) := []
  /-- The tags that were made, the latest first. -/
  tags : List Tag := []
  /-- The compiled templates by name, the latest first. -/
  templates : List (Text × List Node) := []
  /-- The stored scopes by name, the latest first. -/
  scopes : List (Text × StoredScope) := []

namespace Session

/-- A session with a new engine, whose host has some block tags. -/
def start (configuration : Configuration) (tracing : Bool) (sources : List (Text × Text))
    (hosts : List HostTag := []) : Session :=
  { ledger := Ledger.start configuration tracing, library := { hosts := hosts },
    sources := sources }

/-- A step may change the session, also when it fails. -/
abbrev Step := ExceptT Fault (StateM Session)

/-- How a tag is made. -/
inductive Definition
  /-- From the class of plain tags. -/
  | plain (options : TagOptions)
  /-- From a class with a name. -/
  | subclass (c : TagClass) (options : TagOptions)
  /-- From a function, which the class is named after. -/
  | function (name : Text) (c : TagClass)

/-- The tag that a definition makes. -/
def Definition.make : Definition → Except Fault Tag
  | plain options => TagClass.plain.make options
  | subclass c options => do (← TagClass.named c.className c).make options
  | function name c => do (← TagClass.ofFunction name c).make {}

/-- A result that may be a fault. -/
def ofExcept {α : Type} (result : Except Fault α) : Step α := fun session => (result, session)

/-- A value of the session. -/
def reading {α : Type} (f : Session → α) : Step α := fun session => (.ok (f session), session)

/-- Changes the session. -/
def change (f : Session → Session) : Step Unit := fun session => (.ok (), f session)

/-- What is found under a name, which has to be something. -/
def found {α : Type} : Option α → Step α
  | some a => pure a
  | none => ofExcept (.error (.eval .missingKey))

/-- What stands under a name in a list that has the latest first. -/
def byName? {α : Type} (entries : List (Text × α)) (name : Text) : Option α :=
  (entries.find? (·.1 = name)).map (·.2)

/-- The lines that were logged since they were last taken. -/
def takeLines : Step (List LogLine) := fun session =>
  let (lines, ledger) := session.ledger.takeLines
  (.ok lines, { session with ledger := ledger })

/-- The latest tag of a name, registered or not. -/
def tag (name : Text) : Step Tag := do
  found (← reading fun s => s.tags.find? fun t => t.name = name)

/-- The names of the registered tags. -/
def registered : Step (List Text) := reading fun s => s.library.names

/-- Makes a tag, and registers it if asked to. -/
def define (definition : Definition) (register : Bool) : Step Tag := do
  let t ← ofExcept definition.make
  change fun s => { s with tags := t :: s.tags }
  if register then change fun s => { s with library := s.library.register t }
  pure t

/-- Registers a tag that was made before. -/
def register (name : Text) : Step Unit := do
  let t ← tag name
  change fun s => { s with library := s.library.register t }

/-- Removes a tag that was made before from the library. -/
def unregister (name : Text) : Step Unit := do
  let t ← tag name
  change fun s => { s with library := s.library.unregister t.name }

/-- Gives the engine the settings of a configuration. The handler of the log stays. -/
def configure (configuration : Configuration) : Step Unit :=
  change fun s => { s with ledger := { s.ledger with
    configuration := { s.ledger.configuration with settings := configuration.settings } } }

/-- Compiles a template under a name. If that fails, an earlier template of the name stays. -/
def compile (name source : Text) : Step (List Node) := do
  let nodes ← fun session =>
    match Node.ofTemplate session.library none source session.ledger with
    | (result, ledger) => (result, { session with ledger := ledger })
  change fun s => { s with templates := (name, nodes) :: s.templates }
  pure nodes

/-- Stores a scope under a name. -/
def store (name : Text) (scope : Scope) : Step Unit :=
  change fun s => { s with scopes := (name, .start scope) :: s.scopes }

/-- A stored scope. -/
def stored (name : Text) : Step StoredScope := do found (← reading fun s => byName? s.scopes name)

/-- Renders nodes in a scope; what becomes of the scope is part of the result. The scope knows that
a template is rendered as long as that takes. -/
def renderOn (nodes : List Node) (place : StoredScope) : Step (Except Fault Text × StoredScope) :=
  fun session =>
    match (Shelf.mk session.library session.sources).render nodes
        ⟨session.ledger, { place.scope with inTemplate := true }, place.included, place.bodies⟩ with
    | (result, stage) =>
      (.ok (result, ⟨{ stage.scope with inTemplate := false }, stage.included, stage.bodies⟩),
        { session with ledger := stage.ledger })

/-- Renders a template in a new scope. -/
def render (name : Text) (scope : Scope) : Step Text := do
  let nodes ← found (← reading fun s => byName? s.templates name)
  let (result, _) ← renderOn nodes (.start scope)
  ofExcept result

/-- Renders a template in a stored scope, which keeps the changes, also when rendering fails. -/
def renderStored (name scopeName : Text) : Step Text := do
  let nodes ← found (← reading fun s => byName? s.templates name)
  let place ← stored scopeName
  let (result, after) ← renderOn nodes place
  change fun s => { s with scopes := (scopeName, after) :: s.scopes }
  ofExcept result

/-- The value that is provided under a name in a stored scope. -/
def inject (scopeName name : Text) : Step Value := do
  let place ← stored scopeName
  match Channel.inject place.scope name .null with
  | .ok v => pure (place.scope.current v)
  | .error fault => ofExcept (.error (.eval fault))

/-- Performs an action of a tag in a scope, with a value as the body. -/
def act {α : Type} (scope : Scope) (body : Value) (action : Acting α) : Step α := fun session =>
  match Script.runWith body action ⟨session.ledger, scope⟩ with
  | (result, s) => (result, { session with ledger := s.ledger })

/-- Runs a tag with its attributes, behind which the body has to stand. -/
def run (name : Text) (scope : Scope) (arguments : List Value) : Step Value := do
  let t ← tag name
  match arguments.getLast? with
  | none => ofExcept (.error (.contract (.missingBody t.name)))
  | some body => act scope body (t.act arguments.dropLast)

/-- Writes a tag in the default way. -/
def writeTag (name : Text) (scope : Scope) (attributes body : Value) : Step Value := do
  let t ← tag name
  act scope body (Behaviour.default t.element attributes)

/-- Writes values as attributes. -/
def serialize (attributes : Value) : Step Text := fun session =>
  let (result, lines) := Markup.serializeValue session.ledger.configuration attributes
  (result, { session with ledger := session.ledger.log lines })

/-- What a computation comes to in a new scope. -/
def evaluate {α : Type} (x : Scoped α) (scope : Scope) : Step α := fun session =>
  match session.ledger.evaluate x scope with
  | (result, ledger, _) => (result.mapError .eval, { session with ledger := ledger })

/-- The values of entries in a new scope, and the attributes as they are written. -/
def resolve (entries : List Entry) (scope : Scope) : Step (List Value × Text) := do
  let values ← evaluate (Entry.resolveAll entries) scope
  let html ← serialize (.list values)
  pure (values, html)

end Session
end ElementTags
