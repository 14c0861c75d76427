import ElementTags.Fault
import ElementTags.Formula.Readings
import ElementTags.Value.Equality
import ElementTags.Value.Identity

/-!
# Scopes

A scope is the stack of layers in which a template looks up its variables. Writing goes to the
innermost layer, reading to the innermost layer that has the name. The outermost layer of a new
scope holds the constants, the next one the data of the template.

A scope also knows what became of the collections that were changed, and the functions that
expressions described. What a variable holds is current only after these changes are put into it.

While something is evaluated in a scope, the engine lends it the readings of code that it keeps.

Behaviours may hand on the body of their tag to other tags in the same scope. Templates do not see
these bodies.
-/

namespace ElementTags

/-- The variables of one layer, in the order in which they were first set. -/
abbrev Layer := List (Text × Value)

namespace Layer

/-- The value of a name in a layer. -/
def get? : Layer → Text → Option Value
  | [], _ => none
  | (n, v) :: rest, name => if n = name then some v else get? rest name

/-- A layer after setting a name, which keeps its place if it was there. -/
def set : Layer → Text → Value → Layer
  | [], name, value => [(name, value)]
  | (n, v) :: rest, name, value =>
    if n = name then (n, value) :: rest else (n, v) :: set rest name value

@[simp] theorem get?_nil (name : Text) : get? [] name = none := rfl

theorem get?_set (layer : Layer) (name other : Text) (value : Value) :
    (layer.set name value).get? other = if name = other then some value else layer.get? other := by
  induction layer with
  | nil => simp [set, get?]
  | cons entry rest ih =>
    obtain ⟨n, v⟩ := entry
    by_cases h : n = name
    · subst h
      by_cases h' : n = other <;> simp [set, get?, h']
    · by_cases h' : n = other
      · subst h'
        simp [set, get?, h, Ne.symm h]
      · simp [set, get?, h, h', ih]

/-- A layer as a mapping whose keys are sorted. -/
def toDict (layer : Layer) : Value :=
  .dict ((layer.mergeSort fun a b => !Text.before b.1 a.1).map fun (n, v) => (.text n, v))

end Layer

/-- A function that an expression described: its parameters with their defaults, what it computes,
and the names that were bound where it stands. -/
structure Function where
  parameters : List (ParameterKind × Text × Option Value)
  body : Formula
  bound : Layer

/-- A body of a tag in a scope: the number of bodies there were in the scope before. -/
abbrev Accessor := Nat

/-- A stack of layers, innermost first, and whether written values are escaped. -/
structure Scope where
  layers : List Layer
  autoescape : Bool
  /-- Whether a template is being rendered. -/
  inTemplate : Bool := false
  /-- The new contents of the collections that were changed. -/
  changes : List (Label × Value) := []
  /-- How many labels were given to values that did not come with the data. -/
  labelCount : Nat := 0
  /-- The functions that were described. -/
  functions : List Function := []
  /-- The readings of code that were lent to the scope. -/
  readings : Readings := .nothing
  /-- The bodies that were handed on, by name, the latest first. -/
  handed : List (Text × Accessor) := []

namespace Scope

/-- The names that every template knows. -/
def constants : Layer :=
  [("True".toList, .bool true), ("False".toList, .bool false), ("None".toList, .null)]

/-- The data of a template, in which every value has an identity. -/
def identifiedData (data : Layer) : Layer :=
  data.map fun (name, v) => (name, (v.identified (some name) 0).1)

/-- The scope of a template that is given some data. -/
def ofData (data : Layer) (autoescape : Bool) : Scope :=
  { layers := [identifiedData data, constants], autoescape := autoescape }

/-- The scope with other readings of code. -/
def lend (scope : Scope) (readings : Readings) : Scope := { scope with readings := readings }

/-- The scope after a body was handed on under a name. -/
def handOn (scope : Scope) (name : Text) (accessor : Accessor) : Scope :=
  { scope with handed := (name, accessor) :: scope.handed }

/-- The body that was handed on under a name. -/
def handed? (scope : Scope) (name : Text) : Option Accessor :=
  (scope.handed.find? (·.1 = name)).map (·.2)

/-- The scope without the bodies that were handed on under a name. -/
def handBack (scope : Scope) (name : Text) : Scope :=
  { scope with handed := scope.handed.filter (·.1 ≠ name) }

/-- The number of layers. -/
def depth (scope : Scope) : Nat := scope.layers.length

/-- The value of a name as it was set: the one of the innermost layer that has it. -/
def get? (scope : Scope) (name : Text) : Option Value :=
  scope.layers.findSome? (·.get? name)

/-- The value of a name as it was set, or absent. -/
def get (scope : Scope) (name : Text) : Value := (scope.get? name).getD .null

/-- The scope after setting a name in its innermost layer. -/
def set (scope : Scope) (name : Text) (value : Value) : Scope :=
  match scope.layers with
  | [] => { scope with layers := [[(name, value)]] }
  | top :: rest => { scope with layers := top.set name value :: rest }

/-- The scope with a new innermost layer. -/
def push (scope : Scope) (layer : Layer) : Scope := { scope with layers := layer :: scope.layers }

/-- The innermost layer and the scope without it; the last layer stays. -/
def pop? (scope : Scope) : Option (Layer × Scope) :=
  match scope.layers with
  | top :: next :: rest => some (top, { scope with layers := next :: rest })
  | _ => none

/-- The scope without its innermost layer, as far as it can be removed. -/
def dropTop (scope : Scope) : Scope :=
  match scope.pop? with
  | some (_, rest) => rest
  | none => scope

/-! ## Changed values -/

/-- The new content of the value with a label, if it was changed. -/
def changed? (scope : Scope) (label : Label) : Option Value :=
  (scope.changes.find? (·.1 = label)).map (·.2)

/-- A value as it is now. -/
def current (scope : Scope) (v : Value) : Value :=
  if scope.changes.isEmpty then v else v.revised scope.changed?

/-- The value of a name as it is now. -/
def value? (scope : Scope) (name : Text) : Option Value := (scope.get? name).map scope.current

/-- A value with identities, and the scope in which they are taken. -/
def adopt (scope : Scope) (v : Value) : Value × Scope :=
  let (w, count) := v.identified none scope.labelCount
  (w, { scope with labelCount := count })

/-- The scope after the value with a label was changed. What was changed before and holds the value
has the new content, too. -/
def record (scope : Scope) (label : Label) (content : Value) : Scope :=
  let content := content.revised fun l => if l = label then none else scope.changed? l
  let revise (v : Value) : Value := v.revised fun l => if l = label then some content else none
  let others := (scope.changes.filter (·.1 ≠ label)).map fun (l, v) => (l, revise v)
  { scope with changes := (label, content) :: others }

theorem current_of_changes_eq_nil {scope : Scope} (h : scope.changes = []) (v : Value) :
    scope.current v = v := by
  simp [current, h]

@[simp] theorem current_ofData (data : Layer) (autoescape : Bool) (v : Value) :
    (ofData data autoescape).current v = v := rfl

end Scope

/-! ## Computations in a scope -/

/-- A computation that reads and changes a scope and may fail; what it changed before it failed
stays changed. -/
abbrev Scoped := ExceptT EvalFault (StateM Scope)

namespace Scoped

/-- A computation that does not touch the scope. -/
def ofExcept {α : Type} (result : Except EvalFault α) : Scoped α := fun scope => (result, scope)

/-- A computation that only reads the scope. -/
def reading {α : Type} (f : Scope → Except EvalFault α) : Scoped α := fun scope => (f scope, scope)

/-- A change of the scope. -/
def change (f : Scope → Scope) : Scoped Unit := fun scope => (.ok (), f scope)

/-- A failure. -/
def fail {α : Type} (fault : EvalFault) : Scoped α := fun scope => (.error fault, scope)

/-- A value as it is now. -/
def current (v : Value) : Scoped Value := reading fun scope => .ok (scope.current v)

/-- Values as they are now. -/
def currentAll (vs : List Value) : Scoped (List Value) :=
  reading fun scope => .ok (vs.map scope.current)

/-- The keys and values of pairs as they are now. -/
def currentPairs (ps : List (Value × Value)) : Scoped (List (Value × Value)) :=
  reading fun scope => .ok (ps.map fun (k, v) => (scope.current k, scope.current v))

/-- A value with identities. -/
def adopt (v : Value) : Scoped Value := fun scope =>
  let (w, after) := scope.adopt v
  (.ok w, after)

/-- Gives a value new content, if it can be referred to. -/
def record (v content : Value) : Scoped Unit :=
  match v.identity with
  | some label => change (·.record label content)
  | none => pure ()

/-- What an action leads to if it fails is decided by the fault. -/
def recover {α : Type} (action : Scoped α) (handler : EvalFault → Except EvalFault α) : Scoped α :=
  fun scope =>
    match action scope with
    | (.ok a, after) => (.ok a, after)
    | (.error fault, after) => (handler fault, after)

end Scoped
end ElementTags
