import ElementTags.Formula.Eval

/-!
# Variables

A variable is written as a number or as a path of names between points. The first name of a path is
looked up in the scope, each further one in the value found so far: as a key, as an attribute or
method, or as a position. Functions and methods that are found on the way are called, and one that
cannot be called without arguments leads to nothing.
-/

namespace ElementTags

/-- What the text of a variable stands for. -/
inductive Reading
  | number (value : Value)
  | path (first : Text) (rest : List Text)

/-- A variable: its text, and what the text stands for. -/
structure Variable where
  text : Text
  reading : Reading

namespace Variable

/-- The number that a text spells: a floating-point one if it has a point or an exponent mark, but
not if the point comes last. -/
def number? (s : Text) : Option Value :=
  if s.any fun c => c = '.' || c = 'e' || c = 'E' then
    if s.getLast? = some '.' then none else (Text.fraction? s).map fun n => .float (Value.floatOf n)
  else (Text.integer? s).map .int

/-- The names of a path. -/
def pathOf (s : Text) : Reading :=
  match Text.pieces '.' s with
  | first :: rest => .path first rest
  | [] => .path s []

/-- Whether a name in a path starts with an underscore. -/
def isHidden (s : Text) : Bool := s.head? = some '_' || Text.occursIn ['.', '_'] s

/-- The variable of a text. No name of a path may start with an underscore. -/
def ofText (s : Text) : Except FilterFault Variable :=
  match number? s with
  | some n => .ok ⟨s, .number n⟩
  | none => if isHidden s then .error (.hiddenName s) else .ok ⟨s, pathOf s⟩

/-- Whether a value can be called, but not without arguments. -/
def needsArguments (scope : Scope) : Value → Bool
  | .method owner name => owner.needsArguments name
  | .function which =>
    match scope.functions[which]? with
    | some f => (f.bind {}).toOption.isNone
    | none => true
  | _ => false

/-- Whether a value can be called. -/
def canBeCalled : Value → Bool
  | .callable _ _ => true
  | .function _ => true
  | .method _ _ => true
  | _ => false

/-- What something that needs arguments leads to when it is called without them: nothing while a
template is rendered, and a fault elsewhere. Methods of lazy texts never tell what they need. -/
def uncalled (scope : Scope) : Value → Except EvalFault Value
  | .method (.lazy _ _) _ => .error .wrongType
  | _ => if scope.inTemplate then .ok (.text []) else .error .missingAttribute

/-- A value that can be called is replaced by its result. -/
def called (v : Value) : Scoped Value := do
  let needs ← Scoped.reading fun scope => .ok (needsArguments scope v)
  if needs then Scoped.reading fun scope => uncalled scope v
  else if canBeCalled v then Formula.apply v {}
  else pure v

/-- The item that a name in a path spells the position of. -/
def position? (v : Value) (name : Text) : Option Value :=
  match Text.integer? name with
  | none => none
  | some n =>
    match Value.subscript v (.int n) with
    | .ok item => some item
    | .error _ => none

/-- What a name in a path leads to from a value, before it is called. -/
def step? (v : Value) (name : Text) : Option Value :=
  (v.pairs?.bind (Value.lookup · (.text name))).or ((v.member? name).or (position? v name))

/-- What is found is called, and what is not found is undefined. -/
def found (v? : Option Value) : Scoped Value :=
  match v? with
  | some v => do Scoped.current (← called v)
  | none => Scoped.fail .undefinedVariable

/-- Where the names of a path lead to from a value. -/
def follow (v : Value) : List Text → Scoped Value
  | [] => pure v
  | name :: rest => do
    let next ← found (step? v name)
    follow next rest

/-- The value of a variable in a scope. -/
def resolve (v : Variable) : Scoped Value :=
  match v.reading with
  | .number n => pure n
  | .path first rest => do
    let start ← Scoped.reading fun scope => .ok (scope.value? first)
    follow (← found start) rest

end Variable
end ElementTags
