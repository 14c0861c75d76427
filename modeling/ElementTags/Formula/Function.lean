import ElementTags.Method.Basic
import ElementTags.Scope

/-!
# Functions and targets

How the arguments of a call are given to the parameters of a function, and how the items of a
collection are given to the targets that take them.
-/

namespace ElementTags

namespace Function

/-- Whether a parameter takes an argument by its place. -/
def isPlaced (kind : ParameterKind) : Bool := kind = .placed || kind = .placedOnly

/-- Whether a parameter takes an argument by its name. -/
def isNamed (kind : ParameterKind) : Bool := kind = .placed || kind = .named

/-- The parameters of a function with the arguments that are given by their places, and the
arguments that are left. -/
def bindPlaced : List (ParameterKind × Text × Option Value) → List Value → Layer × List Value
  | [], vs => ([], vs)
  | (kind, name, _) :: rest, vs =>
    match isPlaced kind, vs with
    | true, v :: vs =>
      let (bound, left) := bindPlaced rest vs
      ((name, v) :: bound, left)
    | _, vs => bindPlaced rest vs

/-- Gives a named argument to the parameter of its name, which has none yet, or else adds it to the
further ones. -/
def bindNamed (f : Function) (bound further : Layer) (name : Text) (v : Value) :
    Except EvalFault (Layer × Layer) :=
  let takesFurther := f.parameters.any (·.1 = .furtherNamed)
  if f.parameters.any fun (kind, s, _) => isNamed kind && s = name then
    if (bound.get? name).isSome then .error .wrongType else .ok (bound ++ [(name, v)], further)
  else if takesFurther then .ok (bound, further ++ [(name, v)])
  else .error .wrongType

/-- The value of a parameter: its argument, or its default. -/
def valueOf (bound further : Layer) (left : List Value)
    (parameter : ParameterKind × Text × Option Value) : Except EvalFault (Text × Value) :=
  let (kind, name, default) := parameter
  match kind with
  | .furtherPlaced => .ok (name, .tuple left)
  | .furtherNamed => .ok (name, .dict (further.map fun (s, v) => (.text s, v)))
  | _ =>
    match (bound.get? name).or default with
    | some v => .ok (name, v)
    | none => .error .wrongType

/-- The values of the parameters of a function in a call. -/
def bind (f : Function) (a : Arguments) : Except EvalFault Layer := do
  let (placed, left) := bindPlaced f.parameters a.positional
  let takesLeft := f.parameters.any (·.1 = .furtherPlaced)
  if !left.isEmpty && !takesLeft then throw .wrongType
  else
    let (bound, further) ← a.named.foldlM (fun (bound, further) (name, v) =>
      f.bindNamed bound further name v) (placed, [])
    f.parameters.mapM (valueOf bound further left)

end Function

namespace Target

/-- Whether a target takes all remaining items. -/
def isRemaining : Target → Bool
  | remaining _ => true
  | _ => false

mutual

/-- The names that a target gives a value to. -/
def bind : Target → Value → Except EvalFault Layer
  | name s, v => .ok [(s, v)]
  | remaining t, v => bind t v
  | parts ts, v =>
    match v.items? with
    | none => .error .wrongType
    | some items => bindAll ts items

/-- The names that several targets give items to. -/
def bindAll : List Target → List Value → Except EvalFault Layer
  | [], [] => .ok []
  | [], _ :: _ => .error .unsuitableValue
  | t :: rest, items =>
    if t.isRemaining then do
      if items.length < rest.length then throw .unsuitableValue
      else
        let count := items.length - rest.length
        let bound ← bind t (.list (items.take count))
        pure (bound ++ (← bindAll rest (items.drop count)))
    else
      match items with
      | [] => .error .unsuitableValue
      | v :: items => do
        let bound ← bind t v
        pure (bound ++ (← bindAll rest items))

end

end Target
end ElementTags
