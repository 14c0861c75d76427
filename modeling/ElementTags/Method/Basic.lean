import ElementTags.Value.Sequence

/-!
# Methods

A method belongs to the values of one type and is called with arguments, some of which have names.
Its signature says how many arguments it takes by their places, which names it knows, and how many
of its parameters need an argument. What a method does is a result and, for those that change the
value they belong to, the new content of that value.
-/

namespace ElementTags

/-- The arguments of a call. -/
structure Arguments where
  positional : List Value := []
  named : List (Text × Value) := []

/-- The parameters of a method. Those without a name have the empty one. -/
structure Signature where
  names : List String
  required : Nat
  /-- How many parameters are given by their places; the others are given by name only. -/
  places : Nat

namespace Signature

/-- No parameters. -/
def none : Signature := ⟨[], 0, 0⟩

/-- Parameters that are given by their places only. -/
def plain (required count : Nat) : Signature := ⟨List.replicate count "", required, count⟩

/-- Parameters that may be left out, and are given by their places or by name. -/
def optional (names : List String) : Signature := ⟨names, 0, names.length⟩

/-- Parameters that may be left out and are given by name only. -/
def keyed (names : List String) : Signature := ⟨names, 0, 0⟩

/-- Arguments by the parameters, after one more with a name. -/
def addNamed (s : Signature) (bound : List (Option Value)) (name : Text) (v : Value) :
    Except EvalFault (List (Option Value)) :=
  match s.names.findIdx? fun n => !n.isEmpty && n.toList = name with
  | some i =>
    match bound[i]? with
    | some Option.none => .ok (bound.set i (some v))
    | _ => .error .wrongType
  | Option.none => .error .wrongType

/-- The argument of each parameter. -/
def bind (s : Signature) (a : Arguments) : Except EvalFault (List (Option Value)) := do
  if s.places < a.positional.length then throw .wrongType
  else
    let given := a.positional.map some
    let bound := given ++ List.replicate (s.names.length - given.length) Option.none
    let bound ← a.named.foldlM (fun bound (name, v) => s.addNamed bound name v) bound
    if (bound.take s.required).all (·.isSome) then pure bound else throw .wrongType

end Signature

/-- What a method gives, and the new content of the value that it belongs to if it changes it. -/
structure Outcome where
  result : Value
  receiver : Option Value := none

/-- A method of the values with contents of some kind. -/
structure Method (α : Type) where
  name : String
  signature : Signature
  run : α → List (Option Value) → Except EvalFault Outcome

namespace Method

/-- A method that changes nothing. -/
def reading {α : Type} (name : String) (signature : Signature)
    (f : α → List (Option Value) → Except EvalFault Value) : Method α :=
  ⟨name, signature, fun owner arguments => (f owner arguments).map (⟨·, none⟩)⟩

/-- A method without parameters that changes nothing and never fails. -/
def simple {α : Type} (name : String) (f : α → Value) : Method α :=
  reading name .none fun owner _ => .ok (f owner)

/-- A method that changes the value that it belongs to and gives nothing. -/
def changing {α : Type} (name : String) (signature : Signature)
    (f : α → List (Option Value) → Except EvalFault Value) : Method α :=
  ⟨name, signature, fun owner arguments => (f owner arguments).map (⟨.null, some ·⟩)⟩

/-- The method of a name. -/
def find? {α : Type} (methods : List (Method α)) (name : Text) : Option (Method α) :=
  methods.find? (·.name.toList = name)

/-- The outcome of calling a method. -/
def call {α : Type} (m : Method α) (owner : α) (a : Arguments) : Except EvalFault Outcome := do
  m.run owner (← m.signature.bind a)

/-! ## Arguments -/

/-- The argument of a parameter, if there is one. -/
def argument? (arguments : List (Option Value)) (place : Nat) : Option Value :=
  (arguments[place]?).join

/-- The argument of a parameter that needs one. -/
def argument (arguments : List (Option Value)) (place : Nat) : Value :=
  (argument? arguments place).getD .null

/-- An argument that has to be a text. -/
def asText (v : Value) : Except EvalFault Text :=
  match v.chars? with
  | some s => .ok s
  | none => .error .wrongType

/-- An argument that has to be a whole number. -/
def asWhole (v : Value) : Except EvalFault Int :=
  match v.whole? with
  | some n => .ok n
  | none => .error .wrongType

/-- An argument that has to be a collection. -/
def asItems (v : Value) : Except EvalFault (List Value) :=
  match v.items? with
  | some items => .ok items
  | none => .error .wrongType

/-- The whole number that an argument is, or a default if there is no argument. -/
def wholeOr (default : Int) (arguments : List (Option Value)) (place : Nat) :
    Except EvalFault Int :=
  match argument? arguments place with
  | some v => asWhole v
  | none => .ok default

/-- The text that an argument is, or a default if there is no argument. -/
def textOr (default : String) (arguments : List (Option Value)) (place : Nat) :
    Except EvalFault Text :=
  match argument? arguments place with
  | some v => asText v
  | none => .ok default.toList

/-- A bound among positions: a whole number, or none if the argument is missing or absent. -/
def boundAt (arguments : List (Option Value)) (place : Nat) : Except EvalFault (Option Int) :=
  match argument? arguments place with
  | none => .ok none
  | some .null => .ok none
  | some v => (asWhole v).map some

/-- The positions between two bounds, where negative ones count from the end: the first one, and how
far the last one is behind it, unless it is in front of it. -/
def window (length : Nat) (start stop : Option Int) : Option (Nat × Nat) :=
  let place (n : Int) : Int := if n < 0 then max 0 (n + length) else n
  let first := place (start.getD 0)
  let past := min (place (stop.getD length)) length
  if past < first then none else some (first.toNat, (past - first).toNat)

end Method
end ElementTags
