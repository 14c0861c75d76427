import ElementTags.Formula.Tree
import ElementTags.Value.Arithmetic

/-!
# Operators of formulas

What the operators and comparisons do with values. Two values are one and the same if they have the
same identity. Values without one are the same if only one value of their kind exists, or if both
come from the same place: one variable, or one constant that is written twice.
-/

namespace ElementTags

/-- What an operator between two values does. -/
def Connective.operation : Connective → BinaryOperation
  | .plus => Value.add
  | .minus => Value.subtract
  | .times => Value.multiply
  | .ratio => Value.divide
  | .ratioDown => Value.divideDown
  | .remainder => Value.remainder
  | .power => Value.power
  | .bitOr => Value.merge
  | .bitXor => Value.combine (· ^^^ ·) Value.contrasted
  | .bitAnd => Value.combine (· &&& ·) Value.intersected
  | .shiftLeft => Value.shift Value.shiftUp
  | .shiftRight => Value.shift Value.shiftDown
  | .matrix => fun _ _ => .error .wrongType

/-- What a sign does. -/
def Sign.operation (s : Sign) (v : Value) : Except EvalFault Value :=
  match s with
  | .negation => .ok (.bool (!v.isTruthy))
  | .minus => v.negate
  | .plus => v.affirm
  | .invert => v.invert

namespace Formula

/-! ## Sameness -/

/-- Whether a value is the only one of its kind: it is absent, a truth value, a small number, a text
without characters or with a common one, or an empty tuple. -/
def isUnique : Value → Bool
  | .null => true
  | .ellipsis => true
  | .bool _ => true
  | .int n => -5 ≤ n && n ≤ 256
  | .text s => s.isEmpty || (s.length = 1 && s.all (·.toNat < 0x100))
  | .bytes octets => octets.length ≤ 1
  | .tuple items _ => items.isEmpty
  | .function _ => true
  | _ => false

/-- Whether two values are equal and of one type. -/
def areAlike (a b : Value) : Bool := a.typeName = b.typeName && a.equal b

mutual

/-- Whether two formulas lead to the same place: the same variable, the same part of it, or equal
constants. -/
def samePlace : Formula → Formula → Bool
  | name s, other => match other with
    | name t => s = t
    | _ => false
  | constant v, other => match other with
    | constant w => areAlike v w
    | _ => false
  | member e s, other => match other with
    | member f t => s = t && samePlace e f
    | _ => false
  | item e k, other => match other with
    | item f l => samePlace e f && samePlace k l
    | _ => false
  | tuple es, other => match other with
    | tuple fs => sameConstants es fs
    | _ => false
  | _, _ => false

/-- Whether two lists of formulas are the same constants. -/
def sameConstants : List Formula → List Formula → Bool
  | [], [] => true
  | constant v :: es, constant w :: fs => areAlike v w && sameConstants es fs
  | _, _ => false

end

/-- The places that the value of a formula is at: those that it is given to, and the one that it
comes from. -/
def places : Formula → List Formula
  | assign s e => name s :: places e
  | e => [e]

/-- Whether the values of two formulas are at the same place. -/
def shareValue (e f : Formula) : Bool := (places e).any fun p => (places f).any (samePlace p)

/-- Whether the values of two formulas are one and the same. -/
def areSame (e : Formula) (a : Value) (f : Formula) (b : Value) : Bool :=
  if isUnique a || isUnique b then areAlike a b
  else
    match a.identity, b.identity with
    | some l, some m => l = m || (shareValue e f && areAlike a b && a.typeName = "tuple")
    | none, none => areAlike a b && shareValue e f
    | _, _ => false

/-- The outcome of a comparison between the values of two formulas. -/
def compareValues (c : Comparison) (e : Formula) (a : Value) (f : Formula) (b : Value) :
    Except EvalFault Bool :=
  match c with
  | .equal => .ok (a.equals b)
  | .unequal => .ok (!a.equals b)
  | .less => Value.precedes false a b
  | .lessOrEqual => Value.precedes true a b
  | .greater => Value.precedes false b a
  | .greaterOrEqual => Value.precedes true b a
  | .within => b.hasItem a
  | .notWithin => (b.hasItem a).map (!·)
  | .same => .ok (areSame e a f b)
  | .notSame => .ok (!areSame e a f b)

end Formula
end ElementTags
