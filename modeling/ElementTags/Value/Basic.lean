import ElementTags.Text.Numeral

/-!
# Template values

The values that variables hold, that attributes resolve to and that filters transform. A text is
plain, marked as safe HTML, or lazy; mappings keep the order in which their keys were first written.
Numbers and truth values that are numerically equal are equal, as are texts of every kind with the
same characters.

A collection can be changed while several places refer to it, and an object is equal to nothing but
itself. Such values carry an identity once a variable or an expression holds them; what has no
identity is referred to from one place only.
-/

namespace ElementTags

/-- What tells one value from all others: the variable that it came with, unless it was made later,
and a number. -/
structure Label where
  origin : Option Text
  number : Nat
  deriving DecidableEq, Inhabited

/-- Who a value is, if something refers to it: two values are one and the same if they have the same
label. -/
abbrev Identity := Option Label

/-- What a view of a mapping shows. -/
inductive ViewKind
  | keys
  | values
  | pairs
  deriving DecidableEq

/-- A value of a template. -/
inductive Value
  /-- The absent value. -/
  | null
  | ellipsis
  | bool (b : Bool)
  | int (n : Int)
  | float (x : Float)
  /-- The result of an undefined operation on numbers, which is the same as itself, but not equal to
  itself. -/
  | notANumber (who : Label)
  | complex (re im : Float)
  /-- A decimal number, known by its text. -/
  | decimal (s : Text)
  /-- A plain text. -/
  | text (s : Text)
  /-- A text marked as safe HTML. -/
  | safe (s : Text)
  /-- A text that is put off until it is shown; the mark tells whether it is safe HTML then. -/
  | lazy (s : Text) (isSafe : Bool)
  | bytes (octets : List UInt8)
  | list (items : List Value) (who : Identity := none)
  | tuple (items : List Value) (who : Identity := none)
  /-- A set, whose items are all different. -/
  | set (items : List Value) (who : Identity := none)
  | dict (pairs : List (Value × Value)) (who : Identity := none)
  /-- The keyword attributes of one tag, merged. -/
  | keywords (pairs : List (Value × Value)) (who : Identity := none)
  /-- A mapping that cannot be changed. -/
  | mapping (pairs : List (Value × Value)) (who : Identity := none)
  /-- A view of a mapping. -/
  | view (kind : ViewKind) (owner : Value)
  /-- Items that are given one after the other. -/
  | stream (items : List Value) (who : Identity := none)
  /-- The bounds of a slice. -/
  | bounds (start stop step : Value)
  /-- An object with a text and attributes. -/
  | object (s : Text) (attributes : List (Text × Value)) (who : Identity := none)
  /-- A function without parameters, known by its result. -/
  | callable (result : Value) (who : Identity := none)
  /-- A method of a value. -/
  | method (owner : Value) (name : Text)
  /-- A function that an expression describes. -/
  | function (which : Nat)

namespace Value

instance : Inhabited Value := ⟨null⟩

/-- The characters of a text that is not lazy. -/
def chars? : Value → Option Text
  | text s => some s
  | safe s => some s
  | _ => none

/-- The characters of a text of any kind. -/
def anyChars? : Value → Option Text
  | text s => some s
  | safe s => some s
  | lazy s _ => some s
  | _ => none

/-- The pairs of a mapping of any kind. -/
def pairs? : Value → Option (List (Value × Value))
  | dict ps _ => some ps
  | keywords ps _ => some ps
  | mapping ps _ => some ps
  | _ => none

/-- The attribute by which an object brings HTML of its own. -/
def htmlName : Text := "__html__".toList

/-- Whether a value is a text marked as safe HTML. -/
def isSafe : Value → Bool
  | safe _ => true
  | _ => false

/-- The mark of safe HTML on a text that is not lazy; other values have none to carry. -/
def markSafe : Value → Value
  | text s => safe s
  | v => v

/-- The identity of a value, if it has one. -/
def identity : Value → Identity
  | notANumber who => some who
  | list _ who => who
  | tuple _ who => who
  | set _ who => who
  | dict _ who => who
  | keywords _ who => who
  | mapping _ who => who
  | stream _ who => who
  | object _ _ who => who
  | callable _ who => who
  | _ => none

/-- A decimal is zero when all its digits are. -/
def isZeroDecimal (s : Text) : Bool :=
  match Text.fraction? s with
  | some (.finite d) => d.digits = 0
  | _ => false

/-- Absent values, false, zeros and everything empty count as false. -/
def isTruthy : Value → Bool
  | null => false
  | bool b => b
  | int n => n ≠ 0
  | float x => !(x == 0.0)
  | complex re im => !(re == 0.0 && im == 0.0)
  | decimal s => !isZeroDecimal s
  | text s => !s.isEmpty
  | safe s => !s.isEmpty
  | lazy s _ => !s.isEmpty
  | bytes octets => !octets.isEmpty
  | list items _ => !items.isEmpty
  | tuple items _ => !items.isEmpty
  | set items _ => !items.isEmpty
  | dict ps _ => !ps.isEmpty
  | keywords ps _ => !ps.isEmpty
  | mapping ps _ => !ps.isEmpty
  | view _ owner => owner.pairs?.any (!·.isEmpty)
  | _ => true

/-- The name of a value's type, as messages show it. -/
def typeName : Value → String
  | null => "NoneType"
  | ellipsis => "ellipsis"
  | bool _ => "bool"
  | int _ => "int"
  | float _ => "float"
  | notANumber _ => "float"
  | complex _ _ => "complex"
  | decimal _ => "Decimal"
  | text _ => "str"
  | safe _ => "SafeString"
  | lazy _ _ => "__proxy__"
  | bytes _ => "bytes"
  | list _ _ => "list"
  | tuple _ _ => "tuple"
  | set _ _ => "set"
  | dict _ _ => "dict"
  | keywords _ _ => "KeywordAttrs"
  | mapping _ _ => "mappingproxy"
  | view .keys _ => "dict_keys"
  | view .values _ => "dict_values"
  | view .pairs _ => "dict_items"
  | stream _ _ => "generator"
  | bounds _ _ _ => "slice"
  | object _ _ _ => "Obj"
  | callable _ _ => "Call"
  | method _ _ => "builtin_function_or_method"
  | function _ => "function"

/-- The parts that a view shows of some pairs. -/
def viewed (pairs : List (Value × Value)) : ViewKind → List Value
  | .keys => pairs.map (·.1)
  | .values => pairs.map (·.2)
  | .pairs => pairs.map fun (k, v) => tuple [k, v]

end Value
end ElementTags
