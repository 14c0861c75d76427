import ElementTags.Value.Basic

/-!
# Formulas

The expressions that may stand in parentheses as the value of an attribute: constants, variables,
collections, the operators on values, comparisons, conditions, parts of values, calls, assignments
to variables of the scope, functions, collections that are gathered from other ones, and texts with
values in them.
-/

namespace ElementTags

/-- The operators in front of a value. -/
inductive Sign
  | plus
  | minus
  | invert
  | negation
  deriving DecidableEq

/-- The operators between two values. -/
inductive Connective
  | plus
  | minus
  | times
  | ratio
  | ratioDown
  | remainder
  | power
  | bitOr
  | bitXor
  | bitAnd
  | shiftLeft
  | shiftRight
  | matrix
  deriving DecidableEq

/-- The comparisons. -/
inductive Comparison
  | equal
  | unequal
  | less
  | lessOrEqual
  | greater
  | greaterOrEqual
  | within
  | notWithin
  | same
  | notSame
  deriving DecidableEq

/-- What a value is given to: a name, or several targets that take the items of a collection, at
most one of which takes a list of all items that the others leave. -/
inductive Target
  | name (s : Text)
  | parts (targets : List Target)
  | remaining (target : Target)
  deriving Inhabited

/-- How a collection is gathered from other ones: an item, or a pair of a mapping, for each choice
of items that meets the conditions. -/
inductive Gathering (φ : Type)
  | item (value : φ)
  | pair (key value : φ)
  | each (target : Target) (source : φ) (rest : Gathering φ)
  | only (condition : φ) (rest : Gathering φ)

/-- What is gathered. -/
inductive GatheringKind
  | list
  | set
  | dict
  | stream
  deriving DecidableEq

/-- A part of a text with values in it: characters, or a value with the conversion and the layout in
which it is shown. -/
inductive TextPart (φ : Type)
  | characters (s : Text)
  | field (value : φ) (conversion : Option Char) (layout : List (TextPart φ))

/-- How a parameter of a function takes its argument: by place or by name, by name only, or as one
of those that take all further arguments. -/
inductive ParameterKind
  | placed
  | placedOnly
  | named
  | furtherPlaced
  | furtherNamed
  deriving DecidableEq

/-- An expression in parentheses. -/
inductive Formula
  | constant (value : Value)
  | name (s : Text)
  /-- The value is given to a variable of the scope. -/
  | assign (name : Text) (value : Formula)
  | signed (sign : Sign) (operand : Formula)
  | combined (connective : Connective) (left right : Formula)
  /-- A chain of comparisons, each between neighbours. -/
  | compared (first : Formula) (links : List (Comparison × Formula))
  | both (left right : Formula)
  | either (left right : Formula)
  | choice (condition whenTrue whenFalse : Formula)
  | list (items : List Formula)
  | tuple (items : List Formula)
  | set (items : List Formula)
  /-- Pairs of keys and values; a value without a key is a mapping that gives its pairs. -/
  | dict (pairs : List (Option Formula × Formula))
  /-- All items of a collection, among the items of a display or the arguments of a call. -/
  | spread (items : Formula)
  | gathered (kind : GatheringKind) (gathering : Gathering Formula)
  | item (collection key : Formula)
  | bounds (start stop step : Formula)
  | member (owner : Formula) (name : Text)
  /-- A call; a named argument without a name is a mapping that gives names and values. -/
  | call (function : Formula) (arguments : List Formula) (named : List (Option Text × Formula))
  | interpolated (parts : List (TextPart Formula))
  /-- A function with parameters, each of which may have a default. -/
  | function (parameters : List (ParameterKind × Text × Option Formula)) (body : Formula)

namespace Formula

instance : Inhabited Formula := ⟨constant .null⟩

end Formula
end ElementTags
