import ElementTags.Filter.Expression

/-!
# Attributes as they are written

An attribute list is a list of entries: values with or without a key. A value is a plain value with
filters, a hyphenated name, a list, a dictionary, operands joined by operators, or an expression in
parentheses; all but the first two may be followed by filters.
-/

namespace ElementTags

/-- The operators between the operands of a value. -/
inductive Operator
  | plus
  | minus
  | times
  | ratio
  | remainder
  deriving DecidableEq

namespace Operator

/-- The mark of an operator. -/
def mark : Operator → Char
  | plus => '+'
  | minus => '-'
  | times => '*'
  | ratio => '/'
  | remainder => '%'

/-- The operator of a mark. -/
def ofMark? : Char → Option Operator
  | '+' => some plus
  | '-' => some minus
  | '*' => some times
  | '/' => some ratio
  | '%' => some remainder
  | _ => none

theorem ofMark?_mark (o : Operator) : ofMark? o.mark = some o := by cases o <;> rfl

/-- Whether an operator binds tighter than plus and minus. -/
def isTight : Operator → Bool
  | plus => false
  | minus => false
  | times => true
  | ratio => true
  | remainder => true

end Operator

/-- A filter behind a list, a dictionary, an expression or joined operands. -/
structure AppliedFilter where
  filter : Filter
  argument : Option FilterExpr

/-- The value of an attribute. -/
inductive Term
  /-- An operand with filters. -/
  | plain (value : FilterExpr)
  /-- A name with hyphens. -/
  | hyphenated (name : Text)
  | list (items : List Term) (filters : List AppliedFilter)
  | dict (pairs : List (Text × Term)) (filters : List AppliedFilter)
  /-- Operands joined by operators. -/
  | joined (first : FilterExpr) (others : List (Operator × FilterExpr))
      (filters : List AppliedFilter)
  /-- An expression in parentheses. -/
  | parenthesized (code : Text) (filters : List AppliedFilter)

/-- An attribute with the position at which it starts. -/
inductive Entry
  | positional (start : Nat) (value : Term)
  | keyword (start : Nat) (key : Text) (value : Term)

namespace Entry

/-- The position at which an attribute starts. -/
def start : Entry → Nat
  | positional start _ => start
  | keyword start _ _ => start

/-- The value of an attribute. -/
def value : Entry → Term
  | positional _ value => value
  | keyword _ _ value => value

/-- The key of an attribute, if it has one. -/
def key? : Entry → Option Text
  | positional _ _ => none
  | keyword _ key _ => some key

end Entry
end ElementTags
