import ElementTags.Attribute.Entry
import ElementTags.Formula.Eval

/-!
# Resolving attributes

The values that the entries of a tag have in a scope. The entries are resolved in the order in which
they are written; those with a key are gathered in one mapping, in which the last value of a key
wins and the key keeps its first place, and this mapping comes last.
-/

namespace ElementTags

/-! ## Joined operands -/

namespace Operator

variable {α ε : Type}

/-- The operands left over after the tight operators are applied from left to right: the first one,
and the others with the loose operators in front of them. `current` is the operand so far. -/
def tighten (apply : Operator → α → α → Except ε α) (current : α) :
    List (Operator × α) → Except ε (α × List (Operator × α))
  | [] => .ok (current, [])
  | (o, v) :: rest =>
    if o.isTight then do tighten apply (← apply o current v) rest
    else do
      let (first, others) ← tighten apply v rest
      pure (current, (o, first) :: others)

/-- The value of joined operands: first the tight operators are applied, then the loose ones, each
time from left to right. -/
def joinAll (apply : Operator → α → α → Except ε α) (first : α) (others : List (Operator × α)) :
    Except ε α := do
  let (value, loose) ← tighten apply first others
  loose.foldlM (fun v (o, w) => apply o v w) value

/-- What an operator does to the values of its operands. -/
def operation : Operator → BinaryOperation
  | plus => Value.append
  | minus => Value.subtract
  | times => Value.multiply
  | ratio => Value.divide
  | remainder => Value.remainder

end Operator

/-! ## Filters -/

/-- A value after a filter that is applied to something else than a plain value. Its argument is an
expression like any other: an undefined one is absent. -/
def AppliedFilter.apply (v : Value) (f : AppliedFilter) : Scoped Value := do
  match f.argument with
  | some e => FilterExpr.applied f.filter v (some (← e.resolve .null))
  | none => FilterExpr.applied f.filter v none

/-- A value after several filters. -/
def AppliedFilter.applyAll (v : Value) : List AppliedFilter → Scoped Value
  | [] => pure v
  | f :: rest => do
    let next ← AppliedFilter.apply v f
    AppliedFilter.applyAll next rest

/-! ## Values -/

namespace Term

/-- The value of a plain value, where an undefined variable is absent. -/
def plainValue (e : FilterExpr) : Scoped Value := e.resolve .null

/-- The values of operands with the operators in front of them. -/
def operandValues : List (Operator × FilterExpr) → Scoped (List (Operator × Value))
  | [] => pure []
  | (o, e) :: rest => do
    let v ← plainValue e
    let others ← operandValues rest
    pure ((o, v) :: others)

/-- The value of joined operands. All operands are resolved before any operator is applied. -/
def joinedValue (first : FilterExpr) (others : List (Operator × FilterExpr)) : Scoped Value := do
  let v ← plainValue first
  let vs ← operandValues others
  Scoped.reading fun scope =>
    Operator.joinAll Operator.operation (scope.current v)
      (vs.map fun (o, w) => (o, scope.current w))

/-- The value of a name with hyphens. -/
def hyphenatedValue (name : Text) : Scoped Value :=
  Scoped.reading fun scope => .ok ((scope.value? name).getD .null)

mutual

/-- The value of a term. -/
def resolve : Term → Scoped Value
  | plain e => plainValue e
  | hyphenated name => hyphenatedValue name
  | list items filters => do
    let vs ← resolveItems items
    AppliedFilter.applyAll (.list vs) filters
  | dict pairs filters => do
    let ps ← resolvePairs [] pairs
    AppliedFilter.applyAll (.dict ps) filters
  | joined first others filters => do
    let v ← joinedValue first others
    AppliedFilter.applyAll v filters
  | parenthesized code filters => do
    let v ← Formula.run code
    AppliedFilter.applyAll v filters

/-- The values of the items of a list. -/
def resolveItems : List Term → Scoped (List Value)
  | [] => pure []
  | t :: rest => do
    let v ← resolve t
    let vs ← resolveItems rest
    pure (v :: vs)

/-- The pairs of a dictionary, added to those that came before. -/
def resolvePairs (before : List (Value × Value)) :
    List (Text × Term) → Scoped (List (Value × Value))
  | [] => pure before
  | (key, t) :: rest => do
    let v ← resolve t
    resolvePairs (Value.put before (.text key) v) rest

end

end Term

/-! ## Entries -/

namespace Entry

/-- The values without a key and the pairs of those with a key, added to those that came before. -/
def resolveOnto (values : List Value) (pairs : List (Value × Value)) :
    List Entry → Scoped (List Value × List (Value × Value))
  | [] => pure (values, pairs)
  | positional _ t :: rest => do
    let v ← t.resolve
    resolveOnto (values ++ [v]) pairs rest
  | keyword _ key t :: rest => do
    let v ← t.resolve
    resolveOnto values (Value.put pairs (.text key) v) rest

/-- The values of the entries of a tag, as they are after all entries are resolved. -/
def resolveAll (entries : List Entry) : Scoped (List Value) := do
  let (values, pairs) ← resolveOnto [] [] entries
  Scoped.currentAll
    (if entries.any (·.key?.isSome) then values ++ [.keywords pairs] else values)

end Entry
end ElementTags
