import ElementTags.Formula.Tree

/-!
# How deep formulas are nested

Formulas may not be nested too deep. A variable counts as two brackets within each other, and every
part, item, slice, call, assignment and display as one around its own parts, whatever brackets are
written. An operand that binds looser than its operator counts as one in parentheses.
-/

namespace ElementTags.Formula

/-- No formula is nested deeper than this. -/
def maxNesting : Nat := 200

/-- How tight a construction binds. -/
def tightness : Formula → Nat
  | function _ _ => 1
  | choice _ _ _ => 1
  | either _ _ => 2
  | both _ _ => 3
  | signed .negation _ => 4
  | compared _ _ => 5
  | combined c _ _ =>
    match c with
    | .bitOr => 6
    | .bitXor => 7
    | .bitAnd => 8
    | .shiftLeft => 9
    | .shiftRight => 9
    | .plus => 10
    | .minus => 10
    | .power => 13
    | _ => 11
  | signed _ _ => 12
  | _ => 14

/-- The depth of an operand of some depth where nothing looser than `level` can stand. -/
def enclosed (level : Nat) (e : Formula) (depth : Nat) : Nat :=
  if e.tightness < level then depth + 1 else depth

mutual

/-- How deep a formula is nested where nothing looser than `level` can stand. -/
def nesting (level : Nat) : Formula → Nat
  | constant _ => 0
  | name _ => 2
  | assign _ e => 1 + max 1 (nesting 0 e)
  | signed s e =>
    let own := tightness (signed s e)
    enclosed level (signed s e) (nesting own e)
  | combined c a b =>
    let own := tightness (combined c a b)
    let (left, right) := if c = .power then (own + 1, own) else (own, own + 1)
    enclosed level (combined c a b) (max (nesting left a) (nesting right b))
  | compared first links =>
    enclosed level (compared first links) (max (nesting 6 first) (nestingLinks links))
  | both a b => enclosed level (both a b) (max (nesting 3 a) (nesting 4 b))
  | either a b => enclosed level (either a b) (max (nesting 2 a) (nesting 3 b))
  | choice condition a b =>
    enclosed level (choice condition a b)
      (max (nesting 2 condition) (max (nesting 2 a) (nesting 1 b)))
  | list es => 1 + nestingAll es
  | tuple es => 1 + nestingAll es
  | set es => 1 + nestingAll es
  | dict ps => 1 + nestingPairs ps
  | spread e => nesting 6 e
  | gathered _ g => 1 + nestingGathering g
  | item e key => 1 + max 1 (max (nesting 0 e) (nesting 0 key))
  | bounds a b c => 1 + max 1 (max (nesting 0 a) (max (nesting 0 b) (nesting 0 c)))
  | member e _ => 1 + max 1 (nesting 0 e)
  | call f arguments named =>
    1 + max 1 (max (nesting 0 f) (max (nestingAll arguments) (nestingNamed named)))
  | interpolated _ => 0
  | function parameters e =>
    enclosed level (function parameters e) (max (nestingDefaults parameters) (nesting 1 e))

/-- How deep several formulas are nested. -/
def nestingAll : List Formula → Nat
  | [] => 0
  | e :: rest => max (nesting 0 e) (nestingAll rest)

/-- How deep the pairs of a dictionary are nested. -/
def nestingPairs : List (Option Formula × Formula) → Nat
  | [] => 0
  | (some k, v) :: rest => max (nesting 0 k) (max (nesting 0 v) (nestingPairs rest))
  | (none, v) :: rest => max (nesting 6 v) (nestingPairs rest)

/-- How deep named arguments are nested. -/
def nestingNamed : List (Option Text × Formula) → Nat
  | [] => 0
  | (_, e) :: rest => max (nesting 0 e) (nestingNamed rest)

/-- How deep the defaults of parameters are nested. -/
def nestingDefaults : List (ParameterKind × Text × Option Formula) → Nat
  | [] => 0
  | (_, _, some e) :: rest => max (nesting 1 e) (nestingDefaults rest)
  | (_, _, none) :: rest => nestingDefaults rest

/-- How deep the operands of comparisons are nested. -/
def nestingLinks : List (Comparison × Formula) → Nat
  | [] => 0
  | (_, e) :: rest => max (nesting 6 e) (nestingLinks rest)

/-- How deep the parts of a gathering are nested. -/
def nestingGathering : Gathering Formula → Nat
  | .item e => nesting 0 e
  | .pair k v => max (nesting 0 k) (nesting 0 v)
  | .each _ source rest => max (nesting 2 source) (nestingGathering rest)
  | .only condition rest => max (nesting 2 condition) (nestingGathering rest)

end

end ElementTags.Formula
