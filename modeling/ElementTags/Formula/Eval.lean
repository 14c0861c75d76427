import ElementTags.Formula.Function
import ElementTags.Formula.Operation
import ElementTags.Method
import ElementTags.Value.Layout

/-!
# Evaluating formulas

A formula is evaluated from left to right in a scope, which its assignments change, as do the
methods that change a collection. Changes stay when a later part fails. Names that start with an
underscore are out of reach, whether they are variables, attributes or keys. The parameters of
functions and the targets of gatherings come before the variables of the scope, and their names may
be any.

Functions may call each other, but only to some depth.
-/

namespace ElementTags

/-! ## Calls -/

/-- How a function is called. -/
abbrev Caller := Function → Arguments → Scoped Value

namespace Scoped

/-- A new value as the result of an operation. -/
def made (result : Except EvalFault Value) : Scoped Value := do adopt (← ofExcept result)

/-- The result of a method; a value that the method changes has its new content from then on. -/
def settle (owner : Value) (outcome : Outcome) : Scoped Value := do
  match outcome.receiver with
  | some content => record owner (owner.withContent (← adopt content))
  | none => pure ()
  adopt outcome.result

/-- The result of calling a function that was described before. -/
def callFunction (caller : Caller) (which : Nat) (a : Arguments) : Scoped Value := do
  let f? ← reading fun scope => .ok scope.functions[which]?
  match f? with
  | some f => caller f a
  | none => fail .wrongType

/-- The result of calling a method; a method that belongs to a list or the like works on the list as
it is now. -/
def callMethod (owner : Value) (name : Text) (a : Arguments) : Scoped Value := do
  let owner ← current owner
  settle owner (← ofExcept (owner.callMethod name a))

end Scoped

namespace Formula

/-- Whether a name is out of reach. -/
def isHidden (name : Text) : Bool := name.head? = some '_'

/-- Whether a method of a text is out of reach, because it reads attributes by the names in the
text. -/
def isBarred (owner : Value) (name : Text) : Bool :=
  owner.chars?.isSome && (name = "format".toList || name = "format_map".toList)

/-- The argument that tells how a list is sorted, if there is one. -/
def sortingKey? (owner : Value) (name : Text) (a : Arguments) : Option Value :=
  match owner with
  | .list _ _ =>
    if name = "sort".toList then
      (a.named.find? (·.1 = "key".toList)).bind fun (_, v) =>
        match v with
        | .null => none
        | v => some v
    else none
  | _ => none

/-- The result of calling a value that is not a list's method for sorting. -/
def callPlainly (caller : Caller) (v : Value) (a : Arguments) : Scoped Value :=
  match v with
  | .callable result _ =>
    if a.positional.isEmpty && a.named.isEmpty then Scoped.current result
    else Scoped.fail .wrongType
  | .function which => Scoped.callFunction caller which a
  | .method owner called => Scoped.callMethod owner called a
  | _ => Scoped.fail .wrongType

/-- The values by which items are sorted. -/
def rankAll (caller : Caller) (key : Value) :
    List Value → Scoped (List SequenceMethod.Ranked)
  | [] => pure []
  | v :: rest => do
    let rank ← callPlainly caller key { positional := [v] }
    let others ← rankAll caller key rest
    pure (⟨rank, v⟩ :: others)

/-- Sorts a list by what a function makes of its items. -/
def sortBy (caller : Caller) (owner key : Value) (a : Arguments) : Scoped Value := do
  let owner ← Scoped.current owner
  let signature : Signature := .keyed ["key", "reverse"]
  let bound ← Scoped.ofExcept (signature.bind a)
  let isReversed ← Scoped.ofExcept (Method.wholeOr 0 bound 1)
  let ranked ← rankAll caller key (owner.items?.getD [])
  let sorted ← Scoped.ofExcept (SequenceMethod.sortRanked ranked (isReversed ≠ 0))
  Scoped.record owner (owner.withContent (.list sorted))
  pure .null

/-- The result of calling a value. -/
def callValue (caller : Caller) (v : Value) (a : Arguments) : Scoped Value :=
  match v with
  | .method owner called =>
    if isBarred owner called then Scoped.fail .hiddenName
    else
      match sortingKey? owner called a with
      | some key => sortBy caller owner key a
      | none => Scoped.callMethod owner called a
  | v => callPlainly caller v a

/-! ## Parts -/

/-- The attribute or method of a value. -/
def memberOf (v : Value) (name : Text) : Except EvalFault Value :=
  if isHidden name then .error .hiddenName
  else
    match v.member? name with
    | some part => .ok part
    | none => .error .missingAttribute

/-- The bound of a slice. -/
def boundOf : Value → Except EvalFault (Option Int)
  | .null => .ok none
  | v =>
    match v.whole? with
    | some n => .ok (some n)
    | none => .error .wrongType

/-- The step of a slice, which may not be zero. -/
def stepOf (step : Value) : Except EvalFault (Option Int) := do
  let step ← boundOf step
  if step = some 0 then throw .unsuitableValue else pure step

/-- Whether a value has slices. -/
def hasSlices (v : Value) : Bool :=
  v.anyChars?.isSome || match v with
    | .list _ _ => true
    | .tuple _ _ => true
    | .bytes _ => true
    | _ => false

/-- The slice between bounds. The step is looked at before the bounds. -/
def sliceBetween (v start stop step : Value) : Except EvalFault Value := do
  if hasSlices v then
    let step ← stepOf step
    Value.slice v (← boundOf start) (← boundOf stop) step
  else throw .wrongType

/-- The item of a collection under a key, or a slice; hidden names are no keys. -/
def itemUnder (v key : Value) : Except EvalFault Value :=
  match key, key.chars? with
  | .bounds start stop step, _ => sliceBetween v start stop step
  | _, some s => if isHidden s then .error .hiddenName else Value.subscript v key
  | key, none => Value.subscript v key

/-! ## Collections -/

/-- The items of a value that has to be a collection. -/
def itemsOf (v : Value) : Except EvalFault (List Value) :=
  match v.items? with
  | some items => .ok items
  | none => .error .wrongType

/-- A key in front of its value in a dictionary. -/
def addPair (pairs : List (Value × Value)) (key value : Value) :
    Except EvalFault (List (Value × Value)) :=
  if key.isHashable then .ok (Value.put pairs key value) else .error .wrongType

/-- A dictionary of pairs, the last of which with a key counts. -/
def dictOf (pairs : List (Value × Value)) : Except EvalFault Value :=
  (pairs.foldlM (fun all (k, v) => addPair all k v) []).map (.dict ·)

/-- The pairs of a value that has to be a mapping. -/
def pairsOf (v : Value) : Except EvalFault (List (Value × Value)) :=
  match v.pairs? with
  | some pairs => .ok pairs
  | none => .error .wrongType

/-- Pairs of names and values, from a mapping all keys of which have to be texts. -/
def namedOf (v : Value) : Except EvalFault (List (Text × Value)) := do
  (← pairsOf v).mapM fun (k, w) =>
    match k.chars? with
    | some s => .ok (s, w)
    | none => .error .wrongType

/-- Named arguments behind others, none of which may have the same name. -/
def addNamed (named : List (Text × Value)) : List (Text × Value) →
    Except EvalFault (List (Text × Value))
  | [] => .ok named
  | (s, v) :: rest =>
    if named.any (·.1 = s) then .error .wrongType else addNamed (named ++ [(s, v)]) rest

/-- Whether all items of a display are constants. -/
def areConstants (es : List Formula) : Bool :=
  es.all fun
    | constant _ => true
    | _ => false

/-- The set that a display makes: many constants are taken over from a set that is made before. -/
def setFrom (es : List Formula) (vs : List Value) : Except EvalFault Value :=
  match Value.setOf vs with
  | .ok (.set items _) =>
    .ok (.set (if 3 ≤ es.length && areConstants es then Value.copied items else items))
  | result => result

/-- The collection that was gathered; a gathering of plain items has absent keys. -/
def gatheredAs (kind : GatheringKind) (pairs : List (Value × Value)) : Except EvalFault Value :=
  let items := pairs.map (·.2)
  match kind with
  | .list => .ok (.list items)
  | .stream => .ok (.stream items)
  | .set => Value.setOf items
  | .dict => dictOf pairs

/-! ## Texts with values in them -/

/-- A value after a conversion. -/
def converted (conversion : Option Char) (v : Value) : Except EvalFault Value :=
  match conversion with
  | some 'r' => v.described.map .text
  | some 'a' => v.described.map fun s => .text (Text.inAscii s)
  | some _ => v.shownValue
  | none => .ok v

/-- A value as a part of a text. A safe text without a layout is taken as it is. -/
def laidOut (v : Value) (layout : Text) : Except EvalFault Value :=
  match v with
  | .safe s => if layout.isEmpty then .ok (.safe s) else (v.laidOut layout).map .text
  | v => (v.laidOut layout).map .text

/-- The text that parts give together: several are plain, a single one is taken as it is. -/
def joinParts : List Value → Value
  | [part] => part
  | parts => .text (parts.flatMap Value.spell)

/-! ## Formulas -/

/-- The value of a variable, which has to be defined. -/
def variableValue (scope : Scope) (bound : Layer) (name : Text) : Except EvalFault Value :=
  match bound.get? name with
  | some v => .ok (scope.current v)
  | none =>
    if isHidden name then .error .hiddenName
    else
      match scope.value? name with
      | some v => .ok v
      | none => .error .missingKey

/-- The value of a function that is described. -/
def describeFunction (f : Function) : Scoped Value := fun scope =>
  (.ok (.function scope.functions.length), { scope with functions := scope.functions ++ [f] })

mutual

/-- The value of a formula, where some names are bound. -/
def eval (caller : Caller) : Layer → Formula → Scoped Value
  | _, constant v => Scoped.adopt v
  | bound, name s => Scoped.reading fun scope => variableValue scope bound s
  | bound, assign s e => do
    let v ← eval caller bound e
    if isHidden s then Scoped.fail .hiddenName
    else do
      Scoped.change (·.set s v)
      pure v
  | bound, signed s e => do
    let v ← eval caller bound e
    Scoped.made (s.operation v)
  | bound, combined c a b => do
    let x ← eval caller bound a
    let y ← eval caller bound b
    Scoped.made (c.operation (← Scoped.current x) y)
  | bound, compared first links => do
    let v ← eval caller bound first
    evalLinks caller bound first v links
  | bound, both a b => do
    let v ← eval caller bound a
    if v.isTruthy then eval caller bound b else pure v
  | bound, either a b => do
    let v ← eval caller bound a
    if v.isTruthy then pure v else eval caller bound b
  | bound, choice condition a b => do
    let v ← eval caller bound condition
    if v.isTruthy then eval caller bound a else eval caller bound b
  | bound, list es => do
    let vs ← evalAll caller bound es
    Scoped.adopt (.list (← Scoped.currentAll vs))
  | bound, tuple es => do
    let vs ← evalAll caller bound es
    Scoped.adopt (.tuple (← Scoped.currentAll vs))
  | bound, set es => do
    let vs ← evalAll caller bound es
    Scoped.made (setFrom es vs)
  | bound, dict es => do
    let ps ← evalPairs caller bound es
    Scoped.made (dictOf (← Scoped.currentPairs ps))
  | bound, spread e => eval caller bound e
  | bound, gathered kind g => do
    let ps ← gather caller bound g
    Scoped.made (gatheredAs kind (← Scoped.currentPairs ps))
  | bound, item e key => do
    let v ← eval caller bound e
    let k ← eval caller bound key
    Scoped.made (itemUnder (← Scoped.current v) k)
  | bound, bounds a b c => do
    let start ← eval caller bound a
    let stop ← eval caller bound b
    let step ← eval caller bound c
    pure (.bounds start stop step)
  | bound, member e s => do
    let v ← eval caller bound e
    Scoped.made (memberOf v s)
  | bound, call f arguments named => do
    let v ← eval caller bound f
    let vs ← evalAll caller bound arguments
    let ns ← evalNamed caller bound [] named
    callValue caller v ⟨← Scoped.currentAll vs, ns⟩
  | bound, interpolated parts => do
    let vs ← evalParts caller bound parts
    pure (joinParts vs)
  | bound, function parameters body => do
    let parameters ← evalDefaults caller bound parameters
    describeFunction ⟨parameters, body, bound⟩

/-- The values of several formulas, and all items of collections among them. -/
def evalAll (caller : Caller) : Layer → List Formula → Scoped (List Value)
  | _, [] => pure []
  | bound, spread e :: rest => do
    let v ← eval caller bound e
    let items ← Scoped.ofExcept (itemsOf v)
    let vs ← evalAll caller bound rest
    pure (items ++ vs)
  | bound, e :: rest => do
    let v ← eval caller bound e
    let vs ← evalAll caller bound rest
    pure (v :: vs)

/-- The keys and values of a dictionary. -/
def evalPairs (caller : Caller) :
    Layer → List (Option Formula × Formula) → Scoped (List (Value × Value))
  | _, [] => pure []
  | bound, (some k, v) :: rest => do
    let key ← eval caller bound k
    let value ← eval caller bound v
    let ps ← evalPairs caller bound rest
    pure ((key, value) :: ps)
  | bound, (none, v) :: rest => do
    let value ← eval caller bound v
    let pairs ← Scoped.ofExcept (pairsOf value)
    let ps ← evalPairs caller bound rest
    pure (pairs ++ ps)

/-- The named arguments of a call, behind others. -/
def evalNamed (caller : Caller) : Layer → List (Text × Value) → List (Option Text × Formula) →
    Scoped (List (Text × Value))
  | _, before, [] => pure before
  | bound, before, (some s, e) :: rest => do
    let v ← eval caller bound e
    let named ← Scoped.ofExcept (addNamed before [(s, v)])
    evalNamed caller bound named rest
  | bound, before, (none, e) :: rest => do
    let v ← eval caller bound e
    let more ← Scoped.ofExcept (namedOf v)
    let named ← Scoped.ofExcept (addNamed before more)
    evalNamed caller bound named rest

/-- The outcome of a chain of comparisons that starts with the value of a formula: the chain ends at
the first one that does not hold. -/
def evalLinks (caller : Caller) :
    Layer → Formula → Value → List (Comparison × Formula) → Scoped Value
  | _, _, _, [] => pure (.bool true)
  | bound, e, v, (c, f) :: rest => do
    let w ← eval caller bound f
    let holds ← Scoped.ofExcept (compareValues c e (← Scoped.current v) f w)
    if holds then evalLinks caller bound f w rest else pure (.bool false)

/-- The keys and values that are gathered; plain items have absent keys. -/
def gather (caller : Caller) : Layer → Gathering Formula → Scoped (List (Value × Value))
  | bound, .item e => do
    let v ← eval caller bound e
    pure [(.null, v)]
  | bound, .pair k v => do
    let key ← eval caller bound k
    let value ← eval caller bound v
    pure [(key, value)]
  | bound, .each target source rest => do
    let v ← eval caller bound source
    let items ← Scoped.ofExcept (itemsOf v)
    let parts ← items.mapM fun item => do
      let names ← Scoped.ofExcept (target.bind item)
      gather caller (names ++ bound) rest
    pure parts.flatten
  | bound, .only condition rest => do
    let v ← eval caller bound condition
    if v.isTruthy then gather caller bound rest else pure []

/-- The parts of a text with values in it, apart from empty ones. -/
def evalParts (caller : Caller) : Layer → List (TextPart Formula) → Scoped (List Value)
  | _, [] => pure []
  | bound, .characters s :: rest => do
    let vs ← evalParts caller bound rest
    pure (if s.isEmpty then vs else .text s :: vs)
  | bound, .field e conversion layout :: rest => do
    let v ← eval caller bound e
    let v ← Scoped.ofExcept (converted conversion v)
    let parts ← evalParts caller bound layout
    let shown ← Scoped.ofExcept (laidOut v (joinParts parts).spell)
    let vs ← evalParts caller bound rest
    pure (shown :: vs)

/-- The parameters of a function with the values of their defaults. -/
def evalDefaults (caller : Caller) : Layer → List (ParameterKind × Text × Option Formula) →
    Scoped (List (ParameterKind × Text × Option Value))
  | _, [] => pure []
  | bound, (kind, s, some e) :: rest => do
    let v ← eval caller bound e
    let others ← evalDefaults caller bound rest
    pure ((kind, s, some v) :: others)
  | bound, (kind, s, none) :: rest => do
    let others ← evalDefaults caller bound rest
    pure ((kind, s, none) :: others)

end

/-- Calls of functions may be nested to this depth. The number is no setting: it stands for the
depth of calls at which an interpreter runs out of stack. -/
def maxCalls : Nat := 300

/-- The result of calling a function, where so many calls may be nested. -/
def callWithin : Nat → Caller
  | 0, _, _ => Scoped.fail .endlessCalls
  | depth + 1, f, a => do
    let names ← Scoped.ofExcept (f.bind a)
    eval (callWithin depth) (names ++ f.bound) f.body

/-- The result of calling a value from outside of formulas. -/
def apply (v : Value) (a : Arguments) : Scoped Value := callPlainly (callWithin maxCalls) v a

/-- The formula of a piece of code, which is read unless its reading was kept. -/
def read (code : Text) : Scoped Formula := fun scope =>
  match scope.readings.read code with
  | (some e, readings) => (.ok e, scope.lend readings)
  | (none, readings) => (.error .malformedExpression, scope.lend readings)

/-- The value of a piece of code. -/
def run (code : Text) : Scoped Value := do
  let e ← read code
  eval (callWithin maxCalls) [] e

end Formula
end ElementTags
