import ElementTags.Fault
import ElementTags.Value.Equality

/-!
# Texts, sequences and mappings as collections

Counting, indexing, slicing, iterating and searching. A text is the sequence of its one-character
texts, which are plain whatever the text was, and a mapping is the collection of its keys. Negative
positions count from the end.
-/

namespace ElementTags.Value

/-- The one-character texts of a text. -/
def characters (s : Text) : List Value := s.map fun c => text [c]

/-- The items of a collection, in order. -/
def items? (v : Value) : Option (List Value) :=
  match v.anyChars? with
  | some s => some (characters s)
  | none =>
    match v with
    | list xs _ => some xs
    | tuple xs _ => some xs
    | set xs _ => some xs
    | stream xs _ => some xs
    | bytes octets => some (octets.map fun o => int o.toNat)
    | view kind owner => owner.pairs?.map (viewed · kind)
    | v => v.pairs?.map fun ps => ps.map (·.1)

/-- The number of items of a collection; how many items a stream has does not show in advance. -/
def length? (v : Value) : Option Nat :=
  match v with
  | stream _ _ => none
  | v => v.items?.map (·.length)

/-- The item at a position, where negative positions count from the end. -/
def itemAt {α : Type} (items : List α) (position : Int) : Except EvalFault α :=
  let index := if position < 0 then position + items.length else position
  if index < 0 then .error .indexOutOfRange
  else
    match items[index.toNat]? with
    | some v => .ok v
    | none => .error .indexOutOfRange

/-- A bound of a slice that is out of range is moved to the nearest end. -/
def clampBound (length : Nat) (least greatest : Int) (bound : Int) : Int :=
  max least (min greatest (if bound < 0 then bound + length else bound))

/-- The positions of a slice in a sequence of some length. -/
def slicePositions (length : Nat) (start stop step : Option Int) : Except EvalFault (List Nat) :=
  let step := step.getD 1
  if step = 0 then .error .unsuitableValue
  else if 0 < step then
    let first := (start.map (clampBound length 0 length)).getD 0
    let past := (stop.map (clampBound length 0 length)).getD length
    let count := if first < past then ((past - first - 1) / step + 1).toNat else 0
    .ok ((List.range count).map fun (i : Nat) => (first + i * step).toNat)
  else
    let first := (start.map (clampBound length (-1) (length - 1))).getD (length - 1)
    let past := (stop.map (clampBound length (-1) (length - 1))).getD (-1)
    let count := if past < first then ((first - past - 1) / (-step) + 1).toNat else 0
    .ok ((List.range count).map fun (i : Nat) => (first + i * step).toNat)

/-- The items of a slice. -/
def sliceItems {α : Type} (items : List α) (start stop step : Option Int) :
    Except EvalFault (List α) := do
  let positions ← slicePositions items.length start stop step
  pure (positions.filterMap (items[·]?))

/-- A slice of a text or sequence; texts come out plain. -/
def slice (v : Value) (start stop step : Option Int) : Except EvalFault Value :=
  match v.anyChars? with
  | some s => (sliceItems s start stop step).map text
  | none =>
    match v with
    | list xs _ => (sliceItems xs start stop step).map (list ·)
    | tuple xs _ => (sliceItems xs start stop step).map (tuple ·)
    | bytes octets => (sliceItems octets start stop step).map bytes
    | _ => .error .wrongType

/-- The item of a collection under a position or key. -/
def subscript (v key : Value) : Except EvalFault Value :=
  match v.pairs? with
  | some ps =>
    if key.isHashable then
      match lookup ps key with
      | some item => .ok item
      | none => .error .missingKey
    else .error .wrongType
  | none =>
    match key.whole?, v.anyChars?, v with
    | some n, some s, _ => (itemAt s n).map fun c => text [c]
    | some n, none, list xs _ => itemAt xs n
    | some n, none, tuple xs _ => itemAt xs n
    | some n, none, bytes octets => (itemAt octets n).map fun o => int o.toNat
    | _, _, _ => .error .wrongType

/-- Whether a sequence of octets has another one in it, or an octet given by its number. -/
def hasOctets (octets : List UInt8) (item : Value) : Except EvalFault Bool :=
  let asText (os : List UInt8) : Text := os.map fun o => Char.ofNat o.toNat
  match item, item.whole? with
  | bytes pattern, _ => .ok (Text.occursIn (asText pattern) (asText octets))
  | _, some n =>
    if 0 ≤ n && n < 256 then .ok (octets.contains (UInt8.ofNat n.toNat))
    else .error .unsuitableValue
  | _, none => .error .wrongType

/-- Whether a mapping gives the value of a pair to the key of the pair. -/
def hasPair (pairs : List (Value × Value)) (item : Value) : Except EvalFault Bool :=
  match item with
  | tuple [k, v] _ =>
    if k.isHashable then .ok ((lookup pairs k).any (·.equal v)) else .error .wrongType
  | _ => .ok false

/-- Whether pairs have a key. -/
def hasKey (pairs : List (Value × Value)) (key : Value) : Except EvalFault Bool :=
  if key.isHashable then .ok (lookup pairs key).isSome else .error .wrongType

/-- Whether a value can be looked for in a set: a set can, although it cannot be an item. -/
def canBeSought : Value → Bool
  | set _ _ => true
  | v => v.isHashable

/-- Whether a collection has an item; a text has the texts that occur in it. -/
def hasItem (v item : Value) : Except EvalFault Bool :=
  match v.anyChars? with
  | some s =>
    match item.chars? with
    | some pattern => .ok (Text.occursIn pattern s)
    | none => .error .wrongType
  | none =>
    match v with
    | list xs _ => .ok (xs.any (·.equal item))
    | tuple xs _ => .ok (xs.any (·.equal item))
    | stream xs _ => .ok (xs.any (·.equal item))
    | bytes octets => hasOctets octets item
    | set xs _ =>
      if item.canBeSought then .ok (xs.any (·.equal item)) else .error .wrongType
    | view .keys owner => hasKey (owner.pairs?.getD []) item
    | view .values owner => .ok ((viewed (owner.pairs?.getD []) .values).any (·.equal item))
    | view .pairs owner => hasPair (owner.pairs?.getD []) item
    | v =>
      match v.pairs? with
      | some ps => hasKey ps item
      | none => .error .wrongType

/-- Whether all items of the first set are in the second one, which has more items unless `orEqual`
admits as many. -/
def isWithin (orEqual : Bool) (xs ys : List Value) : Bool :=
  xs.all (fun x => ys.any (·.equal x)) && (orEqual || xs.length < ys.length)

/-- Whether the first of two values that hold no others, or of two sets, is smaller. -/
def precedesPlainly (orEqual : Bool) (a b : Value) : Except EvalFault Bool :=
  match a.numeric?, b.numeric? with
  | some x, some y => match Numeric.compare? x y with
    | some .lt => .ok true
    | some .eq => .ok orEqual
    | _ => .ok false
  | _, _ => match a.anyChars?, b.anyChars? with
    | some s, some t => .ok (Text.before s t || (orEqual && s = t))
    | _, _ => match a.setItems?, b.setItems? with
      | some xs, some ys => .ok (isWithin orEqual xs ys)
      | _, _ => match a, b with
        | bytes s, bytes t => .ok (decide (s < t) || (orEqual && s = t))
        | _, _ => match compareDecimals? a b with
          | some order => .ok (order = .lt || (orEqual && order = .eq))
          | none => .error .wrongType

mutual

/-- Whether the first of two values is smaller, for values that are ordered: numbers, texts, sets,
and sequences of one kind, which the first unequal items decide. `orEqual` is the answer for equals.
-/
def precedes (orEqual : Bool) : Value → Value → Except EvalFault Bool
  | list xs _, b => match b with
    | list ys _ => itemsPrecede orEqual xs ys
    | _ => .error .wrongType
  | tuple xs _, b => match b with
    | tuple ys _ => itemsPrecede orEqual xs ys
    | _ => .error .wrongType
  | a, b => precedesPlainly orEqual a b

/-- Whether the first of two sequences is smaller. -/
def itemsPrecede (orEqual : Bool) : List Value → List Value → Except EvalFault Bool
  | [], [] => .ok orEqual
  | [], _ :: _ => .ok true
  | _ :: _, [] => .ok false
  | x :: xs, y :: ys => if equal x y then itemsPrecede orEqual xs ys else precedes orEqual x y

end

end ElementTags.Value
