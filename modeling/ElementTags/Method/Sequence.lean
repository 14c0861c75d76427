import ElementTags.Method.Basic

/-!
# Methods of lists and tuples

Lists are searched, changed and sorted, tuples are only searched. Sorting keeps the order of equal
items, and in reverse it keeps it too.
-/

namespace ElementTags.SequenceMethod

open Method

/-! ## Searching -/

/-- The number of items that are equal to a value. -/
def count (items : List Value) (arguments : List (Option Value)) : Except EvalFault Value :=
  .ok (.int ((items.filter (·.equal (argument arguments 0))).length))

/-- A bound that has to be a whole number if it is given. -/
def givenBound (arguments : List (Option Value)) (place : Nat) : Except EvalFault (Option Int) :=
  match argument? arguments place with
  | none => .ok none
  | some v => (asWhole v).map some

/-- The position of the first item between two bounds that is equal to a value. -/
def index (items : List Value) (arguments : List (Option Value)) : Except EvalFault Value := do
  let v := argument arguments 0
  let start ← givenBound arguments 1
  let stop ← givenBound arguments 2
  match window items.length start stop with
  | none => throw .unsuitableValue
  | some (first, count) =>
    match ((items.drop first).take count).findIdx? (·.equal v) with
    | some n => pure (.int (first + n : Nat))
    | none => throw .unsuitableValue

/-! ## Sorting -/

/-- An item with the value by which it is sorted. -/
structure Ranked where
  rank : Value
  item : Value

/-- Whether one item comes before another one. -/
def comesBefore (a b : Ranked) : Except EvalFault Bool := Value.precedes false a.rank b.rank

/-- The items of the run at the start of some items that goes down, or else of the run that does not
go down, and what is behind it; `last` is the last item of the run so far. -/
def runFrom (down : Bool) (last : Ranked) :
    List Ranked → Except EvalFault (List Ranked × List Ranked)
  | [] => .ok ([], [])
  | next :: rest => do
    if (← comesBefore next last) = down then
      let (run, behind) ← runFrom down next rest
      pure (next :: run, behind)
    else pure ([], next :: rest)

/-- The place of an item among sorted ones, behind those that are equal to it: it lies between two
bounds, whose distance is halved each time. -/
def placeOf (sorted : List Ranked) (item : Ranked) : Nat → Nat → Nat → Except EvalFault Nat
  | 0, low, _ => .ok low
  | steps + 1, low, high =>
    if high ≤ low then .ok low
    else
      let middle := low + (high - low) / 2
      match sorted[middle]? with
      | none => .ok low
      | some other => do
        if ← comesBefore item other then placeOf sorted item steps low middle
        else placeOf sorted item steps (middle + 1) high

/-- Sorted items with one more. -/
def insertRanked (sorted : List Ranked) (item : Ranked) : Except EvalFault (List Ranked) := do
  let place ← placeOf sorted item (sorted.length + 1) 0 sorted.length
  pure (sorted.take place ++ item :: sorted.drop place)

/-- Items in order. The items at the start that are in order already, or in the opposite order, are
taken as they are; the others are put in their places. -/
def ordered (items : List Ranked) : Except EvalFault (List Ranked) :=
  match items with
  | first :: second :: rest => do
    let down ← comesBefore second first
    let (run, behind) ← runFrom down second rest
    let start := first :: second :: run
    behind.foldlM insertRanked (if down then start.reverse else start)
  | items => .ok items

/-- Items sorted by their ranks, in reverse or not. -/
def sortRanked (items : List Ranked) (isReversed : Bool) : Except EvalFault (List Value) := do
  let sorted ← ordered (if isReversed then items.reverse else items)
  pure ((if isReversed then sorted.reverse else sorted).map (·.item))

/-- Items sorted by themselves. -/
def sort (items : List Value) (isReversed : Bool) : Except EvalFault (List Value) :=
  sortRanked (items.map fun v => ⟨v, v⟩) isReversed

/-! ## Changing -/

/-- The place of a position for a new item, where positions out of range are moved to the nearest
end. -/
def clampPlace (length : Nat) (position : Int) : Nat :=
  (max 0 (min (length : Int) (if position < 0 then position + length else position))).toNat

/-- Takes an item out, the last one unless a position is given. -/
def pop (items : List Value) (arguments : List (Option Value)) : Except EvalFault Outcome := do
  let position ← wholeOr (-1) arguments 0
  let v ← Value.itemAt items position
  let place := if position < 0 then position + items.length else position
  pure ⟨v, some (.list (items.eraseIdx place.toNat))⟩

/-- A list as the new content of a list. -/
def becomes (items : List Value) : Except EvalFault Value := .ok (.list items)

/-- The methods of lists. -/
def ofList : List (Method (List Value)) :=
  [ reading "count" (.plain 1 1) count,
    reading "index" (.plain 1 3) index,
    reading "copy" .none (fun items _ => becomes items),
    changing "append" (.plain 1 1) (fun items arguments =>
      becomes (items ++ [argument arguments 0])),
    changing "clear" .none (fun _ _ => becomes []),
    changing "extend" (.plain 1 1) (fun items arguments => do
      becomes (items ++ (← asItems (argument arguments 0)))),
    changing "insert" (.plain 2 2) (fun items arguments => do
      let place := clampPlace items.length (← asWhole (argument arguments 0))
      becomes (items.take place ++ argument arguments 1 :: items.drop place)),
    ⟨"pop", .plain 0 1, pop⟩,
    changing "remove" (.plain 1 1) (fun items arguments =>
      match items.findIdx? (·.equal (argument arguments 0)) with
      | some place => becomes (items.eraseIdx place)
      | none => .error .unsuitableValue),
    changing "reverse" .none (fun items _ => becomes items.reverse),
    changing "sort" (.keyed ["key", "reverse"]) (fun items arguments => do
      let isReversed ← wholeOr 0 arguments 1
      match argument arguments 0 with
      | .null => becomes (← sort items (isReversed ≠ 0))
      | _ => throw .wrongType) ]

/-- The methods of tuples. -/
def ofTuple : List (Method (List Value)) :=
  [reading "count" (.plain 1 1) count, reading "index" (.plain 1 3) index]

end ElementTags.SequenceMethod
