import ElementTags.Value.Sequence

/-!
# Sets

The items of a set are kept in a table of places, and they come in the order of their places. A
whole number is placed by its own value: at its remainder by the size of the table, or, where that
place is taken, at one of the places that follow from it. The table grows before it gets full.

A set with other items keeps them in the order in which they were added.
-/

namespace ElementTags.Value

/-- A table of places. -/
structure Places where
  places : List (Option Value)
  used : Nat

namespace Places

/-- A table with free places only. -/
def free (size : Nat) : Places := ⟨List.replicate size none, 0⟩

/-- The number of places. -/
def size (p : Places) : Nat := p.places.length

/-- The items in the order of their places. -/
def toList (p : Places) : List Value := p.places.filterMap id

/-- The number by which a whole number is placed. -/
def codeOf (n : Int) : Nat :=
  let magnitude := n.natAbs % (twoTo 61 - 1)
  if 0 ≤ n then magnitude
  else if magnitude = 1 then twoTo 64 - 2
  else (twoTo 64 - magnitude) % twoTo 64

/-- How many places behind a taken one are tried before going on elsewhere. -/
def reach : Nat := 9

/-- The first free place from `start` on, up to `count` places behind it. -/
def freeNear (p : Places) (start count : Nat) : Option Nat :=
  (List.range (count + 1)).findSome? fun k =>
    match p.places[start + k]? with
    | some none => some (start + k)
    | _ => none

/-- A free place, within a number of trials. -/
def freePlace (p : Places) : Nat → Nat → Nat → Nat
  | 0, place, _ => place
  | trials + 1, place, code =>
    match p.freeNear place (if place + reach < p.size then reach else 0) with
    | some found => found
    | none => p.freePlace trials ((5 * place + 1 + code / 32) % p.size) (code / 32)

/-- A table with one more item, which is not in it yet. -/
def insert (p : Places) (code : Nat) (v : Value) : Places :=
  ⟨p.places.set (p.freePlace (2 * p.size + 64) (code % p.size) code) (some v), p.used + 1⟩

/-- The smallest size, doubling from eight, that exceeds a number; `steps` bounds the doublings. -/
def sizeAbove (least : Nat) : Nat → Nat → Nat
  | 0, size => size
  | steps + 1, size => if size ≤ least then sizeAbove least steps (2 * size) else size

/-- Whether a table with so many items is too full. -/
def isCrowded (p : Places) (used : Nat) : Bool := 3 * (p.size - 1) ≤ 5 * used

/-- The items of a table in another one that has more than `least` places. -/
def resized (p : Places) (least : Nat) : Places :=
  p.toList.foldl (fun q v => q.insert (codeOf (v.whole?.getD 0)) v) (free (sizeAbove least 64 8))

/-- A table with one more item, which makes it grow if it gets too full. -/
def add (p : Places) (v : Value) : Places :=
  let q := p.insert (codeOf (v.whole?.getD 0)) v
  if q.isCrowded q.used then q.resized (4 * q.used) else q

/-- A table with several more items, which makes it grow first if it would get too full. -/
def addAll (p : Places) (vs : List Value) : Places :=
  let q := if p.isCrowded (p.used + vs.length) then p.resized (2 * (p.used + vs.length)) else p
  vs.foldl (fun q v => q.insert (codeOf (v.whole?.getD 0)) v) q

end Places

/-- Whether all items are placed by their own values. -/
def arePlaced (items : List Value) : Bool := items.all (·.whole?.isSome)

/-- Items with one more, unless it is there already. -/
def addDistinct (items : List Value) (v : Value) : List Value :=
  if items.any (·.equal v) then items else items ++ [v]

/-- The items of a set to which values were added one after the other. -/
def gathered (values : List Value) : List Value :=
  let items := values.foldl addDistinct []
  if arePlaced items then (items.foldl Places.add (Places.free 8)).toList else items

/-- The items of a set that is made from those of another one. -/
def copied (items : List Value) : List Value :=
  if arePlaced items then ((Places.free 8).addAll items).toList else items

/-- The items of a set after those of another one were added at once. -/
def united (xs ys : List Value) : List Value :=
  let new := ys.filter fun y => !xs.any (·.equal y)
  if arePlaced (xs ++ new) then (((Places.free 8).addAll xs).addAll new).toList else xs ++ new

/-- The items of a set that are in another one too. -/
def intersected (xs ys : List Value) : List Value :=
  if xs.length < ys.length then gathered (xs.filter fun x => ys.any (·.equal x))
  else gathered (ys.filter fun y => xs.any (·.equal y))

/-- The items of a set that are not in another one. Few items are taken out of a copy of the set,
and else the others are gathered anew. -/
def reduced (xs ys : List Value) : List Value :=
  let kept (items : List Value) : List Value := items.filter fun x => !ys.any (·.equal x)
  if ys.length < xs.length / 4 then kept (copied xs) else gathered (kept xs)

/-- The items that are in one of two sets only: those of the first are added to the second one. -/
def contrasted (xs ys : List Value) : List Value :=
  let new := xs.filter fun x => !ys.any (·.equal x)
  let all :=
    if arePlaced (ys ++ new) then (new.foldl Places.add ((Places.free 8).addAll ys)).toList
    else ys ++ new
  all.filter fun v => !(xs.any (·.equal v) && ys.any (·.equal v))

/-- A set of values, all of which have to be possible items. -/
def setOf (values : List Value) : Except EvalFault Value :=
  if areHashable values then .ok (set (gathered values)) else .error .wrongType

end ElementTags.Value
