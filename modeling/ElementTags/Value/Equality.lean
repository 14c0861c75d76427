import ElementTags.Value.Number

/-!
# Equality of values

Numbers are equal when their exact values are, texts when their characters are, and mappings when
they give equal values to equal keys in whatever order. Objects and functions are equal only if they
are one and the same. Mappings are looked up by this equality, and collections are searched by it.
-/

namespace ElementTags.Value

/-- Equality of two values that hold no others. -/
def equalAtoms (a b : Value) : Bool :=
  match a.numeric?, b.numeric? with
  | some x, some y => x.equal y || (a.identity.isSome && a.identity = b.identity)
  | x, y =>
    match a.anyChars?, b.anyChars? with
    | some s, some t => s = t
    | _, _ =>
      match a, b with
      | null, null => true
      | ellipsis, ellipsis => true
      | complex re im, complex re' im' => re == re' && im == im'
      | complex re im, _ => y.any (·.equalsComplex re im)
      | _, complex re im => x.any (·.equalsComplex re im)
      | bytes s, bytes t => s = t
      | object _ _ who, object _ _ other => who.isSome && who = other
      | callable _ who, callable _ other => who.isSome && who = other
      | function f, function g => f = g
      | _, _ => compareDecimals? a b == some .eq

mutual

/-- Equality of two values as parts of collections. The result of an undefined operation on numbers
is the same as itself here. -/
def equal : Value → Value → Bool
  | list xs _, b => match b with | list ys _ => equalItems xs ys | _ => false
  | tuple xs _, b => match b with | tuple ys _ => equalItems xs ys | _ => false
  | dict ps _, b => match b.pairs? with
    | some qs => ps.length = qs.length && subsumed ps qs
    | none => false
  | keywords ps _, b => match b.pairs? with
    | some qs => ps.length = qs.length && subsumed ps qs
    | none => false
  | mapping ps _, b => match b.pairs? with
    | some qs => ps.length = qs.length && subsumed ps qs
    | none => false
  | set xs _, b => match b with
    | set ys _ => xs.length = ys.length && included xs ys
    | _ => false
  | method u name, b => match b with | method v other => equal u v && name = other | _ => false
  | bounds u v w, b => match b with
    | bounds u' v' w' => equal u u' && equal v v' && equal w w'
    | _ => false
  | a, b => equalAtoms a b

/-- Equality of two sequences, item by item. -/
def equalItems : List Value → List Value → Bool
  | [], [] => true
  | x :: xs, y :: ys => equal x y && equalItems xs ys
  | _, _ => false

/-- Whether the second list of pairs gives an equal value to each key of the first. -/
def subsumed : List (Value × Value) → List (Value × Value) → Bool
  | [], _ => true
  | (k, v) :: rest, qs => qs.any (fun q => equal k q.1 && equal v q.2) && subsumed rest qs

/-- Whether the second list has an equal item for each item of the first. -/
def included : List Value → List Value → Bool
  | [], _ => true
  | x :: rest, ys => ys.any (fun y => equal x y) && included rest ys

end

/-- The items of a value that is compared like a set: a set, or a view of keys or pairs. -/
def setItems? : Value → Option (List Value)
  | set items _ => some items
  | view .values _ => none
  | view kind owner => owner.pairs?.map (viewed · kind)
  | _ => none

/-- Equality as a comparison: the result of an undefined operation on numbers is equal to nothing.
-/
def equals (a b : Value) : Bool :=
  match a.setItems?, b.setItems? with
  | some xs, some ys => (set xs).equal (set ys)
  | _, _ =>
    match a with
    | notANumber _ => false
    | a => a.equal b

/-- The value that a list of pairs gives to a key. -/
def lookup (pairs : List (Value × Value)) (key : Value) : Option Value :=
  (pairs.find? fun p => p.1.equal key).map (·.2)

/-- The pairs after giving a value to a key: a key that was there keeps its place and its spelling,
a new one comes last. -/
def put : List (Value × Value) → Value → Value → List (Value × Value)
  | [], key, value => [(key, value)]
  | (k, v) :: rest, key, value =>
    if k.equal key then (k, value) :: rest else (k, v) :: put rest key value

/-- The pairs without a key. -/
def remove (pairs : List (Value × Value)) (key : Value) : List (Value × Value) :=
  pairs.filter fun p => !p.1.equal key

mutual

/-- Whether a value may be the key of a mapping: what can be changed may not, nor a tuple with such
a value. -/
def isHashable : Value → Bool
  | list _ _ => false
  | set _ _ => false
  | dict _ _ => false
  | keywords _ _ => false
  | mapping _ _ => false
  | view kind _ => kind = .values
  | tuple items _ => areHashable items
  | bounds _ _ _ => false
  | _ => true

/-- Whether all values may be keys. -/
def areHashable : List Value → Bool
  | [] => true
  | v :: rest => isHashable v && areHashable rest

end

end ElementTags.Value
