import ElementTags.Method.Basic
import ElementTags.Value.Set

/-!
# Methods of mappings and sets

Mappings are looked up, viewed and changed by their keys, sets by their items. A mapping that cannot
be changed has the methods that only read.
-/

namespace ElementTags

namespace MappingMethod

open Method

/-- The pairs of a mapping, and the mapping itself. -/
structure Owner where
  self : Value
  pairs : List (Value × Value)

/-- A key, which has to be a possible one. -/
def keyOf (v : Value) : Except EvalFault Value :=
  if v.isHashable then .ok v else .error .wrongType

/-- The value of a key, or another value. -/
def get (o : Owner) (arguments : List (Option Value)) : Except EvalFault Value := do
  let key ← keyOf (argument arguments 0)
  pure ((Value.lookup o.pairs key).getD (argument arguments 1))

/-- The pair that an item spells. -/
def pairOf (v : Value) : Except EvalFault (Value × Value) :=
  match v.items? with
  | none => .error .wrongType
  | some [k, w] => (keyOf k).map (·, w)
  | some _ => .error .unsuitableValue

/-- The pairs that an argument gives: those of a mapping, or the items of a collection as pairs. -/
def pairsOf (v : Value) : Except EvalFault (List (Value × Value)) :=
  match v.pairs?, v.items? with
  | some ps, _ => .ok ps
  | none, some items => items.mapM pairOf
  | none, none => .error .wrongType

/-- Pairs after giving several values to keys. -/
def putAll (pairs new : List (Value × Value)) : List (Value × Value) :=
  new.foldl (fun all (k, v) => Value.put all k v) pairs

/-- Takes a key out. Without any pairs it does not matter whether the key is a possible one. -/
def pop (o : Owner) (arguments : List (Option Value)) : Except EvalFault Outcome := do
  let key := argument arguments 0
  if !o.pairs.isEmpty && !key.isHashable then throw .wrongType
  else
    match Value.lookup o.pairs key, argument? arguments 1 with
    | some v, _ => pure ⟨v, some (.dict (Value.remove o.pairs key))⟩
    | none, some other => pure ⟨other, none⟩
    | none, none => throw .missingKey

/-- Takes the last pair out. -/
def popPair (o : Owner) : Except EvalFault Outcome :=
  match o.pairs.getLast? with
  | some (k, v) => .ok ⟨.tuple [k, v], some (.dict o.pairs.dropLast)⟩
  | none => .error .missingKey

/-- The value of a key, which is given to it if it has none. -/
def setDefault (o : Owner) (arguments : List (Option Value)) : Except EvalFault Outcome := do
  let key ← keyOf (argument arguments 0)
  match Value.lookup o.pairs key with
  | some v => pure ⟨v, none⟩
  | none =>
    let v := argument arguments 1
    pure ⟨v, some (.dict (Value.put o.pairs key v))⟩

/-- A dictionary that gives one value to several keys. -/
def fromKeys (arguments : List (Option Value)) : Except EvalFault Value := do
  let keys ← (← asItems (argument arguments 0)).mapM keyOf
  pure (.dict (putAll [] (keys.map (·, argument arguments 1))))

/-- The methods that only read. -/
def readings : List (Method Owner) :=
  [ reading "get" (.plain 1 2) get,
    simple "items" (fun o => .view .pairs o.self),
    simple "keys" (fun o => .view .keys o.self),
    simple "values" (fun o => .view .values o.self),
    simple "copy" (fun o => .dict o.pairs) ]

/-- The methods that change a dictionary. -/
def changes : List (Method Owner) :=
  [ changing "clear" .none (fun _ _ => .ok (.dict [])),
    ⟨"pop", .plain 1 2, pop⟩,
    ⟨"popitem", .none, fun o _ => popPair o⟩,
    ⟨"setdefault", .plain 1 2, setDefault⟩,
    reading "fromkeys" (.plain 1 2) (fun _ arguments => fromKeys arguments) ]

/-- The methods of dictionaries, apart from `update`. -/
def ofDict : List (Method Owner) := readings ++ changes

/-- The name of the method that takes whatever arguments have names. -/
def updateName : Text := "update".toList

/-- The outcome of giving new values to keys: those of a mapping or collection of pairs, and those
given by name. -/
def update (o : Owner) (a : Arguments) : Except EvalFault Outcome := do
  let new ← match a.positional with
    | [] => pure []
    | [v] => pairsOf v
    | _ => throw .wrongType
  let named := a.named.map fun (name, v) => (Value.text name, v)
  pure ⟨.null, some (.dict (putAll (putAll o.pairs new) named))⟩

/-- The methods of views that are compared like sets. -/
def ofView : List (Method (List Value)) :=
  [ reading "isdisjoint" (.plain 1 1) (fun items arguments => do
      let others ← asItems (argument arguments 0)
      pure (.bool (!others.any fun v => items.any (·.equal v)))) ]

end MappingMethod

namespace SetMethod

open Method

/-- The items of an argument, all of which have to be possible items of a set. -/
def othersOf (v : Value) : Except EvalFault (List Value) := do
  let items ← asItems v
  if Value.areHashable items then
    pure (match v with
      | .set _ _ => items
      | _ => Value.gathered items)
  else throw .wrongType

/-- A set combined with one collection after the other. -/
def combined (f : List Value → List Value → List Value) (items : List Value)
    (others : List Value) : Except EvalFault Value := do
  let result ← others.foldlM (fun all v => do pure (f all (← othersOf v))) (Value.copied items)
  pure (.set result)

/-- The operations that take any number of collections, by name. -/
def combinations : List (String × (List Value → List Value → List Value)) :=
  [ ("union", Value.united), ("intersection", Value.intersected), ("difference", Value.reduced) ]

/-- The operations that take one collection, by name. -/
def contrasts : List (String × (List Value → List Value → List Value)) :=
  [("symmetric_difference", Value.contrasted)]

/-- The operations that change the set, by name, and whether they take just one collection. -/
def updates : List (String × Bool × (List Value → List Value → List Value)) :=
  [ ("update", false, Value.united), ("intersection_update", false, Value.intersected),
    ("difference_update", false, Value.reduced),
    ("symmetric_difference_update", true, Value.contrasted) ]

/-- An item, which has to be a possible one. -/
def itemOf (v : Value) : Except EvalFault Value :=
  if v.isHashable then .ok v else .error .wrongType

/-- An item to look for, which has to be a possible one or a set. -/
def soughtOf (v : Value) : Except EvalFault Value :=
  if v.canBeSought then .ok v else .error .wrongType

/-- A question about a set and a collection. -/
def asking (name : String) (f : List Value → List Value → Bool) : Method (List Value) :=
  reading name (.plain 1 1) fun items arguments => do
    pure (.bool (f items (← othersOf (argument arguments 0))))

/-- The methods of sets that have a fixed number of parameters. -/
def all : List (Method (List Value)) :=
  [ reading "copy" .none (fun items _ => .ok (.set (Value.copied items))),
    asking "isdisjoint" (fun xs ys => !ys.any fun y => xs.any (·.equal y)),
    asking "issubset" (fun xs ys => Value.isWithin true xs ys),
    asking "issuperset" (fun xs ys => Value.isWithin true ys xs),
    changing "add" (.plain 1 1) (fun items arguments => do
      pure (.set (Value.gathered (items ++ [← itemOf (argument arguments 0)])))),
    changing "clear" .none (fun _ _ => .ok (.set [])),
    changing "discard" (.plain 1 1) (fun items arguments => do
      let v ← soughtOf (argument arguments 0)
      pure (.set (items.filter (!·.equal v)))),
    ⟨"remove", .plain 1 1, fun items arguments => do
      let v ← soughtOf (argument arguments 0)
      if items.any (·.equal v) then pure ⟨.null, some (.set (items.filter (!·.equal v)))⟩
      else throw .missingKey⟩,
    ⟨"pop", .none, fun items _ =>
      match items with
      | v :: rest => .ok ⟨v, some (.set rest)⟩
      | [] => .error .missingKey⟩ ]

/-- The outcome of an operation that takes collections without names, if the name is one. -/
def combine? (items : List Value) (name : Text) (a : Arguments) :
    Option (Except EvalFault Outcome) :=
  let isOf (entry : String × (List Value → List Value → List Value)) : Bool :=
    entry.1.toList = name
  let refused : Option (Except EvalFault Outcome) := some (.error .wrongType)
  match combinations.find? isOf, contrasts.find? isOf,
      updates.find? fun u => u.1.toList = name with
  | some (_, f), _, _ =>
    if a.named.isEmpty then some ((combined f items a.positional).map (⟨·, none⟩)) else refused
  | _, some (_, f), _ =>
    if a.named.isEmpty && a.positional.length = 1 then
      some ((combined f items a.positional).map (⟨·, none⟩))
    else refused
  | _, _, some (_, single, f) =>
    if a.named.isEmpty && (!single || a.positional.length = 1) then
      some ((combined f items a.positional).map (⟨.null, some ·⟩))
    else refused
  | none, none, none => none

end SetMethod
end ElementTags
