import ElementTags.Value.Basic

/-!
# Identities

Values get identities once something refers to them, and what has an identity keeps it. When a
collection is changed, its new content is known under its identity, and every value that holds the
collection is revised by putting the new content into its place.
-/

namespace ElementTags.Value

mutual

/-- A value in which everything that can have an identity has one, and the next free number: those
that are missing have the given origin and are numbered from `next` on. -/
def identified (origin : Option Text) (next : Nat) : Value → Value × Nat
  | float x => if x.isNaN then (notANumber ⟨origin, next⟩, next + 1) else (float x, next)
  | list items none =>
    let (items, after) := identifiedItems origin (next + 1) items
    (list items (some ⟨origin, next⟩), after)
  | tuple items none =>
    let (items, after) := identifiedItems origin (next + 1) items
    (tuple items (some ⟨origin, next⟩), after)
  | set items none =>
    let (items, after) := identifiedItems origin (next + 1) items
    (set items (some ⟨origin, next⟩), after)
  | dict ps none =>
    let (ps, after) := identifiedPairs origin (next + 1) ps
    (dict ps (some ⟨origin, next⟩), after)
  | keywords ps none =>
    let (ps, after) := identifiedPairs origin (next + 1) ps
    (keywords ps (some ⟨origin, next⟩), after)
  | mapping ps none =>
    let (ps, after) := identifiedPairs origin (next + 1) ps
    (mapping ps (some ⟨origin, next⟩), after)
  | view kind owner =>
    let (owner, after) := identified origin next owner
    (view kind owner, after)
  | stream items none =>
    let (items, after) := identifiedItems origin (next + 1) items
    (stream items (some ⟨origin, next⟩), after)
  | object s attributes none =>
    let (attributes, after) := identifiedFields origin (next + 1) attributes
    (object s attributes (some ⟨origin, next⟩), after)
  | callable result none =>
    let (result, after) := identified origin (next + 1) result
    (callable result (some ⟨origin, next⟩), after)
  | method owner name =>
    let (owner, after) := identified origin next owner
    (method owner name, after)
  | v => (v, next)

/-- The items of a sequence with identities. -/
def identifiedItems (origin : Option Text) (next : Nat) : List Value → List Value × Nat
  | [] => ([], next)
  | v :: rest =>
    let (v, next) := identified origin next v
    let (rest, next) := identifiedItems origin next rest
    (v :: rest, next)

/-- The pairs of a mapping with identities. -/
def identifiedPairs (origin : Option Text) (next : Nat) :
    List (Value × Value) → List (Value × Value) × Nat
  | [] => ([], next)
  | (k, v) :: rest =>
    let (k, next) := identified origin next k
    let (v, next) := identified origin next v
    let (rest, next) := identifiedPairs origin next rest
    ((k, v) :: rest, next)

/-- The attributes of an object with identities. -/
def identifiedFields (origin : Option Text) (next : Nat) :
    List (Text × Value) → List (Text × Value) × Nat
  | [] => ([], next)
  | (name, v) :: rest =>
    let (v, next) := identified origin next v
    let (rest, next) := identifiedFields origin next rest
    ((name, v) :: rest, next)

end

/-- What stands for a value under its identity: its new content, if it was changed. -/
def replacing (find : Label → Option Value) (who : Identity) (kept : Value) : Value :=
  (who.bind find).getD kept

mutual

/-- A value with the new content of everything in it that was changed. -/
def revised (find : Label → Option Value) : Value → Value
  | list items who => replacing find who (list (revisedItems find items) who)
  | tuple items who => tuple (revisedItems find items) who
  | set items who => replacing find who (set (revisedItems find items) who)
  | dict ps who => replacing find who (dict (revisedPairs find ps) who)
  | keywords ps who => replacing find who (keywords (revisedPairs find ps) who)
  | mapping ps who => replacing find who (mapping (revisedPairs find ps) who)
  | view kind owner => view kind (revised find owner)
  | stream items who => replacing find who (stream (revisedItems find items) who)
  | bounds start stop step => bounds (revised find start) (revised find stop) (revised find step)
  | object s attributes who => object s (revisedFields find attributes) who
  | callable result who => callable (revised find result) who
  | method owner name => method (revised find owner) name
  | v => v

/-- The items of a sequence with new contents. -/
def revisedItems (find : Label → Option Value) : List Value → List Value
  | [] => []
  | v :: rest => revised find v :: revisedItems find rest

/-- The pairs of a mapping with new contents. -/
def revisedPairs (find : Label → Option Value) : List (Value × Value) → List (Value × Value)
  | [] => []
  | (k, v) :: rest => (revised find k, revised find v) :: revisedPairs find rest

/-- The attributes of an object with new contents. -/
def revisedFields (find : Label → Option Value) : List (Text × Value) → List (Text × Value)
  | [] => []
  | (name, v) :: rest => (name, revised find v) :: revisedFields find rest

end

end ElementTags.Value
