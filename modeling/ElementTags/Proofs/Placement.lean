import ElementTags.Attribute.Reader
import ElementTags.Attribute.Resolve

/-! # Attributes and faults at other positions

An attribute that stands elsewhere differs in the position at which it starts, and a
complaint about a token that stands elsewhere in the position of the token. A value
that is refused is refused wherever it stands.
-/

namespace ElementTags

namespace Entry

/-- An attribute at another position. -/
def placeAt (place : Nat) : Entry → Entry
  | .positional _ value => .positional place value
  | .keyword _ key value => .keyword place key value

/-- An attribute further behind in a source. -/
def shift (k : Nat) (entry : Entry) : Entry := entry.placeAt (entry.start + k)

@[simp] theorem start_placeAt (place : Nat) (entry : Entry) :
    (entry.placeAt place).start = place := by
  cases entry <;> rfl

@[simp] theorem start_shift (k : Nat) (entry : Entry) : (entry.shift k).start = entry.start + k :=
  start_placeAt _ entry

@[simp] theorem placeAt_placeAt (place other : Nat) (entry : Entry) :
    (entry.placeAt other).placeAt place = entry.placeAt place := by
  cases entry <;> rfl

@[simp] theorem placeAt_start (entry : Entry) : entry.placeAt entry.start = entry := by
  cases entry <;> rfl

@[simp] theorem shift_zero (entry : Entry) : entry.shift 0 = entry := placeAt_start entry

theorem key?_placeAt (place : Nat) (entry : Entry) : (entry.placeAt place).key? = entry.key? := by
  cases entry <;> rfl

/-! ## Values of attributes at other positions -/

theorem resolveOnto_placeAt (place : Entry → Nat) (values : List Value)
    (pairs : List (Value × Value)) (entries : List Entry) :
    resolveOnto values pairs (entries.map fun entry => entry.placeAt (place entry)) =
      resolveOnto values pairs entries := by
  induction entries generalizing values pairs with
  | nil => rfl
  | cons entry entries ih =>
      cases entry with
      | positional start t => exact bind_congr fun v => ih (values ++ [v]) pairs
      | keyword start key t => exact bind_congr fun v => ih values (Value.put pairs (.text key) v)

/-- Where entries are written does not matter for their values. -/
theorem resolveAll_placeAt (place : Entry → Nat) (entries : List Entry) :
    resolveAll (entries.map fun entry => entry.placeAt (place entry)) = resolveAll entries := by
  have keys : (entries.map fun entry => entry.placeAt (place entry)).any (·.key?.isSome) =
      entries.any (·.key?.isSome) := by
    simp only [List.any_map, Function.comp_def, key?_placeAt]
  rw [resolveAll, resolveOnto_placeAt, keys, resolveAll]

end Entry

namespace GrammarFault

/-- A complaint about the same token further behind in a source. -/
def shift (k : Nat) (fault : GrammarFault) : GrammarFault :=
  { fault with position := fault.position + k }

end GrammarFault

namespace AttributeFault

/-- The fault of an attribute further behind in a source. -/
def shift (k : Nat) : AttributeFault → AttributeFault
  | .grammar fault => .grammar (fault.shift k)
  | other => other

end AttributeFault
end ElementTags
