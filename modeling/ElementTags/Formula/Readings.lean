import ElementTags.Formula.Reader

/-!
# Readings of code

An engine reads each piece of code once and keeps the formula, which belongs to no template and no
scope: code that is met again is not read again. What is kept under a piece of code is its reading,
so that it makes no difference whether code was met before. Code that is no formula is not kept.
-/

namespace ElementTags

/-- The formulas that were read so far, under their code. -/
structure Readings where
  entries : List (Text × Formula)
  /-- What is kept is what the code reads as. -/
  sound : ∀ entry ∈ entries, Formula.ofText? entry.1 = some entry.2

namespace Readings

/-- Nothing was read so far. -/
def nothing : Readings := ⟨[], List.forall_mem_nil _⟩

/-- The formula that is kept under a piece of code. -/
def find? (readings : Readings) (code : Text) : Option Formula :=
  (readings.entries.find? (·.1 = code)).map (·.2)

/-- The readings with another one. -/
def add (readings : Readings) (code : Text) (e : Formula) (reads : Formula.ofText? code = some e) :
    Readings :=
  ⟨(code, e) :: readings.entries, List.forall_mem_cons.mpr ⟨reads, readings.sound⟩⟩

/-- The formula of a piece of code, if it is one, and the readings in which it is kept. -/
def read (readings : Readings) (code : Text) : Option Formula × Readings :=
  match readings.find? code with
  | some e => (some e, readings)
  | none =>
    match reads : Formula.ofText? code with
    | some e => (some e, readings.add code e reads)
    | none => (none, readings)

theorem ofText?_of_find? {readings : Readings} {code : Text} {e : Formula}
    (kept : readings.find? code = some e) : Formula.ofText? code = some e := by
  obtain ⟨entry, found, rfl⟩ := Option.map_eq_some_iff.mp kept
  have same : entry.1 = code := by simpa using List.find?_some found
  exact same ▸ readings.sound entry (List.mem_of_find?_eq_some found)

/-- Whatever is kept, a piece of code has the same formula. -/
theorem fst_read (readings : Readings) (code : Text) :
    (readings.read code).1 = Formula.ofText? code := by
  unfold read
  split
  · rename_i e kept
    exact (ofText?_of_find? kept).symm
  · split <;> rename_i reads <;> exact reads.symm

end Readings
end ElementTags
