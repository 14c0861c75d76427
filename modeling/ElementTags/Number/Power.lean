/-!
# Powers

The powers by which numbers are scaled: of two for the binary form of a number, of ten for its
decimal form.
-/

namespace ElementTags

/-- Two to the power of a number. -/
def twoTo (n : Nat) : Nat := Nat.pow 2 n

/-- Ten to the power of a number. -/
def tenTo (n : Nat) : Nat := Nat.pow 10 n

/-- A whole number to the power of a number. -/
def wholeTo (m : Int) (n : Nat) : Int :=
  let magnitude : Int := Nat.pow m.natAbs n
  if m < 0 && n % 2 = 1 then -magnitude else magnitude

@[simp] theorem twoTo_zero : twoTo 0 = 1 := rfl

@[simp] theorem tenTo_zero : tenTo 0 = 1 := rfl

theorem tenTo_pos (n : Nat) : 0 < tenTo n := Nat.pow_pos (by decide)

end ElementTags
