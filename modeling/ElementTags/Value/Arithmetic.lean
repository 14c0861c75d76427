import ElementTags.Number.Complex
import ElementTags.Value.Format
import ElementTags.Value.Set

/-!
# Operators on values

The arithmetic of numbers, and what the same operators do with texts and sequences: `+` joins them,
`*` repeats them, and `%` fills a text. Whole numbers are unbounded, the quotient of two of them is
a floating-point number, and remainders take the sign of the divisor. Sets and views of mappings are
united, intersected and subtracted, and whole numbers are combined bit by bit.
-/

namespace ElementTags

/-- An operation on two values that may fail. -/
abbrev BinaryOperation := Value → Value → Except EvalFault Value

namespace Value

/-- An operation on numbers: exact on whole ones, rounded when one operand is floating-point. -/
def onNumbers (whole : Int → Int → Except EvalFault Value)
    (real : Float → Float → Except EvalFault Value) (a b : Numeric) : Except EvalFault Value :=
  match a, b with
  | .whole m, .whole n => whole m n
  | a, b => do real (← toFloat a) (← toFloat b)

/-- The complex number that a number is. -/
def asComplex (v : Value) : Except EvalFault Number.Complex :=
  match v with
  | complex re im => .ok ⟨re, im⟩
  | v =>
    match v.numeric? with
    | some n => do pure ⟨← toFloat n, 0.0⟩
    | none => .error .wrongType

/-- An operation on two numbers one of which is complex. -/
def onComplex (operation : Number.Complex → Number.Complex → Except EvalFault Number.Complex)
    (a b : Value) : Except EvalFault Value :=
  match a, b with
  | complex _ _, b => do
    let z ← operation (← asComplex a) (← asComplex b)
    pure (complex z.re z.im)
  | a, complex _ _ => do
    let z ← operation (← asComplex a) (← asComplex b)
    pure (complex z.re z.im)
  | _, _ => .error .wrongType

/-- Addition of numbers. -/
def addNumbers : Numeric → Numeric → Except EvalFault Value :=
  onNumbers (fun m n => .ok (int (m + n))) (fun x y => .ok (float (x + y)))

/-- A text joined to another one: the result is safe when both are. Nothing can be appended lazily
to a safe text. -/
def joinTexts : Value → Value → Option (Except EvalFault Value)
  | text s, text t => some (.ok (text (s ++ t)))
  | text s, safe t => some (.ok (text (s ++ t)))
  | text s, lazy t _ => some (.ok (text (s ++ t)))
  | safe s, text t => some (.ok (text (s ++ t)))
  | safe s, safe t => some (.ok (safe (s ++ t)))
  | safe _, lazy _ _ => some (.error .wrongType)
  | lazy s true, safe t => some (.ok (safe (s ++ t)))
  | lazy _ true, lazy _ _ => some (.error .wrongType)
  | lazy s _, text t => some (.ok (text (s ++ t)))
  | lazy s _, safe t => some (.ok (text (s ++ t)))
  | lazy s _, lazy t _ => some (.ok (text (s ++ t)))
  | _, _ => none

/-- The operator `+` of expressions in parentheses. -/
def add (a b : Value) : Except EvalFault Value :=
  match a.numeric?, b.numeric? with
  | some x, some y => addNumbers x y
  | _, _ =>
    match joinTexts a b with
    | some result => result
    | none =>
      match a, b with
      | list xs _, list ys _ => .ok (list (xs ++ ys))
      | tuple xs _, tuple ys _ => .ok (tuple (xs ++ ys))
      | bytes s, bytes t => .ok (bytes (s ++ t))
      | a, b => onComplex (fun x y => .ok (x.add y)) a b

/-- The operator `+` between attribute operands: next to a text, anything is joined as text, and the
result is plain. -/
def append (a b : Value) : Except EvalFault Value :=
  if a.chars?.isSome || b.chars?.isSome then do pure (text ((← a.shown) ++ (← b.shown)))
  else add a b

/-! ## Sets -/

/-- The items of something that a view of a mapping is combined with. -/
def possibleItems (v : Value) : Except EvalFault (List Value) :=
  match v.items? with
  | some items => if areHashable items then .ok (gathered items) else .error .wrongType
  | none => .error .wrongType

/-- Whether a value is a view that is combined like a set. -/
def isSetView : Value → Bool
  | view kind _ => kind ≠ .values
  | _ => false

/-- An operation on two sets, or on a view of a mapping and any collection. -/
def onSets (operation : List Value → List Value → List Value) (a b : Value) :
    Except EvalFault Value :=
  match a, b with
  | set xs _, set ys _ => .ok (set (operation xs ys))
  | a, b =>
    if a.isSetView || b.isSetView then do
      pure (set (operation (← possibleItems a) (← possibleItems b)))
    else .error .wrongType

/-! ## The other operators -/

/-- The operator `-`. -/
def subtract (a b : Value) : Except EvalFault Value :=
  match a.numeric?, b.numeric? with
  | some x, some y =>
    onNumbers (fun m n => .ok (int (m - n))) (fun x y => .ok (float (x - y))) x y
  | _, _ =>
    match onSets reduced a b with
    | .ok v => .ok v
    | .error _ => onComplex (fun x y => .ok (x.subtract y)) a b

/-- The largest count of repetitions and the largest length of a sequence that can be addressed. -/
def addressable : Nat := twoTo 63 - 1

/-- Sequences of more items than this do not fit into memory. -/
def storable : Nat := twoTo 32

/-- A sequence repeated; a count below one gives the empty one. `tooLong` is the fault of a length
that cannot be addressed. -/
def repeatItems {α : Type} (tooLong : EvalFault) (items : List α) (count : Int) :
    Except EvalFault (List α) :=
  if count ≤ 0 || items.isEmpty then
    if (addressable : Int) < count then .error .overflow else .ok []
  else if (addressable : Int) < count then .error .overflow
  else if addressable < items.length * count.toNat then .error tooLong
  else if storable < items.length * count.toNat then .error .outOfMemory
  else .ok (List.replicate count.toNat items).flatten

/-- A text or sequence repeated; texts come out plain. -/
def repeated (v : Value) (count : Int) : Except EvalFault Value :=
  match v with
  | text s => (repeatItems .overflow s count).map text
  | safe s => (repeatItems .overflow s count).map text
  | lazy s _ => (repeatItems .overflow s count).map text
  | bytes octets => (repeatItems .overflow octets count).map bytes
  | list xs _ => (repeatItems .outOfMemory xs count).map (list ·)
  | tuple xs _ => (repeatItems .outOfMemory xs count).map (tuple ·)
  | _ => .error .wrongType

/-- The operator `*`. -/
def multiply (a b : Value) : Except EvalFault Value :=
  match a.numeric?, b.numeric? with
  | some x, some y =>
    onNumbers (fun m n => .ok (int (m * n))) (fun x y => .ok (float (x * y))) x y
  | _, _ =>
    match a.whole?, b.whole? with
    | _, some n =>
      match a with
      | complex _ _ => onComplex (fun x y => .ok (x.multiply y)) a b
      | a => repeated a n
    | some n, _ =>
      match b with
      | complex _ _ => onComplex (fun x y => .ok (x.multiply y)) a b
      | b => repeated b n
    | none, none => onComplex (fun x y => .ok (x.multiply y)) a b

/-- The quotient of two whole numbers, rounded once. Zero divided by a negative number is a negative
zero. -/
def divideWhole (m n : Int) : Except EvalFault Value :=
  if n = 0 then .error .divisionByZero
  else
    let x := Number.ofQuotient ((m < 0) != (n < 0)) m.natAbs n.natAbs
    if x.isInf then .error .overflow else .ok (float x)

/-- An operation on floating-point numbers that is not defined for a zero divisor. -/
def byNonzero (operation : Float → Float → Float) (x y : Float) : Except EvalFault Value :=
  if y == 0.0 then .error .divisionByZero else .ok (float (operation x y))

/-- The operator `/`. -/
def divide (a b : Value) : Except EvalFault Value :=
  match a.numeric?, b.numeric? with
  | some x, some y => onNumbers divideWhole (byNonzero (· / ·)) x y
  | _, _ =>
    onComplex (fun x y =>
      match x.divide? y with
      | some z => .ok z
      | none => .error .divisionByZero) a b

/-- The operator `//`. -/
def divideDown (a b : Value) : Except EvalFault Value :=
  match a.numeric?, b.numeric? with
  | some x, some y =>
    onNumbers (fun m n => if n = 0 then .error .divisionByZero else .ok (int (Int.fdiv m n)))
      (byNonzero Number.flooredQuotient) x y
  | _, _ => .error .wrongType

/-- The operator `%`. -/
def remainder (a b : Value) : Except EvalFault Value :=
  match a with
  | text s => Format.fill s b
  | safe s => Format.fillSafe s b
  | lazy s true => Format.fillSafe s b
  | lazy s false => Format.fill s b
  | _ =>
    match a.numeric?, b.numeric? with
    | some x, some y =>
      onNumbers (fun m n => if n = 0 then .error .divisionByZero else .ok (int (Int.fmod m n)))
        (byNonzero Number.flooredRemainder) x y
    | _, _ => .error .wrongType

/-- The power of two complex numbers. -/
def powerComplex (x y : Number.Complex) : Except EvalFault Number.Complex :=
  match x.power? y with
  | some z => if z.re.isInf || z.im.isInf then .error .overflow else .ok z
  | none => .error .divisionByZero

/-- The power of two floating-point numbers; it is complex when it is not a real number. -/
def powerFloat (x y : Float) : Except EvalFault Value :=
  if x == 0.0 && y < 0.0 then .error .divisionByZero
  else
    let z := Float.pow x y
    if z.isNaN && !x.isNaN && !y.isNaN then do
      let w ← powerComplex ⟨x, 0.0⟩ ⟨y, 0.0⟩
      pure (complex w.re w.im)
    else if z.isInf && x.isFinite && y.isFinite then .error .overflow
    else .ok (float z)

/-- A whole number with more bits than this does not fit into memory. -/
def maxBits : Nat := twoTo 32

/-- The power of two whole numbers; a negative exponent leads to a fraction. -/
def powerWhole (m n : Int) : Except EvalFault Value :=
  if 0 ≤ n then
    if 1 < m.natAbs && maxBits < Nat.log2 m.natAbs * n.toNat then .error .outOfMemory
    else if m.natAbs ≤ 1 then .ok (int (if n % 2 = 0 then m * m else m))
    else .ok (int (wholeTo m n.toNat))
  else do powerFloat (← toFloat (.whole m)) (← toFloat (.whole n))

/-- The operator `**`. -/
def power (a b : Value) : Except EvalFault Value :=
  match a.numeric?, b.numeric? with
  | some (.whole m), some (.whole n) => if n = 0 then .ok (int 1) else powerWhole m n
  | some x, some y => do powerFloat (← toFloat x) (← toFloat y)
  | _, _ => onComplex powerComplex a b

/-- The operator `-` in front of a number. -/
def negate (a : Value) : Except EvalFault Value :=
  match a.numeric? with
  | some (.whole n) => .ok (int (-n))
  | some (.real x) => .ok (float (-x))
  | none =>
    match a with
    | complex re im => .ok (complex (-re) (-im))
    | _ => .error .wrongType

/-- The operator `+` in front of a number. -/
def affirm (a : Value) : Except EvalFault Value :=
  match a.numeric? with
  | some (.whole n) => .ok (int n)
  | some (.real x) => .ok (float x)
  | none =>
    match a with
    | complex re im => .ok (complex re im)
    | _ => .error .wrongType

/-! ## Bits -/

/-- The number of bits in which two whole numbers can be combined. -/
def commonWidth (m n : Int) : Nat := max (Nat.log2 m.natAbs) (Nat.log2 n.natAbs) + 2

/-- Two whole numbers combined bit by bit, where a negative number has infinitely many leading
ones. -/
def bitwise (f : Nat → Nat → Nat) (m n : Int) : Int :=
  let size : Int := twoTo (commonWidth m n)
  let bits : Int := f (m % size).toNat (n % size).toNat
  if bits < size / 2 then bits else bits - size

/-- The operators that combine bits: two truth values give a truth value. -/
def combineBits (f : Nat → Nat → Nat) : BinaryOperation
  | bool a, bool b => .ok (bool (bitwise f (if a then 1 else 0) (if b then 1 else 0) ≠ 0))
  | a, b =>
    match a.whole?, b.whole? with
    | some m, some n => .ok (int (bitwise f m n))
    | _, _ => .error .wrongType

/-- The operators that combine bits or sets. -/
def combine (f : Nat → Nat → Nat) (g : List Value → List Value → List Value) : BinaryOperation :=
  fun a b =>
    match combineBits f a b with
    | .ok v => .ok v
    | .error _ => onSets g a b

/-- The operators that shift bits; the count is not negative. -/
def shift (f : Int → Nat → Except EvalFault Int) : BinaryOperation := fun a b =>
  match a.whole?, b.whole? with
  | some m, some n => if n < 0 then .error .unsuitableValue else (f m n.toNat).map int
  | _, _ => .error .wrongType

/-- A number with zeros added behind its bits. -/
def shiftUp (m : Int) (count : Nat) : Except EvalFault Int :=
  if m = 0 then .ok 0 else if maxBits < count then .error .outOfMemory else .ok (m * twoTo count)

/-- A number without its last bits. -/
def shiftDown (m : Int) (count : Nat) : Except EvalFault Int :=
  .ok (Int.fdiv m (twoTo (min count (Nat.log2 m.natAbs + 1))))

/-- The operator `|`: of two mappings the second one wins. -/
def merge (a b : Value) : Except EvalFault Value :=
  match a.pairs?, b.pairs? with
  | some ps, some qs => .ok (dict (qs.foldl (fun all (k, v) => put all k v) ps))
  | _, _ => combine (· ||| ·) united a b

/-- The operator `~`. -/
def invert (a : Value) : Except EvalFault Value :=
  match a.whole? with
  | some n => .ok (int (-n - 1))
  | none => .error .wrongType

end Value
end ElementTags
