import ElementTags.Fault
import ElementTags.Number.Shortest
import ElementTags.Text.Escape
import ElementTags.Value.Display

/-!
# Values in running text

What a template writes for a value outside of tags. Numbers are written without an exponent mark
unless that takes too many digits; everything else is written as its text, and escaped where that is
asked for and the text is not marked as safe.
-/

namespace ElementTags.Value

/-- Numbers that take more digits than this are written with an exponent mark. -/
def maxPositional : Nat := 200

/-- A decimal number in full, or with an exponent mark if that takes too many digits. -/
def spellDecimal (negative : Bool) (d : Number.Decimal) : Text :=
  let digits := Text.ofNat d.digits
  let sign : Text := if negative then ['-'] else []
  if maxPositional < d.exponent.natAbs + digits.length then
    sign ++ Number.scientific 1 digits d.leading
  else if d.digits = 0 && 0 < d.exponent then sign ++ ['0']
  else sign ++ Number.positional false digits (d.leading + 1)

/-- A floating-point number in running text. -/
def writtenFloat (x : Float) : Text :=
  match Number.classify x with
  | .finite b =>
    let d := b.shortest
    let style := Number.FloatStyle.plain
    if b.units = 0 || (style.lowest ≤ d.leading && d.leading < style.beyond) then spellFloat x
    else spellDecimal b.negative d
  | _ => spellFloat x

/-- A decimal in running text. Only numbers can be written so. -/
def writtenDecimal (s : Text) : Except EvalFault Text :=
  match Text.fraction? s with
  | some (.finite d) => .ok (spellDecimal d.negative ⟨d.digits, d.exponent⟩)
  | _ => .error .wrongType

/-- What a template writes for a value. -/
def written (autoescape : Bool) : Value → Except EvalFault Text
  | float x => .ok (writtenFloat x)
  | decimal s => writtenDecimal s
  | v =>
    v.shownValue.map fun shown =>
      match shown with
      | safe s => s
      | w => if autoescape then Text.escape w.spell else w.spell

end ElementTags.Value
