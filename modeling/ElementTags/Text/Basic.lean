/-!
# Text

A text is the list of its code points, so that every length and position in this library counts
code points. This module holds the operations on texts that need no character table.
-/

namespace ElementTags

/-- A text is the list of its code points. -/
abbrev Text := List Char

namespace Text

/-- The decimal digits of a natural number. -/
def ofNat (n : Nat) : Text := Nat.toDigits 10 n

/-- The decimal digits of an integer, behind a minus sign when it is negative. -/
def ofInt : Int → Text
  | .ofNat n => ofNat n
  | .negSucc n => '-' :: ofNat (n + 1)

/-- `fill` is repeated in front of `s` until it has `width` characters. -/
def padLeft (fill : Char) (width : Nat) (s : Text) : Text :=
  List.replicate (width - s.length) fill ++ s

/-- `fill` is repeated behind `s` until it has `width` characters. -/
def padRight (fill : Char) (width : Nat) (s : Text) : Text :=
  s ++ List.replicate (width - s.length) fill

/-- The pieces of a text between the occurrences of one character; there is always at least one. -/
def pieces (separator : Char) : Text → List Text
  | [] => [[]]
  | c :: rest =>
    if c = separator then [] :: pieces separator rest
    else
      match pieces separator rest with
      | piece :: others => (c :: piece) :: others
      | [] => [[c]]

/-- Texts joined by a separator. -/
def join (separator : Text) (parts : List Text) : Text := List.intercalate separator parts

/-- What stands behind `start` in a text that begins with it. -/
def after? : Text → Text → Option Text
  | [], s => some s
  | _ :: _, [] => none
  | p :: start, c :: s => if p = c then after? start s else none

/-- The text before and behind the first occurrence of `pattern`. -/
def cut? (pattern : Text) : Text → Option (Text × Text)
  | [] => if pattern.isEmpty then some ([], []) else none
  | c :: s =>
    match after? pattern (c :: s) with
    | some rest => some ([], rest)
    | none => (cut? pattern s).map fun (before, rest) => (c :: before, rest)

/-- The number of characters before the first occurrence of `pattern`. -/
def offset? (pattern : Text) (s : Text) : Option Nat :=
  (cut? pattern s).map (·.1.length)

/-- Whether `pattern` occurs in a text. -/
def occursIn (pattern s : Text) : Bool := (cut? pattern s).isSome

/-- Occurrences of a non-empty `pattern` are replaced from left to right without overlap. The count
tells how many characters of the last occurrence are still to be dropped. -/
def replaceFrom (pattern replacement : Text) : Nat → Text → Text
  | _, [] => []
  | k + 1, _ :: rest => replaceFrom pattern replacement k rest
  | 0, c :: rest =>
    if pattern.isPrefixOf (c :: rest) then
      replacement ++ replaceFrom pattern replacement (pattern.length - 1) rest
    else c :: replaceFrom pattern replacement 0 rest

/-- All occurrences of `pattern` are replaced; the empty pattern occurs around every character. -/
def replaceAll (pattern replacement : Text) (s : Text) : Text :=
  if pattern.isEmpty then replacement ++ s.flatMap (· :: replacement)
  else replaceFrom pattern replacement 0 s

/-- Texts are ordered by their code points. -/
def before : Text → Text → Bool
  | _, [] => false
  | [], _ :: _ => true
  | a :: s, b :: t => a.val < b.val || (a = b && before s t)

end Text
end ElementTags
