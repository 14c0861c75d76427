import ElementTags.Text.Basic
import ElementTags.Text.NameTable

/-!
# Characters by their names

Every character has a name in the character standard. Names are understood in capital and in small
letters. The names of ideographs end in their numbers, and those of Hangul syllables are put
together from the names of their parts.
-/

namespace ElementTags.Text

/-- The character of a number, if there is one. -/
def charOf? (code : Nat) : Option Char :=
  if h : code.isValidChar then some (Char.ofNatAux code h) else none

/-- The number of the character with a name in a block of the table. -/
def inBlock? (name : Text) (block : Nat × List String) : Option Nat :=
  let names := pieces ';' (block.2.flatMap String.toList)
  (names.findIdx? (· = name)).map (block.1 + ·)

/-- The ranges of the ideographs whose names are numbered. -/
def ideographRanges : List (Nat × Nat) :=
  [(0x3400, 0x4DBF), (0x4E00, 0x9FFF), (0x20000, 0x2A6DF), (0x2A700, 0x2B738), (0x2B740, 0x2B81D),
    (0x2B820, 0x2CEA1), (0x2CEB0, 0x2EBE0), (0x30000, 0x3134A)]

/-- The value of a digit to the base of sixteen, in capital letters. -/
def capitalHex? (c : Char) : Option Nat :=
  if c.isDigit then some (c.toNat - '0'.toNat)
  else if 'A' ≤ c && c ≤ 'F' then some (c.toNat - 'A'.toNat + 10)
  else none

/-- The number of an ideograph with a name. -/
def ideograph? (name : Text) : Option Nat := do
  let digits ← after? "CJK UNIFIED IDEOGRAPH-".toList name
  if digits.length = 4 || digits.length = 5 then
    let code ← digits.foldlM (fun n c => (capitalHex? c).map (16 * n + ·)) 0
    if ideographRanges.any fun (first, last) => first ≤ code && code ≤ last then some code else none
  else none

/-- The names of the leading parts of Hangul syllables. -/
def leadNames : List String :=
  ["G", "GG", "N", "D", "DD", "R", "M", "B", "BB", "S", "SS", "", "J", "JJ", "C", "K", "T", "P",
    "H"]

/-- The names of the middle parts of Hangul syllables. -/
def vowelNames : List String :=
  ["A", "AE", "YA", "YAE", "EO", "E", "YEO", "YE", "O", "WA", "WAE", "OE", "YO", "U", "WEO", "WE",
    "WI", "YU", "EU", "YI", "I"]

/-- The names of the final parts of Hangul syllables. -/
def tailNames : List String :=
  ["", "G", "GG", "GS", "N", "NJ", "NH", "D", "L", "LG", "LM", "LB", "LS", "LT", "LP", "LH", "M",
    "B", "BS", "S", "SS", "NG", "J", "C", "K", "T", "P", "H"]

/-- The number of the Hangul syllable with a name. -/
def syllableNamed? (name : Text) : Option Nat := do
  let rest ← after? "HANGUL SYLLABLE ".toList name
  let isVowel (c : Char) : Bool := "AEIOUWY".toList.contains c
  let lead := rest.takeWhile (!isVowel ·)
  let behind := rest.dropWhile (!isVowel ·)
  let l ← leadNames.findIdx? (·.toList = lead)
  let v ← vowelNames.findIdx? (·.toList = behind.takeWhile isVowel)
  let t ← tailNames.findIdx? (·.toList = behind.dropWhile isVowel)
  some (0xAC00 + (l * vowelNames.length + v) * tailNames.length + t)

/-- The character with a name. -/
def named? (name : Text) : Option Char :=
  let capital := name.map Char.toUpper
  let code? := (nameBlocks.findSome? (inBlock? capital)).or ((ideograph? capital).or
    (syllableNamed? capital))
  if capital.isEmpty then none else code?.bind charOf?

end ElementTags.Text
