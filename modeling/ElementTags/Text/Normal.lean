import ElementTags.Text.Basic
import ElementTags.Text.Compatibility
import ElementTags.Text.Composition

/-!
# Normal forms of names

Two names that look alike are one name: compatible characters are replaced by plain ones, marks are
put into a fixed order, and a letter and its mark become one character where there is one.
-/

namespace ElementTags.Text

/-! ## Hangul syllables -/

/-- The code points of the first syllable, and of the first leading, middle and final part. -/
def syllableBase : Nat := 0xAC00

/-- The code point of the first leading part of a syllable. -/
def leadBase : Nat := 0x1100

/-- The code point of the first middle part of a syllable. -/
def vowelBase : Nat := 0x1161

/-- The code point in front of the first final part of a syllable. -/
def tailBase : Nat := 0x11A7

/-- The number of leading, of middle, and of final parts; no final part counts as one. -/
def partCounts : Nat × Nat × Nat := (19, 21, 28)

/-- The parts of a syllable. -/
def syllableParts? (code : Nat) : Option (List Nat) :=
  let (leads, vowels, tails) := partCounts
  if syllableBase ≤ code && code < syllableBase + leads * vowels * tails then
    let n := code - syllableBase
    let front := [leadBase + n / (vowels * tails), vowelBase + n % (vowels * tails) / tails]
    some (if n % tails = 0 then front else front ++ [tailBase + n % tails])
  else none

/-- The syllable that two parts make. -/
def syllableOf? (first second : Nat) : Option Nat :=
  let (leads, vowels, tails) := partCounts
  if leadBase ≤ first && first < leadBase + leads && vowelBase ≤ second &&
      second < vowelBase + vowels then
    some (syllableBase + ((first - leadBase) * vowels + (second - vowelBase)) * tails)
  else if syllableBase ≤ first && first < syllableBase + leads * vowels * tails &&
      (first - syllableBase) % tails = 0 && tailBase < second && second < tailBase + tails then
    some (first + (second - tailBase))
  else none

/-! ## Taking characters apart -/

/-- What a character stands for: plain characters, or a character and a mark. -/
def partsOf? (code : Nat) : Option (List Nat) :=
  match syllableParts? code with
  | some parts => some parts
  | none =>
    match compositions.find? (·.2.2 == code) with
    | some (first, mark, _) => some [first, mark]
    | none =>
      match plainForms.find? fun (first, last, _) => first ≤ code && code ≤ last with
      | some (first, _, image) => some [image + (code - first)]
      | none => (plainSequences.find? (·.1 == code)).map (·.2)

/-- The plain characters and marks that a character stands for; a character is taken apart at most
so many times. -/
def takeApart : Nat → Nat → List Nat
  | 0, code => [code]
  | depth + 1, code =>
    match partsOf? code with
    | some parts => parts.flatMap (takeApart depth)
    | none => [code]

/-- How often a character is taken apart. -/
def maxDepth : Nat := 5

/-! ## Putting marks in order -/

/-- The class of a mark, which is zero for what is no mark. -/
def markClass (code : Nat) : Nat :=
  match markClasses.find? fun (first, last, _) => first ≤ code && code ≤ last with
  | some (_, _, c) => c
  | none => 0

/-- Puts a mark in front of other characters, behind the marks of smaller classes. -/
def insertMark (code : Nat) : List Nat → List Nat
  | [] => [code]
  | next :: rest =>
    if markClass next ≠ 0 && markClass next < markClass code then next :: insertMark code rest
    else code :: next :: rest

/-- Characters with the marks on each letter in the order of their classes. -/
def orderMarks : List Nat → List Nat
  | [] => []
  | code :: rest =>
    if markClass code = 0 then code :: orderMarks rest else insertMark code (orderMarks rest)

/-! ## Putting characters together -/

/-- The character that two make together. -/
def composed? (first second : Nat) : Option Nat :=
  match syllableOf? first second with
  | some code => some code
  | none =>
    (compositions.find? fun (a, b, _) => a == first && b == second).map (·.2.2)

/-- Puts the characters behind a letter together with it as far as possible. `blocked` is the class
of the nearest mark that stays between the letter and the next character, and `kept` holds the marks
that stay, the last one first. -/
def composeBehind (letter : Nat) (kept : List Nat) (blocked : Option Nat) : List Nat → List Nat
  | [] => letter :: kept.reverse
  | code :: rest =>
    let c := markClass code
    let isFree := match blocked with
      | none => true
      | some b => b < c
    match if isFree then composed? letter code else none with
    | some whole => composeBehind whole kept blocked rest
    | none =>
      if c = 0 then letter :: kept.reverse ++ composeBehind code [] none rest
      else composeBehind letter (code :: kept) (some c) rest

/-- Characters put together as far as possible. -/
def compose : List Nat → List Nat
  | [] => []
  | code :: rest =>
    if markClass code = 0 then composeBehind code [] none rest else code :: compose rest

/-- The normal form of a text. -/
def normal (s : Text) : Text :=
  if s.all fun c => c.val < 0x80 then s
  else
    let parts := s.flatMap fun c => if c.val < 0x80 then [c.toNat] else takeApart maxDepth c.toNat
    (compose (orderMarks parts)).map Char.ofNat

end ElementTags.Text
