import ElementTags.Text.Ranges
import ElementTags.Text.CaseTable

/-!
# Upper, lower and title case

The full case mappings: one character may become several, and the capital sigma at the end of a word
has a lower-case form of its own.
-/

namespace ElementTags.Text

/-- The image of a character under a table of shifts. -/
def shifted (shifts : Array CaseShift) (c : Char) : Char :=
  match shifts.find? fun s =>
    s.first ≤ c.toNat && c.toNat ≤ s.last && (c.toNat - s.first) % s.step == 0 with
  | some s => Char.ofNat (Int.ofNat c.toNat + s.shift).toNat
  | none => c

/-- The image of a character under a table of sequences, or else under a table of shifts. -/
def mapped (sequences : Array (Nat × List Nat)) (shifts : Array CaseShift) (c : Char) : Text :=
  match sequences.find? (·.1 == c.toNat) with
  | some (_, codes) => codes.map Char.ofNat
  | none => [shifted shifts c]

/-- The upper-case form of a character. -/
def upperChar (c : Char) : Text :=
  if c.val < 0x80 then [c.toUpper] else mapped upperSequences upperShifts c

/-- The lower-case form of a character outside of a word's end. -/
def lowerChar (c : Char) : Text :=
  if c.val < 0x80 then [c.toLower] else mapped lowerSequences lowerShifts c

/-- The form of a character at the start of a word. -/
def titleChar (c : Char) : Text :=
  if c.val < 0x80 then [c.toUpper]
  else
    match titleSequences.find? (·.1 == c.toNat) with
    | some (_, codes) => codes.map Char.ofNat
    | none => upperChar c

/-- Whether a character is a letter with a case. -/
def isCased (c : Char) : Bool :=
  if c.val < 0x80 then c.isAlpha else inRanges casedRanges c

/-- Whether a character is passed over by the rule of the final sigma. -/
def isCaseIgnorable (c : Char) : Bool :=
  if c.val < 0x80 then c = '\'' || c = '.' || c = ':' || c = '^' || c = '`'
  else inRanges caseIgnorableRanges c

/-- Whether the nearest character that is not ignorable is a letter with a case. -/
def touchesCased (s : Text) : Bool :=
  match s.dropWhile isCaseIgnorable with
  | c :: _ => isCased c
  | [] => false

/-- The lower-case form of a character between what stands before it, nearest first, and what stands
behind it: a capital sigma that closes a word becomes a final sigma. -/
def lowerBetween (before : Text) (c : Char) (behind : Text) : Text :=
  if c = 'Σ' then [if touchesCased before && !touchesCased behind then 'ς' else 'σ']
  else lowerChar c

/-- The upper-case form of a text. -/
def upper (s : Text) : Text := s.flatMap upperChar

/-- The lower-case form of a text whose preceding characters are given, nearest first. -/
def lowerAfter (before : Text) : Text → Text
  | [] => []
  | c :: rest => lowerBetween before c rest ++ lowerAfter (c :: before) rest

/-- The lower-case form of a text. -/
def lower (s : Text) : Text := lowerAfter [] s

/-- The title form of a text whose preceding characters are given, nearest first. -/
def titleAfter (before : Text) : Text → Text
  | [] => []
  | c :: rest =>
    (if (before.head?.map isCased).getD false then lowerBetween before c rest else titleChar c) ++
      titleAfter (c :: before) rest

/-- The title form of a text: the first letter of each run of letters is raised, the others are
lowered. -/
def title (s : Text) : Text := titleAfter [] s

/-- The first character raised and the rest kept. -/
def raiseFirst : Text → Text
  | [] => []
  | c :: rest => upperChar c ++ rest

/-- The first character in title form and the others lowered. -/
def capitalize : Text → Text
  | [] => []
  | c :: rest => titleChar c ++ lowerAfter [c] rest

/-- A letter in the other case, between what stands before it, nearest first, and what stands behind
it. A character that both maps change, like one in title form, stays. -/
def swapBetween (before : Text) (c : Char) (behind : Text) : Text :=
  if upperChar c = [c] then lowerBetween before c behind
  else if lowerChar c = [c] then upperChar c
  else [c]

/-- The letters of a text in the other case; its preceding characters are given, nearest first. -/
def swapAfter (before : Text) : Text → Text
  | [] => []
  | c :: rest => swapBetween before c rest ++ swapAfter (c :: before) rest

/-- The letters of a text in the other case. -/
def swapCase (s : Text) : Text := swapAfter [] s

end ElementTags.Text
