import ElementTags.Text.Basic

/-!
# Blank characters

Blanks separate the tokens of an attribute list, the words of a tag and the lines of a template.
They are the ASCII controls from tab to carriage return and from file separator to unit separator,
the space, the next-line control, and the Unicode space, line and paragraph separators.
-/

namespace ElementTags.Text

/-- The code points of the blank characters. -/
def blankCodes : List Nat :=
  [0x09, 0x0A, 0x0B, 0x0C, 0x0D, 0x1C, 0x1D, 0x1E, 0x1F, 0x20, 0x85, 0xA0, 0x1680,
    0x2000, 0x2001, 0x2002, 0x2003, 0x2004, 0x2005, 0x2006, 0x2007, 0x2008, 0x2009, 0x200A,
    0x2028, 0x2029, 0x202F, 0x205F, 0x3000]

/-- Whether a character is blank. -/
def isBlank (c : Char) : Bool := blankCodes.contains c.toNat

/-- A text without the blanks in front. -/
def dropBlanks (s : Text) : Text := s.dropWhile isBlank

/-- A text without the blanks at its end. -/
def dropTrailingBlanks (s : Text) : Text := (s.reverse.dropWhile isBlank).reverse

/-- A text without the blanks at both ends. -/
def strip (s : Text) : Text := dropTrailingBlanks (dropBlanks s)

/-- The runs of characters between blanks, gathered from the right: a character joins the word that
starts behind it unless a blank stands between them. -/
def wordsFrom : Text → Text × List Text
  | [] => ([], [])
  | c :: rest =>
    let (word, words) := wordsFrom rest
    if isBlank c then ([], if word.isEmpty then words else word :: words)
    else (c :: word, words)

/-- The words of a text: its maximal runs of characters that are not blank. -/
def words (s : Text) : List Text :=
  let (word, rest) := wordsFrom s
  if word.isEmpty then rest else word :: rest

end ElementTags.Text
