import ElementTags.Text.Printable

/-!
# Quoted texts

Two forms of quoted text meet in this library. A *literal* stands in a template: its quotes are
dropped, an escaped quote and an escaped backslash lose their backslash, and every other backslash
stays. A *quotation* stands in log lines and descriptions: it shows every character of a text, the
ones that cannot be printed by their number.
-/

namespace ElementTags.Text

/-- The two characters that open and close a quoted text. -/
def isQuote (c : Char) : Bool := c = '"' || c = '\''

/-- Whether a text is enclosed in a pair of the same quotes. -/
def isEnclosed : Text → Bool
  | [] => false
  | q :: rest => isQuote q && rest.getLast? == some q

/-- The text that a literal stands for: the escaped quotes are replaced first, the escaped
backslashes after them. -/
def unquote : Text → Text
  | [] => []
  | q :: rest => replaceAll ['\\', '\\'] ['\\'] (replaceAll ['\\', q] [q] rest.dropLast)

/-- The last `width` hexadecimal digits of a number. -/
def hexDigits (width n : Nat) : Text := padLeft '0' width (Nat.toDigits 16 n)

/-- The number of a character behind a backslash, in as few of two, four or eight digits as it
takes. -/
def numberedChar (c : Char) : Text :=
  if c.toNat < 0x100 then '\\' :: 'x' :: hexDigits 2 c.toNat
  else if c.toNat < 0x10000 then '\\' :: 'u' :: hexDigits 4 c.toNat
  else '\\' :: 'U' :: hexDigits 8 c.toNat

/-- A character of a quotation that is enclosed in `quote`. -/
def quotedChar (quote c : Char) : Text :=
  if c = '\\' || c = quote then ['\\', c]
  else if c = '\n' then ['\\', 'n']
  else if c = '\r' then ['\\', 'r']
  else if c = '\t' then ['\\', 't']
  else if isPrintable c then [c]
  else numberedChar c

/-- A text in which the characters outside ASCII are shown by their numbers. -/
def inAscii (s : Text) : Text := s.flatMap fun c => if c.val < 0x80 then [c] else numberedChar c

/-- Double quotes enclose a quotation of a text that has apostrophes and no double quote, and
apostrophes any other. -/
def quotationMark (s : Text) : Char :=
  if s.contains '\'' && !s.contains '"' then '"' else '\''

/-- The quotation of a text. -/
def quote (s : Text) : Text :=
  let mark := quotationMark s
  mark :: s.flatMap (quotedChar mark) ++ [mark]

end ElementTags.Text
