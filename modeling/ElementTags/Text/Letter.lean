import ElementTags.Text.Case
import ElementTags.Text.Digit
import ElementTags.Text.Word

/-!
# Letters and their cases

A letter is a word character that is neither a number nor the underscore. Letters with a case are
capital, small, or in title form, which is a capital one joined with a small one. Texts are asked
whether all their letters are of a case, and they are folded, so that texts that differ in case only
become the same.
-/

namespace ElementTags.Text

/-- The letters that stand for numbers, such as Roman numerals. -/
def letterNumberRanges : Array (Nat × Nat) := #[
  (0x16EE, 0x16F0), (0x2160, 0x2182), (0x2185, 0x2188), (0x3007, 0x3007), (0x3021, 0x3029),
  (0x3038, 0x303A), (0xA6E6, 0xA6EF), (0x10140, 0x10174), (0x10341, 0x10341), (0x1034A, 0x1034A),
  (0x103D1, 0x103D5), (0x12400, 0x1246E)]

/-- Numbers that are neither decimal digits nor letters, such as fractions. -/
def otherNumberRanges : Array (Nat × Nat) := #[
  (0x00B2, 0x00B3), (0x00B9, 0x00B9), (0x00BC, 0x00BE), (0x09F4, 0x09F9), (0x0B72, 0x0B77),
  (0x0BF0, 0x0BF2), (0x0C78, 0x0C7E), (0x0D58, 0x0D5E), (0x0D70, 0x0D78), (0x0F2A, 0x0F33),
  (0x1369, 0x137C), (0x17F0, 0x17F9), (0x19DA, 0x19DA), (0x2070, 0x2070), (0x2074, 0x2079),
  (0x2080, 0x2089), (0x2150, 0x215F), (0x2189, 0x2189), (0x2460, 0x249B), (0x24EA, 0x24FF),
  (0x2776, 0x2793), (0x2CFD, 0x2CFD), (0x3192, 0x3195), (0x3220, 0x3229), (0x3248, 0x324F),
  (0x3251, 0x325F), (0x3280, 0x3289), (0x32B1, 0x32BF), (0xA830, 0xA835), (0x10107, 0x10133),
  (0x10175, 0x10178), (0x1018A, 0x1018B), (0x102E1, 0x102FB), (0x10320, 0x10323),
  (0x10858, 0x1085F), (0x10879, 0x1087F), (0x108A7, 0x108AF), (0x108FB, 0x108FF),
  (0x10916, 0x1091B), (0x109BC, 0x109BD), (0x109C0, 0x109CF), (0x109D2, 0x109FF),
  (0x10A40, 0x10A48), (0x10A7D, 0x10A7E), (0x10A9D, 0x10A9F), (0x10AEB, 0x10AEF),
  (0x10B58, 0x10B5F), (0x10B78, 0x10B7F), (0x10BA9, 0x10BAF), (0x10CFA, 0x10CFF),
  (0x10E60, 0x10E7E), (0x10F1D, 0x10F26), (0x10F51, 0x10F54), (0x10FC5, 0x10FCB),
  (0x11052, 0x11065), (0x111E1, 0x111F4), (0x1173A, 0x1173B), (0x118EA, 0x118F2),
  (0x11C5A, 0x11C6C), (0x11FC0, 0x11FD4), (0x16B5B, 0x16B61), (0x16E80, 0x16E96),
  (0x1D2E0, 0x1D2F3), (0x1D360, 0x1D378), (0x1E8C7, 0x1E8CF), (0x1EC71, 0x1ECAB),
  (0x1ECAD, 0x1ECAF), (0x1ECB1, 0x1ECB4), (0x1ED01, 0x1ED2D), (0x1ED2F, 0x1ED3D),
  (0x1F100, 0x1F10C)]

/-- The ideographs that stand for numbers. -/
def numericIdeographs : Array Nat := #[
  0x3405, 0x3483, 0x382A, 0x3B4D, 0x4E00, 0x4E03, 0x4E07, 0x4E09, 0x4E5D, 0x4E8C, 0x4E94, 0x4E96,
  0x4EBF, 0x4EC0, 0x4EDF, 0x4EE8, 0x4F0D, 0x4F70, 0x5104, 0x5146, 0x5169, 0x516B, 0x516D, 0x5341,
  0x5343, 0x5344, 0x5345, 0x534C, 0x53C1, 0x53C2, 0x53C3, 0x53C4, 0x56DB, 0x58F1, 0x58F9, 0x5E7A,
  0x5EFE, 0x5EFF, 0x5F0C, 0x5F0D, 0x5F0E, 0x5F10, 0x62FE, 0x634C, 0x67D2, 0x6F06, 0x7396, 0x767E,
  0x8086, 0x842C, 0x8CAE, 0x8CB3, 0x8D30, 0x9621, 0x9646, 0x964C, 0x9678, 0x96F6, 0xF96B, 0xF973,
  0xF978, 0xF9B2, 0xF9D1, 0xF9D3, 0xF9FD, 0x20001, 0x20064, 0x200E2, 0x20121, 0x2092A, 0x20983,
  0x2098C, 0x2099C, 0x20AEA, 0x20AFD, 0x20B19, 0x22390, 0x22998, 0x23B1B, 0x2626D, 0x2F890]

/-- The capital letters that have no small counterpart of their own. -/
def unpairedCapitalRanges : Array (Nat × Nat) := #[
  (0x03D2, 0x03D4), (0x2102, 0x2102), (0x2107, 0x2107), (0x210B, 0x210D), (0x2110, 0x2112),
  (0x2115, 0x2115), (0x2119, 0x211D), (0x2124, 0x2124), (0x2128, 0x2128), (0x212C, 0x212D),
  (0x2130, 0x2131), (0x2133, 0x2133), (0x213E, 0x213F), (0x2145, 0x2145), (0x1D400, 0x1D419),
  (0x1D434, 0x1D44D), (0x1D468, 0x1D481), (0x1D49C, 0x1D49C), (0x1D49E, 0x1D49F),
  (0x1D4A2, 0x1D4A2), (0x1D4A5, 0x1D4A6), (0x1D4A9, 0x1D4AC), (0x1D4AE, 0x1D4B5),
  (0x1D4D0, 0x1D4E9), (0x1D504, 0x1D505), (0x1D507, 0x1D50A), (0x1D50D, 0x1D514),
  (0x1D516, 0x1D51C), (0x1D538, 0x1D539), (0x1D53B, 0x1D53E), (0x1D540, 0x1D544),
  (0x1D546, 0x1D546), (0x1D54A, 0x1D550), (0x1D56C, 0x1D585), (0x1D5A0, 0x1D5B9),
  (0x1D5D4, 0x1D5ED), (0x1D608, 0x1D621), (0x1D63C, 0x1D655), (0x1D670, 0x1D689),
  (0x1D6A8, 0x1D6C0), (0x1D6E2, 0x1D6FA), (0x1D71C, 0x1D734), (0x1D756, 0x1D76E),
  (0x1D790, 0x1D7A8), (0x1D7CA, 0x1D7CA), (0x1F130, 0x1F149), (0x1F150, 0x1F169),
  (0x1F170, 0x1F189)]

/-- The letters in title form. -/
def titleFormRanges : Array (Nat × Nat) := #[
  (0x01C5, 0x01C5), (0x01C8, 0x01C8), (0x01CB, 0x01CB), (0x01F2, 0x01F2), (0x1F88, 0x1F8F),
  (0x1F98, 0x1F9F), (0x1FA8, 0x1FAF), (0x1FBC, 0x1FBC), (0x1FCC, 0x1FCC), (0x1FFC, 0x1FFC)]

/-- Whether a character is a letter that stands for a number. -/
def isLetterNumber (c : Char) : Bool := inRanges letterNumberRanges c

/-- Whether a character is a number of any kind. -/
def isNumber (c : Char) : Bool :=
  isDecimal c || (0x80 ≤ c.val && (isLetterNumber c || inRanges otherNumberRanges c))

/-- Whether a character has a numeric value: a number or an ideograph that stands for one. -/
def isNumeric (c : Char) : Bool := isNumber c || numericIdeographs.contains c.toNat

/-- Whether a character is a letter. -/
def isLetter (c : Char) : Bool := isWord c && c ≠ '_' && !isNumber c

/-- Whether a character is a letter in title form. -/
def isTitleForm (c : Char) : Bool := inRanges titleFormRanges c

/-- Whether a character is a capital letter: it has a small counterpart, or it is known to be one.
-/
def isCapital (c : Char) : Bool :=
  isCased c && !isTitleForm c && (lowerChar c ≠ [c] || inRanges unpairedCapitalRanges c)

/-- Whether a character is a small letter. -/
def isSmall (c : Char) : Bool := isCased c && !isTitleForm c && !isCapital c

/-- Whether a text has a letter of a case and no letter of another one. -/
def isAllOf (isOfCase : Char → Bool) (s : Text) : Bool :=
  s.any isOfCase && s.all fun c => !isCased c || isOfCase c

/-- Whether the cased letters of a text are all capital ones, and there is one. -/
def isUpper (s : Text) : Bool := isAllOf isCapital s

/-- Whether the cased letters of a text are all small ones, and there is one. -/
def isLower (s : Text) : Bool := isAllOf isSmall s

/-- Whether capital letters stand just where no letter with a case stands in front of them. The
mark tells whether one stands in front of the text. -/
def isTitledAfter (behindCased : Bool) : Text → Bool
  | [] => true
  | c :: rest =>
    if isSmall c then behindCased && isTitledAfter true rest
    else if isCased c then !behindCased && isTitledAfter true rest
    else isTitledAfter false rest

/-- Whether the letters of a text are in title case, and there is one. -/
def isTitled (s : Text) : Bool := s.any isCased && isTitledAfter false s

/-- Whether a character belongs to the Cherokee letters, whose capital forms are the older ones. -/
def isCherokee (c : Char) : Bool :=
  (0x13A0 ≤ c.toNat && c.toNat ≤ 0x13FD) || (0xAB70 ≤ c.toNat && c.toNat ≤ 0xABBF)

/-- The folded form of a character. -/
def foldChar (c : Char) : Text :=
  if c = '\u0131' then [c]
  else if c = '\u1E9E' then ['s', 's']
  else if isCherokee c then upperChar c
  else (upperChar c).flatMap lowerChar

/-- The folded form of a text. -/
def fold (s : Text) : Text := s.flatMap foldChar

end ElementTags.Text
