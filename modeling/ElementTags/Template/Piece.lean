import ElementTags.Text.Blank

/-!
# Pieces of a template

A template is cut into plain text and markup: block tags between `{%` and `%}`, values between `{{`
and `}}`, and comments between `{#` and `#}`. Markup stays within one line; what is opened and not
closed on its line is plain text. The pieces are found from left to right, each as short as it can
be.

A block tag that starts with the word `verbatim` and a space, or is just that word, turns all markup
behind it into text, up to the block tag that repeats its contents with `end` in front.
-/

namespace ElementTags

/-- A block tag: what stands between its marks, without the blanks around it, and the number of its
line. -/
structure Block where
  contents : Text
  line : Nat

/-- The first word of a block tag, which names it. -/
def Block.name? (b : Block) : Option Text := (Text.words b.contents).head?

/-- A piece of a template. -/
inductive Piece
  | text (s : Text)
  /-- Markup that counts as text. -/
  | verbatim (s : Text)
  | value (contents : Text) (line : Nat)
  | block (b : Block)
  | comment

namespace Piece

/-- The kinds of markup. -/
inductive Mark
  | value
  | block
  | comment
  deriving DecidableEq

/-- The kind of markup that a character behind an opening brace starts. -/
def markOf? : Char → Option Mark
  | '{' => some .value
  | '%' => some .block
  | '#' => some .comment
  | _ => none

/-- The character that stands behind the opening brace. -/
def Mark.opener : Mark → Char
  | value => '\x7b'
  | block => '%'
  | comment => '#'

/-- The character that stands in front of the closing brace. -/
def Mark.closer : Mark → Char
  | value => '}'
  | block => '%'
  | comment => '#'

/-- What stands in front of the first closing mark of a line, and what stands behind the mark. -/
def upTo? (closer : Char) : Text → Option (Text × Text)
  | c :: d :: rest =>
    if c = closer && d = '}' then some ([], rest)
    else if c = '\n' then none
    else (upTo? closer (d :: rest)).map fun (inner, behind) => (c :: inner, behind)
  | _ => none

/-- The markup at the start of a text: its kind, what stands between its marks, and what stands
behind it. -/
def markup? : Text → Option (Mark × Text × Text)
  | '{' :: c :: rest =>
    match markOf? c with
    | some mark => (upTo? mark.closer rest).map fun (inner, behind) => (mark, inner, behind)
    | none => none
  | _ => none

/-- The piece that some markup makes. -/
def ofMarkup (line : Nat) (inner : Text) : Mark → Piece
  | .value => value (Text.strip inner) line
  | .block => block ⟨Text.strip inner, line⟩
  | .comment => comment

/-- Some markup as it is written. -/
def Mark.source (mark : Mark) (inner : Text) : Text :=
  '\x7b' :: mark.opener :: inner ++ [mark.closer, '\x7d']

/-- The block tag that ends what some markup turns into text, if it does. -/
def ending? (inner : Text) : Mark → Option Text
  | .block =>
    let contents := Text.strip inner
    let start := contents.take 9
    if start = "verbatim".toList || start = "verbatim ".toList then some ("end".toList ++ contents)
    else none
  | _ => none

/-- Whether some markup is the block tag with given contents. -/
def isBlock (contents inner : Text) : Mark → Bool
  | .block => Text.strip inner = contents
  | _ => false

/-- The piece that some markup makes, and the block tag that ends the text behind it. `ending` is
the block tag that is waited for, if markup counts as text. -/
def pieceOf (line : Nat) (ending : Option Text) (mark : Mark) (inner : Text) :
    Piece × Option Text :=
  match ending with
  | none => (ofMarkup line inner mark, ending? inner mark)
  | some contents =>
    if isBlock contents inner mark then (ofMarkup line inner mark, none)
    else (verbatim (mark.source inner), ending)

/-- Pieces with a character of plain text in front of them. -/
def addChar (c : Char) : List Piece → List Piece
  | text s :: rest => text (c :: s) :: rest
  | pieces => text [c] :: pieces

theorem upTo?_length {closer : Char} {s inner behind : Text}
    (h : upTo? closer s = some (inner, behind)) : behind.length < s.length := by
  fun_induction upTo? closer s generalizing inner behind with
  | case1 =>
    obtain ⟨-, rfl⟩ := Prod.mk.inj (Option.some.inj h)
    simp only [List.length_cons]
    omega
  | case2 => simp at h
  | case3 c d rest _ _ ih =>
    obtain ⟨⟨i, b⟩, hb, he⟩ := Option.map_eq_some_iff.1 h
    obtain ⟨-, rfl⟩ := Prod.mk.inj he
    have := ih hb
    simp only [List.length_cons] at this ⊢
    omega
  | case4 => simp at h

/-- Markup takes at least one character. -/
theorem markup?_length {s inner behind : Text} {mark : Mark}
    (h : markup? s = some (mark, inner, behind)) : behind.length < s.length := by
  unfold markup? at h
  split at h
  · split at h
    · obtain ⟨⟨i, b⟩, hb, he⟩ := Option.map_eq_some_iff.1 h
      obtain ⟨-, he⟩ := Prod.mk.inj he
      obtain ⟨-, rfl⟩ := Prod.mk.inj he
      have := upTo?_length hb
      simp only [List.length_cons]
      omega
    · simp at h
  · simp at h

/-- The pieces of a text that starts on a line with some number. `ending` is the block tag up to
which markup counts as text. -/
def scan (line : Nat) (ending : Option Text) (s : Text) : List Piece :=
  match s with
  | [] => []
  | c :: rest =>
    match _h : markup? (c :: rest) with
    | some (mark, inner, behind) =>
      (pieceOf line ending mark inner).1 :: scan line (pieceOf line ending mark inner).2 behind
    | none => addChar c (scan (if c = '\n' then line + 1 else line) ending rest)
termination_by s.length
decreasing_by
  · exact markup?_length _h
  · simp

/-- The pieces of a template. -/
def ofTemplate (source : Text) : List Piece := scan 1 none source

end Piece
end ElementTags
