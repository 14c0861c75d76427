import Mathlib.Data.List.Basic
import ElementTags.Proofs.Nesting
import ElementTags.Proofs.Segmentation
import ElementTags.Template.Piece

/-!
# The pieces of fragments

Fragments that are written one behind the other are cut into pieces where they were joined: an
opener or an end tag is one block tag, and the texts between two of them are one piece of plain text
(`ElementTags.Fragment.scan_sourceAll`). A text has to hold no braces for that, and what stands
between the marks of a block tag has to be one line without a closing mark. Names are words, so the
name of a block tag is found in it again, and no block tag but that of its own name turns markup
into text.
-/

namespace ElementTags

/-! ## Names and blanks -/

namespace Text

variable {name contents tail : Text}

/-- A text is one word: there is something in it, and no blank. -/
structure OneWord (s : Text) : Prop where
  nonempty : s ≠ []
  unbroken : ∀ c ∈ s, isBlank c = false

instance (s : Text) : Decidable (OneWord s) :=
  decidable_of_iff (s ≠ [] ∧ s.all (!isBlank ·) = true) (by
    simp only [List.all_eq_true, Bool.not_eq_true']
    exact ⟨fun word => ⟨word.1, word.2⟩, fun word => ⟨word.nonempty, word.unbroken⟩⟩)

/-- A text starts with a name, and the name ends there: at a blank, or with the text. -/
def StartsWith (name contents : Text) : Prop :=
  ∃ tail, contents = name ++ tail ∧ ∀ c ∈ tail.head?, isBlank c = true

theorem startsWith_self (name : Text) : StartsWith name name :=
  ⟨[], (List.append_nil name).symm, fun _ none => by cases none⟩

theorem startsWith_blank (name tail : Text) {c : Char} (blank : isBlank c = true) :
    StartsWith name (name ++ c :: tail) := by
  refine ⟨c :: tail, rfl, ?_⟩
  intro d first
  obtain rfl := Option.some.inj first
  exact blank

theorem dropTrailingBlanks_append {a b : Text} (last : ∀ c ∈ a.getLast?, isBlank c = false) :
    dropTrailingBlanks (a ++ b) = a ++ dropTrailingBlanks b := by
  have kept : a.reverse.dropWhile isBlank = a.reverse :=
    List.reverse_eq_iff.mp (dropTrailingBlanks_of_last last)
  rw [dropTrailingBlanks, dropTrailingBlanks, List.reverse_append, List.dropWhile_append]
  split
  · rename_i blank
    rw [kept, List.isEmpty_iff.mp blank, List.reverse_reverse, List.reverse_nil, List.append_nil]
  · rw [List.reverse_append, List.reverse_reverse]

theorem dropTrailingBlanks_prefix (s : Text) : dropTrailingBlanks s <+: s := by
  obtain ⟨back, split⟩ := List.dropWhile_suffix isBlank (l := s.reverse)
  refine ⟨back.reverse, ?_⟩
  rw [dropTrailingBlanks, ← List.reverse_append, split, List.reverse_reverse]

theorem dropTrailingBlanks_cons (c : Char) (s : Text) :
    dropTrailingBlanks (c :: s) =
      if isBlank c && (dropTrailingBlanks s).isEmpty then [] else c :: dropTrailingBlanks s := by
  simp only [dropTrailingBlanks, List.reverse_cons, List.dropWhile_append, List.isEmpty_reverse]
  cases blank : isBlank c with
  | true =>
      rw [Bool.true_and]
      split
      · rw [List.dropWhile_cons_of_pos blank]
        rfl
      · rw [List.reverse_append]
        rfl
  | false =>
      have kept : ¬isBlank c = true := by rw [blank]; exact Bool.false_ne_true
      rw [Bool.false_and, if_neg Bool.false_ne_true, List.dropWhile_cons_of_neg kept]
      split
      · rename_i nothing
        rw [List.isEmpty_iff.mp nothing]
        rfl
      · rw [List.reverse_append]
        rfl

/-- Blanks may be cut off at the end first. -/
theorem dropBlanks_dropTrailingBlanks (s : Text) :
    dropBlanks (dropTrailingBlanks s) = strip s := by
  rw [strip]
  induction s with
  | nil => rfl
  | cons c s ih =>
      rw [dropTrailingBlanks_cons]
      cases blank : isBlank c with
      | true =>
          have cut : dropBlanks (c :: s) = dropBlanks s := List.dropWhile_cons_of_pos blank
          rw [cut, ← ih, Bool.true_and]
          split
          · rename_i nothing
            rw [List.isEmpty_iff.mp nothing]
          · exact List.dropWhile_cons_of_pos blank
      | false =>
          have first : ∀ rest : Text, dropBlanks (c :: rest) = c :: rest := fun rest =>
            dropBlanks_of_head fun d head => Option.some.inj head ▸ blank
          rw [Bool.false_and, if_neg Bool.false_ne_true, first, first, dropTrailingBlanks_cons,
            blank, Bool.false_and, if_neg Bool.false_ne_true]

theorem wordsFrom_append (unbroken : ∀ c ∈ name, isBlank c = false) (tail : Text) :
    wordsFrom (name ++ tail) = (name ++ (wordsFrom tail).1, (wordsFrom tail).2) := by
  induction name with
  | nil => rfl
  | cons c name ih =>
      rw [List.forall_mem_cons] at unbroken
      rw [List.cons_append, wordsFrom, ih unbroken.2, unbroken.1]
      rfl

theorem wordsFrom_of_blank (blank : ∀ c ∈ tail.head?, isBlank c = true) :
    (wordsFrom tail).1 = [] := by
  cases tail with
  | nil => rfl
  | cons c tail =>
      have isBlank : isBlank c = true := blank c rfl
      simp only [wordsFrom, isBlank, if_true]

/-- Only blanks at the end are cut off from what starts with a word. -/
theorem OneWord.strip_append (word : OneWord name) (tail : Text) :
    Text.strip (name ++ tail) = name ++ dropTrailingBlanks tail := by
  have first : ∀ c ∈ (name ++ tail).head?, isBlank c = false := by
    intro c first
    rw [List.head?_append_of_ne_nil _ word.nonempty] at first
    exact word.unbroken c (List.mem_of_head? first)
  rw [Text.strip, dropBlanks_of_head first]
  exact dropTrailingBlanks_append fun c last => word.unbroken c (List.mem_of_getLast? last)

theorem head_dropTrailingBlanks (blank : ∀ c ∈ tail.head?, isBlank c = true) :
    ∀ c ∈ (dropTrailingBlanks tail).head?, isBlank c = true := by
  intro c first
  obtain ⟨behind, split⟩ := dropTrailingBlanks_prefix tail
  refine blank c ?_
  rw [Option.mem_def] at first ⊢
  rw [← split, List.head?_append, first, Option.some_or]

namespace StartsWith

/-- The first word is the name. -/
theorem head?_words (starts : StartsWith name contents) (word : OneWord name) :
    (words contents).head? = some name := by
  obtain ⟨tail, rfl, blank⟩ := starts
  have some : name.isEmpty = false := List.isEmpty_eq_false_iff.mpr word.nonempty
  simp only [words, wordsFrom_append word.unbroken, wordsFrom_of_blank blank, List.append_nil, some,
    Bool.false_eq_true, if_false, List.head?_cons]

/-- So is what stands in front of the first blank. -/
theorem takeWhile_eq (starts : StartsWith name contents) (word : OneWord name) :
    contents.takeWhile (!isBlank ·) = name := by
  obtain ⟨tail, rfl, blank⟩ := starts
  have all : ∀ c ∈ name, (!isBlank c) = true := fun c member => by rw [word.unbroken c member]; rfl
  rw [List.takeWhile_append_of_pos all]
  cases tail with
  | nil => exact List.append_nil name
  | cons c tail => rw [List.takeWhile_cons, blank c rfl]; exact List.append_nil name

theorem head?_not_blank (starts : StartsWith name contents) (word : OneWord name) :
    ∀ c ∈ contents.head?, isBlank c = false := by
  obtain ⟨tail, rfl, -⟩ := starts
  intro c first
  rw [List.head?_append_of_ne_nil _ word.nonempty] at first
  exact word.unbroken c (List.mem_of_head? first)

/-- It stays so without the blanks at the ends. -/
theorem strip (starts : StartsWith name contents) (word : OneWord name) :
    StartsWith name (Text.strip contents) := by
  obtain ⟨tail, rfl, blank⟩ := starts
  exact ⟨dropTrailingBlanks tail, word.strip_append tail, head_dropTrailingBlanks blank⟩

/-- A blank on each side is cut off again. -/
theorem strip_padded (starts : StartsWith name contents) (word : OneWord name) :
    Text.strip (' ' :: (contents ++ [' '])) = Text.strip contents := by
  obtain ⟨c, rest, rfl⟩ : ∃ c rest, contents = c :: rest := by
    obtain ⟨tail, rfl, -⟩ := starts
    exact List.exists_cons_of_ne_nil (List.append_ne_nil_of_left_ne_nil word.nonempty tail)
  have first : isBlank c = false := starts.head?_not_blank word c rfl
  have start : dropBlanks (' ' :: (c :: rest ++ [' '])) = c :: rest ++ [' '] := by
    rw [dropBlanks, List.dropWhile_cons_of_pos (by decide), List.cons_append,
      List.dropWhile_cons_of_neg (by rw [first]; exact Bool.false_ne_true)]
  have alone : dropBlanks (c :: rest) = c :: rest :=
    dropBlanks_of_head (starts.head?_not_blank word)
  rw [Text.strip, Text.strip, start, alone, dropTrailingBlanks, List.reverse_concat,
    List.dropWhile_cons_of_pos (by decide)]
  rfl

end StartsWith

/-- A pair of characters within a text stands on one side of a character that is neither. -/
theorem infix_append_cons {x y c : Char} {before behind : Text} (first : c ≠ x) (second : c ≠ y)
    (within : [x, y] <:+: before ++ c :: behind) : [x, y] <:+: before ∨ [x, y] <:+: behind := by
  induction before with
  | nil =>
      rcases List.infix_cons_iff.mp within with start | within
      · exact absurd (List.cons_prefix_cons.mp start).1.symm first
      · exact .inr within
  | cons d before ih =>
      rw [List.cons_append] at within
      rcases List.infix_cons_iff.mp within with start | within
      · obtain ⟨same, next⟩ := List.cons_prefix_cons.mp start
        cases before with
        | nil => exact absurd (List.cons_prefix_cons.mp next).1.symm second
        | cons e before =>
            obtain ⟨other, -⟩ := List.cons_prefix_cons.mp next
            rw [same, other]
            exact .inl ⟨[], before, rfl⟩
      · rcases ih within with within | within
        · exact .inl (within.trans (List.infix_cons List.infix_rfl))
        · exact .inr within

/-- The closing mark of a block tag stands somewhere in a text. -/
def HoldsClosing (s : Text) : Prop := ['%', '}'] <:+: s

instance (s : Text) : Decidable (HoldsClosing s) := inferInstanceAs (Decidable (['%', '}'] <:+: s))

end Text

/-! ## Markup and plain text -/

namespace Piece

open Text

variable {line : Nat} {name contents s rest : Text}

theorem upTo?_cons {closer c d : Char} (noClosing : ¬(c = closer ∧ d = '}')) (noBreak : c ≠ '\n')
    (rest : Text) :
    upTo? closer (c :: d :: rest) =
      (upTo? closer (d :: rest)).map fun (inner, behind) => (c :: inner, behind) := by
  rw [upTo?, if_neg (by simpa only [Bool.and_eq_true, decide_eq_true_eq] using noClosing),
    if_neg noBreak]

/-- Markup goes on to its first closing mark. -/
theorem upTo?_closing {closer : Char} {inner : Text} (other : closer ≠ '}')
    (oneLine : '\n' ∉ inner) (closed : ¬[closer, '}'] <:+: inner) (rest : Text) :
    upTo? closer (inner ++ closer :: '}' :: rest) = some (inner, rest) := by
  induction inner with
  | nil => simp only [List.nil_append, upTo?, decide_true, Bool.and_self, if_true]
  | cons c inner ih =>
      rw [List.mem_cons, not_or] at oneLine
      have further := ih oneLine.2 fun within =>
        closed (within.trans (List.infix_cons List.infix_rfl))
      cases inner with
      | nil =>
          rw [List.nil_append] at further
          rw [List.cons_append, List.nil_append, upTo?_cons (fun same => other same.2)
            (Ne.symm oneLine.1), further, Option.map_some]
      | cons d inner =>
          have noClosing : ¬(c = closer ∧ d = '}') := by
            rintro ⟨rfl, rfl⟩
            exact closed ⟨[], inner, rfl⟩
          rw [List.cons_append] at further
          rw [List.cons_append, List.cons_append, upTo?_cons noClosing (Ne.symm oneLine.1), further,
            Option.map_some]

/-- Only braces start markup, so everything else is plain text. -/
theorem scan_plain (noBrace : '{' ∉ s) (line : Nat) (rest : Text) :
    scan line none (s ++ rest) = s.foldr addChar (scan (line + s.count '\n') none rest) := by
  induction s generalizing line with
  | nil => rfl
  | cons c s ih =>
      rw [List.mem_cons, not_or] at noBrace
      have noMarkup : markup? (c :: (s ++ rest)) = none := by
        unfold markup?
        split
        · rename_i same
          exact absurd (List.cons.inj same).1 (Ne.symm noBrace.1)
        · rfl
      rw [List.cons_append, scan]
      split
      · rename_i found
        rw [noMarkup] at found
        cases found
      · rw [List.foldr_cons, ih noBrace.2]
        by_cases newline : c = '\n'
        · subst newline
          rw [if_pos rfl, List.count_cons_self, Nat.add_right_comm, Nat.add_assoc]
        · rw [if_neg newline, List.count_cons_of_ne newline]

/-- Only a block tag that is named `verbatim` turns markup into text. -/
theorem ending?_of_ne {inner : Text} (starts : StartsWith name (Text.strip inner))
    (word : OneWord name) (other : name ≠ "verbatim".toList) : ending? inner .block = none := by
  have named := starts.takeWhile_eq word
  have split := List.take_append_drop 9 (Text.strip inner)
  simp only [ending?, Bool.or_eq_true, decide_eq_true_eq, ite_eq_right_iff]
  rintro (start | start)
  · have length := congrArg List.length start
    rw [List.length_take] at length
    have short : (Text.strip inner).length ≤ 9 := by
      have eight : "verbatim".toList.length = 8 := rfl
      omega
    rw [List.take_of_length_le short] at start
    rw [start] at named
    exact absurd named.symm other
  · rw [← split, start] at named
    exact absurd named.symm other

theorem markup?_closing {inner : Text} (oneLine : '\n' ∉ inner) (closed : ¬HoldsClosing inner)
    (rest : Text) :
    markup? ('{' :: '%' :: (inner ++ '%' :: '}' :: rest)) = some (.block, inner, rest) := by
  have found := upTo?_closing (by decide) oneLine closed rest
  simp only [markup?, markOf?, Mark.closer, found, Option.map_some]

/-- Markup at the start of a text is its first piece. -/
theorem scan_of_markup {ending : Option Text} {mark : Mark} {inner behind : Text}
    (found : markup? s = some (mark, inner, behind)) (line : Nat) :
    scan line ending s = (pieceOf line ending mark inner).1 ::
      scan line (pieceOf line ending mark inner).2 behind := by
  cases s with
  | nil => cases found
  | cons c rest =>
      rw [scan]
      split
      · rename_i markup
        rw [found] at markup
        cases markup
        rfl
      · rename_i noMarkup
        rw [found] at noMarkup
        cases noMarkup

/-- A block tag as it is written. -/
def blockSource (contents : Text) : Text := ['{', '%', ' '] ++ contents ++ [' ', '%', '}']

/-- A block tag on one line is one piece. -/
theorem scan_block (starts : StartsWith name contents) (word : OneWord name)
    (other : name ≠ "verbatim".toList) (oneLine : '\n' ∉ contents)
    (closed : ¬HoldsClosing contents) (line : Nat) (rest : Text) :
    scan line none (blockSource contents ++ rest) =
      .block ⟨Text.strip contents, line⟩ :: scan line none rest := by
  have noBreak : '\n' ∉ ' ' :: (contents ++ [' ']) := by
    simp only [List.mem_cons, List.mem_append, List.not_mem_nil, or_false, not_or]
    exact ⟨by decide, oneLine, by decide⟩
  have noClosing : ¬HoldsClosing (' ' :: (contents ++ [' '])) := by
    intro within
    rcases @infix_append_cons _ _ _ [] _ (by decide) (by decide) within with within | within
    · exact absurd within (by decide)
    · rcases infix_append_cons (by decide) (by decide) within with within | within
      · exact closed within
      · exact absurd within (by decide)
  have source : blockSource contents ++ rest =
      '{' :: '%' :: (' ' :: (contents ++ [' ']) ++ '%' :: '}' :: rest) := by
    simp only [blockSource, List.append_assoc, List.cons_append, List.nil_append]
  have stripped := starts.strip_padded word
  have noEnding : ending? (' ' :: (contents ++ [' '])) .block = none := by
    refine ending?_of_ne ?_ word other
    rw [stripped]
    exact starts.strip word
  rw [source, scan_of_markup (markup?_closing noBreak noClosing rest)]
  simp only [pieceOf, ofMarkup, noEnding, stripped]

/-- Plain text as pieces. -/
def plain (s : Text) : List Piece := if s.isEmpty then [] else [text s]

/-- Characters in front of what is no plain text are a piece of their own. -/
theorem foldr_addChar {pieces : List Piece} (starts : ∀ s, pieces.head? ≠ some (text s))
    (s : Text) : s.foldr addChar pieces = plain s ++ pieces := by
  induction s with
  | nil => rfl
  | cons c s ih =>
      rw [List.foldr_cons, ih]
      cases s with
      | nil =>
          cases pieces with
          | nil => rfl
          | cons piece pieces =>
              cases piece with
              | text s => exact absurd rfl (starts s)
              | _ => rfl
      | cons d s => rfl

end Piece

/-! ## Openers -/

open Text

/-- What stands between the marks of an opener. -/
def Use.contents (use : Use) : Text :=
  use.tag.name ++ if use.attributes.isEmpty then [] else ' ' :: use.attributes

/-- An opener that stays within its marks: the name of its tag is a word and does not turn markup
into text, and its attributes are on one line without a closing mark. -/
structure Use.Written (use : Use) : Prop where
  word : OneWord use.tag.name
  other : use.tag.name ≠ "verbatim".toList
  oneLine : '\n' ∉ use.attributes
  closed : ¬HoldsClosing use.attributes

theorem Use.startsWith_contents (use : Use) : StartsWith use.tag.name use.contents := by
  rw [Use.contents]
  split
  · rw [List.append_nil]
    exact startsWith_self _
  · exact startsWith_blank _ _ (by decide)

/-- The blanks around the attributes belong to none of them. -/
theorem Use.splitContents_contents {use : Use} (word : OneWord use.tag.name) :
    Tag.splitContents (strip use.contents) = (use.tag.name, strip use.attributes) := by
  obtain ⟨tail, whole, blank, inner⟩ : ∃ tail, use.contents = use.tag.name ++ tail ∧
      (∀ c ∈ tail.head?, isBlank c = true) ∧ strip tail = strip use.attributes := by
    rw [contents]
    split
    · rename_i nothing
      rw [List.isEmpty_iff.mp nothing]
      exact ⟨[], rfl, fun _ none => (by cases none), rfl⟩
    · refine ⟨' ' :: use.attributes, rfl, ?_, ?_⟩
      · intro c first
        obtain rfl := Option.some.inj first
        decide
      · rw [strip, strip, dropBlanks, List.dropWhile_cons_of_pos (by decide), dropBlanks]
  have front := (use.startsWith_contents.strip word).takeWhile_eq word
  have split := List.takeWhile_append_dropWhile (p := (!isBlank ·)) (l := strip use.contents)
  rw [front, whole, word.strip_append] at split
  rw [Tag.splitContents, front, whole, word.strip_append, List.append_cancel_left split,
    dropBlanks_dropTrailingBlanks, inner]

/-- A word has no line break. -/
theorem Text.OneWord.oneLine {s : Text} (word : OneWord s) : '\n' ∉ s := fun member =>
  absurd (word.unbroken _ member) (by decide)

theorem Use.Written.oneLine_contents {use : Use} (written : use.Written) :
    '\n' ∉ use.contents := by
  have name := written.word.oneLine
  rw [Use.contents]
  split
  · rw [List.append_nil]
    exact name
  · simp only [List.mem_append, List.mem_cons, not_or]
    exact ⟨name, by decide, written.oneLine⟩

theorem Use.Written.closed_contents {use : Use} (written : use.Written)
    (unbroken : ¬HoldsClosing use.tag.name) : ¬HoldsClosing use.contents := by
  rw [Use.contents]
  split
  · rw [List.append_nil]
    exact unbroken
  · intro within
    rcases infix_append_cons (by decide) (by decide) within with within | within
    · exact unbroken within
    · exact written.closed within

/-! ## End tags -/

theorem oneWord_endNameOf {name : Text} (word : OneWord name) : OneWord (Tag.endNameOf name) where
  nonempty := List.append_ne_nil_of_left_ne_nil (by decide) name
  unbroken := by
    intro c member
    rcases List.mem_append.mp member with ending | inside
    · have first : OneWord "end".toList := by decide
      exact first.unbroken c ending
    · exact word.unbroken c inside

/-- Every end tag starts with the same letter. -/
theorem endNameOf_ne {s : Text} (other : s.head? ≠ some 'e') (name : Text) :
    Tag.endNameOf name ≠ s := by
  rintro rfl
  exact other rfl

theorem closed_endNameOf {name : Text} (unbroken : ¬HoldsClosing name) :
    ¬HoldsClosing (Tag.endNameOf name) := by
  intro within
  rcases @infix_append_cons _ _ 'd' ['e', 'n'] _ (by decide) (by decide) within with within | within
  · exact absurd within (by decide)
  · exact unbroken within

/-! ## Fragments -/

namespace Fragment

/-- A fragment as it is written. -/
def source : Fragment → Text
  | text s => s
  | opener use => Piece.blockSource use.contents
  | ending name => Piece.blockSource ("end".toList ++ name)

/-- Fragments one behind the other. -/
def sourceAll (fragments : List Fragment) : Text := fragments.flatMap source

/-- A fragment is written as it has to be: a text holds no braces, and a name is a word. -/
def Written : Fragment → Prop
  | text s => '{' ∉ s ∧ '}' ∉ s
  | opener use => use.Written
  | ending name => OneWord name

/-- The name in a fragment holds no closing mark. -/
def Unbroken : Fragment → Prop
  | text _ => True
  | opener use => ¬HoldsClosing use.tag.name
  | ending name => ¬HoldsClosing name

/-- The pieces of fragments behind some plain text that starts on a line. -/
def pieces (line : Nat) (plain : Text) : List Fragment → List Piece
  | [] => Piece.plain plain
  | text s :: rest => pieces line (plain ++ s) rest
  | opener use :: rest =>
    Piece.plain plain ++ .block ⟨strip use.contents, line + plain.count '\n'⟩ ::
      pieces (line + plain.count '\n') [] rest
  | ending name :: rest =>
    Piece.plain plain ++ .block ⟨strip (Tag.endNameOf name), line + plain.count '\n'⟩ ::
      pieces (line + plain.count '\n') [] rest

/-- Fragments are cut where they are joined. -/
theorem scan_sourceAll {fragments : List Fragment} (written : ∀ f ∈ fragments, f.Written)
    (unbroken : ∀ f ∈ fragments, f.Unbroken) {plain : Text} (noBrace : '{' ∉ plain)
    (line : Nat) :
    Piece.scan line none (plain ++ sourceAll fragments) = pieces line plain fragments := by
  induction fragments generalizing line plain with
  | nil =>
      rw [sourceAll, List.flatMap_nil, Piece.scan_plain noBrace, Piece.scan,
        Piece.foldr_addChar (by simp), List.append_nil, pieces]
  | cons fragment rest ih =>
      rw [List.forall_mem_cons] at written unbroken
      rw [sourceAll, List.flatMap_cons, ← sourceAll]
      have next := @ih written.2 unbroken.2
      cases fragment with
      | text s =>
          have both : '{' ∉ plain ++ s := by
            rw [List.mem_append, not_or]
            exact ⟨noBrace, written.1.1⟩
          rw [source, ← List.append_assoc, next both, pieces]
      | opener use =>
          have own : use.Written := written.1
          rw [source, Piece.scan_plain noBrace,
            Piece.scan_block use.startsWith_contents own.word own.other own.oneLine_contents
              (own.closed_contents unbroken.1),
            Piece.foldr_addChar (by simp), pieces, ← next List.not_mem_nil, List.nil_append]
      | ending name =>
          have word := oneWord_endNameOf written.1
          rw [source, ← Tag.endNameOf, Piece.scan_plain noBrace,
            Piece.scan_block (startsWith_self _) word (endNameOf_ne (by decide) name) word.oneLine
              (closed_endNameOf unbroken.1),
            Piece.foldr_addChar (by simp), pieces, ← next List.not_mem_nil, List.nil_append]

end Fragment
end ElementTags
