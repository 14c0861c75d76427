import ElementTags.Attribute.Token
import ElementTags.Proofs.Outcome

/-! # Segmentation of a source into tokens

The tokens of a source are read back from a relation: a source is cut into blanks
and lexemes, a lexeme is one of three kinds of texts, and a name ends only where
no name character follows. The scanner finds this segmentation
(`ElementTags.Token.scanFrom_eq_ok_iff`), and the relation is what the grammar of
attribute lists is reasoned with: it can be moved, appended and cut between any
two tokens.
-/

namespace ElementTags

namespace Text

/-- Membership in ranges, in the form in which it is quick to evaluate. -/
theorem inRanges_eq_any (ranges : Array (Nat × Nat)) (c : Char) :
    inRanges ranges c =
      ranges.toList.any fun range => range.1.ble c.toNat && c.toNat.ble range.2 := by
  have same (a b : Nat) : decide (a ≤ b) = a.ble b := by
    rw [Bool.eq_iff_iff, decide_eq_true_eq, Nat.ble_eq]
  simp only [inRanges, ← Array.any_toList, same]

/-- No name character is blank. -/
theorem isBlank_of_isNameChar {c : Char} (named : isNameChar c = true) : isBlank c = false := by
  cases blank : isBlank c with
  | false => rfl
  | true =>
      have listed : c.toNat ∈ blankCodes := by
        simpa only [isBlank, List.contains_iff_mem] using blank
      have ascii : ∀ n ∈ blankCodes, (Char.ofNat n).isAlphanum = false ∧
          Char.ofNat n ≠ '_' ∧ Char.ofNat n ≠ '.' := by decide +kernel
      have others : ∀ n ∈ blankCodes,
          (wordRanges.toList.any fun range => range.1.ble n && n.ble range.2) = false := by
        decide +kernel
      have plain := ascii _ listed
      rw [Char.ofNat_toNat] at plain
      simp only [isNameChar, isWord, inRanges_eq_any, others _ listed, plain, decide_false,
        Bool.or_false, ite_self, Bool.false_eq_true] at named

/-- No name character is a quote. -/
theorem isQuote_of_isNameChar {c : Char} (named : isNameChar c = true) : isQuote c = false := by
  cases quote : isQuote c with
  | false => rfl
  | true =>
      simp only [isQuote, Bool.or_eq_true, decide_eq_true_eq] at quote
      rcases quote with rfl | rfl <;> exact absurd named (by decide)

/-- No quote is blank. -/
theorem isBlank_of_isQuote {c : Char} (quote : isQuote c = true) : isBlank c = false := by
  simp only [isQuote, Bool.or_eq_true, decide_eq_true_eq] at quote
  rcases quote with rfl | rfl <;> decide

theorem dropBlanks_of_head {s : Text} (first : ∀ c ∈ s.head?, isBlank c = false) :
    dropBlanks s = s := by
  cases s with
  | nil => rfl
  | cons c s => rw [dropBlanks, List.dropWhile_cons, first c rfl]; rfl

theorem dropTrailingBlanks_of_last {s : Text} (last : ∀ c ∈ s.getLast?, isBlank c = false) :
    dropTrailingBlanks s = s := by
  have kept : s.reverse.dropWhile isBlank = s.reverse := by
    apply dropBlanks_of_head
    rw [List.head?_reverse]
    exact last
  rw [dropTrailingBlanks, kept, List.reverse_reverse]

/-- Blanks in front of a text are dropped with its own. -/
theorem dropBlanks_behind_blanks {gap : Text} (blank : ∀ c ∈ gap, isBlank c = true) (s : Text) :
    dropBlanks (gap ++ s) = dropBlanks s :=
  List.dropWhile_append_of_pos blank

/-- So are blanks behind it. -/
theorem dropTrailingBlanks_before_blanks {gap : Text} (blank : ∀ c ∈ gap, isBlank c = true)
    (s : Text) : dropTrailingBlanks (s ++ gap) = dropTrailingBlanks s := by
  rw [dropTrailingBlanks, List.reverse_append, List.dropWhile_append_of_pos]
  · rfl
  · exact fun c member => blank c (List.mem_reverse.mp member)

theorem head_dropBlanks {s : Text} : ∀ c ∈ (dropBlanks s).head?, isBlank c = false := by
  intro c first
  have ends := List.head?_dropWhile_not isBlank s
  rw [Option.mem_def] at first
  rw [dropBlanks] at first
  rw [first] at ends
  exact ends

/-- No blanks stand around a text without the blanks around it. -/
theorem strip_strip (s : Text) : strip (strip s) = strip s := by
  have last : ∀ c ∈ (strip s).getLast?, isBlank c = false := by
    rw [strip, dropTrailingBlanks, List.getLast?_reverse]
    exact head_dropBlanks
  have first : ∀ c ∈ (strip s).head?, isBlank c = false := by
    obtain ⟨back, split⟩ := List.dropWhile_suffix isBlank (l := (dropBlanks s).reverse)
    have front : strip s ++ back.reverse = dropBlanks s := by
      rw [strip, dropTrailingBlanks, ← List.reverse_append, split, List.reverse_reverse]
    intro c first
    refine head_dropBlanks (s := s) c ?_
    rw [Option.mem_def] at first ⊢
    rw [← front, List.head?_append, first, Option.some_or]
  rw [strip, dropBlanks_of_head first, dropTrailingBlanks_of_last last]

end Text

namespace Token

open Outcome

/-- A token further behind in a source. -/
def shift (k : Nat) (t : Token) : Token := { t with start := t.start + k }

@[simp] theorem shift_kind (k : Nat) (t : Token) : (t.shift k).kind = t.kind := rfl
@[simp] theorem shift_text (k : Nat) (t : Token) : (t.shift k).text = t.text := rfl
@[simp] theorem shift_start (k : Nat) (t : Token) : (t.shift k).start = t.start + k := rfl
@[simp] theorem shift_isMark (k : Nat) (t : Token) (c : Char) :
    (t.shift k).isMark c = t.isMark c := rfl

@[simp] theorem shift_stop (k : Nat) (t : Token) : (t.shift k).stop = t.stop + k := by
  simp only [stop, shift]
  omega

/-- Tokens that touch still do when both are moved. -/
@[simp] theorem shift_touches (k : Nat) (s t : Token) :
    (s.shift k).touches (t.shift k) = s.touches t := by
  simp only [touches, shift_stop, shift_start, Nat.add_right_cancel_iff]

/-- The texts that make one token of a kind. -/
def Lexeme : TokenKind → Text → Prop
  | .quoted, s => ∃ quote body, s = quote :: body ∧ Text.isQuote quote = true ∧
      quotedTail quote body = some (body, [])
  | .name, s => s ≠ [] ∧ ∀ c ∈ s, Text.isNameChar c = true
  | .mark, s => ∃ c, s = [c] ∧ Text.isBlank c = false ∧ Text.isQuote c = false ∧
      Text.isNameChar c = false

/-- A lexeme has at least one character. -/
theorem Lexeme.ne_nil {kind : TokenKind} {s : Text} (lexeme : Lexeme kind s) : s ≠ [] := by
  cases kind with
  | quoted =>
      obtain ⟨quote, body, rfl, -⟩ := lexeme
      exact List.cons_ne_nil _ _
  | name => exact lexeme.1
  | mark =>
      obtain ⟨c, rfl, -⟩ := lexeme
      exact List.cons_ne_nil _ _

/-- A character other than the backslash ends a quoted text or belongs to it. -/
theorem quotedTail_cons {quote c : Char} (plain : c ≠ '\\') (rest : Text) :
    quotedTail quote (c :: rest) =
      if c = quote then some ([c], rest)
      else (quotedTail quote rest).map fun (body, rest) => (c :: body, rest) := by
  rw [quotedTail]
  · exact fun same _ => plain same
  · exact fun _ _ same _ => plain same

/-- A character that is neither a backslash alone nor one in front of another character is none. -/
theorem ne_backslash {c : Char} {s : Text} (single : c = '\\' → s = [] → False)
    (escaped : ∀ d t, c = '\\' → s = d :: t → False) : c ≠ '\\' := by
  cases s with
  | nil => exact fun same => single same rfl
  | cons d t => exact fun same => escaped d t same rfl

/-- What is read behind an opening quote does not depend on what stands behind the closing one. -/
theorem quotedTail_append {quote : Char} {s body rest : Text}
    (closed : quotedTail quote s = some (body, rest)) (more : Text) :
    quotedTail quote (body ++ more) = some (body, more) := by
  fun_induction quotedTail quote s generalizing body rest with
  | case1 => simp at closed
  | case2 => simp at closed
  | case3 c s ih =>
      obtain ⟨⟨b, r⟩, inner, same⟩ := Option.map_eq_some_iff.mp closed
      obtain ⟨rfl, rfl⟩ := Prod.mk.inj same
      simp only [List.cons_append, quotedTail, ih inner, Option.map_some]
  | case4 s single escaped =>
      obtain ⟨rfl, rfl⟩ := Prod.mk.inj (Option.some.inj closed)
      rw [List.singleton_append, quotedTail_cons (ne_backslash single escaped), if_pos rfl]
  | case5 c s single escaped other ih =>
      obtain ⟨⟨b, r⟩, inner, same⟩ := Option.map_eq_some_iff.mp closed
      obtain ⟨rfl, rfl⟩ := Prod.mk.inj same
      rw [List.cons_append, quotedTail_cons (ne_backslash single escaped), if_neg other, ih inner]
      rfl

/-! ## One step of the scanner -/

theorem scanFrom_blank {c : Char} (blank : Text.isBlank c = true) (n : Nat) (rest : Text) :
    scanFrom n (c :: rest) = scanFrom (n + 1) rest := by
  rw [scanFrom, if_pos blank]

/-- No name character is the first of a text. -/
def NoName (s : Text) : Prop := ∀ c ∈ s.head?, Text.isNameChar c = false

/-- No blank is a name character. -/
theorem noName_of_blank {s : Text} (blank : ∀ c ∈ s.head?, Text.isBlank c = true) : NoName s := by
  intro c first
  cases named : Text.isNameChar c with
  | false => rfl
  | true =>
      have notBlank := Text.isBlank_of_isNameChar named
      rw [blank c first] at notBlank
      cases notBlank

/-- The scanner takes a lexeme as one token, a name only as a whole. -/
theorem scanFrom_lexeme {kind : TokenKind} {s : Text} (lexeme : Lexeme kind s) (n : Nat)
    (rest : Text) (whole : kind = .name → NoName rest) :
    scanFrom n (s ++ rest) =
      (scanFrom (n + s.length) rest).map (⟨kind, s, n⟩ :: ·) := by
  cases kind with
  | quoted =>
      obtain ⟨quote, body, rfl, isQuote, closed⟩ := lexeme
      have closed := quotedTail_append closed rest
      rw [List.cons_append, scanFrom, if_neg (by simp [Text.isBlank_of_isQuote isQuote]),
        if_pos isQuote]
      split
      · rename_i none
        rw [closed] at none
        exact absurd none (Option.some_ne_none _)
      · rename_i some
        rw [closed] at some
        obtain ⟨rfl, rfl⟩ := Prod.mk.inj (Option.some.inj some)
        rw [List.length_cons, show n + 1 + body.length = n + (body.length + 1) by omega]
        rfl
  | name =>
      obtain ⟨nonempty, named⟩ := lexeme
      obtain ⟨c, name, rfl⟩ := List.exists_cons_of_ne_nil nonempty
      have first : Text.isNameChar c = true := named c List.mem_cons_self
      have others : ∀ d ∈ name, Text.isNameChar d = true :=
        fun d member => named d (List.mem_cons_of_mem c member)
      have taken : (name ++ rest).takeWhile Text.isNameChar = name := by
        rw [List.takeWhile_append_of_pos others]
        cases rest with
        | nil => simp only [List.takeWhile_nil, List.append_nil]
        | cons d rest =>
            rw [List.takeWhile_cons, whole rfl d rfl]
            exact List.append_nil name
      have dropped : (name ++ rest).dropWhile Text.isNameChar = rest := by
        rw [List.dropWhile_append_of_pos others]
        cases rest with
        | nil => rfl
        | cons d rest => rw [List.dropWhile_cons, whole rfl d rfl]; rfl
      rw [List.cons_append, scanFrom, if_neg (by simp [Text.isBlank_of_isNameChar first]),
        if_neg (by simp [Text.isQuote_of_isNameChar first]), if_pos first]
      simp only [taken, dropped]
      rfl
  | mark =>
      obtain ⟨c, rfl, blank, quote, name⟩ := lexeme
      rw [List.singleton_append, scanFrom, if_neg (by simp [blank]), if_neg (by simp [quote]),
        if_neg (by simp [name])]
      rfl

/-! ## Segmentations -/

/-- The tokens into which a text is cut whose first character stands at a position: blanks belong
to no token, and a name ends where no name character follows. -/
inductive Segments : Nat → Text → List Token → Prop
  | nil (n : Nat) : Segments n [] []
  | blank {n : Nat} {c : Char} {rest : Text} {tokens : List Token}
      (blank : Text.isBlank c = true) (behind : Segments (n + 1) rest tokens) :
      Segments n (c :: rest) tokens
  | token {n : Nat} {kind : TokenKind} {s rest : Text} {tokens : List Token}
      (lexeme : Lexeme kind s) (whole : kind = .name → NoName rest)
      (behind : Segments (n + s.length) rest tokens) :
      Segments n (s ++ rest) (⟨kind, s, n⟩ :: tokens)

/-- The scanner succeeds on what is cut into tokens, and finds these tokens. -/
theorem Segments.scanFrom_eq {n : Nat} {s : Text} {tokens : List Token}
    (segments : Segments n s tokens) : scanFrom n s = .ok tokens := by
  induction segments with
  | nil n => rw [scanFrom]
  | blank blank _ ih => rw [scanFrom_blank blank, ih]
  | token lexeme whole _ ih =>
      rw [scanFrom_lexeme lexeme _ _ whole, ih]
      rfl

/-- What the scanner finds is a segmentation. -/
theorem segments_of_scanFrom {n : Nat} {s : Text} {tokens : List Token}
    (scanned : scanFrom n s = .ok tokens) : Segments n s tokens := by
  fun_induction scanFrom n s generalizing tokens with
  | case1 n =>
      obtain rfl := Except.ok.inj scanned
      exact .nil n
  | case2 n c rest blank ih => exact .blank blank (ih scanned)
  | case3 => cases scanned
  | case4 n c rest blank quote body behind closed ih =>
      obtain ⟨others, found, same⟩ := bind_eq_ok.mp scanned
      obtain rfl := Except.ok.inj same
      have split := quotedTail_eq_append closed
      have lexeme : Lexeme .quoted (c :: body) :=
        ⟨c, body, rfl, quote, by simpa only [List.append_nil] using quotedTail_append closed []⟩
      rw [split, ← List.cons_append]
      refine .token lexeme (fun named => by cases named) ?_
      rw [List.length_cons, show n + (body.length + 1) = n + 1 + body.length by omega]
      exact ih found
  | case5 n c rest blank quote named =>
      rename_i ih
      obtain ⟨others, found, same⟩ := bind_eq_ok.mp scanned
      obtain rfl := Except.ok.inj same
      have lexeme : Lexeme .name (c :: rest.takeWhile Text.isNameChar) := by
        refine ⟨List.cons_ne_nil _ _, fun d member => ?_⟩
        rcases List.mem_cons.mp member with rfl | member
        · exact named
        · exact List.all_eq_true.mp List.all_takeWhile d member
      have split : c :: rest = c :: rest.takeWhile Text.isNameChar ++
          rest.dropWhile Text.isNameChar := by
        rw [List.cons_append, List.takeWhile_append_dropWhile]
      have whole : NoName (rest.dropWhile Text.isNameChar) := by
        intro d first
        have ends := List.head?_dropWhile_not Text.isNameChar rest
        rw [Option.mem_def.mp first] at ends
        exact ends
      rw [split]
      exact .token lexeme (fun _ => whole) (ih found)
  | case6 n c rest blank quote named ih =>
      obtain ⟨others, found, same⟩ := bind_eq_ok.mp scanned
      obtain rfl := Except.ok.inj same
      have lexeme : Lexeme .mark [c] := by
        simp only [Bool.not_eq_true] at blank quote named
        exact ⟨c, rfl, blank, quote, named⟩
      rw [← List.singleton_append]
      exact .token lexeme (fun named => by cases named) (ih found)

/-- The scanner finds exactly the segmentation of a text. -/
theorem scanFrom_eq_ok_iff {n : Nat} {s : Text} {tokens : List Token} :
    scanFrom n s = .ok tokens ↔ Segments n s tokens :=
  ⟨segments_of_scanFrom, Segments.scanFrom_eq⟩

/-! ## Moving, appending and cutting -/

/-- A segmentation moves with its text. -/
theorem Segments.shift {n : Nat} {s : Text} {tokens : List Token} (segments : Segments n s tokens)
    (k : Nat) : Segments (n + k) s (tokens.map (Token.shift k)) := by
  induction segments with
  | nil n => exact .nil _
  | @blank n c rest tokens blank _ ih =>
      refine .blank blank ?_
      rw [show n + k + 1 = n + 1 + k by omega]
      exact ih
  | @token n kind s rest tokens lexeme whole _ ih =>
      refine .token lexeme whole ?_
      rw [show n + k + s.length = n + s.length + k by omega]
      exact ih

/-- A text may be cut in two here: no name goes on across the cut. -/
def Parted (a b : Text) : Prop := ∀ c ∈ a.getLast?, Text.isNameChar c = true → NoName b

theorem parted_nil (a : Text) : Parted a [] := by
  intro c _ _ d first
  cases first

/-- Nothing that starts with another character goes on with a name. -/
theorem parted_cons {d : Char} (other : Text.isNameChar d = false) (a b : Text) :
    Parted a (d :: b) := by
  intro c _ _ e first
  obtain rfl := Option.some.inj first
  exact other

/-- A part of a text that may be cut behind it may be cut behind it, too. -/
theorem Parted.of_append {a a' b : Text} (parted : Parted (a ++ a') b) : Parted a' b := by
  intro c last
  refine parted c ?_
  rw [Option.mem_def] at last ⊢
  rw [List.getLast?_append, last, Option.some_or]

/-- Scanning goes on behind a text that is cut into tokens. -/
theorem Segments.scanFrom_append {n : Nat} {a : Text} {tokens : List Token}
    (segments : Segments n a tokens) (b : Text) (parted : Parted a b) :
    scanFrom n (a ++ b) = (scanFrom (n + a.length) b).map (tokens ++ ·) := by
  induction segments with
  | nil n =>
      simp only [List.nil_append, List.length_nil, Nat.add_zero]
      cases scanFrom n b <;> rfl
  | @blank n c rest tokens blank behind ih =>
      have parted : Parted rest b := Parted.of_append (a := [c]) parted
      rw [List.cons_append, scanFrom_blank blank, ih parted, List.length_cons,
        show n + 1 + rest.length = n + (rest.length + 1) by omega]
  | @token n kind s rest tokens lexeme whole behind ih =>
      have wholeHere : kind = .name → NoName (rest ++ b) := by
        intro name
        cases rest with
        | cons d rest => exact whole name
        | nil =>
            subst name
            have last := List.getLast?_eq_some_getLast lexeme.1
            rw [List.append_nil] at parted
            exact parted _ last (lexeme.2 _ (List.getLast_mem lexeme.1))
      have parted : Parted rest b := Parted.of_append parted
      rw [List.append_assoc, scanFrom_lexeme lexeme n _ wholeHere, ih parted, List.length_append,
        show n + s.length + rest.length = n + (s.length + rest.length) by omega]
      cases scanFrom (n + (s.length + rest.length)) b <;> rfl

/-- Segmentations of two texts make one of both together. -/
theorem Segments.append {n : Nat} {a b : Text} {tokens others : List Token}
    (first : Segments n a tokens) (second : Segments (n + a.length) b others)
    (parted : Parted a b) : Segments n (a ++ b) (tokens ++ others) := by
  apply segments_of_scanFrom
  rw [first.scanFrom_append b parted, second.scanFrom_eq]
  rfl

/-- Blanks hold no token. -/
theorem segments_blanks {blanks : Text} (blank : ∀ c ∈ blanks, Text.isBlank c = true) (n : Nat) :
    Segments n blanks [] := by
  induction blanks generalizing n with
  | nil => exact .nil n
  | cons c rest ih =>
      exact .blank (blank c List.mem_cons_self)
        (ih (fun d member => blank d (List.mem_cons_of_mem c member)) (n + 1))

theorem Segments.behind_blanks {n : Nat} {blanks b : Text} {tokens : List Token}
    (segments : Segments (n + blanks.length) b tokens)
    (blank : ∀ c ∈ blanks, Text.isBlank c = true) : Segments n (blanks ++ b) tokens := by
  induction blanks generalizing n with
  | nil => exact segments
  | cons c rest ih =>
      refine .blank (blank c List.mem_cons_self)
        (ih ?_ fun d member => blank d (List.mem_cons_of_mem c member))
      rw [List.length_cons, Nat.add_comm rest.length, ← Nat.add_assoc] at segments
      exact segments

theorem Segments.before_blanks {n : Nat} {a blanks : Text} {tokens : List Token}
    (segments : Segments n a tokens) (blank : ∀ c ∈ blanks, Text.isBlank c = true) :
    Segments n (a ++ blanks) tokens := by
  have parted : Parted a blanks := fun _ _ _ =>
    noName_of_blank fun d first => blank d (List.mem_of_head? first)
  rw [← List.append_nil tokens]
  exact segments.append (segments_blanks blank _) parted

/-- A text without tokens is blank. -/
theorem Segments.all_blank {n : Nat} {s : Text} (segments : Segments n s []) :
    ∀ c ∈ s, Text.isBlank c = true := by
  generalize none : ([] : List Token) = tokens at segments
  induction segments with
  | nil => simp only [List.not_mem_nil, false_implies, implies_true]
  | blank blank _ ih =>
      intro d member
      rcases List.mem_cons.mp member with rfl | member
      · exact blank
      · exact ih none d member
  | token => cases none

/-- The first token of a text stands behind blanks, and the others behind the first. -/
theorem Segments.uncons {n : Nat} {s : Text} {t : Token} {tokens : List Token}
    (segments : Segments n s (t :: tokens)) :
    ∃ blanks rest, s = blanks ++ (t.text ++ rest) ∧ (∀ c ∈ blanks, Text.isBlank c = true) ∧
      t.start = n + blanks.length ∧ Lexeme t.kind t.text ∧ (t.kind = .name → NoName rest) ∧
      Segments t.stop rest tokens := by
  generalize all : t :: tokens = found at segments
  induction segments with
  | nil => cases all
  | @blank n c rest found blank _ ih =>
      obtain ⟨blanks, behind, rfl, allBlank, start, lexeme, whole, others⟩ := ih all
      refine ⟨c :: blanks, behind, rfl, ?_, ?_, lexeme, whole, others⟩
      · intro d member
        rcases List.mem_cons.mp member with rfl | member
        · exact blank
        · exact allBlank d member
      · rw [start, List.length_cons]
        omega
  | @token n kind s rest found lexeme whole behind _ =>
      obtain ⟨rfl, rfl⟩ := List.cons.inj all
      exact ⟨[], rest, rfl, by simp only [List.not_mem_nil, false_implies, implies_true], rfl,
        lexeme, whole, behind⟩

theorem quotedTail_getLast? {quote : Char} {s body rest : Text}
    (closed : quotedTail quote s = some (body, rest)) : body.getLast? = some quote := by
  fun_induction quotedTail quote s generalizing body rest with
  | case1 => cases closed
  | case2 => cases closed
  | case3 c s ih =>
      obtain ⟨⟨b, r⟩, inner, same⟩ := Option.map_eq_some_iff.mp closed
      obtain ⟨rfl, rfl⟩ := Prod.mk.inj same
      rw [List.getLast?_cons, List.getLast?_cons, ih inner]
      rfl
  | case4 s =>
      obtain ⟨rfl, rfl⟩ := Prod.mk.inj (Option.some.inj closed)
      rfl
  | case5 c s _ _ _ ih =>
      obtain ⟨⟨b, r⟩, inner, same⟩ := Option.map_eq_some_iff.mp closed
      obtain ⟨rfl, rfl⟩ := Prod.mk.inj same
      rw [List.getLast?_cons, ih inner]
      rfl

/-- A lexeme does not start with a blank. -/
theorem Lexeme.head_not_blank {kind : TokenKind} {s : Text} (lexeme : Lexeme kind s)
    (rest : Text) : ∀ c ∈ (s ++ rest).head?, Text.isBlank c = false := by
  intro c first
  replace first : c ∈ s.head? := by
    obtain ⟨d, s, rfl⟩ := List.exists_cons_of_ne_nil lexeme.ne_nil
    exact first
  cases kind with
  | quoted =>
      obtain ⟨quote, body, rfl, isQuote, -⟩ := lexeme
      obtain rfl := Option.some.inj first
      exact Text.isBlank_of_isQuote isQuote
  | name => exact Text.isBlank_of_isNameChar (lexeme.2 c (List.mem_of_head? first))
  | mark =>
      obtain ⟨d, rfl, blank, -⟩ := lexeme
      obtain rfl := Option.some.inj first
      exact blank

/-- A lexeme does not end with a blank. -/
theorem Lexeme.last_not_blank {kind : TokenKind} {s : Text} (lexeme : Lexeme kind s) :
    ∀ c ∈ s.getLast?, Text.isBlank c = false := by
  intro c last
  cases kind with
  | quoted =>
      obtain ⟨quote, body, rfl, isQuote, closed⟩ := lexeme
      rw [List.getLast?_cons, quotedTail_getLast? closed] at last
      obtain rfl := Option.some.inj last
      exact Text.isBlank_of_isQuote isQuote
  | name => exact Text.isBlank_of_isNameChar (lexeme.2 c (List.mem_of_getLast? last))
  | mark =>
      obtain ⟨d, rfl, blank, -⟩ := lexeme
      obtain rfl := Option.some.inj last
      exact blank

/-- A text may be cut right behind any of its tokens. -/
theorem Segments.split {n : Nat} {s : Text} {tokens others : List Token}
    (segments : Segments n s (tokens ++ others)) :
    ∃ a b, s = a ++ b ∧ Segments n a tokens ∧ Segments (n + a.length) b others ∧
      n + a.length = (tokens.getLast?.map Token.stop).getD n ∧
      ∀ c ∈ a.getLast?, Text.isBlank c = false := by
  induction tokens generalizing n s with
  | nil =>
      refine ⟨[], s, rfl, .nil n, segments, rfl, ?_⟩
      intro c none
      cases none
  | cons t tokens ih =>
      obtain ⟨blanks, rest, rfl, blank, start, lexeme, whole, behind⟩ := segments.uncons
      obtain ⟨a, b, rfl, front, back, ends, final⟩ := ih behind
      have stop : t.stop = n + (blanks ++ t.text).length := by
        rw [Token.stop, start, List.length_append]
        omega
      have wholeHere : t.kind = .name → NoName a := by
        intro name c first
        refine whole name c ?_
        rw [Option.mem_def] at first ⊢
        rw [List.head?_append, first, Option.some_or]
      have token : Segments t.start (t.text ++ a) (t :: tokens) := .token lexeme wholeHere front
      rw [start] at token
      refine ⟨blanks ++ (t.text ++ a), b, by simp only [List.append_assoc],
        token.behind_blanks blank, ?_, ?_, ?_⟩
      · rw [show n + (blanks ++ (t.text ++ a)).length = t.stop + a.length by
          rw [stop]; simp only [List.length_append]; omega]
        exact back
      · rw [List.getLast?_cons, Option.map_some, Option.getD_some, List.length_append,
          List.length_append]
        rw [stop, List.length_append] at ends
        cases later : tokens.getLast? with
        | none =>
            rw [later, Option.map_none, Option.getD_none] at ends
            rw [Option.getD_none, stop, List.length_append]
            omega
        | some last =>
            rw [later, Option.map_some, Option.getD_some] at ends
            rw [Option.getD_some]
            omega
      · intro c last
        rw [List.getLast?_append, List.getLast?_append,
          List.getLast?_eq_some_getLast lexeme.ne_nil, Option.mem_def] at last
        cases behindToken : a.getLast? with
        | none =>
            rw [behindToken, Option.none_or, Option.some_or] at last
            exact lexeme.last_not_blank c (by rw [List.getLast?_eq_some_getLast]; exact last)
        | some d =>
            rw [behindToken, Option.some_or, Option.some_or] at last
            obtain rfl := Option.some.inj last
            exact final d behindToken

/-- Every segmentation is one of the same text at an earlier position, moved. -/
theorem Segments.unshift {n k : Nat} {s : Text} {tokens : List Token}
    (segments : Segments (n + k) s tokens) :
    ∃ origin, Segments n s origin ∧ tokens = origin.map (Token.shift k) := by
  generalize moved : n + k = start at segments
  induction segments generalizing n with
  | nil => exact ⟨[], .nil n, rfl⟩
  | @blank start c rest tokens blank _ ih =>
      obtain ⟨origin, behind, rfl⟩ := ih (n := n + 1) (by omega)
      exact ⟨origin, .blank blank behind, rfl⟩
  | @token start kind s rest tokens lexeme whole _ ih =>
      obtain ⟨origin, behind, rfl⟩ := ih (n := n + s.length) (by omega)
      refine ⟨⟨kind, s, n⟩ :: origin, .token lexeme whole behind, ?_⟩
      rw [List.map_cons, ← moved]
      rfl

/-! ## Blanks at the ends -/

/-- The blanks in front of a text hold none of its tokens. -/
theorem Segments.dropBlanks {n : Nat} {s : Text} {tokens : List Token}
    (segments : Segments n s tokens) :
    Segments (n + (s.takeWhile Text.isBlank).length) (Text.dropBlanks s) tokens := by
  induction segments with
  | nil n => exact .nil n
  | @blank n c rest tokens blank _ ih =>
      rw [Text.dropBlanks, List.dropWhile_cons, List.takeWhile_cons, if_pos blank, if_pos blank,
        List.length_cons, show n + ((rest.takeWhile Text.isBlank).length + 1) =
          n + 1 + (rest.takeWhile Text.isBlank).length by omega]
      exact ih
  | @token n kind s rest tokens lexeme whole behind _ =>
      have first := lexeme.head_not_blank rest
      have none : (s ++ rest).takeWhile Text.isBlank = [] := by
        obtain ⟨c, s, rfl⟩ := List.exists_cons_of_ne_nil lexeme.ne_nil
        rw [List.cons_append, List.takeWhile_cons, first c rfl]
        rfl
      rw [Text.dropBlanks_of_head first, none]
      exact .token lexeme whole behind

/-- The blanks behind a text hold none of its tokens. -/
theorem Segments.dropTrailingBlanks {n : Nat} {s : Text} {tokens : List Token}
    (segments : Segments n s tokens) : Segments n (Text.dropTrailingBlanks s) tokens := by
  rw [← List.append_nil tokens] at segments
  obtain ⟨a, b, rfl, front, back, -, final⟩ := segments.split
  rw [Text.dropTrailingBlanks_before_blanks back.all_blank, Text.dropTrailingBlanks_of_last final]
  exact front

/-- Neither do the blanks on both sides. -/
theorem Segments.strip {n : Nat} {s : Text} {tokens : List Token}
    (segments : Segments n s tokens) :
    Segments (n + (s.takeWhile Text.isBlank).length) (Text.strip s) tokens :=
  segments.dropBlanks.dropTrailingBlanks

end Token
end ElementTags
