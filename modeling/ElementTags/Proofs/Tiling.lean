import ElementTags.Proofs.Escapes
import ElementTags.Proofs.Part

/-! # The one list of tokens of a source

What the tokens of a source are can be said without a scanner: they stand in the
source one behind the other with blanks around them, a quoted text ends at the first
quote that no backslash takes along, a name is as long as it can be, and a mark is any
other character (`ElementTags.Token.Tiling`). A source has at most one such list of
tokens. The scanner finds it, and if there is none it reports the quoted text that is
not closed (`ElementTags.Token.scan_tiling`).
-/

namespace ElementTags.Token

open Outcome Text

/-! ## What tokens are -/

/-- What is said of the text of a token between the texts in front of it and behind it. A quoted
text starts and ends with the same quote; the one at its end stands behind an even run of
backslashes and every other one between them behind an odd run. A name cannot be made longer. -/
def FitsBetween (before behind : Text) (t : Token) : Prop :=
  match t.kind with
  | .quoted => ∃ quote inner, t.text = quote :: (inner ++ [quote]) ∧ isQuote quote = true ∧
      Even (escapes inner) ∧ Shielded quote inner
  | .name => t.text ≠ [] ∧ (∀ c ∈ t.text, isNameChar c = true) ∧
      (∀ c ∈ before.getLast?, isNameChar c = false) ∧ ∀ c ∈ behind.head?, isNameChar c = false
  | .mark => ∃ c, t.text = [c] ∧ isBlank c = false ∧ isQuote c = false ∧ isNameChar c = false

/-- A token stands in a source where it says, and fits there. -/
def FitsIn (source : Text) (t : Token) : Prop :=
  ∃ before behind, source = before ++ (t.text ++ behind) ∧ before.length = t.start ∧
    t.FitsBetween before behind

/-- The tokens of a source: they are in order and do not overlap, each fits where it stands, and
what belongs to none of them is blank. -/
structure Tiling (source : Text) (tokens : List Token) : Prop where
  ordered : tokens.Pairwise fun t later => t.stop ≤ later.start
  fits : ∀ t ∈ tokens, t.FitsIn source
  blank : ∀ position c, source[position]? = some c →
    (∀ t ∈ tokens, position < t.start ∨ t.stop ≤ position) → isBlank c = true

/-- A quoted text in a source is not closed: what is in front of its quote has tokens, and each
quote of the same kind that follows stands behind an odd run of backslashes. The fault names the
text from its quote on. -/
inductive Unclosed : Text → GrammarFault → Prop
  | quote {before rest : Text} {quote : Char} {tokens : List Token} (isQuote : isQuote quote = true)
      (front : Tiling before tokens) (shielded : Shielded quote rest) :
      Unclosed (before ++ quote :: rest) ⟨.unexpectedToken, quote :: rest, before.length⟩

/-! ## Lexemes -/

theorem plain_of_isQuote {quote : Char} (isQuote : isQuote quote = true) : quote ≠ '\\' := by
  rintro rfl
  exact absurd isQuote (by decide)

theorem lexeme_quoted_iff {s : Text} : Lexeme .quoted s ↔
    ∃ quote inner, s = quote :: (inner ++ [quote]) ∧ isQuote quote = true ∧
      Even (escapes inner) ∧ Shielded quote inner := by
  constructor
  · rintro ⟨quote, body, rfl, isQuote, closed⟩
    obtain ⟨inner, rfl, -, even, shielded⟩ :=
      (quotedTail_eq_some_iff (plain_of_isQuote isQuote)).mp closed
    exact ⟨quote, inner, rfl, isQuote, even, shielded⟩
  · rintro ⟨quote, inner, rfl, isQuote, even, shielded⟩
    exact ⟨quote, _, rfl, isQuote,
      (quotedTail_eq_some_iff (plain_of_isQuote isQuote)).mpr ⟨inner, rfl, rfl, even, shielded⟩⟩

/-- A token fits if its text is a lexeme and no name could be longer. -/
theorem fitsBetween_iff {before behind : Text} {t : Token} : t.FitsBetween before behind ↔
    Lexeme t.kind t.text ∧ (t.kind = .name →
      (∀ c ∈ before.getLast?, isNameChar c = false) ∧ NoName behind) := by
  obtain ⟨kind, text, start⟩ := t
  cases kind with
  | quoted => exact lexeme_quoted_iff.symm.trans (and_iff_left fun named => by cases named).symm
  | name =>
      exact ⟨fun ⟨nonempty, named, left, right⟩ => ⟨⟨nonempty, named⟩, fun _ => ⟨left, right⟩⟩,
        fun ⟨⟨nonempty, named⟩, whole⟩ => ⟨nonempty, named, whole rfl⟩⟩
  | mark => exact (and_iff_left fun named => by cases named).symm

/-- A lexeme of another kind than a name does not end with a name character. -/
theorem Lexeme.parted {kind : TokenKind} {s rest : Text} (lexeme : Lexeme kind s)
    (whole : kind = .name → NoName rest) : Parted s rest := by
  intro c last named
  cases kind with
  | quoted =>
      obtain ⟨quote, body, rfl, isQuote, closed⟩ := lexeme
      rw [List.getLast?_cons, quotedTail_getLast? closed] at last
      obtain rfl : quote = c := Option.some.inj last
      rw [isQuote_of_isNameChar named] at isQuote
      cases isQuote
  | name => exact whole rfl
  | mark =>
      obtain ⟨d, rfl, -, -, other⟩ := lexeme
      obtain rfl : d = c := Option.some.inj last
      rw [other] at named
      cases named

/-! ## From segmentations to tilings -/

theorem Segments.start_le {n : Nat} {s : Text} {tokens : List Token}
    (segments : Segments n s tokens) {t : Token} (member : t ∈ tokens) : n ≤ t.start := by
  induction segments with
  | nil => cases member
  | blank _ _ ih =>
      have behind := ih member
      omega
  | token _ _ _ ih =>
      rcases List.mem_cons.mp member with rfl | later
      · exact Nat.le_refl _
      · have behind := ih later
        omega

theorem Segments.ordered {n : Nat} {s : Text} {tokens : List Token}
    (segments : Segments n s tokens) : tokens.Pairwise fun t later => t.stop ≤ later.start := by
  induction segments with
  | nil => exact .nil
  | blank _ _ ih => exact ih
  | token _ _ behind ih => exact .cons (fun _ later => behind.start_le later) ih

/-- The tokens of a text behind another one fit, unless a name goes on across the cut. -/
theorem Segments.fits {n : Nat} {s : Text} {tokens : List Token} (segments : Segments n s tokens)
    {front : Text} (reach : front.length = n) (parted : Parted front s) {t : Token}
    (member : t ∈ tokens) : t.FitsIn (front ++ s) := by
  induction segments generalizing front with
  | nil => cases member
  | @blank n c rest tokens blank _ ih =>
      have goesOn : Parted (front ++ [c]) rest := by
        intro d last named
        rw [List.getLast?_append, List.getLast?_singleton, Option.some_or] at last
        obtain rfl := Option.some.inj last
        rw [isBlank_of_isNameChar named] at blank
        cases blank
      rw [← List.singleton_append, ← List.append_assoc]
      exact ih (by rw [List.length_append, reach]; rfl) goesOn member
  | @token n kind s rest tokens lexeme whole _ ih =>
      rcases List.mem_cons.mp member with rfl | later
      · refine ⟨front, rest, rfl, reach, fitsBetween_iff.mpr ⟨lexeme, fun name => ⟨?_, whole name⟩⟩⟩
        intro c last
        cases named : isNameChar c with
        | false => rfl
        | true =>
            obtain rfl : kind = .name := name
            obtain ⟨d, s, rfl⟩ := List.exists_cons_of_ne_nil lexeme.1
            have first := parted c last named d rfl
            rw [lexeme.2 d List.mem_cons_self] at first
            cases first
      · have goesOn : Parted (front ++ s) rest := by
          intro c last
          rw [List.getLast?_append, List.getLast?_eq_some_getLast lexeme.ne_nil,
            Option.some_or] at last
          refine lexeme.parted whole c ?_
          rw [List.getLast?_eq_some_getLast lexeme.ne_nil]
          exact last
        rw [← List.append_assoc]
        exact ih (by rw [List.length_append, reach]) goesOn later

/-- What belongs to no token is blank. -/
theorem Segments.blank_of_apart {n : Nat} {s : Text} {tokens : List Token}
    (segments : Segments n s tokens) {position : Nat} {c : Char} (here : s[position]? = some c)
    (apart : ∀ t ∈ tokens, n + position < t.start ∨ t.stop ≤ n + position) : isBlank c = true := by
  induction segments generalizing position with
  | nil => cases here
  | @blank n d rest tokens blank _ ih =>
      cases position with
      | zero =>
          obtain rfl := Option.some.inj here
          exact blank
      | succ position =>
          refine ih here fun t member => ?_
          have := apart t member
          omega
  | @token n kind s rest tokens lexeme whole _ ih =>
      obtain ⟨first, others⟩ := List.forall_mem_cons.mp apart
      change n + position < n ∨ n + s.length ≤ n + position at first
      have behind : s.length ≤ position := by omega
      rw [List.getElem?_append_right behind] at here
      refine ih here fun t member => ?_
      have := others t member
      omega

theorem Segments.tiling {source : Text} {tokens : List Token}
    (segments : Segments 0 source tokens) : Tiling source tokens where
  ordered := segments.ordered
  fits _ member := segments.fits List.length_nil (fun _ none => by cases none) member
  blank _ _ here apart := segments.blank_of_apart here (by simpa only [Nat.zero_add] using apart)

/-! ## From tilings to segmentations -/

/-- The part of a source behind some text is cut into its tokens: they fit in the source, none of
them starts earlier, and what belongs to none of them is blank. -/
theorem segments_of_fits {front s : Text} {tokens : List Token}
    (ordered : tokens.Pairwise fun t later => t.stop ≤ later.start)
    (inside : ∀ t ∈ tokens, front.length ≤ t.start) (fits : ∀ t ∈ tokens, t.FitsIn (front ++ s))
    (blank : ∀ position c, s[position]? = some c → (∀ t ∈ tokens,
      front.length + position < t.start ∨ t.stop ≤ front.length + position) → isBlank c = true) :
    Segments front.length s tokens := by
  induction tokens generalizing front s with
  | nil =>
      refine segments_blanks (fun c member => ?_) _
      obtain ⟨position, here⟩ := List.mem_iff_getElem?.mp member
      exact blank position c here (List.forall_mem_nil _)
  | cons t tokens ih =>
      obtain ⟨first, later⟩ := List.pairwise_cons.mp ordered
      obtain ⟨start, others⟩ := List.forall_mem_cons.mp inside
      obtain ⟨⟨before, behind, split, reach, fitsHere⟩, fitsLater⟩ := List.forall_mem_cons.mp fits
      obtain ⟨lexeme, whole⟩ := fitsBetween_iff.mp fitsHere
      obtain ⟨gap, rfl⟩ : ∃ gap, before = front ++ gap := by
        have longer := List.prefix_of_prefix_length_le (List.prefix_append front s)
          ⟨_, split.symm⟩ (by omega)
        exact ⟨_, longer.choose_spec.symm⟩
      rw [List.append_assoc] at split
      obtain rfl := List.append_cancel_left split
      rw [List.length_append] at reach
      have gapBlank : ∀ c ∈ gap, isBlank c = true := by
        intro c member
        obtain ⟨position, within, rfl⟩ := List.mem_iff_getElem.mp member
        refine blank position _ ?_ (List.forall_mem_cons.mpr ⟨.inl (by omega), fun u further => ?_⟩)
        · rw [List.getElem?_append_left within, List.getElem?_eq_getElem within]
        · have := first u further
          have : t.start ≤ t.stop := Nat.le_add_right _ _
          exact .inl (by omega)
      have stop : (front ++ gap ++ t.text).length = t.stop := by
        rw [List.length_append, List.length_append, reach, Token.stop]
      have rest : Segments t.stop behind tokens := by
        rw [← stop]
        refine ih later (fun u member => ?_) (fun u member => ?_) fun position c here apart => ?_
        · rw [stop]
          exact first u member
        · simpa only [List.append_assoc] using fitsLater u member
        · rw [stop] at apart
          refine blank (gap.length + t.text.length + position) c ?_ ?_
          · rw [← List.append_assoc, ← List.length_append, List.getElem?_append_right
              (Nat.le_add_right _ _), Nat.add_sub_cancel_left]
            exact here
          · have reached : front.length + (gap.length + t.text.length + position) =
                t.stop + position := by
              rw [Token.stop]
              omega
            rw [reached]
            exact List.forall_mem_cons.mpr ⟨.inr (Nat.le_add_right _ _), apart⟩
      have token : Segments t.start (t.text ++ behind) (t :: tokens) :=
        .token lexeme (fun name => (whole name).2) rest
      rw [← reach] at token
      exact token.behind_blanks gapBlank

theorem Tiling.segments {source : Text} {tokens : List Token} (tiling : Tiling source tokens) :
    Segments 0 source tokens :=
  @segments_of_fits [] _ _ tiling.ordered (fun _ _ => Nat.zero_le _) tiling.fits
    fun position c here apart =>
      tiling.blank position c here (by simpa only [List.length_nil, Nat.zero_add] using apart)

/-! ## What the scanner finds -/

theorem scan_eq_ok_iff {source : Text} {tokens : List Token} :
    scan source = .ok tokens ↔ Tiling source tokens :=
  ⟨fun scanned => (segments_of_scanFrom scanned).tiling,
    fun tiling => tiling.segments.scanFrom_eq⟩

/-- The scanner fails at a quote behind which no text is closed, and what is in front of it is cut
into tokens. -/
theorem exists_of_scanFrom_error {n : Nat} {s : Text} {fault : GrammarFault}
    (failed : scanFrom n s = .error fault) : ∃ before quote rest tokens,
      s = before ++ quote :: rest ∧ isQuote quote = true ∧ quotedTail quote rest = none ∧
        Segments n before tokens ∧
          fault = ⟨.unexpectedToken, quote :: rest, n + before.length⟩ := by
  fun_induction scanFrom n s with
  | case1 n => cases failed
  | case2 n c rest blank ih =>
      obtain ⟨before, quote, behind, tokens, rfl, isQuote, closed, segments, rfl⟩ := ih failed
      refine ⟨c :: before, quote, behind, tokens, rfl, isQuote, closed, .blank blank segments, ?_⟩
      rw [List.length_cons, show n + (before.length + 1) = n + 1 + before.length by omega]
  | case3 n c rest blank quote unclosed =>
      cases failed
      exact ⟨[], c, rest, [], rfl, quote, unclosed, .nil n, rfl⟩
  | case4 n c rest blank quote body behind closed ih =>
      obtain ⟨before, last, rest, tokens, rfl, isQuote, unclosed, segments, rfl⟩ :=
        ih (eq_error_of_bind_pure failed)
      have lexeme : Lexeme .quoted (c :: body) :=
        ⟨c, body, rfl, quote, by simpa only [List.append_nil] using quotedTail_append closed []⟩
      rw [show n + 1 + body.length = n + (c :: body).length by rw [List.length_cons]; omega]
        at segments ⊢
      refine ⟨c :: body ++ before, last, rest, _, ?_, isQuote, unclosed,
        .token lexeme (fun named => by cases named) segments, ?_⟩
      · rw [quotedTail_eq_append closed, List.cons_append, List.cons_append, List.append_assoc]
      · rw [List.length_append, Nat.add_assoc]
  | case5 n c rest blank quote named name ih =>
      obtain ⟨before, last, behind, tokens, split, isQuote, unclosed, segments, rfl⟩ :=
        ih (eq_error_of_bind_pure failed)
      have lexeme : Lexeme .name name := by
        refine ⟨List.cons_ne_nil _ _, List.forall_mem_cons.mpr ⟨named, fun d member => ?_⟩⟩
        exact List.all_eq_true.mp List.all_takeWhile d member
      have whole : NoName before := by
        intro d first
        have ends := List.head?_dropWhile_not isNameChar rest
        rw [split, List.head?_append, Option.mem_def.mp first] at ends
        exact ends
      refine ⟨name ++ before, last, behind, _, ?_, isQuote, unclosed,
        .token lexeme (fun _ => whole) segments, ?_⟩
      · rw [List.append_assoc, ← split, List.cons_append, List.takeWhile_append_dropWhile]
      · rw [List.length_append, Nat.add_assoc]
  | case6 n c rest blank quote named ih =>
      obtain ⟨before, last, behind, tokens, rfl, isQuote, unclosed, segments, rfl⟩ :=
        ih (eq_error_of_bind_pure failed)
      have lexeme : Lexeme .mark [c] := by
        simp only [Bool.not_eq_true] at blank quote named
        exact ⟨c, rfl, blank, quote, named⟩
      refine ⟨[c] ++ before, last, behind, _, rfl, isQuote, unclosed,
        .token lexeme (fun named => by cases named) segments, ?_⟩
      rw [List.length_append, Nat.add_assoc]
      rfl

/-- The scanner reports exactly a quoted text that is not closed. -/
theorem scan_eq_error_iff {source : Text} {fault : GrammarFault} :
    scan source = .error fault ↔ Unclosed source fault := by
  constructor
  · intro failed
    obtain ⟨before, quote, rest, tokens, rfl, isQuote, unclosed, segments, rfl⟩ :=
      exists_of_scanFrom_error failed
    rw [Nat.zero_add]
    exact .quote isQuote segments.tiling
      ((quotedTail_eq_none_iff (plain_of_isQuote isQuote)).mp unclosed)
  · rintro ⟨isQuote, front, shielded⟩
    rename_i before rest quote tokens
    have unclosed := (quotedTail_eq_none_iff (plain_of_isQuote isQuote)).mpr shielded
    have notNamed : isNameChar quote = false := by
      cases named : isNameChar quote with
      | false => rfl
      | true =>
          rw [isQuote_of_isNameChar named] at isQuote
          cases isQuote
    have parted := parted_cons notNamed before rest
    rw [scan, front.segments.scanFrom_append _ parted, Nat.zero_add]
    have stops : scanFrom before.length (quote :: rest) =
        .error ⟨.unexpectedToken, quote :: rest, before.length⟩ := by
      rw [scanFrom, if_neg (by simp [isBlank_of_isQuote isQuote]), if_pos isQuote]
      split
      · rfl
      · rename_i closed
        rw [unclosed] at closed
        cases closed
    rw [stops]
    rfl

/-- **A source has one list of tokens at most, and the scanner finds it.** If a source has none, the
scanner reports the first quoted text that is not closed, and there is only one such report. -/
theorem scan_tiling (source : Text) :
    (∀ tokens, scan source = .ok tokens ↔ Tiling source tokens) ∧
      (∀ tokens others, Tiling source tokens → Tiling source others → tokens = others) ∧
      (∀ fault, scan source = .error fault ↔ Unclosed source fault) ∧
      ((∃ tokens, Tiling source tokens) ∨ ∃ fault, Unclosed source fault) := by
  refine ⟨fun _ => scan_eq_ok_iff, fun tokens others first second => ?_,
    fun _ => scan_eq_error_iff, ?_⟩
  · have found := scan_eq_ok_iff.mpr first
    rw [scan_eq_ok_iff.mpr second] at found
    exact (Except.ok.inj found).symm
  · cases scanned : scan source with
    | ok tokens => exact .inl ⟨tokens, scan_eq_ok_iff.mp scanned⟩
    | error fault => exact .inr ⟨fault, scan_eq_error_iff.mp scanned⟩

end ElementTags.Token
