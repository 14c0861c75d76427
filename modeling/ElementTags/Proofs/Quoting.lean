import ElementTags.Proofs.WrittenForm

/-! # Any text in quotes

In quotes, with a backslash in front of every backslash and of every quote of the
same kind, every text is one token (`ElementTags.Written.lexeme_quotedIn`), the host
reads it as one literal (`ElementTags.Written.literal?_quotedIn`), and it is the text
that the token stands for (`ElementTags.Written.unquote_quotedIn`). Quotes are
replaced before backslashes, so the text in between has plain quotes and doubled
backslashes.
-/

namespace ElementTags.Written

/-- A character in some quotes: quotes and backslashes stand behind a backslash. -/
def escapedIn (quote c : Char) : Text := if c = quote || c = '\\' then ['\\', c] else [c]

/-- A text in some quotes. -/
def quotedIn (quote : Char) (s : Text) : Text := quote :: s.flatMap (escapedIn quote) ++ [quote]

theorem ne_backslash_of_isQuote {quote : Char} (isQuote : Text.isQuote quote = true) :
    quote ≠ '\\' := by
  rintro rfl
  cases isQuote

/-- A character that is escaped is a quote or a backslash, and any other stays what it is. -/
theorem escapedIn_cases (quote c : Char) :
    (escapedIn quote c = ['\\', c] ∧ (c = quote ∨ c = '\\')) ∨
      (escapedIn quote c = [c] ∧ c ≠ quote ∧ c ≠ '\\') := by
  unfold escapedIn
  split
  · rename_i special
    rw [Bool.or_eq_true, decide_eq_true_eq, decide_eq_true_eq] at special
    exact .inl ⟨rfl, special⟩
  · rename_i plain
    simp only [Bool.or_eq_true, decide_eq_true_eq, not_or] at plain
    exact .inr ⟨rfl, plain⟩

/-! ## One token -/

theorem quotedTail_escapedIn {quote : Char} (isQuote : Text.isQuote quote = true) (s rest : Text) :
    Token.quotedTail quote (s.flatMap (escapedIn quote) ++ quote :: rest) =
      some (s.flatMap (escapedIn quote) ++ [quote], rest) := by
  induction s with
  | nil =>
      have noBackslash := ne_backslash_of_isQuote isQuote
      rw [List.flatMap_nil, List.nil_append, Token.quotedTail_cons noBackslash, if_pos rfl]
      rfl
  | cons c s ih =>
      rw [List.flatMap_cons]
      rcases escapedIn_cases quote c with ⟨escaped, -⟩ | ⟨plain, other, noBackslash⟩
      · rw [escaped]
        simp only [List.cons_append, List.nil_append, Token.quotedTail, ih, Option.map_some]
      · rw [plain, List.append_assoc, List.append_assoc, List.singleton_append,
          Token.quotedTail_cons noBackslash, if_neg other, ih]
        rfl

/-- A text in quotes is one token. -/
theorem lexeme_quotedIn {quote : Char} (isQuote : Text.isQuote quote = true) (s : Text) :
    Token.Lexeme .quoted (quotedIn quote s) :=
  ⟨quote, s.flatMap (escapedIn quote) ++ [quote], rfl, isQuote, quotedTail_escapedIn isQuote s []⟩

theorem lexeme_literal (s : Text) : Token.Lexeme .quoted (literal s) := lexeme_quotedIn rfl s

/-! ## One literal of the host -/

theorem literalTail_cons {quote c : Char} (plain : c ≠ '\\') (rest : Text) :
    FilterExpr.literalTail quote (c :: rest) =
      if c = quote then some ([c], rest)
      else (FilterExpr.literalTail quote rest).map fun (body, rest) => (c :: body, rest) := by
  rw [FilterExpr.literalTail]
  · rw [if_neg plain]
  · exact fun _ _ same _ => plain same

theorem literalTail_escapedIn {quote : Char} (isQuote : Text.isQuote quote = true) (s rest : Text) :
    FilterExpr.literalTail quote (s.flatMap (escapedIn quote) ++ quote :: rest) =
      some (s.flatMap (escapedIn quote) ++ [quote], rest) := by
  have noBackslash := ne_backslash_of_isQuote isQuote
  induction s with
  | nil =>
      rw [List.flatMap_nil, List.nil_append, literalTail_cons noBackslash, if_pos rfl]
      rfl
  | cons c s ih =>
      rw [List.flatMap_cons]
      rcases escapedIn_cases quote c with ⟨escaped, special⟩ | ⟨plain, other, noBackslash⟩
      · have sameLine : c ≠ '\n' := by
          rintro rfl
          rcases special with rfl | special
          · cases isQuote
          · cases special
        rw [escaped]
        simp only [List.cons_append, List.nil_append, FilterExpr.literalTail, if_neg sameLine, ih,
          Option.map_some]
      · rw [plain, List.append_assoc, List.append_assoc, List.singleton_append,
          literalTail_cons noBackslash, if_neg other, ih]
        rfl

/-- The host reads a text in quotes as one literal, whatever stands behind it. -/
theorem literal?_quotedIn {quote : Char} (isQuote : Text.isQuote quote = true) (s rest : Text) :
    FilterExpr.literal? (quotedIn quote s ++ rest) = some (quotedIn quote s, rest) := by
  rw [quotedIn, List.cons_append, List.cons_append, List.append_assoc, List.singleton_append,
    FilterExpr.literal?, if_pos isQuote, literalTail_escapedIn isQuote]
  rfl

/-- What the host reads as a literal ends where the token ends: the host only refuses more. -/
theorem quotedTail_of_literalTail {quote : Char} (noBackslash : quote ≠ '\\') {s body rest : Text}
    (read : FilterExpr.literalTail quote s = some (body, rest)) :
    Token.quotedTail quote s = some (body, rest) := by
  fun_induction FilterExpr.literalTail quote s generalizing body rest with
  | case1 => cases read
  | case2 => cases read
  | case3 c more sameLine ih =>
      obtain ⟨⟨inner, behind⟩, found, same⟩ := Option.map_eq_some_iff.mp read
      rw [Token.quotedTail, ih found, ← same]
      rfl
  | case4 more =>
      rw [Token.quotedTail_cons noBackslash, if_pos rfl]
      exact read
  | case5 => cases read
  | case6 c more noEscape other plain ih =>
      obtain ⟨⟨inner, behind⟩, found, same⟩ := Option.map_eq_some_iff.mp read
      rw [Token.quotedTail_cons plain, if_neg other, ih found, ← same]
      rfl

theorem readFilters_nil (text : Text) : FilterExpr.readFilters text [] = .ok [] := by
  rw [FilterExpr.readFilters]
  rfl

theorem localized?_of_ne {c : Char} (other : c ≠ '_') (rest : Text) :
    FilterExpr.localized? (c :: rest) = none := by
  unfold FilterExpr.localized?
  split
  · rename_i same
    exact absurd (List.cons.inj same).1 other
  · rfl

/-- A literal is no localized one, so that it is the part at the start of a text. -/
theorem part?_of_literal? {s body rest : Text} (read : FilterExpr.literal? s = some (body, rest)) :
    FilterExpr.part? s = some (.literal body, rest) := by
  have noMark : FilterExpr.localized? s = none := by
    unfold FilterExpr.localized?
    split
    · cases read
    · rfl
  rw [FilterExpr.part?, noMark, read]

/-! ## The text that is meant -/

/-- A text in which every backslash stands twice. -/
def doubled (c : Char) : Text := if c = '\\' then ['\\', '\\'] else [c]

theorem replaceFrom_skip {pattern replacement rest : Text} {c : Char}
    (other : pattern.isPrefixOf (c :: rest) = false) :
    Text.replaceFrom pattern replacement 0 (c :: rest) =
      c :: Text.replaceFrom pattern replacement 0 rest := by
  rw [Text.replaceFrom, other, if_neg Bool.false_ne_true]

/-- No quote comes first, so that none is taken for an escaped one behind a doubled backslash. -/
theorem isPrefixOf_escapedIn {quote : Char} (noBackslash : quote ≠ '\\') (s : Text) :
    List.isPrefixOf ['\\', quote] ('\\' :: s.flatMap (escapedIn quote)) = false := by
  cases s with
  | nil => rfl
  | cons c s =>
      rw [List.flatMap_cons]
      rcases escapedIn_cases quote c with ⟨escaped, -⟩ | ⟨plain, other, -⟩
      · rw [escaped, List.cons_append, List.isPrefixOf_cons_cons, List.isPrefixOf_cons_cons,
          beq_eq_false_iff_ne.mpr noBackslash, Bool.false_and, Bool.and_false]
      · rw [plain, List.singleton_append, List.isPrefixOf_cons_cons, List.isPrefixOf_cons_cons,
          beq_eq_false_iff_ne.mpr (Ne.symm other), Bool.false_and, Bool.and_false]

theorem replaceFrom_quotes {quote : Char} (noBackslash : quote ≠ '\\') (s : Text) :
    Text.replaceFrom ['\\', quote] [quote] 0 (s.flatMap (escapedIn quote)) = s.flatMap doubled := by
  induction s with
  | nil => rfl
  | cons c s ih =>
      rw [List.flatMap_cons, List.flatMap_cons]
      by_cases same : c = quote
      · subst same
        simp [escapedIn, doubled, Text.replaceFrom, ih, noBackslash]
      · by_cases backslash : c = '\\'
        · subst backslash
          have escaped : escapedIn quote '\\' = ['\\', '\\'] := by
            rw [escapedIn, decide_eq_true rfl, Bool.or_true, if_pos rfl]
          have other : List.isPrefixOf ['\\', quote]
              ('\\' :: '\\' :: s.flatMap (escapedIn quote)) = false := by
            rw [List.isPrefixOf_cons_cons, List.isPrefixOf_cons_cons,
              beq_eq_false_iff_ne.mpr noBackslash, Bool.false_and, Bool.and_false]
          rw [escaped, List.cons_append, List.singleton_append, replaceFrom_skip other,
            replaceFrom_skip (isPrefixOf_escapedIn noBackslash s), ih]
          rfl
        · have plain : escapedIn quote c = [c] ∧ doubled c = [c] := by
            simp only [escapedIn, doubled, same, backslash, decide_false, Bool.or_false,
              Bool.false_eq_true, if_false, and_self]
          have other :
              List.isPrefixOf ['\\', quote] (c :: s.flatMap (escapedIn quote)) = false := by
            rw [List.isPrefixOf_cons_cons, beq_eq_false_iff_ne.mpr (Ne.symm backslash),
              Bool.false_and]
          rw [plain.1, plain.2, List.singleton_append, replaceFrom_skip other, ih]
          rfl

theorem replaceFrom_backslashes (s : Text) :
    Text.replaceFrom ['\\', '\\'] ['\\'] 0 (s.flatMap doubled) = s := by
  induction s with
  | nil => rfl
  | cons c s ih =>
      rw [List.flatMap_cons, doubled]
      split
      · rename_i same
        subst same
        simp [Text.replaceFrom, ih]
      · rename_i other
        rw [List.singleton_append, replaceFrom_skip, ih]
        rw [List.isPrefixOf_cons_cons, beq_eq_false_iff_ne.mpr (Ne.symm other), Bool.false_and]

/-- A text in quotes stands for the text. -/
theorem unquote_quotedIn {quote : Char} (isQuote : Text.isQuote quote = true) (s : Text) :
    Text.unquote (quotedIn quote s) = s := by
  have inner : (s.flatMap (escapedIn quote) ++ [quote]).dropLast = s.flatMap (escapedIn quote) :=
    List.dropLast_concat
  rw [quotedIn, List.cons_append, Text.unquote, inner]
  simp only [Text.replaceAll, List.isEmpty_cons, Bool.false_eq_true, if_false,
    replaceFrom_quotes (ne_backslash_of_isQuote isQuote), replaceFrom_backslashes]

theorem unquote_literal (s : Text) : Text.unquote (literal s) = s := unquote_quotedIn rfl s

end ElementTags.Written
