import ElementTags.Proofs.LastWrite

/-! # Keyword attributes read back from HTML

The HTML of keyword attributes is an attribute list again. Between double quotes the
escaped text of a value has no quote of its own, and as long as its backslashes are
harmless (`ElementTags.Text.LoneBackslashes`), the literal is read as it stands. So
keyword attributes whose keys are hyphenated names are recovered from their HTML: the
keys of the values that are not absent, in their order, with the escaped texts, and
reading the entities in these gives the mapping back
(`ElementTags.Attribute.resolve_serialized`).
-/

namespace ElementTags

namespace Text

/-! ## Harmless backslashes -/

/-- No backslash stands in front of another one, at the end of a line or at the end of the text. -/
structure LoneBackslashes (s : Text) : Prop where
  single : ¬['\\', '\\'] <:+: s
  sameLine : ¬['\\', '\n'] <:+: s
  notLast : s.getLast? ≠ some '\\'

/-- Only what stands behind a backslash matters. -/
theorem loneBackslashes_cons_iff {c : Char} {s : Text} :
    LoneBackslashes (c :: s) ↔
      (c = '\\' → ∃ d ∈ s.head?, d ≠ '\\' ∧ d ≠ '\n') ∧ LoneBackslashes s := by
  have last : (c :: s).getLast? = some (s.getLast?.getD c) := List.getLast?_cons
  constructor
  · intro lone
    refine ⟨fun backslash => ?_, ⟨?_, ?_, ?_⟩⟩
    · subst backslash
      cases s with
      | nil => exact absurd rfl lone.notLast
      | cons d s =>
          refine ⟨d, rfl, ?_, ?_⟩
          · rintro rfl
            exact lone.single (List.prefix_append ['\\', '\\'] s).isInfix
          · rintro rfl
            exact lone.sameLine (List.prefix_append ['\\', '\n'] s).isInfix
    · intro inside
      exact lone.single (List.infix_cons inside)
    · intro inside
      exact lone.sameLine (List.infix_cons inside)
    · intro final
      apply lone.notLast
      rw [last, final, Option.getD_some]
  · rintro ⟨follows, lone⟩
    have apart {d : Char} (inside : ['\\', d] <+: c :: s) :
        ∃ e ∈ s.head?, e = d ∧ e ≠ '\\' ∧ e ≠ '\n' := by
      obtain ⟨same, rest⟩ := List.cons_prefix_cons.mp inside
      obtain ⟨e, first, other⟩ := follows same.symm
      obtain ⟨more, rfl⟩ := rest
      exact ⟨e, first, (Option.some.inj first).symm, other⟩
    refine ⟨?_, ?_, ?_⟩
    · intro inside
      rcases List.infix_cons_iff.mp inside with first | later
      · obtain ⟨e, -, same, other, -⟩ := apart first
        exact other same
      · exact lone.single later
    · intro inside
      rcases List.infix_cons_iff.mp inside with first | later
      · obtain ⟨e, -, same, -, other⟩ := apart first
        exact other same
      · exact lone.sameLine later
    · rw [last]
      intro final
      cases s with
      | nil =>
          obtain ⟨d, first, -⟩ := follows (Option.some.inj final)
          cases first
      | cons d s =>
          apply lone.notLast
          rw [List.getLast?_cons] at final ⊢
          exact final

/-- Backslashes stay harmless when a text without any is put in front. -/
theorem LoneBackslashes.append {s t : Text} (none : '\\' ∉ s) (lone : LoneBackslashes t) :
    LoneBackslashes (s ++ t) := by
  induction s with
  | nil => exact lone
  | cons c s ih =>
      rw [List.mem_cons, not_or] at none
      exact loneBackslashes_cons_iff.mpr ⟨fun same => absurd same.symm none.1, ih none.2⟩

/-- An entity starts with an ampersand or is the character itself. -/
theorem head_entity (c : Char) : (entity c).head? = some '&' ∨ entity c = [c] := by
  rcases entity_cases c with known | plain
  · have all : ∀ name ∈ entities, name.head? = some '&' := by decide
    exact .inl (all _ known)
  · exact .inr plain

/-- Escaping leaves backslashes harmless. -/
theorem LoneBackslashes.escape {s : Text} (lone : LoneBackslashes s) :
    LoneBackslashes (escape s) := by
  induction s with
  | nil => exact lone
  | cons c s ih =>
      obtain ⟨follows, others⟩ := loneBackslashes_cons_iff.mp lone
      rw [escape_cons]
      by_cases backslash : c = '\\'
      · subst backslash
        refine loneBackslashes_cons_iff.mpr ⟨fun _ => ?_, ih others⟩
        obtain ⟨d, first, other⟩ := follows rfl
        cases s with
        | nil => cases first
        | cons e s =>
            obtain rfl := Option.some.inj first
            rw [escape_cons]
            rcases head_entity e with mark | plain
            · refine ⟨'&', ?_, by decide⟩
              change '&' ∈ (entity e ++ Text.escape s).head?
              rw [List.head?_append, mark, Option.some_or]
              exact Option.mem_some_self _
            · exact ⟨e, by rw [plain]; rfl, other⟩
      · refine LoneBackslashes.append ?_ (ih others)
        rcases entity_cases c with known | plain
        · have all : ∀ name ∈ entities, '\\' ∉ name := by decide
          exact all _ known
        · rw [plain, List.mem_singleton]
          exact fun same => backslash same.symm

/-- A text in which a pattern does not occur has nothing to be replaced. -/
theorem replaceAll_of_not_infix {pattern s : Text} (nonempty : pattern ≠ [])
    (absent : ¬pattern <:+: s) (replacement : Text) : replaceAll pattern replacement s = s := by
  rw [replaceAll, if_neg (by rw [List.isEmpty_iff]; exact nonempty)]
  induction s with
  | nil => rfl
  | cons c s ih =>
      have other : pattern.isPrefixOf (c :: s) = false := by
        rw [← Bool.not_eq_true, List.isPrefixOf_iff_prefix]
        exact fun here => absent here.isInfix
      rw [Written.replaceFrom_skip other, ih fun later => absent (List.infix_cons later)]

end Text

namespace Written

open Attribute Outcome Token
open Text (LoneBackslashes loneBackslashes_cons_iff)

/-! ## Texts between double quotes -/

/-- A text between double quotes, as it stands. -/
def enclosed (s : Text) : Text := '"' :: s ++ ['"']

variable {s : Text}

/-- The host goes on up to the closing quote. -/
theorem literalTail_enclosed {s : Text} (lone : s.LoneBackslashes) (quoteless : '"' ∉ s) :
    FilterExpr.literalTail '"' (s ++ ['"']) = some (s ++ ['"'], []) := by
  match s with
  | [] => rfl
  | [c] =>
      rw [List.mem_singleton] at quoteless
      have plain : c ≠ '\\' := by
        rintro rfl
        exact lone.notLast rfl
      rw [List.singleton_append, literalTail_cons plain, if_neg (Ne.symm quoteless)]
      rfl
  | c :: d :: more =>
      simp only [List.mem_cons, not_or] at quoteless
      obtain ⟨follows, behind⟩ := loneBackslashes_cons_iff.mp lone
      by_cases backslash : c = '\\'
      · subst backslash
        obtain ⟨e, first, -, sameLine⟩ := follows rfl
        obtain rfl := Option.some.inj first
        have ih := literalTail_enclosed (loneBackslashes_cons_iff.mp behind).2 quoteless.2.2
        rw [List.cons_append, List.cons_append, FilterExpr.literalTail, if_neg sameLine, ih]
        rfl
      · have others : '"' ∉ d :: more := by
          rw [List.mem_cons, not_or]
          exact quoteless.2
        have ih := literalTail_enclosed behind others
        rw [List.cons_append, literalTail_cons backslash, if_neg (Ne.symm quoteless.1), ih]
        rfl

theorem literal?_enclosed (lone : s.LoneBackslashes) (quoteless : '"' ∉ s) :
    FilterExpr.literal? (enclosed s) = some (enclosed s, []) := by
  have isQuote : Text.isQuote '"' = true := rfl
  rw [enclosed, List.cons_append, FilterExpr.literal?, if_pos isQuote,
    literalTail_enclosed lone quoteless]
  rfl

theorem lexeme_enclosed (lone : s.LoneBackslashes) (quoteless : '"' ∉ s) :
    Token.Lexeme .quoted (enclosed s) :=
  ⟨'"', s ++ ['"'], rfl, rfl,
    quotedTail_of_literalTail (by decide) (literalTail_enclosed lone quoteless)⟩

/-- A text between double quotes stands for itself. -/
theorem unquote_enclosed (lone : s.LoneBackslashes) (quoteless : '"' ∉ s) :
    Text.unquote (enclosed s) = s := by
  have noQuote : ¬['\\', '"'] <:+: s := fun inside =>
    quoteless (inside.subset (List.mem_cons_of_mem _ List.mem_cons_self))
  have inner : (s ++ ['"']).dropLast = s := List.dropLast_concat
  rw [enclosed, List.cons_append, Text.unquote, inner,
    Text.replaceAll_of_not_infix (List.cons_ne_nil _ _) noQuote,
    Text.replaceAll_of_not_infix (List.cons_ne_nil _ _) lone.single]

/-! ## One attribute -/

/-- A hyphenated key with a text whose backslashes are harmless. -/
structure Setting where
  name : Hyphenated
  text : Text
  lone : text.LoneBackslashes

namespace Setting

/-- The literal between the quotes of an attribute. -/
def word (setting : Setting) : Word .quoted where
  text := enclosed (Text.escape setting.text)
  lexeme := lexeme_enclosed setting.lone.escape (Text.quote_not_mem_escape _)

/-- The attribute as it is read. -/
def entry (setting : Setting) : Entry :=
  .keyword (.bare setting.name) (.plain (.literal setting.word) [])

/-- The attribute as it is written. -/
def spelling (setting : Setting) : Text := Markup.pairText (setting.name.text, setting.text.escape)

/-- The entry that an attribute at a position means. -/
def meant (start : Nat) (setting : Setting) : ElementTags.Entry :=
  .keyword start setting.name.text
    (.plain ⟨setting.word.text, .constant (.text setting.text.escape), []⟩)

theorem meaning_entry (setting : Setting) (start : Nat) :
    setting.entry.meaning start = .ok (setting.meant start) := by
  have lone := setting.lone.escape
  have quoteless := Text.quote_not_mem_escape setting.text
  have literal : FilterExpr.literal? setting.word.text = some (setting.word.text, []) :=
    literal?_enclosed lone quoteless
  have compiled := compile_literal literal
  rw [show Text.unquote setting.word.text = setting.text.escape from
    unquote_enclosed lone quoteless] at compiled
  rw [entry, Entry.meaning, meaning_plain compiled]
  rfl

end Setting

/-- No name character and no hyphen has an entity. -/
theorem Hyphenated.plain (name : Hyphenated) : name.text.Plain := by
  have named {c : Char} (char : Text.isNameChar c = true) : Text.entity c = [c] := by
    unfold Text.entity
    split
    case h_6 => rfl
    all_goals exact absurd char (by decide)
  intro c member
  rcases List.mem_append.mp member with first | later
  · exact named (name.first.lexeme.2 c first)
  · obtain ⟨word, -, inside⟩ := List.mem_flatMap.mp later
    rcases List.mem_cons.mp inside with rfl | inside
    · rfl
    · exact named (word.lexeme.2 c inside)

theorem Setting.spelling_eq (setting : Setting) :
    setting.spelling = setting.name.text ++ '=' :: setting.word.text := by
  rw [spelling, Markup.pairText, Markup.Item.text_valued, setting.name.plain.escape_eq,
    List.append_assoc]
  rfl

/-- The next token is a name, if there is one. -/
def NextName (next : Option Token) : Prop := ∀ t ∈ next, t.kind = .name

/-- The tokens of an attribute that is written somewhere in a source. -/
theorem setting_written (setting : Setting) (source : Text) (n : Nat) :
    ∃ first own, Segments n setting.spelling (first :: own) ∧ first.start = n ∧
      first.kind = .name ∧
        ∀ next, NextName next → setting.entry.Spelled source (first :: own) next := by
  obtain ⟨first, own, keySegments, start, keySpelled⟩ := hyphenated_printed setting.name n
  have named : first.kind = .name := by
    cases keySpelled none (among_none _) with
    | mk kind text others ended => exact kind
  have all := keySegments.append (segments_mark (c := '=') (lexeme_mark (by decide))
    (segments_single setting.word _)) (parted_cons (by decide +kernel) _ _)
  rw [← setting.spelling_eq] at all
  refine ⟨first, _, all, start, named, fun next nextName => ?_⟩
  have noMark : ∀ t ∈ next, ∀ c, t.isMark c = false := by
    intro t member c
    exact isMark_of_kind (by rw [nextName t member]; exact TokenKind.noConfusion) c
  have noOperator : NoOperator next := by
    intro t member
    rw [Option.eq_none_iff_forall_ne_some]
    intro operator found
    rw [operator?_eq_some_iff, noMark t member] at found
    cases found
  refine .keyword (.bare (keySpelled _ (among_some (c := '=') rfl (by decide)))) rfl ?_
  rw [← List.append_nil [_]]
  exact .plain (.literal rfl rfl) noOperator (.nil fun t member => noMark t member _)

/-! ## All attributes -/

theorem settings_written (settings : List Setting) (source : Text) (n : Nat) :
    ∃ tokens, Segments n (Text.join [' '] (settings.map Setting.spelling)) tokens ∧
      NextName tokens.head? ∧ ∃ placed : List (Nat × Setting), placed.map (·.2) = settings ∧
        EntriesSpelled source (placed.map fun p => (p.1, p.2.entry)) tokens none := by
  induction settings generalizing n with
  | nil =>
      have ended : NextName none := by
        intro t member
        cases member
      exact ⟨[], .nil n, ended, [], rfl, .nil⟩
  | cons setting rest ih =>
      obtain ⟨first, own, segments, start, named, spelled⟩ := setting_written setting source n
      have nextName : ∀ t ∈ some first, t.kind = .name := by
        intro t same
        obtain rfl := Option.some.inj same
        exact named
      have separated : Separator [] := .inl rfl
      cases rest with
      | nil =>
          have all := EntriesSpelled.cons separated
            (spelled none fun t member => by cases member) .nil
          rw [List.nil_append, List.append_nil] at all
          rw [List.map_singleton, Text.join_singleton]
          exact ⟨first :: own, segments, nextName, [(first.start, setting)], rfl, all⟩
      | cons second rest =>
          obtain ⟨tokens, behind, ahead, placed, same, others⟩ :=
            ih (n + setting.spelling.length + 1)
          have all := EntriesSpelled.cons separated
            (spelled _ (by rw [Option.or_none]; exact ahead)) others
          rw [List.nil_append] at all
          refine ⟨first :: own ++ tokens, ?_, nextName, (first.start, setting) :: placed, ?_, all⟩
          · rw [List.map_cons, Text.join_cons (by exact List.cons_ne_nil _ _)]
            exact segments.append (.blank (c := ' ') (by decide +kernel) behind)
              (parted_cons (by decide +kernel) _ _)
          · rw [List.map_cons, same]

theorem entriesMeaning_settings (placed : List (Nat × Setting)) :
    entriesMeaning (placed.map fun p => (p.1, p.2.entry)) =
      .ok (placed.map fun p => p.2.meant p.1) := by
  induction placed with
  | nil => rfl
  | cons p rest ih =>
      rw [List.map_cons, entriesMeaning, p.2.meaning_entry, ok_bind, ih]
      rfl

end Written

namespace Markup

open Outcome Written

/-! ## The mapping that is recovered -/

/-- The texts of a mapping behind their keys; what is no text is left out. -/
def texts (ps : List (Value × Value)) : List (Text × Text) :=
  ps.filterMap fun p =>
    match p.1.chars?, p.2 with
    | some key, .text s => some (key, s)
    | _, _ => none

/-- Keyword attributes with the escaped form of some texts, unless there are none. -/
def escapedKeywords (written : List (Text × Text)) : List Value :=
  if written.isEmpty then []
  else [.keywords (textPairs (written.map fun p => (p.1, .text (Text.escape p.2))))]

/-- The mapping in a value, in which the entities are read as characters. -/
def decodedTexts : Value → List (Text × Text)
  | .keywords ps _ => (texts ps).map fun p => (p.1, Text.decode p.2)
  | _ => []

/-- Reading the entities gives escaped texts back. -/
theorem decodedTexts_escapedKeywords (written : List (Text × Text)) :
    (escapedKeywords written).flatMap decodedTexts = written := by
  have all : texts (textPairs (written.map fun p => (p.1, .text (Text.escape p.2)))) =
      written.map fun p => (p.1, Text.escape p.2) := by
    rw [texts, textPairs, List.map_map, List.filterMap_map]
    exact congrFun List.filterMap_eq_map' written
  rw [escapedKeywords]
  split
  · rename_i none
    rw [List.isEmpty_iff.mp none]
    rfl
  · rw [List.flatMap_singleton, decodedTexts, all, List.map_map]
    refine (List.map_congr_left fun p _ => ?_).trans (List.map_id written)
    exact Prod.ext rfl (Text.decode_escape p.2)

/-- A key that is names joined by hyphens, marked as safe or not. -/
def HyphenatedKey (key : Value) : Prop :=
  ∃ name : Hyphenated, key = .text name.text ∨ key = .safe name.text

/-- A value that is absent or a plain text whose backslashes are harmless. -/
def Recoverable (v : Value) : Prop := v = .null ∨ ∃ s, v = .text s ∧ s.LoneBackslashes

/-- A hyphenated key is written as it is. -/
theorem HyphenatedKey.shown {key : Value} (hyphenated : HyphenatedKey key) :
    ∃ name : Hyphenated, key.chars? = some name.text ∧ (escapeValue key).shown = .ok name.text := by
  obtain ⟨name, rfl | rfl⟩ := hyphenated
  · refine ⟨name, rfl, ?_⟩
    rw [escapeValue, name.plain.escape_eq]
    rfl
  · exact ⟨name, rfl, rfl⟩

/-- Pairs that can be recovered are written as attributes, one for each text. -/
theorem exists_settings {ps : List (Value × Value)} (keys : ∀ p ∈ ps, HyphenatedKey p.1)
    (values : ∀ p ∈ ps, Recoverable p.2) :
    ∃ settings : List Setting, pairs ps = .ok (settings.map Setting.spelling) ∧
      texts ps = settings.map (fun setting => (setting.name.text, setting.text)) ∧
        (settings.map fun setting => some setting.name.text).Sublist (ps.map (·.1.chars?)) := by
  induction ps with
  | nil => exact ⟨[], rfl, rfl, .slnil⟩
  | cons p rest ih =>
      obtain ⟨key, v⟩ := p
      obtain ⟨firstKey, keys⟩ := List.forall_mem_cons.mp keys
      obtain ⟨firstValue, values⟩ := List.forall_mem_cons.mp values
      obtain ⟨settings, written, same, sublist⟩ := ih keys values
      obtain ⟨name, chars, shown⟩ := firstKey.shown
      rcases firstValue with absent | ⟨s, text, lone⟩
      · obtain rfl : v = .null := absent
        refine ⟨settings, ?_, ?_, sublist.cons _⟩
        · rw [pairs_cons, written]
          rfl
        · rw [← same, texts, List.filterMap_cons_none]
          · rfl
          · cases key.chars? <;> rfl
      · obtain rfl : v = .text s := text
        refine ⟨⟨name, s, lone⟩ :: settings, ?_, ?_, ?_⟩
        · have first : pair? key (.text s) = .ok (some (Setting.spelling ⟨name, s, lone⟩)) := by
            rw [pair?, shown, Setting.spelling, pairText, name.plain.escape_eq]
            rfl
          rw [pairs_cons, first, written]
          rfl
        · rw [List.map_cons, ← same, texts, List.filterMap_cons_some]
          · rfl
          · simp only [chars]
        · rw [List.map_cons, List.map_cons, chars]
          exact sublist.cons_cons _

/-- Attributes with different keys resolve to the escaped texts. -/
theorem resolveAll_settings {placed : List (Nat × Setting)}
    (distinct : (placed.map (·.2.name.text)).Nodup) (scope : Scope) :
    (Entry.resolveAll (placed.map fun p => p.2.meant p.1) scope).1 =
      .ok (escapedKeywords (placed.map fun p => (p.2.name.text, p.2.text))) := by
  have resolved : Entry.Resolved scope (placed.map fun p => p.2.meant p.1)
      (placed.map fun p => .text p.2.text.escape) scope := by
    clear distinct
    induction placed with
    | nil => exact .nil
    | cons p rest ih => exact .cons rfl ih
  have current : (placed.map fun p => Value.text p.2.text.escape).map scope.current =
      placed.map fun p => .text p.2.text.escape := by
    rw [List.map_map]
    exact List.map_congr_left fun p _ => ite_self _
  have positionals : Entry.positionals (placed.map fun p => p.2.meant p.1)
      (placed.map fun p => .text p.2.text.escape) = [] := by
    rw [Entry.positionals, List.zip_map', List.filterMap_map]
    exact List.filterMap_eq_nil_iff.mpr fun p _ => rfl
  have keyed : Entry.keyed (placed.map fun p => p.2.meant p.1)
      (placed.map fun p => .text p.2.text.escape) =
        placed.map fun p => (p.2.name.text, .text p.2.text.escape) := by
    rw [Entry.keyed, List.zip_map', List.filterMap_map]
    exact congrFun List.filterMap_eq_map' placed
  rw [Entry.resolveAll_of_resolved resolved, current, positionals, keyed, merged_of_nodup]
  · rw [List.nil_append, Entry.keywordsOf, escapedKeywords, List.map_map]
    cases placed <;> rfl
  · rw [List.map_map]
    exact distinct

/-- **Keyword attributes parse back.** What is written for keyword attributes, whose keys are
hyphenated names and whose values are absent or texts with harmless backslashes, is read in every
scope as keyword attributes with the keys of the texts in their order and with the escaped texts, or
as nothing at all if all values are absent. With the entities read as characters these are the
texts of the mapping. -/
theorem resolve_serialized {ps : List (Value × Value)} (keys : ∀ p ∈ ps, HyphenatedKey p.1)
    (distinct : (ps.map (·.1.chars?)).Nodup) (values : ∀ p ∈ ps, Recoverable p.2)
    (who : Identity) :
    ∃ html, (∀ configuration, serialize configuration [.keywords ps who] = (.ok html, [])) ∧
      (∀ scope, Attribute.ResolvesTo html scope (escapedKeywords (texts ps))) ∧
        (escapedKeywords (texts ps)).flatMap decodedTexts = texts ps := by
  obtain ⟨settings, written, same, sublist⟩ := exists_settings keys values
  have names : (settings.map (·.name.text)).Nodup := by
    have inner := sublist.nodup distinct
    rw [List.nodup_iff_pairwise_ne, List.pairwise_map] at inner ⊢
    exact inner.imp fun other same => other (congrArg some same)
  have once : (settings.map Setting.spelling).foldl addOnce [] = settings.map Setting.spelling := by
    have spelled : (settings.map Setting.spelling).Nodup := by
      have shown : ((settings.map fun setting =>
          (setting.name.text, setting.text.escape)).map pairText).Nodup := by
        refine nodup_pairText ?_
        rw [List.map_map]
        exact names
      rw [List.map_map] at shown
      exact shown
    exact foldl_addOnce_of_new spelled fun _ _ none => absurd none List.not_mem_nil
  refine ⟨Text.join [' '] (settings.map Setting.spelling), fun configuration => ?_,
    fun scope => ?_, decodedTexts_escapedKeywords _⟩
  · rw [serialize, progress, step, written]
    simp only [ok_bind, once]
    rfl
  · obtain ⟨tokens, segments, -, placed, rfl, spelled⟩ :=
      settings_written settings (Text.join [' '] (settings.map Setting.spelling)) 0
    refine ⟨placed.map fun p => p.2.meant p.1, ?_, ?_⟩
    · rw [Attribute.read_of_spelled segments spelled, entriesMeaning_settings]
    · rw [List.map_map] at names
      rw [resolveAll_settings names, same, List.map_map]
      rfl

/-- A hyphenated key with a backslash and markup in its text, an absent value, and an apostrophe. -/
theorem resolve_serialized_special :
    ∃ html, (∀ configuration, serialize configuration
        [.keywords [(.text "data-a".toList, .text "\\d <b>".toList), (.safe "c".toList, .null),
          (.text "e".toList, .text "it's".toList)]] = (.ok html, [])) ∧
      ∀ scope, Attribute.ResolvesTo html scope
        [.keywords [(.text "data-a".toList, .text "\\d &lt;b&gt;".toList),
          (.text "e".toList, .text "it&#x27;s".toList)]] := by
  have word (s : Text) (nonempty : s ≠ []) (named : s.all Text.isNameChar = true) :
      Token.Lexeme .name s := ⟨nonempty, List.all_eq_true.mp named⟩
  let mapping : List (Value × Value) :=
    [(.text "data-a".toList, .text "\\d <b>".toList), (.safe "c".toList, .null),
      (.text "e".toList, .text "it's".toList)]
  have keys : ∀ p ∈ mapping, HyphenatedKey p.1 := by
    simp only [mapping, List.forall_mem_cons]
    refine ⟨?_, ?_, ?_, fun _ none => absurd none List.not_mem_nil⟩
    · exact ⟨⟨⟨"data".toList, word _ (by decide) (by decide)⟩,
        [⟨['a'], word _ (by decide) (by decide)⟩]⟩, .inl rfl⟩
    · exact ⟨⟨⟨['c'], word _ (by decide) (by decide)⟩, []⟩, .inr rfl⟩
    · exact ⟨⟨⟨['e'], word _ (by decide) (by decide)⟩, []⟩, .inl rfl⟩
  have values : ∀ p ∈ mapping, Recoverable p.2 := by
    simp only [mapping, List.forall_mem_cons]
    refine ⟨.inr ⟨_, rfl, ?_, ?_, ?_⟩, .inl rfl, .inr ⟨_, rfl, ?_, ?_, ?_⟩,
      fun _ none => absurd none List.not_mem_nil⟩ <;> decide
  obtain ⟨html, written, read, -⟩ := resolve_serialized keys (by decide) values none
  exact ⟨html, written, read⟩

end Markup
end ElementTags
