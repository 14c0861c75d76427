import ElementTags.Proofs.Recovery
import ElementTags.Proofs.StartTag

/-! # Start tags read back

A list of resolved attributes means a list of HTML attributes
(`ElementTags.Markup.meant`): a name alone for a plain text without blanks, and a name
with a value for a pair of keyword attributes that is not absent. As long as keys are
hyphenated names, no value of theirs is marked as safe, and no text without a key has an
equals sign or a slash in it, HTML reads the start tag that is written as these
attributes, each once (`ElementTags.Markup.readStartTag_serialized`).

Escaping does not touch equals signs, so a text without a key that has one may be read
as a name with a value (`ElementTags.Markup.not_readStartTag_serialized`).
-/

namespace ElementTags.Markup

open Outcome Html

/-! ## Names -/

theorem isBlank_of_isSpace {c : Char} (space : isSpace c = true) : Text.isBlank c = true := by
  simp only [isSpace, Bool.or_eq_true, decide_eq_true_eq] at space
  rcases space with (((rfl | rfl) | rfl) | rfl) | rfl <;> rfl

/-- Escaping puts no blank, slash or equals sign into a text, and leaves no angle bracket in it. -/
theorem unended_escape {s : Text} (noBlank : ∀ c ∈ s, Text.isBlank c = false) (noEquals : '=' ∉ s)
    (noSlash : '/' ∉ s) : ∀ c ∈ Text.escape s, endsName c = false := by
  intro c member
  obtain ⟨d, inside, within⟩ := List.mem_flatMap.mp member
  rcases Text.entity_cases d with known | plain
  · have all : ∀ name ∈ Text.entities, ∀ c ∈ name, endsName c = false := by
      simp [Text.entities, endsName, endsTag, isSpace]
    exact all _ known c within
  · rw [plain, List.mem_singleton] at within
    subst within
    rw [← Bool.not_eq_true]
    intro ends
    simp only [endsName, endsTag, Bool.or_eq_true, decide_eq_true_eq] at ends
    rcases ends with ((space | rfl) | rfl) | rfl
    · exact Bool.noConfusion ((noBlank c inside).symm.trans (isBlank_of_isSpace space))
    · exact noSlash inside
    · exact absurd plain (by decide)
    · exact noEquals inside

/-- Hyphenated names do not end early. -/
theorem properName_hyphenated (name : Written.Hyphenated) : ProperName name.text := by
  have named {c : Char} (char : Text.isNameChar c = true) : endsName c = false := by
    rw [← Bool.not_eq_true]
    intro ends
    simp only [endsName, endsTag, isSpace, Bool.or_eq_true, decide_eq_true_eq] at ends
    rcases ends with ((((((rfl | rfl) | rfl) | rfl) | rfl) | rfl) | rfl) | rfl
    all_goals exact absurd char (by decide)
  refine ⟨List.append_ne_nil_of_left_ne_nil name.first.lexeme.1 _, fun c member => ?_⟩
  rcases List.mem_append.mp member with first | later
  · exact named (name.first.lexeme.2 c first)
  · obtain ⟨word, -, inside⟩ := List.mem_flatMap.mp later
    rcases List.mem_cons.mp inside with rfl | inside
    · rfl
    · exact named (word.lexeme.2 c inside)

/-! ## What values mean -/

/-- The text that the value of a key stands for, unless it is absent. -/
def valueText? : Value → Option Text
  | .null => none
  | .bool b => some (if b then "true".toList else "false".toList)
  | v =>
    match v.kind with
    | .sequence => some arrayPlaceholder
    | .mapping => some objectPlaceholder
    | .keywords => some objectPlaceholder
    | _ => some v.spell

/-- The HTML attributes that a resolved attribute means: a name alone for a text that is neither
empty nor has blanks in it, and a name with a value for each pair that is not absent. -/
def meant : Value → List Html.Attribute
  | .keywords ps _ => ps.filterMap fun p => do
    let key ← p.1.chars?
    let shown ← valueText? p.2
    pure ⟨key, some shown⟩
  | .text s =>
    if s ≠ [] ∧ s.any Text.isBlank = false then [⟨Text.escape s, none⟩] else []
  | _ => []

/-- Keyword attributes with hyphenated keys and without safe values. Numbers have no special
characters in them. -/
def LegiblePairs : Value → Prop
  | .keywords ps _ => ∀ p ∈ ps, HyphenatedKey p.1 ∧ p.2.isSafe = false ∧
    (p.2.kind = .number → p.2.spell.Plain)
  | _ => True

/-- A text that has neither an equals sign nor a slash in it, unless it has blanks and is dropped.
-/
def Undivided : Value → Prop
  | .text s => (∀ c ∈ s, Text.isBlank c = false) → '=' ∉ s ∧ '/' ∉ s
  | _ => True

/-- What is written for the value of a key is its text, escaped. -/
theorem keyed?_eq {v : Value} {shown : Option Text} (unmarked : v.isSafe = false)
    (number : v.kind = .number → v.spell.Plain) (written : keyed? v = .ok shown) :
    shown = (valueText? v).map Text.escape := by
  have fixed {s : Text} (plain : s.Plain) : some s = some (Text.escape s) := by
    rw [plain.escape_eq]
  unfold keyed? at written
  split at written
  · cases written
    rfl
  · cases unmarked
  · cases written
    rfl
  · rename_i b
    cases written
    cases b with
    | false => exact fixed (s := "false".toList) (by decide)
    | true => exact fixed (s := "true".toList) (by decide)
  · rename_i absent safe text bool
    have value : valueText? v = match v.kind with
        | .sequence => some arrayPlaceholder
        | .mapping => some objectPlaceholder
        | .keywords => some objectPlaceholder
        | _ => some v.spell := by
      unfold valueText?
      split
      · exact absurd rfl absent
      · exact absurd rfl (bool _)
      · rfl
    rw [value]
    split at written
    · rename_i isNumber
      obtain ⟨s, spelled, same⟩ := map_eq_ok.mp written
      cases same
      rw [← spell_of_shown spelled, isNumber]
      exact fixed (number isNumber)
    · rename_i kind
      cases written
      rw [kind]
      exact fixed (by decide)
    · rename_i kind
      cases written
      rw [kind]
      exact fixed (by decide)
    · rename_i kind
      cases written
      rw [kind]
      exact fixed (by decide)
    · rename_i number sequence mapping keywords
      obtain ⟨s, spelled, same⟩ := map_eq_ok.mp written
      cases same
      rw [← spell_of_shown spelled]
      split
      · exact absurd ‹_› sequence
      · exact absurd ‹_› mapping
      · exact absurd ‹_› keywords
      · rfl

/-- Pairs are written as the attributes that they mean. -/
theorem pairs_eq {ps : List (Value × Value)} {who : Identity} {texts : List Text}
    (legible : LegiblePairs (.keywords ps who)) (written : pairs ps = .ok texts) :
    texts = (meant (.keywords ps who)).map Attribute.spelling := by
  induction ps generalizing texts with
  | nil =>
      cases written
      rfl
  | cons p rest ih =>
      obtain ⟨key, v⟩ := p
      obtain ⟨⟨hyphenated, unmarked, number⟩, others⟩ := List.forall_mem_cons.mp legible
      obtain ⟨name, chars, shown⟩ := hyphenated.shown
      rw [pairs_cons] at written
      obtain ⟨first, here, written⟩ := bind_eq_ok.mp written
      obtain ⟨behind, later, same⟩ := bind_eq_ok.mp written
      cases same
      rw [ih others later]
      rw [pair?] at here
      obtain ⟨value, keyed, here⟩ := bind_eq_ok.mp here
      obtain rfl := keyed?_eq unmarked number keyed
      cases text : valueText? v with
      | none =>
          rw [text] at here
          cases here
          simp only [meant, List.filterMap_cons, chars, text]
          rfl
      | some s =>
          rw [text, shown] at here
          cases here
          simp only [meant, List.filterMap_cons, chars, text]
          rfl

/-- A value is written as the attributes that it means. -/
theorem textsOf_eq {v : Value} {texts : List Text} (legible : LegiblePairs v)
    (written : textsOf v = .ok texts) : texts = (meant v).map Attribute.spelling := by
  unfold textsOf at written
  split at written
  · exact pairs_eq legible written
  · rename_i noPairs
    cases written
    cases shown : positional? v with
    | some name =>
        obtain ⟨s, rfl, nonempty, noBlank, rfl⟩ := positional?_eq_some_iff.mp shown
        rw [meant, if_pos ⟨nonempty, by simpa using noBlank⟩]
        rfl
    | none =>
        unfold meant
        split
        · exact absurd rfl (noPairs _ _)
        · rename_i s
          rw [if_neg]
          · rfl
          · rintro ⟨nonempty, noBlank⟩
            rw [positional?_eq_some_iff.mpr
              ⟨s, rfl, nonempty, by simpa using noBlank, rfl⟩] at shown
            cases shown
        · rfl

/-- Values are written as the attributes that they mean. -/
theorem flatten_textsOf {values : List Value} {texts : List (List Text)}
    (legible : ∀ v ∈ values, LegiblePairs v) (written : values.mapM textsOf = .ok texts) :
    texts.flatten = (values.flatMap meant).map Attribute.spelling := by
  rw [List.map_flatMap]
  exact flatten_of_mapM_eq_ok (fun v here _ => textsOf_eq (legible v here)) written

/-- The attributes that undivided values with hyphenated keys mean have proper names. -/
theorem properName_meant {v : Value} (legible : LegiblePairs v) (undivided : Undivided v) :
    ∀ a ∈ meant v, ProperName a.name := by
  intro a member
  unfold meant at member
  split at member
  · obtain ⟨p, inside, pair⟩ := List.mem_filterMap.mp member
    obtain ⟨name, chars, -⟩ := (legible p inside).1.shown
    obtain ⟨key, found, shown⟩ := Option.bind_eq_some_iff.mp pair
    rw [chars] at found
    cases found
    obtain ⟨value, -, same⟩ := Option.bind_eq_some_iff.mp shown
    cases same
    exact properName_hyphenated name
  · split at member
    · rename_i s kept
      have noBlank : ∀ c ∈ s, Text.isBlank c = false := by simpa using kept.2
      obtain ⟨noEquals, noSlash⟩ := undivided noBlank
      rw [List.mem_singleton.mp member]
      refine ⟨fun empty => kept.1 (Text.escape_injective empty), ?_⟩
      exact unended_escape noBlank noEquals noSlash
    · cases member
  · cases member

/-! ## Each once -/

theorem eraseDups_concat {α : Type} [BEq α] [LawfulBEq α] (l : List α) (a : α) :
    (l ++ [a]).eraseDups = if a ∈ l then l.eraseDups else l.eraseDups ++ [a] := by
  rw [List.eraseDups_append, List.removeAll]
  by_cases known : a ∈ l
  · rw [if_pos known, List.filter_cons_of_neg (by simp [known])]
    exact List.append_nil _
  · rw [if_neg known, List.filter_cons_of_pos (by simp [known])]
    rfl

/-- Texts that are added one after the other are added at their first places. -/
theorem foldl_addOnce_eq_eraseDups (texts : List Text) :
    texts.foldl addOnce [] = texts.eraseDups := by
  induction texts using List.reverseRecOn with
  | nil => rfl
  | append_singleton texts s ih =>
      rw [List.foldl_append, ih, eraseDups_concat, List.foldl_cons, List.foldl_nil, addOnce]
      simp only [List.contains_iff_mem, List.mem_eraseDups]

/-- Repetitions may be removed before or after items are made into other ones. -/
theorem eraseDups_map {α β : Type} [BEq α] [LawfulBEq α] [BEq β] [LawfulBEq β] {f : α → β}
    {l : List α} (distinct : ∀ a ∈ l, ∀ b ∈ l, f a = f b → a = b) :
    (l.map f).eraseDups = l.eraseDups.map f := by
  induction l using List.reverseRecOn with
  | nil => rfl
  | append_singleton l a ih =>
      have known : f a ∈ l.map f ↔ a ∈ l := by
        refine ⟨fun member => ?_, List.mem_map_of_mem⟩
        obtain ⟨b, inside, same⟩ := List.mem_map.mp member
        obtain rfl := distinct b (List.mem_append_left _ inside) a
          (List.mem_append_right _ (List.mem_singleton_self a)) same
        exact inside
      have earlier := ih fun b inside c within =>
        distinct b (List.mem_append_left _ inside) c (List.mem_append_left _ within)
      rw [List.map_append, List.map_singleton, eraseDups_concat, eraseDups_concat, earlier]
      simp only [known]
      split
      · rfl
      · rw [List.map_append, List.map_singleton]

/-- Different attributes with proper names are written differently. -/
theorem spelling_inj {a b : Html.Attribute} (left : ProperName a.name) (right : ProperName b.name)
    (same : a.spelling = b.spelling) : a = b := by
  have read {c : Html.Attribute} (proper : ProperName c.name) :
      readAttributes (c.spelling ++ ['>']) = some ([c], []) := by
    have joined := readAttributes_join (List.forall_mem_singleton.mpr proper) []
    rw [List.map_singleton, Text.join_singleton] at joined
    exact joined
  have both := (read left).symm.trans ((congrArg (fun s => readAttributes (s ++ ['>'])) same).trans
    (read right))
  simpa using both

/-- What is written for values are the attributes that they mean, each once. -/
theorem serialize_eq {configuration : Configuration} {values : List Value} {html : Text}
    (legible : ∀ v ∈ values, LegiblePairs v) (undivided : ∀ v ∈ values, Undivided v)
    (written : (serialize configuration values).1 = .ok html) :
    html = Text.join [' '] ((values.flatMap meant).eraseDups.map Attribute.spelling) := by
  unfold serialize at written
  split at written
  · rename_i p finished
    cases written
    obtain ⟨texts, each, all⟩ := progress_written finished
    have proper : ∀ a ∈ values.flatMap meant, ProperName a.name := by
      intro a member
      obtain ⟨v, here, inside⟩ := List.mem_flatMap.mp member
      exact properName_meant (legible v here) (undivided v here) a inside
    rw [all, flatten_textsOf legible each, foldl_addOnce_eq_eraseDups, eraseDups_map]
    exact fun a here b there => spelling_inj (proper a here) (proper b there)
  · cases written

/-- **HTML reads back what was meant.** Resolved attributes whose keys are hyphenated names, none of
whose values with a key is marked as safe, and whose texts without a key have no equals sign and no
slash in them, are written in a start tag that HTML reads as the attributes that they mean, each
once and in their order. -/
theorem readStartTag_serialized {configuration : Configuration} {values : List Value}
    {name html : Text} (isName : TagName name) (legible : ∀ v ∈ values, LegiblePairs v)
    (undivided : ∀ v ∈ values, Undivided v)
    (written : (serialize configuration values).1 = .ok html) (behind : Text) :
    readStartTag (Behaviour.startTag name html ++ behind) =
      some (⟨name, (values.flatMap meant).eraseDups⟩, behind) := by
  rw [serialize_eq legible undivided written]
  refine readStartTag_startTag isName (fun a member => ?_) behind
  obtain ⟨v, here, inside⟩ := List.mem_flatMap.mp (List.mem_eraseDups.mp member)
  exact properName_meant (legible v here) (undivided v here) a inside

/-- A name, a repeated name, a dropped text, and keys with special characters, an absent value, a
number and a sequence as their values. -/
theorem readStartTag_serialized_mixed :
    (serialize (.switches .null (.bool false))
      [.text "a<b".toList, .text "c=d e".toList, .text "a<b".toList, .keywords
        [(.text "data-f".toList, .text "\"g'>".toList), (.text "h".toList, .null),
          (.text "i".toList, .decimal "0.5".toList), (.text "j".toList, .list [])]]).1 =
      .ok "a&lt;b data-f=\"&quot;g&#x27;&gt;\" i=\"0.5\" j=\"[object Array]\"".toList ∧
    readStartTag (Behaviour.startTag "card".toList
      "a&lt;b data-f=\"&quot;g&#x27;&gt;\" i=\"0.5\" j=\"[object Array]\"".toList ++
        "</card>".toList) =
      some (⟨"card".toList, [⟨"a&lt;b".toList, none⟩, ⟨"data-f".toList, some "\"g'>".toList⟩,
        ⟨"i".toList, some "0.5".toList⟩, ⟨"j".toList, some "[object Array]".toList⟩]⟩,
          "</card>".toList) := by
  have written : (serialize (.switches .null (.bool false))
      [.text "a<b".toList, .text "c=d e".toList, .text "a<b".toList, .keywords
        [(.text "data-f".toList, .text "\"g'>".toList), (.text "h".toList, .null),
          (.text "i".toList, .decimal "0.5".toList), (.text "j".toList, .list [])]]).1 =
      .ok "a&lt;b data-f=\"&quot;g&#x27;&gt;\" i=\"0.5\" j=\"[object Array]\"".toList := by
    rfl
  have word (s : Text) (nonempty : s ≠ []) (named : s.all Text.isNameChar = true) :
      Token.Lexeme .name s := ⟨nonempty, List.all_eq_true.mp named⟩
  have isName : TagName "card".toList := ⟨rfl, by simp [endsTag, isSpace]⟩
  have data : HyphenatedKey (.text "data-f".toList) :=
    ⟨⟨⟨"data".toList, word _ (by decide) (by decide)⟩, [⟨['f'], word _ (by decide) (by decide)⟩]⟩,
      .inl rfl⟩
  have second : HyphenatedKey (.text "h".toList) :=
    ⟨⟨⟨['h'], word _ (by decide) (by decide)⟩, []⟩, .inl rfl⟩
  have third : HyphenatedKey (.text "i".toList) :=
    ⟨⟨⟨['i'], word _ (by decide) (by decide)⟩, []⟩, .inl rfl⟩
  have fourth : HyphenatedKey (.text "j".toList) :=
    ⟨⟨⟨['j'], word _ (by decide) (by decide)⟩, []⟩, .inl rfl⟩
  refine ⟨written, readStartTag_serialized isName ?_ ?_ written _⟩
  · simp only [List.forall_mem_cons, LegiblePairs]
    refine ⟨trivial, trivial, trivial,
      ⟨⟨data, rfl, fun number => ?_⟩, ⟨second, rfl, fun number => ?_⟩,
        ⟨third, rfl, fun _ => by decide⟩, ⟨fourth, rfl, fun number => ?_⟩, List.forall_mem_nil _⟩,
      List.forall_mem_nil _⟩ <;> cases number
  · simp only [List.forall_mem_cons, Undivided]
    exact ⟨fun _ => by decide, fun noBlank => absurd (noBlank ' ' (by decide)) (by decide),
      fun _ => by decide, trivial, List.forall_mem_nil _⟩

/-- A text without a key that has an equals sign in it may be read as a name with a value. -/
theorem not_readStartTag_serialized :
    ¬∀ (configuration : Configuration) (values : List Value) (html : Text),
      (∀ v ∈ values, LegiblePairs v) → (serialize configuration values).1 = .ok html →
        readStartTag (Behaviour.startTag "test".toList html) =
          some (⟨"test".toList, (values.flatMap meant).eraseDups⟩, []) := by
  intro all
  have claimed := all (.switches .null (.bool false)) [.text "onclick=alert(1)".toList]
    "onclick=alert(1)".toList (by simp [LegiblePairs]) rfl
  have isName : TagName "test".toList := ⟨rfl, by simp [endsTag, isSpace]⟩
  have proper : ProperName "onclick".toList :=
    ⟨by simp, by simp [endsName, endsTag, isSpace]⟩
  have read : readStartTag (Behaviour.startTag "test".toList "onclick=alert(1)".toList) =
      some (⟨"test".toList, [⟨"onclick".toList, some "alert(1)".toList⟩]⟩, []) := by
    have attributes : readAttributes ("onclick".toList ++ "=alert(1)>".toList) =
        some ([⟨"onclick".toList, some "alert(1)".toList⟩], []) := by
      have value : readBehindName "=alert(1)>".toList = some (some "alert(1)".toList, ['>']) := rfl
      rw [readAttributes_name proper (by simp [endsName]), value, Option.bind_some]
      exact congrArg (Option.map _) (readAttributes_close [])
    have separated : readAttributes " onclick=alert(1)>".toList =
        some ([⟨"onclick".toList, some "alert(1)".toList⟩], []) :=
      (readAttributes_separator rfl (by decide) _).trans attributes
    have blank : ∀ c ∈ List.head? " onclick=alert(1)>".toList, endsTag c = true := by
      simp [endsTag, isSpace]
    have tag := readStartTag_name isName blank
    rw [separated] at tag
    exact tag
  rw [read] at claimed
  exact absurd claimed (by decide)

end ElementTags.Markup
