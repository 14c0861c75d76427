import ElementTags.Markup
import ElementTags.Proofs.InertText
import ElementTags.Proofs.Outcome

/-! # Attributes written as HTML

A list of resolved attributes is written as items with a blank between each two: a
name alone for a plain text, and a name with a value in double quotes for a pair of
keyword attributes. The items are those that the values call for, each once
(`ElementTags.Markup.written_iff`). Unless a value is marked as safe, nothing that
HTML could take for markup is among them, and the only double quotes are the two
around each value (`ElementTags.Markup.serialize_inert`).
-/

namespace ElementTags.Markup

open Outcome

/-! ## Written once -/

theorem mem_foldl_addOnce {written texts : List Text} {s : Text} :
    s ∈ texts.foldl addOnce written ↔ s ∈ written ∨ s ∈ texts := by
  induction texts generalizing written with
  | nil => simp only [List.foldl_nil, List.not_mem_nil, or_false]
  | cons t texts ih =>
      have first : s ∈ addOnce written t ↔ s ∈ written ∨ s = t := by
        unfold addOnce
        split
        · rename_i known
          rw [List.contains_iff_mem] at known
          exact ⟨.inl, fun either => either.elim id fun same => same ▸ known⟩
        · rw [List.mem_append, List.mem_singleton]
      rw [List.foldl_cons, ih, first, List.mem_cons, or_assoc]

theorem nodup_foldl_addOnce {written : List Text} (nodup : written.Nodup) (texts : List Text) :
    (texts.foldl addOnce written).Nodup := by
  induction texts generalizing written with
  | nil => exact nodup
  | cons t texts ih =>
      refine ih ?_
      unfold addOnce
      split
      · exact nodup
      · rename_i new
        rw [List.contains_iff_mem] at new
        exact List.nodup_append.mpr ⟨nodup, List.pairwise_singleton _ t, fun a member b same => by
          rw [List.mem_singleton.mp same]
          rintro rfl
          exact new member⟩

/-- The texts that a value is written as. -/
def textsOf : Value → Except EvalFault (List Text)
  | .keywords ps _ => pairs ps
  | v => .ok (positional? v).toList

theorem textsOf_of_ne_keywords {v : Value} (unkeyed : ∀ ps who, v ≠ .keywords ps who) :
    textsOf v = .ok (positional? v).toList := by
  unfold textsOf
  split
  · exact absurd rfl (unkeyed _ _)
  · rfl

/-- A step writes the texts of its value. -/
theorem step_written {configuration : Configuration} {p q : Progress} {v : Value}
    (stepped : step configuration p v = .ok q) :
    ∃ texts, textsOf v = .ok texts ∧ q.written = texts.foldl addOnce p.written := by
  unfold step at stepped
  split at stepped
  · obtain ⟨texts, written, same⟩ := bind_eq_ok.mp stepped
    cases same
    exact ⟨texts, written, rfl⟩
  · rename_i other
    refine ⟨_, textsOf_of_ne_keywords other, ?_⟩
    split at stepped
    · rename_i s shown
      cases stepped
      rw [shown]
      rfl
    · rename_i dropped
      have kept : q.written = p.written := by
        split at stepped
        · obtain ⟨log, -, stepped⟩ := bind_eq_ok.mp stepped
          split at stepped
          · obtain ⟨line, -, same⟩ := bind_eq_ok.mp stepped
            cases same
            rfl
          · cases stepped
            rfl
        · cases stepped
          rfl
      rw [kept, dropped]
      rfl

/-- All steps together write the texts of all values. -/
theorem progress_written {configuration : Configuration} {p q : Progress} {values : List Value}
    (finished : progress configuration p values = (q, none)) :
    ∃ texts, values.mapM textsOf = .ok texts ∧
      q.written = texts.flatten.foldl addOnce p.written := by
  induction values generalizing p with
  | nil =>
      cases finished
      exact ⟨[], rfl, rfl⟩
  | cons v rest ih =>
      rw [progress] at finished
      split at finished
      · rename_i next stepped
        obtain ⟨first, written, now⟩ := step_written stepped
        obtain ⟨others, all, last⟩ := ih finished
        refine ⟨first :: others, ?_, ?_⟩
        · rw [List.mapM_cons, written, ok_bind, all]
          rfl
        · rw [last, now, List.flatten_cons, List.foldl_append]
      · cases finished

/-! ## Items -/

/-- An attribute as it is written: a name alone, or a name with a value in double quotes. -/
inductive Item
  | bare (name : Text)
  | valued (name value : Text)

/-- The text of an item. -/
def Item.text : Item → Text
  | bare name => name
  | valued name value => name ++ "=\"".toList ++ value ++ ['"']

/-- Whether an item has a value. -/
def Item.hasValue : Item → Bool
  | bare _ => false
  | valued _ _ => true

/-- The items that some values call for: a plain text that is neither empty nor has blanks in it
calls for its escaped text, and a pair of keyword attributes for its escaped key and whatever is
written for its value. -/
inductive Item.CalledFor (values : List Value) : Item → Prop
  | bare {s : Text} (member : .text s ∈ values) (nonempty : s ≠ [])
      (noBlank : ∀ c ∈ s, Text.isBlank c = false) : CalledFor values (.bare (Text.escape s))
  | valued {ps : List (Value × Value)} {who : Identity} {key shown : Text} {v : Value}
      (member : .keywords ps who ∈ values) (pair : (.text key, v) ∈ ps)
      (written : keyed? v = .ok (some shown)) : CalledFor values (.valued (Text.escape key) shown)

/-- All keys of the keyword attributes among some values are plain texts. -/
def PlainKeys (values : List Value) : Prop :=
  ∀ ps who, .keywords ps who ∈ values → ∀ p ∈ ps, ∃ key, p.1 = .text key

theorem positional?_eq_some_iff {v : Value} {shown : Text} :
    positional? v = some shown ↔ ∃ s, v = .text s ∧ s ≠ [] ∧
      (∀ c ∈ s, Text.isBlank c = false) ∧ shown = Text.escape s := by
  constructor
  · intro written
    unfold positional? at written
    split at written
    · rename_i s
      split at written
      · cases written
      · rename_i kept
        simp only [Bool.or_eq_true, List.isEmpty_iff, List.any_eq_true, not_or, not_exists,
          not_and, Bool.not_eq_true] at kept
        exact ⟨s, rfl, kept.1, kept.2, (Option.some.inj written).symm⟩
    · cases written
  · rintro ⟨s, rfl, nonempty, noBlank, rfl⟩
    have kept : (s.isEmpty || s.any Text.isBlank) = false := by
      rw [Bool.or_eq_false_iff, List.isEmpty_eq_false_iff, List.any_eq_false]
      exact ⟨nonempty, fun c member => by rw [noBlank c member]; exact Bool.false_ne_true⟩
    rw [positional?, kept]
    rfl

/-- An entry of keyword attributes is written as its escaped key with what is written for its value
in double quotes. -/
def Renders (entry : Value × Value) (text : Text) : Prop :=
  ∃ name shown, (escapeValue entry.1).shown = .ok name ∧ keyed? entry.2 = .ok (some shown) ∧
    text = (Item.valued name shown).text

theorem pair?_eq_ok_iff {key v : Value} {text : Text} :
    pair? key v = .ok (some text) ↔ Renders (key, v) text := by
  unfold pair? Renders
  constructor
  · intro written
    obtain ⟨shown?, keyed, written⟩ := bind_eq_ok.mp written
    cases shown? with
    | none => cases written
    | some shown =>
        obtain ⟨name, named, same⟩ := bind_eq_ok.mp written
        cases same
        exact ⟨name, shown, named, keyed, rfl⟩
  · rintro ⟨name, shown, named, keyed, rfl⟩
    refine bind_eq_ok.mpr ⟨some shown, keyed, ?_⟩
    exact bind_eq_ok.mpr ⟨name, named, rfl⟩

/-- A pair with a plain key is written as an item. -/
theorem pair?_eq_ok_some_iff {key s : Text} {v : Value} :
    pair? (.text key) v = .ok (some s) ↔
      ∃ shown, keyed? v = .ok (some shown) ∧ s = (Item.valued (Text.escape key) shown).text := by
  rw [pair?_eq_ok_iff]
  constructor
  · rintro ⟨name, shown, named, keyed, rfl⟩
    cases named
    exact ⟨shown, keyed, rfl⟩
  · rintro ⟨shown, keyed, rfl⟩
    exact ⟨_, shown, rfl, keyed, rfl⟩

theorem mem_pairs {ps : List (Value × Value)} {texts : List Text} (written : pairs ps = .ok texts)
    {s : Text} : s ∈ texts ↔ ∃ p ∈ ps, pair? p.1 p.2 = .ok (some s) := by
  obtain ⟨shown, each, same⟩ := bind_eq_ok.mp written
  cases same
  rw [List.mem_filterMap]
  constructor
  · rintro ⟨_, member, rfl⟩
    exact (mem_of_mapM_eq_ok each).mp member
  · intro pair
    exact ⟨some s, (mem_of_mapM_eq_ok each).mpr pair, rfl⟩

/-- Texts each of which is that of an item are the texts of some items. -/
theorem exists_items {holds : Item → Prop} {texts : List Text}
    (each : ∀ s ∈ texts, ∃ item : Item, holds item ∧ item.text = s) :
    ∃ items : List Item, (∀ item ∈ items, holds item) ∧ items.map Item.text = texts := by
  induction texts with
  | nil => exact ⟨[], fun _ none => absurd none List.not_mem_nil, rfl⟩
  | cons s texts ih =>
      obtain ⟨⟨item, first, text⟩, others⟩ := List.forall_mem_cons.mp each
      obtain ⟨items, rest, same⟩ := ih others
      exact ⟨item :: items, List.forall_mem_cons.mpr ⟨first, rest⟩, by
        rw [List.map_cons, text, same]⟩

/-- What is written is what some plain text or some entry of keyword attributes is written as. -/
theorem mem_texts_iff {values : List Value} {texts : List (List Text)}
    (written : values.mapM textsOf = .ok texts) {s : Text} :
    s ∈ texts.flatten ↔
      (∃ t, .text t ∈ values ∧ t ≠ [] ∧ (∀ c ∈ t, Text.isBlank c = false) ∧ s = Text.escape t) ∨
        ∃ ps who, .keywords ps who ∈ values ∧ ∃ entry ∈ ps, Renders entry s := by
  rw [List.mem_flatten]
  constructor
  · rintro ⟨own, member, inside⟩
    obtain ⟨v, here, value⟩ := (mem_of_mapM_eq_ok written).mp member
    unfold textsOf at value
    split at value
    · rename_i ps who
      obtain ⟨entry, pair, shown⟩ := (mem_pairs value).mp inside
      exact .inr ⟨ps, who, here, entry, pair, pair?_eq_ok_iff.mp shown⟩
    · cases value
      rw [Option.mem_toList] at inside
      obtain ⟨t, rfl, nonempty, noBlank, rfl⟩ := positional?_eq_some_iff.mp inside
      exact .inl ⟨t, here, nonempty, noBlank, rfl⟩
  · rintro (⟨t, here, nonempty, noBlank, rfl⟩ | ⟨ps, who, here, entry, pair, shown⟩)
    · have shown := positional?_eq_some_iff.mpr ⟨t, rfl, nonempty, noBlank, rfl⟩
      refine ⟨_, (mem_of_mapM_eq_ok written).mpr ⟨_, here, rfl⟩, ?_⟩
      rw [shown]
      exact List.mem_singleton_self _
    · obtain ⟨own, value⟩ := exists_ok_of_mapM_eq_ok written here
      exact ⟨own, (mem_of_mapM_eq_ok written).mpr ⟨_, here, value⟩,
        (mem_pairs value).mpr ⟨entry, pair, pair?_eq_ok_iff.mpr shown⟩⟩

/-- What is written are the texts of the items that the values call for. -/
theorem written_iff {values : List Value} (plain : PlainKeys values) {texts : List (List Text)}
    (written : values.mapM textsOf = .ok texts) {s : Text} :
    s ∈ texts.flatten ↔ ∃ item : Item, item.CalledFor values ∧ item.text = s := by
  rw [mem_texts_iff written]
  constructor
  · rintro (⟨t, here, nonempty, noBlank, rfl⟩ | ⟨ps, who, here, ⟨k, v⟩, pair, shown⟩)
    · exact ⟨_, .bare here nonempty noBlank, rfl⟩
    · obtain ⟨key, rfl⟩ := plain ps who here _ pair
      obtain ⟨name, shown, named, keyed, rfl⟩ := shown
      cases named
      exact ⟨_, .valued here pair keyed, rfl⟩
  · rintro ⟨item, calledFor, rfl⟩
    cases calledFor with
    | bare member nonempty noBlank => exact .inl ⟨_, member, nonempty, noBlank, rfl⟩
    | valued member pair keyed => exact .inr ⟨_, _, member, _, pair, _, _, rfl, keyed, rfl⟩

/-- Items that are written are called for, and each is written once. -/
theorem items_of_serialize {configuration : Configuration} {values : List Value} {html : Text}
    (plain : PlainKeys values) (written : (serialize configuration values).1 = .ok html) :
    ∃ items : List Item, html = Text.join [' '] (items.map Item.text) ∧
      (items.map Item.text).Nodup ∧ (∀ item ∈ items, item.CalledFor values) ∧
      ∀ item : Item, item.CalledFor values → item.text ∈ items.map Item.text := by
  unfold serialize at written
  split at written
  · rename_i p finished
    cases written
    obtain ⟨texts, each, all⟩ := progress_written finished
    have nodup : p.written.Nodup := all ▸ nodup_foldl_addOnce List.nodup_nil _
    have members : ∀ s, s ∈ p.written ↔ ∃ item : Item, item.CalledFor values ∧ item.text = s := by
      intro s
      rw [all, mem_foldl_addOnce, written_iff plain each]
      simp only [List.not_mem_nil, false_or]
    obtain ⟨items, calledFor, same⟩ := exists_items fun s member => (members s).mp member
    refine ⟨items, by rw [same], by rw [same]; exact nodup, calledFor, fun item called => ?_⟩
    rw [same]
    exact (members _).mpr ⟨item, called, rfl⟩
  · cases written

/-! ## Nothing but characters and entities -/

/-- Neither the name nor the value of an item has a double quote in it. -/
def Item.Quoteless : Item → Prop
  | bare name => '"' ∉ name
  | valued name value => '"' ∉ name ∧ '"' ∉ value

/-- A value with a double quote behind it can be told from what stands behind the quote. -/
theorem append_quote_inj {s t more others : Text} (left : '"' ∉ s) (right : '"' ∉ t)
    (same : s ++ '"' :: more = t ++ '"' :: others) : s = t ∧ more = others := by
  induction s generalizing t with
  | nil =>
      cases t with
      | nil => exact ⟨rfl, (List.cons.inj same).2⟩
      | cons d t =>
          obtain ⟨rfl, -⟩ := List.cons.inj same
          exact absurd List.mem_cons_self right
  | cons c s ih =>
      cases t with
      | nil =>
          obtain ⟨rfl, -⟩ := List.cons.inj same
          exact absurd List.mem_cons_self left
      | cons d t =>
          obtain ⟨rfl, rest⟩ := List.cons.inj same
          rw [List.mem_cons, not_or] at left right
          obtain ⟨rfl, behind⟩ := ih left.2 right.2 rest
          exact ⟨rfl, behind⟩

theorem Item.text_valued (name value : Text) :
    (valued name value).text = (name ++ ['=']) ++ '"' :: (value ++ ['"']) := by
  rw [text, List.append_assoc, List.append_assoc, List.append_assoc]
  rfl

/-- Items are known by their texts. -/
theorem Item.text_inj {item other : Item} (left : item.Quoteless) (right : other.Quoteless)
    (same : item.text = other.text) : item = other := by
  have quoted (name value : Text) : '"' ∈ (valued name value).text :=
    List.mem_append_right _ (List.mem_singleton_self _)
  cases item with
  | bare name =>
      cases other with
      | bare name' => exact congrArg bare same
      | valued name' value' =>
          have inside := quoted name' value'
          rw [← same] at inside
          exact absurd inside left
  | valued name value =>
      cases other with
      | bare name' =>
          have inside := quoted name value
          rw [same] at inside
          exact absurd inside right
      | valued name' value' =>
          have opened : (name ++ ['=']) ++ '"' :: (value ++ ['"']) =
              (name' ++ ['=']) ++ '"' :: (value' ++ ['"']) := by
            rw [← text_valued, ← text_valued, same]
          have noQuote {s : Text} (none : '"' ∉ s) : '"' ∉ s ++ ['='] := by
            rw [List.mem_append, not_or]
            exact ⟨none, by decide⟩
          obtain ⟨names, values⟩ := append_quote_inj (noQuote left.1) (noQuote right.1) opened
          rw [List.append_cancel_right names, List.append_cancel_right values]

/-- The double quotes of an item are those around its value. -/
theorem Item.count_text {item : Item} (quoteless : item.Quoteless) :
    item.text.count '"' = if item.hasValue then 2 else 0 := by
  cases item with
  | bare name => exact List.count_eq_zero.mpr quoteless
  | valued name value =>
      rw [text, List.count_append, List.count_append, List.count_append,
        List.count_eq_zero.mpr quoteless.1, List.count_eq_zero.mpr quoteless.2]
      rfl

theorem spell_of_shown {v : Value} {s : Text} (shown : v.shown = .ok s) : v.spell = s := by
  unfold Value.shown at shown
  split at shown
  · exact Except.ok.inj shown
  · cases shown

/-- What is written for a value that is not marked as safe has no markup and no double quote in
it. -/
theorem inert_of_keyed? {v : Value} {shown : Text} (unmarked : v.isSafe = false)
    (number : v.kind = .number → v.spell.Plain) (written : keyed? v = .ok (some shown)) :
    shown.Inert ∧ '"' ∉ shown := by
  have escaped (s : Text) : (Text.escape s).Inert ∧ '"' ∉ Text.escape s :=
    ⟨Text.inert_escape s, Text.quote_not_mem_escape s⟩
  have fixed (s : Text) (plain : s.Plain) : s.Inert ∧ '"' ∉ s := by
    rw [← plain.escape_eq]
    exact escaped s
  unfold keyed? at written
  split at written
  · cases written
  · cases unmarked
  · cases written
    exact escaped _
  · rename_i b
    cases written
    cases b with
    | false => exact fixed "false".toList (by decide)
    | true => exact fixed "true".toList (by decide)
  · split at written
    · rename_i isNumber
      obtain ⟨s, spelled, same⟩ := map_eq_ok.mp written
      cases same
      rw [← spell_of_shown spelled]
      exact fixed _ (number isNumber)
    · cases written
      exact fixed _ (by decide)
    · cases written
      exact fixed _ (by decide)
    · cases written
      exact fixed _ (by decide)
    · obtain ⟨s, -, same⟩ := map_eq_ok.mp written
      cases same
      exact escaped s

/-- What an item has to be for HTML to find nothing in it but a name and a value. -/
structure Item.Sound (item : Item) : Prop where
  inert : item.text.Inert
  quoteless : item.Quoteless

theorem Item.CalledFor.sound {values : List Value}
    (unmarked : ∀ ps who, .keywords ps who ∈ values → ∀ p ∈ ps, p.2.isSafe = false)
    (numbers : ∀ ps who, .keywords ps who ∈ values → ∀ p ∈ ps, p.2.kind = .number →
      p.2.spell.Plain)
    {item : Item} (calledFor : item.CalledFor values) : item.Sound := by
  cases calledFor with
  | bare member nonempty noBlank => exact ⟨Text.inert_escape _, Text.quote_not_mem_escape _⟩
  | valued member pair written =>
      obtain ⟨inert, quoteless⟩ :=
        inert_of_keyed? (unmarked _ _ member _ pair) (numbers _ _ member _ pair) written
      have opening : Text.Inert "=\"".toList := Text.inert_of_not_mem (by decide) (by decide)
      have closing : Text.Inert ['"'] := Text.inert_of_not_mem (by decide) (by decide)
      exact ⟨(((Text.inert_escape _).append opening).append inert).append closing,
        Text.quote_not_mem_escape _, quoteless⟩

/-- HTML finds nothing but characters and entities in sound items with blanks between them. -/
theorem inert_join {items : List Item} (sound : ∀ item ∈ items, item.Sound) :
    (Text.join [' '] (items.map Item.text)).Inert := by
  have blank : Text.Inert [' '] := Text.inert_singleton (by decide)
  refine Text.join_of_append Text.inert_nil (fun _ _ => Text.Inert.append) blank ?_
  intro s member
  obtain ⟨item, here, rfl⟩ := List.mem_map.mp member
  exact (sound item here).inert

/-- The double quotes of sound items with blanks between them are those around their values. -/
theorem count_quote_join {items : List Item} (sound : ∀ item ∈ items, item.Sound) :
    (Text.join [' '] (items.map Item.text)).count '"' = 2 * items.countP Item.hasValue := by
  rw [Text.count_join (by decide)]
  induction items with
  | nil => rfl
  | cons item items ih =>
      obtain ⟨first, rest⟩ := List.forall_mem_cons.mp sound
      rw [List.map_cons, List.flatten_cons, List.count_append, ih rest,
        Item.count_text first.quoteless, List.countP_cons]
      split <;> omega

/-- Whatever attributes are written, unless a value of theirs is marked as safe, HTML finds
nothing in them but characters and entities, and their double quotes are the two around the value
of each item that has one. They are the items that the values call for, each once. -/
theorem serialize_inert {configuration : Configuration} {values : List Value} {html : Text}
    (plainKeys : PlainKeys values)
    (unmarked : ∀ ps who, .keywords ps who ∈ values → ∀ p ∈ ps, p.2.isSafe = false)
    (numbers : ∀ ps who, .keywords ps who ∈ values → ∀ p ∈ ps, p.2.kind = .number →
      p.2.spell.Plain)
    (written : (serialize configuration values).1 = .ok html) :
    html.Inert ∧ ∃ items : List Item,
      html = Text.join [' '] (items.map Item.text) ∧ items.Nodup ∧
      (∀ item, item ∈ items ↔ item.CalledFor values) ∧ (∀ item ∈ items, item.Quoteless) ∧
      html.count '"' = 2 * items.countP Item.hasValue := by
  obtain ⟨items, rfl, nodup, calledFor, all⟩ := items_of_serialize plainKeys written
  have sound : ∀ item ∈ items, item.Sound := fun item member =>
    (calledFor item member).sound unmarked numbers
  have distinct : items.Nodup :=
    (List.pairwise_map.mp nodup).imp fun differ same => differ (congrArg _ same)
  refine ⟨inert_join sound, items, rfl, distinct, fun item => ⟨calledFor item, fun called => ?_⟩,
    fun item member => (sound item member).quoteless, count_quote_join sound⟩
  obtain ⟨other, member, same⟩ := List.mem_map.mp (all item called)
  have equal := Item.text_inj (sound other member).quoteless
    (called.sound unmarked numbers).quoteless same
  exact equal ▸ member

/-- Everything special in a text, a key and a value is escaped. -/
theorem serialize_inert_special :
    (serialize (.switches .null (.bool false)) [.safe "<i>".toList, .text "a<b".toList,
      .keywords [(.text "c&".toList, .text "\"d'".toList),
        (.text "e".toList, .decimal "1.5".toList)]]).1 =
      .ok "a&lt;b c&amp;=\"&quot;d&#x27;\" e=\"1.5\"".toList ∧
    Text.Inert "a&lt;b c&amp;=\"&quot;d&#x27;\" e=\"1.5\"".toList := by
  have written : (serialize (.switches .null (.bool false)) [.safe "<i>".toList,
      .text "a<b".toList,
      .keywords [(.text "c&".toList, .text "\"d'".toList),
        (.text "e".toList, .decimal "1.5".toList)]]).1 =
      .ok "a&lt;b c&amp;=\"&quot;d&#x27;\" e=\"1.5\"".toList := by
    rfl
  refine ⟨written, (serialize_inert ?_ ?_ ?_ written).1⟩
  all_goals
    intro ps who member
    simp only [List.mem_cons, List.not_mem_nil, reduceCtorEq, Value.keywords.injEq, or_false,
      false_or] at member
    obtain ⟨rfl, rfl⟩ := member
    rw [List.forall_mem_cons, List.forall_mem_singleton]
  · exact ⟨⟨_, rfl⟩, ⟨_, rfl⟩⟩
  · exact ⟨rfl, rfl⟩
  · exact ⟨fun none => (by cases none), fun _ => (by decide)⟩

end ElementTags.Markup
