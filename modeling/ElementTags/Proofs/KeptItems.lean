import ElementTags.Proofs.LastWrite
import ElementTags.Proofs.ReadBack

/-! # What attributes keep in their text

A list of resolved attributes keeps items: each plain text that is neither empty nor has
blanks in it, and each key with the text of its value unless it is absent
(`ElementTags.Markup.kept`). Items are told apart by their escaped texts
(`ElementTags.Markup.Item.escaped_text_injective`), and if no key has a space in it, also
by these texts with a space between each two (`ElementTags.Markup.Item.join_injective`).
So two lists are written alike exactly if they keep the same items, repetitions aside
(`ElementTags.Markup.serialize_eq_iff`).
-/

namespace ElementTags.Markup

open Outcome
open Written (takeWhile_append_of_head)

/-! ## Items told apart -/

namespace Item

deriving instance DecidableEq for Item

/-- An item with everything in it escaped. -/
def escaped : Item → Item
  | bare name => bare (Text.escape name)
  | valued name value => valued (Text.escape name) (Text.escape value)

theorem quoteless_escaped (item : Item) : item.escaped.Quoteless := by
  cases item with
  | bare name => exact Text.quote_not_mem_escape name
  | valued name value => exact ⟨Text.quote_not_mem_escape name, Text.quote_not_mem_escape value⟩

theorem escaped_injective : Function.Injective escaped := by
  intro item other same
  cases item with
  | bare name =>
      cases other with
      | bare name' => exact congrArg bare (Text.escape_injective (bare.inj same))
      | valued name' value' => cases same
  | valued name value =>
      cases other with
      | bare name' => cases same
      | valued name' value' =>
          obtain ⟨names, values⟩ := valued.inj same
          rw [Text.escape_injective names, Text.escape_injective values]

/-- Different items are written differently, whatever is in them. In particular a name alone is
never written like a name with a value. -/
theorem escaped_text_injective : Function.Injective fun item : Item => item.escaped.text :=
  fun item other same =>
    escaped_injective (text_inj item.quoteless_escaped other.quoteless_escaped same)

/-! ## Items with spaces between them -/

/-- An item without a space in its name. A name alone is not empty. -/
def Spaceless : Item → Prop
  | bare name => name ≠ [] ∧ ' ' ∉ name
  | valued name _ => ' ' ∉ name

/-- The text of an item up to the quotes around its value. -/
def front : Item → Text
  | bare name => name
  | valued name _ => name ++ ['=']

/-- The value of an item in its quotes, if it has one, with a text behind it. -/
def back (rest : Text) : Item → Text
  | bare _ => rest
  | valued _ value => '"' :: (value ++ '"' :: rest)

theorem text_append (item : Item) (rest : Text) :
    item.text ++ rest = item.front ++ item.back rest := by
  cases item with
  | bare name => rfl
  | valued name value =>
      simp only [text, front, back, List.append_assoc]
      rfl

theorem text_ne_nil {item : Item} (spaceless : item.Spaceless) : item.text ≠ [] := by
  cases item with
  | bare name => exact spaceless.1
  | valued name value => exact List.append_ne_nil_of_right_ne_nil _ (List.cons_ne_nil _ _)

/-- Whether a character is neither a space nor a double quote. -/
def isPlain (c : Char) : Bool := c ≠ ' ' && c ≠ '"'

theorem isPlain_of_mem {s : Text} (noSpace : ' ' ∉ s) (noQuote : '"' ∉ s) :
    ∀ c ∈ s, isPlain c = true := by
  intro c member
  rw [isPlain, Bool.and_eq_true, decide_eq_true_eq, decide_eq_true_eq]
  exact ⟨fun space => noSpace (space ▸ member), fun quote => noQuote (quote ▸ member)⟩

theorem isPlain_front {item : Item} (spaceless : item.Spaceless) (quoteless : item.Quoteless) :
    ∀ c ∈ item.front, isPlain c = true := by
  cases item with
  | bare name => exact isPlain_of_mem spaceless.2 quoteless
  | valued name value =>
      intro c member
      rcases List.mem_append.mp member with inside | last
      · exact isPlain_of_mem spaceless quoteless.1 c inside
      · rw [List.mem_singleton.mp last]
        rfl

variable {rest others : Text}

theorem isPlain_back (spaced : ∀ c ∈ rest.head?, c = ' ') (item : Item) :
    ∀ c ∈ (item.back rest).head?, isPlain c = false := by
  intro c first
  cases item with
  | bare name =>
      rw [spaced c first]
      rfl
  | valued name value =>
      cases first
      rfl

/-- An item is known from a text that it begins, if a space or nothing stands behind it. -/
theorem text_append_inj {item other : Item} (left : item.Spaceless) (right : other.Spaceless)
    (quoteless : item.Quoteless) (quoteless' : other.Quoteless)
    (spaced : ∀ c ∈ rest.head?, c = ' ') (blank : ∀ c ∈ others.head?, c = ' ')
    (same : item.text ++ rest = other.text ++ others) : item = other ∧ rest = others := by
  rw [text_append, text_append] at same
  obtain ⟨taken, dropped⟩ :=
    takeWhile_append_of_head (isPlain_front left quoteless) (isPlain_back spaced item)
  obtain ⟨taken', dropped'⟩ :=
    takeWhile_append_of_head (isPlain_front right quoteless') (isPlain_back blank other)
  have fronts : item.front = other.front := by rw [← taken, same, taken']
  have backs : item.back rest = other.back others := by rw [← dropped, same, dropped']
  cases item with
  | bare name =>
      cases other with
      | bare name' => exact ⟨congrArg bare fronts, backs⟩
      | valued name' value' =>
          have behind : rest = '"' :: (value' ++ '"' :: others) := backs
          rw [behind] at spaced
          exact absurd (spaced '"' rfl) (by decide)
  | valued name value =>
      cases other with
      | bare name' =>
          have behind : '"' :: (value ++ '"' :: rest) = others := backs
          rw [← behind] at blank
          exact absurd (blank '"' rfl) (by decide)
      | valued name' value' =>
          obtain ⟨values, behind⟩ :=
            append_quote_inj quoteless.2 quoteless'.2 (List.cons.inj backs).2
          rw [List.append_cancel_right fronts, values]
          exact ⟨rfl, behind⟩

/-- Texts with a space in front of each. -/
def spread (texts : List Text) : Text := texts.flatMap (' ' :: ·)

theorem join_cons_eq_spread (s : Text) (texts : List Text) :
    Text.join [' '] (s :: texts) = s ++ spread texts := by
  induction texts generalizing s with
  | nil => rw [Text.join_singleton, spread, List.flatMap_nil, List.append_nil]
  | cons t texts ih =>
      rw [Text.join_cons (List.cons_ne_nil _ _), ih]
      rfl

theorem head?_spread (texts : List Text) : ∀ c ∈ (spread texts).head?, c = ' ' := by
  cases texts with
  | nil =>
      intro c first
      cases first
  | cons s texts =>
      intro c first
      cases first
      rfl

theorem spread_injective {items others : List Item}
    (left : ∀ item ∈ items, item.Spaceless ∧ item.Quoteless)
    (right : ∀ item ∈ others, item.Spaceless ∧ item.Quoteless)
    (same : spread (items.map text) = spread (others.map text)) : items = others := by
  induction items generalizing others with
  | nil =>
      cases others with
      | nil => rfl
      | cons other others => cases same
  | cons item items ih =>
      cases others with
      | nil => cases same
      | cons other others =>
          obtain ⟨⟨spaceless, quoteless⟩, behind⟩ := List.forall_mem_cons.mp left
          obtain ⟨⟨spaceless', quoteless'⟩, behind'⟩ := List.forall_mem_cons.mp right
          obtain ⟨rfl, rest⟩ := text_append_inj spaceless spaceless' quoteless quoteless'
            (head?_spread _) (head?_spread _) (List.cons.inj same).2
          rw [ih behind behind' rest]

/-- Items are known from their texts with a space between each two. -/
theorem join_injective {items others : List Item}
    (left : ∀ item ∈ items, item.Spaceless ∧ item.Quoteless)
    (right : ∀ item ∈ others, item.Spaceless ∧ item.Quoteless)
    (same : Text.join [' '] (items.map text) = Text.join [' '] (others.map text)) :
    items = others := by
  refine spread_injective left right ?_
  cases items with
  | nil =>
      cases others with
      | nil => rfl
      | cons other others =>
          rw [List.map_cons, join_cons_eq_spread] at same
          have empty := (List.append_eq_nil_iff.mp same.symm).1
          exact absurd empty (text_ne_nil (right other List.mem_cons_self).1)
  | cons item items =>
      cases others with
      | nil =>
          rw [List.map_cons, join_cons_eq_spread] at same
          have empty := (List.append_eq_nil_iff.mp same).1
          exact absurd empty (text_ne_nil (left item List.mem_cons_self).1)
      | cons other others =>
          rw [List.map_cons, List.map_cons, join_cons_eq_spread, join_cons_eq_spread] at same
          exact congrArg (' ' :: ·) same

end Item

/-! ## Kept items -/

/-- The items that a resolved attribute keeps: a plain text that is neither empty nor has blanks in
it, and each key with the text of its value unless it is absent. -/
def kept : Value → List Item
  | .keywords ps _ => ps.filterMap fun p => do
    let key ← p.1.chars?
    let shown ← valueText? p.2
    pure (.valued key shown)
  | .text s => if s ≠ [] ∧ s.any Text.isBlank = false then [.bare s] else []
  | _ => []

/-- Keyword attributes whose keys are plain texts without a space and whose values are not marked as
safe. Numbers have no special characters in them. -/
def Distinguishable : Value → Prop
  | .keywords ps _ => ∀ p ∈ ps, (∃ key, p.1 = .text key ∧ ' ' ∉ key) ∧ p.2.isSafe = false ∧
    (p.2.kind = .number → p.2.spell.Plain)
  | _ => True

/-- Pairs are written as the items that they keep. -/
theorem pairs_eq_kept {ps : List (Value × Value)} {who : Identity} {texts : List Text}
    (distinguishable : Distinguishable (.keywords ps who)) (written : pairs ps = .ok texts) :
    texts = (kept (.keywords ps who)).map fun item => item.escaped.text := by
  induction ps generalizing texts with
  | nil =>
      cases written
      rfl
  | cons p rest ih =>
      obtain ⟨key, v⟩ := p
      obtain ⟨⟨⟨name, plain, -⟩, unmarked, number⟩, others⟩ :=
        List.forall_mem_cons.mp distinguishable
      obtain rfl : key = .text name := plain
      rw [pairs_cons] at written
      obtain ⟨first, here, written⟩ := bind_eq_ok.mp written
      obtain ⟨behind, later, same⟩ := bind_eq_ok.mp written
      cases same
      rw [ih others later]
      rw [pair?] at here
      obtain ⟨value, keyed, here⟩ := bind_eq_ok.mp here
      obtain rfl := keyed?_eq unmarked number keyed
      cases text : valueText? v with
      | none =>
          rw [text] at here
          cases here
          simp only [kept, List.filterMap_cons, Value.chars?, text]
          rfl
      | some s =>
          rw [text] at here
          cases here
          simp only [kept, List.filterMap_cons, Value.chars?, text]
          rfl

/-- A value is written as the items that it keeps. -/
theorem textsOf_eq_kept {v : Value} {texts : List Text} (distinguishable : Distinguishable v)
    (written : textsOf v = .ok texts) :
    texts = (kept v).map fun item => item.escaped.text := by
  unfold textsOf at written
  split at written
  · exact pairs_eq_kept distinguishable written
  · rename_i noPairs
    cases written
    cases shown : positional? v with
    | some name =>
        obtain ⟨s, rfl, nonempty, noBlank, rfl⟩ := positional?_eq_some_iff.mp shown
        rw [kept, if_pos ⟨nonempty, by simpa using noBlank⟩]
        rfl
    | none =>
        unfold kept
        split
        · exact absurd rfl (noPairs _ _)
        · rename_i s
          rw [if_neg]
          · rfl
          · rintro ⟨nonempty, noBlank⟩
            rw [positional?_eq_some_iff.mpr
              ⟨s, rfl, nonempty, by simpa using noBlank, rfl⟩] at shown
            cases shown
        · rfl

/-- Values are written as the items that they keep. -/
theorem flatten_eq_kept {values : List Value} {texts : List (List Text)}
    (distinguishable : ∀ v ∈ values, Distinguishable v)
    (written : values.mapM textsOf = .ok texts) :
    texts.flatten = (values.flatMap kept).map fun item => item.escaped.text := by
  rw [List.map_flatMap]
  exact flatten_of_mapM_eq_ok (fun v here _ => textsOf_eq_kept (distinguishable v here)) written

theorem space_not_mem_escape {s : Text} (noSpace : ' ' ∉ s) : ' ' ∉ Text.escape s := by
  intro member
  obtain ⟨c, inside, within⟩ := List.mem_flatMap.mp member
  rcases Text.entity_cases c with known | plain
  · have all : ∀ name ∈ Text.entities, ' ' ∉ name := by decide
    exact all _ known within
  · rw [plain, List.mem_singleton] at within
    exact noSpace (within ▸ inside)

/-- What is kept has no space in its name, and neither has what is written for it. -/
theorem spaceless_escaped {v : Value} (distinguishable : Distinguishable v) :
    ∀ item ∈ kept v, item.escaped.Spaceless := by
  intro item member
  unfold kept at member
  split at member
  · obtain ⟨p, inside, pair⟩ := List.mem_filterMap.mp member
    obtain ⟨name, plain, noSpace⟩ := (distinguishable p inside).1
    obtain ⟨key, found, shown⟩ := Option.bind_eq_some_iff.mp pair
    rw [plain] at found
    cases found
    obtain ⟨value, -, same⟩ := Option.bind_eq_some_iff.mp shown
    cases same
    exact space_not_mem_escape noSpace
  · split at member
    · rename_i s nonblank
      rw [List.mem_singleton.mp member]
      have noSpace : ' ' ∉ s := fun space => List.any_eq_false.mp nonblank.2 ' ' space rfl
      exact ⟨fun empty => nonblank.1 (Text.escape_injective empty), space_not_mem_escape noSpace⟩
    · cases member
  · cases member

/-- Values are written as the items that they keep, each once. -/
theorem serialize_eq_kept {configuration : Configuration} {values : List Value} {html : Text}
    (distinguishable : ∀ v ∈ values, Distinguishable v)
    (written : (serialize configuration values).1 = .ok html) :
    html = Text.join [' ']
      (((values.flatMap kept).eraseDups.map Item.escaped).map Item.text) := by
  unfold serialize at written
  split at written
  · rename_i p finished
    cases written
    obtain ⟨texts, each, all⟩ := progress_written finished
    rw [all, flatten_eq_kept distinguishable each, foldl_addOnce_eq_eraseDups,
      eraseDups_map fun a _ b _ same => Item.escaped_text_injective same, List.map_map]
    rfl
  · cases written

/-! ## Values written again -/

variable {configuration : Configuration} {p q other : Progress} {values more : List Value}

/-- Whether a value can be written does not depend on what has been written before. -/
theorem exists_step {v : Value} (stepped : step configuration p v = .ok q) (other : Progress) :
    ∃ next, step configuration other v = .ok next := by
  unfold step at stepped ⊢
  split at stepped
  · obtain ⟨texts, written, -⟩ := bind_eq_ok.mp stepped
    rw [written]
    exact ⟨_, rfl⟩
  · split at stepped
    · exact ⟨_, rfl⟩
    · split at stepped
      · rename_i truthy
        obtain ⟨log, asked, stepped⟩ := bind_eq_ok.mp stepped
        rw [if_pos truthy, asked, ok_bind]
        split at stepped
        · rename_i reported
          obtain ⟨line, described, -⟩ := bind_eq_ok.mp stepped
          rw [if_pos reported, described]
          exact ⟨_, rfl⟩
        · rename_i silent
          rw [if_neg silent]
          exact ⟨_, rfl⟩
      · rename_i falsy
        rw [if_neg falsy]
        exact ⟨_, rfl⟩

/-- Values that can be written can be written one by one. -/
theorem exists_step_of_mem (finished : progress configuration p values = (q, none)) :
    ∀ v ∈ values, ∃ before after, step configuration before v = .ok after := by
  induction values generalizing p with
  | nil => exact List.forall_mem_nil _
  | cons v rest ih =>
      rw [progress] at finished
      split at finished
      · rename_i next stepped
        exact List.forall_mem_cons.mpr ⟨⟨p, next, stepped⟩, ih finished⟩
      · cases finished

theorem exists_progress
    (each : ∀ v ∈ values, ∃ before after, step configuration before v = .ok after)
    (p : Progress) : ∃ q, progress configuration p values = (q, none) := by
  induction values generalizing p with
  | nil => exact ⟨p, rfl⟩
  | cons v rest ih =>
      obtain ⟨⟨before, after, stepped⟩, others⟩ := List.forall_mem_cons.mp each
      obtain ⟨next, here⟩ := exists_step stepped p
      obtain ⟨q, there⟩ := ih others next
      exact ⟨q, by rw [progress, here]; exact there⟩

/-- Values that are written can be written again behind themselves. -/
theorem exists_serialize_append {html : Text}
    (written : (serialize configuration values).1 = .ok html) (again : ∀ v ∈ more, v ∈ values) :
    ∃ longer, (serialize configuration (values ++ more)).1 = .ok longer := by
  unfold serialize at written
  split at written
  · rename_i p finished
    have each := exists_step_of_mem finished
    obtain ⟨q, there⟩ := exists_progress (fun v member => each v (again v member)) p
    refine ⟨Text.join [' '] q.written, ?_⟩
    rw [serialize, progress_append, finished]
    simp only [there]
  · cases written

/-- Items that are kept already do not count again. -/
theorem eraseDups_append_of_subset {α : Type} [BEq α] [LawfulBEq α] {l others : List α}
    (known : ∀ a ∈ others, a ∈ l) : (l ++ others).eraseDups = l.eraseDups := by
  rw [List.eraseDups_append, List.removeAll, List.filter_eq_nil_iff.mpr, List.eraseDups_nil,
    List.append_nil]
  intro a member
  simp [known a member]

/-! ## Lists that are written alike -/

/-- **What is written tells what was kept.** Two lists of resolved attributes, whose keys are plain
texts without a space and whose values with a key are not marked as safe, are written alike exactly
if they keep the same items in the same order, each counted at its first place. So nothing changes
with more values behind a list that keep only items that it keeps already, such as its own values,
which can be written again. A text without a key is never written like a key with a value. -/
theorem serialize_eq_iff {configuration configuration' : Configuration}
    {values others : List Value} {html html' : Text}
    (distinguishable : ∀ v ∈ values, Distinguishable v)
    (distinguishable' : ∀ v ∈ others, Distinguishable v)
    (written : (serialize configuration values).1 = .ok html)
    (written' : (serialize configuration' others).1 = .ok html') :
    (html = html' ↔ (values.flatMap kept).eraseDups = (others.flatMap kept).eraseDups) ∧
      (∀ more longer, (∀ v ∈ more, Distinguishable v) →
        (∀ item ∈ more.flatMap kept, item ∈ values.flatMap kept) →
          (serialize configuration (values ++ more)).1 = .ok longer → longer = html) ∧
      (∀ more, (∀ v ∈ more, v ∈ values) →
        (serialize configuration (values ++ more)).1 = .ok html) ∧
      ∀ name key value : Text,
        (Item.bare name).escaped.text ≠ (Item.valued key value).escaped.text := by
  have sound {values : List Value} (distinguishable : ∀ v ∈ values, Distinguishable v) :
      ∀ item ∈ (values.flatMap kept).eraseDups.map Item.escaped,
        item.Spaceless ∧ item.Quoteless := by
    intro item member
    obtain ⟨inner, inside, rfl⟩ := List.mem_map.mp member
    obtain ⟨v, here, keeps⟩ := List.mem_flatMap.mp (List.mem_eraseDups.mp inside)
    exact ⟨spaceless_escaped (distinguishable v here) inner keeps, inner.quoteless_escaped⟩
  have longer (more : List Value) (longer : Text) (legible : ∀ v ∈ more, Distinguishable v)
      (known : ∀ item ∈ more.flatMap kept, item ∈ values.flatMap kept)
      (extended : (serialize configuration (values ++ more)).1 = .ok longer) : longer = html := by
    have all : ∀ v ∈ values ++ more, Distinguishable v := fun v member =>
      (List.mem_append.mp member).elim (distinguishable v) (legible v)
    rw [serialize_eq_kept all extended, serialize_eq_kept distinguishable written,
      List.flatMap_append, eraseDups_append_of_subset known]
  refine ⟨⟨fun same => ?_, fun same => ?_⟩, longer, fun more again => ?_,
    fun name key value same => ?_⟩
  · rw [serialize_eq_kept distinguishable written,
      serialize_eq_kept distinguishable' written'] at same
    exact List.map_injective_iff.mpr Item.escaped_injective
      (Item.join_injective (sound distinguishable) (sound distinguishable') same)
  · rw [serialize_eq_kept distinguishable written, serialize_eq_kept distinguishable' written',
      same]
  · obtain ⟨html', extended⟩ := exists_serialize_append written again
    have legible : ∀ v ∈ more, Distinguishable v := fun v member =>
      distinguishable v (again v member)
    rw [extended, longer more html' legible ?_ extended]
    intro item member
    obtain ⟨v, here, keeps⟩ := List.mem_flatMap.mp member
    exact List.mem_flatMap.mpr ⟨v, again v here, keeps⟩
  · cases Item.escaped_text_injective same

/-- A text with an equals sign that stands twice in one list, a value with a space and a quote in
it, and an absent value in the other list. -/
theorem serialize_eq_iff_repeated :
    (serialize (.switches .null (.bool false)) [.text "a=b".toList,
      .keywords [(.text "c".toList, .text "d \"e".toList)], .text "a=b".toList]).1 =
        .ok "a=b c=\"d &quot;e\"".toList ∧
    ([.text "a=b".toList, .keywords [(.text "c".toList, .text "d \"e".toList)],
      .text "a=b".toList].flatMap kept).eraseDups =
        ([.text "a=b".toList, .keywords [(.text "f".toList, .null),
          (.text "c".toList, .text "d \"e".toList)]].flatMap kept).eraseDups := by
  have repeated : (serialize (.switches .null (.bool false)) [.text "a=b".toList,
      .keywords [(.text "c".toList, .text "d \"e".toList)], .text "a=b".toList]).1 =
        .ok "a=b c=\"d &quot;e\"".toList := by
    rfl
  have once : (serialize (.switches .null (.bool false)) [.text "a=b".toList,
      .keywords [(.text "f".toList, .null), (.text "c".toList, .text "d \"e".toList)]]).1 =
        .ok "a=b c=\"d &quot;e\"".toList := by
    rfl
  have plain (s : Text) (noSpace : ' ' ∉ s) : ∃ key, Value.text s = .text key ∧ ' ' ∉ key :=
    ⟨s, rfl, noSpace⟩
  refine ⟨repeated, (serialize_eq_iff ?_ ?_ repeated once).1.mp rfl⟩
  · simp only [List.forall_mem_cons, Distinguishable]
    exact ⟨trivial, ⟨⟨plain _ (by decide), rfl, fun number => by cases number⟩,
      List.forall_mem_nil _⟩, trivial, List.forall_mem_nil _⟩
  · simp only [List.forall_mem_cons, Distinguishable]
    exact ⟨trivial, ⟨⟨plain _ (by decide), rfl, fun number => by cases number⟩,
      ⟨plain _ (by decide), rfl, fun number => by cases number⟩, List.forall_mem_nil _⟩,
      List.forall_mem_nil _⟩

end ElementTags.Markup
