import Mathlib
import ElementTags.Proofs.Decoding
import ElementTags.Proofs.Resolution
import ElementTags.Proofs.Serialization

/-! # The last write of a key is the one that is written

Of the attributes of a tag that have the same key only the last one reaches the HTML.
The keyword attributes that entries resolve to have different keys, so that no pair is
dropped as a repetition of another one; the words in front of them have no double
quote, so that no pair is taken for one of them either
(`ElementTags.Markup.serialize_keywords`). From the entries to the HTML, every key is
written at the place of its first occurrence with the value of its last one
(`ElementTags.Entry.resolveAll_lastWrites`).
-/

namespace ElementTags

namespace Markup

open Outcome

/-- The keys with the texts of their values, as far as these are written at all. -/
inductive Rendered : List (Text × Value) → List (Text × Text) → Prop
  | nil : Rendered [] []
  | absent {key : Text} {v : Value} {rest : List (Text × Value)} {shown : List (Text × Text)}
      (dropped : keyed? v = .ok none) (others : Rendered rest shown) :
      Rendered ((key, v) :: rest) shown
  | written {key s : Text} {v : Value} {rest : List (Text × Value)} {shown : List (Text × Text)}
      (kept : keyed? v = .ok (some s)) (others : Rendered rest shown) :
      Rendered ((key, v) :: rest) ((key, s) :: shown)

/-- The text of a key with the text of its value. -/
def pairText (p : Text × Text) : Text := (Item.valued (Text.escape p.1) p.2).text

/-- Only the absent value is not written. -/
theorem keyed?_eq_ok_none_iff {v : Value} : keyed? v = .ok none ↔ v = .null := by
  constructor
  · intro dropped
    unfold keyed? at dropped
    split at dropped
    · rfl
    · cases dropped
    · cases dropped
    · cases dropped
    · split at dropped
      · obtain ⟨s, -, same⟩ := map_eq_ok.mp dropped
        cases same
      · cases dropped
      · cases dropped
      · cases dropped
      · obtain ⟨s, -, same⟩ := map_eq_ok.mp dropped
        cases same
  · rintro rfl
    rfl

namespace Rendered

variable {ps : List (Text × Value)} {shown : List (Text × Text)}

theorem sublist (rendered : Rendered ps shown) : (shown.map (·.1)).Sublist (ps.map (·.1)) := by
  induction rendered with
  | nil => exact .slnil
  | absent dropped others ih => exact ih.cons _
  | written kept others ih => exact ih.cons_cons _

/-- What is written for a key is the text of its value. -/
theorem exists_value (rendered : Rendered ps shown) {p : Text × Text} (member : p ∈ shown) :
    ∃ v, (p.1, v) ∈ ps ∧ keyed? v = .ok (some p.2) := by
  induction rendered with
  | nil => cases member
  | absent dropped others ih =>
      obtain ⟨v, inside, value⟩ := ih member
      exact ⟨v, List.mem_cons_of_mem _ inside, value⟩
  | written kept others ih =>
      rcases List.mem_cons.mp member with rfl | later
      · exact ⟨_, List.mem_cons_self, kept⟩
      · obtain ⟨v, inside, value⟩ := ih later
        exact ⟨v, List.mem_cons_of_mem _ inside, value⟩

/-- Among different keys, a key is missing exactly when its value is absent. -/
theorem missing_iff (rendered : Rendered ps shown) (distinct : (ps.map (·.1)).Nodup)
    {p : Text × Value} (member : p ∈ ps) : p.1 ∉ shown.map (·.1) ↔ p.2 = .null := by
  induction rendered with
  | nil => cases member
  | @absent key v rest shown dropped others ih =>
      obtain ⟨fresh, distinct⟩ := List.nodup_cons.mp distinct
      rcases List.mem_cons.mp member with rfl | later
      · have gone : key ∉ shown.map (·.1) := fun inside => fresh (others.sublist.subset inside)
        exact iff_of_true gone (keyed?_eq_ok_none_iff.mp dropped)
      · exact ih distinct later
  | @written key s v rest shown kept others ih =>
      obtain ⟨fresh, distinct⟩ := List.nodup_cons.mp distinct
      rw [List.map_cons, List.mem_cons, not_or]
      rcases List.mem_cons.mp member with rfl | later
      · refine iff_of_false (fun missing => missing.1 rfl) ?_
        rintro rfl
        cases kept
      · have other : p.1 ≠ key := by
          intro same
          exact fresh (List.mem_map.mpr ⟨p, later, same⟩)
        rw [← ih distinct later]
        exact and_iff_right other

end Rendered

theorem pairs_cons (key v : Value) (rest : List (Value × Value)) :
    pairs ((key, v) :: rest) = (do
      let first ← pair? key v
      let others ← pairs rest
      pure (first.toList ++ others)) := by
  simp only [pairs, List.mapM_cons]
  cases pair? key v with
  | error fault => rfl
  | ok first =>
      rw [ok_bind]
      cases rest.mapM fun p => pair? p.1 p.2 with
      | error fault => rfl
      | ok others => cases first <;> rfl

/-- Pairs are written as their keys with the texts of their values. -/
theorem pairs_textPairs_eq_ok_iff {ps : List (Text × Value)} {texts : List Text} :
    pairs (textPairs ps) = .ok texts ↔ ∃ shown, Rendered ps shown ∧ texts = shown.map pairText := by
  induction ps generalizing texts with
  | nil =>
      constructor
      · intro written
        cases written
        exact ⟨[], .nil, rfl⟩
      · rintro ⟨shown, rendered, rfl⟩
        cases rendered
        rfl
  | cons p rest ih =>
      obtain ⟨key, v⟩ := p
      have step : pairs (textPairs ((key, v) :: rest)) = (do
          let first ← pair? (.text key) v
          let others ← pairs (textPairs rest)
          pure (first.toList ++ others)) := pairs_cons (.text key) v (textPairs rest)
      rw [step]
      constructor
      · intro written
        obtain ⟨first, here, written⟩ := bind_eq_ok.mp written
        obtain ⟨others, behind, same⟩ := bind_eq_ok.mp written
        cases same
        obtain ⟨shown, rendered, rfl⟩ := ih.mp behind
        cases first with
        | none =>
            have dropped : keyed? v = .ok none := by
              unfold pair? at here
              obtain ⟨value, keyed, here⟩ := bind_eq_ok.mp here
              cases value with
              | none => exact keyed
              | some s => cases here
            exact ⟨shown, .absent dropped rendered, rfl⟩
        | some s =>
            obtain ⟨value, kept, rfl⟩ := pair?_eq_ok_some_iff.mp here
            exact ⟨(key, value) :: shown, .written kept rendered, rfl⟩
      · rintro ⟨shown, rendered, rfl⟩
        cases rendered with
        | absent dropped others =>
            have here : pair? (.text key) v = .ok none := by
              rw [pair?, dropped]
              rfl
            rw [here, ok_bind, ih.mpr ⟨shown, others, rfl⟩]
            rfl
        | @written _ s _ _ shown kept others =>
            rw [pair?_eq_ok_some_iff.mpr ⟨s, kept, rfl⟩, ok_bind, ih.mpr ⟨shown, others, rfl⟩]
            rfl

/-- Different keys have different texts, whatever their values are: an escaped key ends at the first
double quote. -/
theorem nodup_pairText {shown : List (Text × Text)} (distinct : (shown.map (·.1)).Nodup) :
    (shown.map pairText).Nodup := by
  rw [List.nodup_iff_pairwise_ne, List.pairwise_map] at distinct ⊢
  refine distinct.imp fun {p q} other same => other ?_
  have quoteless (s : Text) : '"' ∉ Text.escape s ++ ['='] := by
    rw [List.mem_append, not_or]
    exact ⟨Text.quote_not_mem_escape s, by decide⟩
  simp only [pairText, Item.text_valued] at same
  obtain ⟨names, -⟩ := append_quote_inj (quoteless p.1) (quoteless q.1) same
  exact Text.escape_injective (List.append_cancel_right names)

theorem foldl_addOnce_of_new {written texts : List Text} (distinct : texts.Nodup)
    (new : ∀ s ∈ texts, s ∉ written) : texts.foldl addOnce written = written ++ texts := by
  induction texts generalizing written with
  | nil => exact (List.append_nil written).symm
  | cons t texts ih =>
      obtain ⟨fresh, distinct⟩ := List.nodup_cons.mp distinct
      have added : addOnce written t = written ++ [t] := by
        rw [addOnce, if_neg]
        rw [List.contains_iff_mem]
        exact new t List.mem_cons_self
      rw [List.foldl_cons, added, ih distinct]
      · rw [List.append_assoc, List.singleton_append]
      · intro s member known
        rcases List.mem_append.mp known with old | here
        · exact new s (List.mem_cons_of_mem _ member) old
        · exact fresh (List.mem_singleton.mp here ▸ member)

/-! ## Words in front of pairs -/

/-- Values one behind the other are written one behind the other. -/
theorem progress_append (configuration : Configuration) (p : Progress) (front rest : List Value) :
    progress configuration p (front ++ rest) =
      match progress configuration p front with
      | (q, none) => progress configuration q rest
      | (q, some fault) => (q, some fault) := by
  induction front generalizing p with
  | nil => rfl
  | cons v front ih =>
      rw [List.cons_append, progress, progress]
      cases step configuration p v with
      | error fault => rfl
      | ok next => exact ih next

/-- What some values are written as, each text once. -/
def Words (configuration : Configuration) (values : List Value) (words : List Text) : Prop :=
  ∃ lines, progress configuration {} values = (⟨words, lines⟩, none)

theorem serialize_eq_ok_iff {configuration : Configuration} {values : List Value} {html : Text} :
    (serialize configuration values).1 = .ok html ↔
      ∃ words, Words configuration values words ∧ html = Text.join [' '] words := by
  unfold serialize
  constructor
  · intro written
    split at written
    · rename_i p finished
      cases written
      exact ⟨p.written, ⟨p.lines, finished⟩, rfl⟩
    · cases written
  · rintro ⟨words, ⟨lines, finished⟩, rfl⟩
    rw [finished]

/-- Values that are no keyword attributes are written without double quotes. -/
theorem Words.quoteless {configuration : Configuration} {values : List Value} {words : List Text}
    (written : Words configuration values words)
    (single : ∀ v ∈ values, ∀ ps who, v ≠ .keywords ps who) : ∀ w ∈ words, '"' ∉ w := by
  obtain ⟨lines, finished⟩ := written
  obtain ⟨texts, each, same⟩ := progress_written finished
  intro w member
  rw [show words = texts.flatten.foldl addOnce [] from same, mem_foldl_addOnce] at member
  rcases member with none | inside
  · cases none
  · obtain ⟨own, listed, inside⟩ := List.mem_flatten.mp inside
    obtain ⟨v, value, texts⟩ := (mem_of_mapM_eq_ok each).mp listed
    unfold textsOf at texts
    split at texts
    · exact absurd rfl (single _ value _ _)
    · cases texts
      obtain ⟨t, -, -, -, rfl⟩ := positional?_eq_some_iff.mp (Option.mem_toList.mp inside)
      exact Text.quote_not_mem_escape t

/-- Behind values that are no keyword attributes, all pairs are written that have a value, and none
is taken for a repetition. -/
theorem serialize_keywords {configuration : Configuration} {front : List Value}
    {ps : List (Text × Value)} {who : Identity}
    (single : ∀ v ∈ front, ∀ ps who, v ≠ .keywords ps who) (distinct : (ps.map (·.1)).Nodup)
    {html : Text} :
    (serialize configuration (front ++ [.keywords (textPairs ps) who])).1 = .ok html ↔
      ∃ words shown, Words configuration front words ∧ Rendered ps shown ∧
        html = Text.join [' '] (words ++ shown.map pairText) := by
  have behind (q : Progress) {texts : List Text} (written : pairs (textPairs ps) = .ok texts) :
      progress configuration q [.keywords (textPairs ps) who] =
        (⟨texts.foldl addOnce q.written, q.lines⟩, none) := by
    rw [progress, step, written]
    rfl
  have added {words : List Text} {shown : List (Text × Text)}
      (quoteless : ∀ w ∈ words, '"' ∉ w) (rendered : Rendered ps shown) :
      (shown.map pairText).foldl addOnce words = words ++ shown.map pairText := by
    refine foldl_addOnce_of_new (nodup_pairText (rendered.sublist.nodup distinct)) ?_
    intro s member known
    obtain ⟨p, -, rfl⟩ := List.mem_map.mp member
    exact quoteless _ known (List.mem_append_right _ (List.mem_singleton_self _))
  rw [serialize_eq_ok_iff]
  constructor
  · rintro ⟨all, ⟨lines, finished⟩, rfl⟩
    rw [progress_append] at finished
    split at finished
    · rename_i q first
      obtain ⟨texts, written⟩ : ∃ texts, pairs (textPairs ps) = .ok texts := by
        obtain ⟨each, written, -⟩ := progress_written finished
        exact exists_ok_of_mapM_eq_ok written (List.mem_singleton_self _)
      obtain ⟨shown, rendered, rfl⟩ := pairs_textPairs_eq_ok_iff.mp written
      have words : Words configuration front q.written := ⟨q.lines, first⟩
      rw [behind q written, added (words.quoteless single) rendered] at finished
      cases finished
      exact ⟨q.written, shown, words, rendered, rfl⟩
    · cases finished
  · rintro ⟨words, shown, written, rendered, rfl⟩
    obtain ⟨lines, finished⟩ := id written
    refine ⟨words ++ shown.map pairText, ⟨lines, ?_⟩, rfl⟩
    rw [progress_append, finished]
    simp only
    rw [behind _ (pairs_textPairs_eq_ok_iff.mpr ⟨shown, rendered, rfl⟩),
      added (written.quoteless single) rendered]

end Markup

namespace Entry

open Markup

/-- What is shown of kept pairs: their keys in order, each at most once, with the texts of their
values, and not at all exactly when the value is absent. -/
structure ShownOnce (kept : List (Text × Value)) (shown : List (Text × Text)) : Prop where
  order : (shown.map (·.1)).Sublist (kept.map (·.1))
  once : (shown.map (·.1)).Nodup
  values : ∀ p ∈ shown, ∃ v, (p.1, v) ∈ kept ∧ keyed? v = .ok (some p.2)
  absent : ∀ p ∈ kept, p.1 ∉ shown.map (·.1) ↔ p.2 = .null

theorem shownOnce {kept : List (Text × Value)} {shown : List (Text × Text)}
    (distinct : (kept.map (·.1)).Nodup) (rendered : Rendered kept shown) :
    ShownOnce kept shown where
  order := rendered.sublist
  once := rendered.sublist.nodup distinct
  values := fun _ member => rendered.exists_value member
  absent := fun _ member => rendered.missing_iff distinct member

theorem keyed_eq_nil {entries : List Entry} (none : ¬entries.any (·.key?.isSome) = true)
    (vs : List Value) : keyed entries vs = [] := by
  rw [keyed, List.filterMap_eq_nil_iff]
  rintro ⟨entry, v⟩ member
  have keyless : entry.key? = Option.none := by
    rw [List.any_eq_true] at none
    cases key : entry.key? with
    | none => rfl
    | some key' =>
        exact absurd ⟨entry, (List.of_mem_zip member).1, by rw [key]; rfl⟩ none
  simp only [keyless, Option.map_none]

/-- What is written for the values of entries: the words of those without a key, and behind them
every kept pair that has a value. -/
theorem serialize_keywordsOf {configuration : Configuration} {entries : List Entry}
    {front : List Value} {kept : List (Text × Value)}
    (single : ∀ v ∈ front, ∀ ps who, v ≠ .keywords ps who) (distinct : (kept.map (·.1)).Nodup)
    (keyless : ¬entries.any (·.key?.isSome) = true → kept = []) {html : Text} :
    (serialize configuration (front ++ keywordsOf entries kept)).1 = .ok html ↔
      ∃ words shown, Words configuration front words ∧ Rendered kept shown ∧
        html = Text.join [' '] (words ++ shown.map pairText) := by
  by_cases some : entries.any (·.key?.isSome) = true
  · rw [keywordsOf, if_pos some]
    exact serialize_keywords single distinct
  · obtain rfl := keyless some
    rw [keywordsOf, if_neg some, List.append_nil, serialize_eq_ok_iff]
    constructor
    · rintro ⟨words, written, rfl⟩
      exact ⟨words, [], written, .nil, by rw [List.map_nil, List.append_nil]⟩
    · rintro ⟨words, shown, written, rendered, rfl⟩
      cases rendered
      exact ⟨words, written, by rw [List.map_nil, List.append_nil]⟩

/-- **The last write wins.** Resolving entries fails exactly when one of them fails, overridden or
not, with the fault of the first one that does. Otherwise it gives the values without a key in their
order and, if any entry has a key, the distinct keys in the order of their first occurrences, each
with the value of its last one. If no value without a key brings keyword attributes of its own, the
HTML is made of the words of these values and of the kept pairs behind them: every key stands there
at most once and in its place, with the text of its last value, and not at all exactly when this is
absent. Unless a kept value is marked as safe, no double quote in the HTML is anything but the start
or the end of the value of a kept key. -/
theorem resolveAll_lastWrites (entries : List Entry) (scope : Scope) :
    (∀ fault, (resolveAll entries scope).1 = .error fault ↔ FirstFault scope entries fault) ∧
    ∀ values, (resolveAll entries scope).1 = .ok values →
      ∃ vs after kept, Resolved scope entries vs after ∧
        LastWrites (keyed entries (vs.map after.current)) kept ∧
        values = positionals entries (vs.map after.current) ++ keywordsOf entries kept ∧
        ((∀ v ∈ positionals entries (vs.map after.current), ∀ ps who, v ≠ .keywords ps who) →
          (∀ configuration html, (serialize configuration values).1 = .ok html ↔
            ∃ words shown, Words configuration (positionals entries (vs.map after.current)) words ∧
              Rendered kept shown ∧ html = Text.join [' '] (words ++ shown.map pairText)) ∧
          (∀ configuration words,
            Words configuration (positionals entries (vs.map after.current)) words →
              ∀ w ∈ words, '"' ∉ w) ∧
          ∀ shown, Rendered kept shown → ShownOnce kept shown ∧
            ((∀ p ∈ kept, p.2.isSafe = false ∧ (p.2.kind = .number → p.2.spell.Plain)) →
              ∀ p ∈ shown, '"' ∉ Text.escape p.1 ∧ '"' ∉ p.2)) := by
  refine ⟨fun fault => ⟨fun failed => ?_, resolveAll_of_fault⟩, fun values result => ?_⟩
  · rcases resolved_or_fault scope entries with ⟨vs, after, resolved⟩ | ⟨other, faulty⟩
    · rw [resolveAll_of_resolved resolved] at failed
      cases failed
    · rw [resolveAll_of_fault faulty] at failed
      cases failed
      exact faulty
  · rcases resolved_or_fault scope entries with ⟨vs, after, resolved⟩ | ⟨fault, faulty⟩
    · rw [resolveAll_of_resolved resolved] at result
      cases result
      have distinct := nodup_merged (keyed entries (vs.map after.current))
      refine ⟨vs, after, _, resolved, lastWrites_merged _, rfl, fun single =>
        ⟨fun configuration html => ?_, fun configuration words written => ?_,
          fun shown rendered => ⟨shownOnce distinct rendered, fun unmarked p member => ?_⟩⟩⟩
      · refine serialize_keywordsOf single distinct fun none => ?_
        rw [keyed_eq_nil none]
        rfl
      · exact written.quoteless single
      · obtain ⟨v, inside, value⟩ := rendered.exists_value member
        obtain ⟨plain, number⟩ := unmarked _ inside
        exact ⟨Text.quote_not_mem_escape p.1, (inert_of_keyed? plain number value).2⟩
    · rw [resolveAll_of_fault faulty] at result
      cases result

/-- A key that is written twice, first with an undefined variable, around other attributes. -/
theorem resolveAll_lastWrites_overridden :
    let entries : List Entry := [
      .keyword 0 ['a'] (.plain ⟨['x'], .variable ⟨['x'], .path ['x'] []⟩, []⟩),
      .positional 4 (.plain ⟨"'w'".toList, .constant (.text ['w']), []⟩),
      .keyword 8 ['b'] (.plain ⟨"'y'".toList, .constant (.text ['y']), []⟩),
      .keyword 14 ['a'] (.plain ⟨"'z'".toList, .constant (.text ['z']), []⟩)]
    let values : List Value :=
      [.text ['w'], .keywords [(.text ['a'], .text ['z']), (.text ['b'], .text ['y'])]]
    (resolveAll entries (.ofData [] true)).1 = .ok values ∧
      ∃ vs after kept, Resolved (.ofData [] true) entries vs after ∧
        LastWrites (keyed entries (vs.map after.current)) kept ∧
          values = positionals entries (vs.map after.current) ++ keywordsOf entries kept := by
  intro entries values
  have result : (resolveAll entries (.ofData [] true)).1 = .ok values := by cbv
  obtain ⟨vs, after, kept, resolved, writes, gives, -⟩ :=
    (resolveAll_lastWrites entries (.ofData [] true)).2 values result
  exact ⟨result, vs, after, kept, resolved, writes, gives⟩

end Entry
end ElementTags
