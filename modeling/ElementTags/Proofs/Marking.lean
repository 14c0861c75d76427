import Mathlib
import ElementTags.Attribute.Resolve
import ElementTags.Proofs.Compilation
import ElementTags.Proofs.Filtering
import ElementTags.Proofs.Serialization

/-! # What is marked as safe

In a scope in which nothing is marked as safe, the entries of an accepted attribute
list with honest filters have unmarked values, and nothing that HTML could take for
markup is written for them (`ElementTags.Entry.resolveAll_unmarked`). Two kinds of
literals keep the mark that they came with, and must not get into a value: the
argument of a filter behind a plain value, if the filter may hand it on, and the text
of a localized literal that is filtered or joined. A term is guarded if there are no
such literals in it (`ElementTags.Term.Guarded`).
-/

namespace ElementTags

open Outcome Scoped

/-! ## Literals that keep their mark -/

/-- The operand is a localized literal, which is safe when it is shown. -/
def FilterExpr.IsLocalized (e : FilterExpr) : Prop :=
  ∃ s isSafe, e.operand = .constant (.lazy s isSafe)

/-- No literal that is marked as safe gets into the value of a plain value: a filter that may hand
its argument on has no literal as its argument, and a localized literal has no filters. If `lazily`,
there is no localized literal at all. -/
@[mk_iff]
structure FilterExpr.Guarded (lazily : Prop) (e : FilterExpr) : Prop where
  localized : e.IsLocalized → ¬lazily ∧ e.filters = []
  arguments : ∀ call ∈ e.filters, call.filter.handsOn = true →
    ∀ c, call.argument ≠ some (.constant c)

/-- The argument of a filter is guarded, and it is no localized literal if it may be handed on. -/
def AppliedFilter.Guarded (f : AppliedFilter) : Prop :=
  ∀ e ∈ f.argument, e.Guarded (f.filter.handsOn = true)

namespace Term

mutual

/-- No literal that is marked as safe gets into the value of a term. Localized literals may stand
alone and in lists and dictionaries without filters; if `lazily`, they may not stand anywhere. -/
def Guarded (lazily : Prop) : Term → Prop
  | plain e => e.Guarded lazily
  | hyphenated _ => True
  | list items filters =>
    ItemsGuarded (lazily ∨ filters ≠ []) items ∧ ∀ f ∈ filters, f.Guarded
  | dict pairs filters =>
    PairsGuarded (lazily ∨ filters ≠ []) pairs ∧ ∀ f ∈ filters, f.Guarded
  | joined first others filters =>
    first.Guarded True ∧ (∀ operation ∈ others, operation.2.Guarded True) ∧
      ∀ f ∈ filters, f.Guarded
  | parenthesized _ filters => ∀ f ∈ filters, f.Guarded

/-- No literal that is marked as safe gets into the items of a list. -/
def ItemsGuarded (lazily : Prop) : List Term → Prop
  | [] => True
  | item :: rest => item.Guarded lazily ∧ ItemsGuarded lazily rest

/-- No literal that is marked as safe gets into the values of a dictionary. -/
def PairsGuarded (lazily : Prop) : List (Text × Term) → Prop
  | [] => True
  | (_, item) :: rest => item.Guarded lazily ∧ PairsGuarded lazily rest

end

/-- There is no expression in parentheses in a term, and all of its filters are honest. -/
abbrev Honest (t : Term) : Prop :=
  t.Throughout (fun e => ∀ call ∈ e.filters, call.filter.Honest) Filter.Honest False

end Term

/-- What is known of a plain value in an accepted attribute list. -/
structure FilterExpr.Sound (lazily : Prop) (e : FilterExpr) : Prop where
  compiled : e.Compiled
  honest : ∀ call ∈ e.filters, call.filter.Honest
  guarded : e.Guarded lazily

/-- What is known of a filter in an accepted attribute list. -/
structure AppliedFilter.Sound (f : AppliedFilter) : Prop where
  honest : f.filter.Honest
  argument : ∀ e ∈ f.argument, e.Sound (f.filter.handsOn = true)

variable {harmless : Function → Prop} {lazily : Prop} {v : Value}

theorem AppliedFilter.sound_of {filters : List AppliedFilter}
    (compiled : ∀ f ∈ filters, f.Throughout FilterExpr.Compiled fun _ => True)
    (honest : ∀ f ∈ filters,
      f.Throughout (fun e => ∀ call ∈ e.filters, call.filter.Honest) Filter.Honest)
    (guarded : ∀ f ∈ filters, f.Guarded) : ∀ f ∈ filters, f.Sound := fun f member =>
  ⟨(honest f member).1, fun e given =>
    ⟨(compiled f member).2 e given, (honest f member).2 e given, guarded f member e given⟩⟩

/-! ## Plain values -/

namespace FilterExpr

variable {e : FilterExpr}

theorem keeps_applied {filter : Filter} {argument : Option Value} (honest : filter.Honest)
    (unmarked : v.Unmarked True) (suits : ∀ a ∈ argument, filter.Suits a) :
    Keeps (Scope.Unmarked harmless) (applied filter v argument) (·.Unmarked True) :=
  keeps_reading fun _ kept _ result => honest.apply (kept.current unmarked) suits result

theorem keeps_applyCall (closed : Function.Closed harmless) {call : FilterCall}
    (honest : call.filter.Honest) (read : ∀ argument ∈ call.argument, argument.Read)
    (guarded : call.filter.handsOn = true → ∀ c, call.argument ≠ some (.constant c))
    (unmarked : v.Unmarked True) :
    Keeps (Scope.Unmarked harmless) (applyCall v call) (·.Unmarked True) := by
  unfold applyCall
  split
  · rename_i operand given
    have suits : Keeps (Scope.Unmarked harmless) (argumentValue operand) call.filter.Suits := by
      rcases operand with c | x
      · refine keeps_pure (.inr ⟨Bool.eq_false_iff.mpr fun handsOn => ?_, read _ given⟩)
        exact guarded handsOn c given
      · exact (Variable.keeps_resolve closed (read _ given)).mono fun _ => .inl
    refine Keeps.bind _ suits fun a suitable => keeps_applied honest unmarked ?_
    rintro _ ⟨⟩
    exact suitable
  · exact keeps_applied honest unmarked fun _ none => by cases none

theorem keeps_applyCalls (closed : Function.Closed harmless) {calls : List FilterCall}
    (honest : ∀ call ∈ calls, call.filter.Honest)
    (read : ∀ call ∈ calls, ∀ argument ∈ call.argument, argument.Read)
    (guarded : ∀ call ∈ calls, call.filter.handsOn = true → ∀ c, call.argument ≠ some (.constant c))
    (unmarked : v.Unmarked True) :
    Keeps (Scope.Unmarked harmless) (applyCalls v calls) (·.Unmarked True) := by
  induction calls generalizing v with
  | nil => exact keeps_pure unmarked
  | cons call rest ih =>
      obtain ⟨honest, others⟩ := List.forall_mem_cons.mp honest
      obtain ⟨read, behind⟩ := List.forall_mem_cons.mp read
      obtain ⟨guarded, after⟩ := List.forall_mem_cons.mp guarded
      exact Keeps.bind _ (keeps_applyCall closed honest read guarded unmarked) fun next given =>
        ih others behind after given

/-- The value of a plain value is unmarked, unless it is a localized literal as it stands. -/
theorem Sound.keeps_resolve (closed : Function.Closed harmless) (sound : e.Sound lazily) :
    Keeps (Scope.Unmarked harmless) (e.resolve .null)
      fun v => v.Unmarked True ∨ (¬lazily ∧ ∃ s, v = .lazy s true) := by
  obtain ⟨compiled, honest, guarded⟩ := sound
  obtain ⟨text, operand, calls⟩ := e
  have filtered {w : Value} (unmarked : w.Unmarked True) :=
    keeps_applyCalls closed honest compiled.arguments guarded.arguments unmarked
  unfold resolve
  rcases operand with c | x
  · rcases compiled.operand with ⟨s, rfl⟩ | ⟨s, rfl⟩
    · refine Keeps.bind (·.Unmarked True) (keeps_pure (.atom rfl)) fun w unmarked => ?_
      exact (filtered unmarked).mono fun _ => .inl
    -- Any filter could make a safe text of a localized literal, so there is none.
    · obtain ⟨alone, rfl⟩ := guarded.localized ⟨s, true, rfl⟩
      refine Keeps.bind (· = .lazy s true) (keeps_pure rfl) ?_
      rintro _ rfl
      exact keeps_pure (.inr ⟨alone, s, rfl⟩)
  · refine Keeps.bind (·.Unmarked True) ?_ fun w unmarked => (filtered unmarked).mono fun _ => .inl
    refine (Variable.keeps_resolve closed compiled.operand).recover fun fault a given => ?_
    split at given
    · cases given
      exact .atom rfl
    · cases given

theorem Sound.keeps_operand (closed : Function.Closed harmless) (sound : e.Sound lazily) :
    Keeps (Scope.Unmarked harmless) (e.resolve .null) (·.Unmarked lazily) := by
  refine (sound.keeps_resolve closed).mono fun v given => ?_
  rcases given with unmarked | ⟨alone, s, rfl⟩
  · exact unmarked.mono fun _ => trivial
  · exact .lazy fun asked => absurd asked alone

end FilterExpr

/-! ## Filters behind other values -/

namespace AppliedFilter

theorem keeps_apply (closed : Function.Closed harmless) {f : AppliedFilter} (sound : f.Sound)
    (unmarked : v.Unmarked True) :
    Keeps (Scope.Unmarked harmless) (apply v f) (·.Unmarked True) := by
  unfold apply
  split
  · rename_i e given
    have suits : Keeps (Scope.Unmarked harmless) (e.resolve .null) f.filter.Suits := by
      refine ((sound.argument e given).keeps_resolve closed).mono fun a resolved => ?_
      rcases resolved with plain | ⟨kept, s, rfl⟩
      · exact .inl plain
      · exact .inr ⟨Bool.eq_false_iff.mpr kept, rfl⟩
    refine Keeps.bind _ suits fun a suitable => FilterExpr.keeps_applied sound.honest unmarked ?_
    rintro _ ⟨⟩
    exact suitable
  · exact FilterExpr.keeps_applied sound.honest unmarked fun _ none => by cases none

theorem keeps_applyAll_of_unmarked (closed : Function.Closed harmless)
    {filters : List AppliedFilter} (filtered : ∀ f ∈ filters, f.Sound)
    (unmarked : v.Unmarked True) :
    Keeps (Scope.Unmarked harmless) (applyAll v filters) (·.Unmarked True) := by
  induction filters generalizing v with
  | nil => exact keeps_pure unmarked
  | cons f rest ih =>
      obtain ⟨sound, others⟩ := List.forall_mem_cons.mp filtered
      exact Keeps.bind _ (keeps_apply closed sound unmarked) fun next given => ih others given

/-- What is not filtered stays what it is; anything else has to be unmarked. -/
theorem keeps_applyAll (closed : Function.Closed harmless) {filters : List AppliedFilter}
    (filtered : ∀ f ∈ filters, f.Sound) (unmarked : v.Unmarked (lazily ∨ filters ≠ [])) :
    Keeps (Scope.Unmarked harmless) (applyAll v filters) (·.Unmarked lazily) := by
  cases filters with
  | nil => exact keeps_pure (unmarked.mono .inl)
  | cons f rest =>
      have whole : v.Unmarked True := unmarked.mono fun _ => .inr (List.cons_ne_nil f rest)
      exact (keeps_applyAll_of_unmarked closed filtered whole).mono fun w given =>
        given.mono fun _ => trivial

end AppliedFilter

/-! ## Joined operands -/

namespace Operator

variable {α ε : Type} {holds : α → Prop} {apply : Operator → α → α → Except ε α} {a b : α}
  {others loose : List (Operator × α)}

theorem tighten_closed (closed : ∀ o a b c, holds a → holds b → apply o a b = .ok c → holds c)
    (first : holds a) (rest : ∀ operation ∈ others, holds operation.2)
    (result : tighten apply a others = .ok (b, loose)) :
    holds b ∧ ∀ operation ∈ loose, holds operation.2 := by
  induction others generalizing a b loose with
  | nil =>
      cases result
      exact ⟨first, List.forall_mem_nil _⟩
  | cons operation others ih =>
      obtain ⟨second, behind⟩ := List.forall_mem_cons.mp rest
      unfold tighten at result
      split at result
      · obtain ⟨c, applied, result⟩ := bind_eq_ok.mp result
        exact ih (closed _ _ _ c first second applied) behind result
      · obtain ⟨⟨c, left⟩, tightened, same⟩ := bind_eq_ok.mp result
        cases same
        obtain ⟨next, after⟩ := ih second behind tightened
        exact ⟨first, List.forall_mem_cons.mpr ⟨next, after⟩⟩

/-- What operators keep holds of the value of joined operands. -/
theorem joinAll_closed (closed : ∀ o a b c, holds a → holds b → apply o a b = .ok c → holds c)
    (first : holds a) (rest : ∀ operation ∈ others, holds operation.2)
    (result : joinAll apply a others = .ok b) : holds b := by
  obtain ⟨⟨c, loose⟩, tightened, result⟩ := bind_eq_ok.mp result
  obtain ⟨start, behind⟩ := tighten_closed closed first rest tightened
  clear tightened
  induction loose generalizing c with
  | nil =>
      cases result
      exact start
  | cons operation loose ih =>
      obtain ⟨second, after⟩ := List.forall_mem_cons.mp behind
      obtain ⟨d, applied, result⟩ := bind_eq_ok.mp result
      exact ih d result (closed _ _ _ d start second applied) after

/-- Every operator makes unmarked values from unmarked ones. -/
theorem unmarked_operation (o : Operator) (u v w : Value) (left : u.Unmarked True)
    (right : v.Unmarked True) (result : o.operation u v = .ok w) : w.Unmarked True := by
  cases o with
  | plus => exact Value.unmarked_append left right result
  | minus => exact Value.unmarked_subtract left result
  | times => exact Value.unmarked_multiply left right result
  | ratio => exact Value.unmarked_divide result
  | remainder => exact Value.unmarked_remainder left right result

end Operator

/-! ## Terms -/

namespace Term

theorem keeps_operandValues (closed : Function.Closed harmless)
    {others : List (Operator × FilterExpr)} (sound : ∀ operation ∈ others, operation.2.Sound True) :
    Keeps (Scope.Unmarked harmless) (operandValues others)
      fun vs => ∀ operation ∈ vs, operation.2.Unmarked True := by
  induction others with
  | nil => exact keeps_pure (List.forall_mem_nil _)
  | cons first rest ih =>
      obtain ⟨here, behind⟩ := List.forall_mem_cons.mp sound
      refine Keeps.bind _ (here.keeps_operand closed) fun v unmarked => ?_
      refine Keeps.bind _ (ih behind) fun vs given => keeps_pure ?_
      exact List.forall_mem_cons.mpr ⟨unmarked, given⟩

theorem keeps_joinedValue (closed : Function.Closed harmless) {first : FilterExpr}
    {others : List (Operator × FilterExpr)} (start : first.Sound True)
    (sound : ∀ operation ∈ others, operation.2.Sound True) :
    Keeps (Scope.Unmarked harmless) (joinedValue first others) (·.Unmarked True) := by
  refine Keeps.bind _ (start.keeps_operand closed) fun v unmarked => ?_
  refine Keeps.bind _ (keeps_operandValues closed sound) fun vs given => ?_
  refine keeps_reading fun scope kept w result => ?_
  refine Operator.joinAll_closed Operator.unmarked_operation (kept.current unmarked) ?_ result
  rw [List.forall_mem_map]
  exact fun operation member => kept.current (given operation member)

mutual

/-- The value of a term is unmarked. -/
theorem keeps_resolve (closed : Function.Closed harmless) (t : Term) {lazily : Prop}
    (compiled : t.Compiled) (honest : t.Honest) (guarded : t.Guarded lazily) :
    Keeps (Scope.Unmarked harmless) t.resolve (·.Unmarked lazily) := by
  cases t with
  | plain e => exact FilterExpr.Sound.keeps_operand closed ⟨compiled, honest, guarded⟩
  | hyphenated name =>
      refine keeps_reading fun scope kept v result => ?_
      cases result
      cases known : scope.value? name with
      | none => exact .atom rfl
      | some w => exact (kept.value? known).mono fun _ => trivial
  -- A filter could take an item out, so localized literals are kept out of filtered lists.
  | list items filters =>
      have sound := AppliedFilter.sound_of compiled.2 honest.2 guarded.2
      refine Keeps.bind _ (keeps_resolveItems closed items compiled.1 honest.1 guarded.1)
        fun vs unmarked => ?_
      exact AppliedFilter.keeps_applyAll closed sound (.list unmarked)
  | dict pairs filters =>
      have sound := AppliedFilter.sound_of compiled.2 honest.2 guarded.2
      refine Keeps.bind _ (keeps_resolvePairs closed pairs (List.forall_mem_nil _) compiled.1
        honest.1 guarded.1) fun ps unmarked => ?_
      exact AppliedFilter.keeps_applyAll closed sound (Value.unmarked_dict.mpr unmarked)
  | joined first others filters =>
      obtain ⟨start, rest, filtered⟩ := compiled
      obtain ⟨startHonest, restHonest, filteredHonest⟩ := honest
      obtain ⟨startGuarded, restGuarded, filteredGuarded⟩ := guarded
      have sound := AppliedFilter.sound_of filtered filteredHonest filteredGuarded
      refine Keeps.bind _ (keeps_joinedValue closed ⟨start, startHonest, startGuarded⟩
        fun operation member => ⟨rest _ member, restHonest _ member, restGuarded _ member⟩)
        fun v unmarked => ?_
      exact AppliedFilter.keeps_applyAll closed sound (unmarked.mono fun _ => trivial)
  | parenthesized code filters => exact honest.1.elim

/-- The values of the items of a list are unmarked. -/
theorem keeps_resolveItems (closed : Function.Closed harmless) (items : List Term) {lazily : Prop}
    (compiled : ItemsThroughout FilterExpr.Compiled (fun _ => True) True items)
    (honest : ItemsThroughout (fun e => ∀ call ∈ e.filters, call.filter.Honest) Filter.Honest False
      items) (guarded : ItemsGuarded lazily items) :
    Keeps (Scope.Unmarked harmless) (resolveItems items) fun vs => ∀ v ∈ vs, v.Unmarked lazily := by
  cases items with
  | nil => exact keeps_pure (List.forall_mem_nil _)
  | cons item rest =>
      refine Keeps.bind _ (keeps_resolve closed item compiled.1 honest.1 guarded.1)
        fun v unmarked => ?_
      refine Keeps.bind _ (keeps_resolveItems closed rest compiled.2 honest.2 guarded.2)
        fun vs given => keeps_pure ?_
      exact List.forall_mem_cons.mpr ⟨unmarked, given⟩

/-- The pairs of a dictionary are unmarked. -/
theorem keeps_resolvePairs (closed : Function.Closed harmless) (pairs : List (Text × Term))
    {lazily : Prop} {before : List (Value × Value)} (start : Value.PairsUnmarked lazily before)
    (compiled : PairsThroughout FilterExpr.Compiled (fun _ => True) True pairs)
    (honest : PairsThroughout (fun e => ∀ call ∈ e.filters, call.filter.Honest) Filter.Honest False
      pairs) (guarded : PairsGuarded lazily pairs) :
    Keeps (Scope.Unmarked harmless) (resolvePairs before pairs) (Value.PairsUnmarked lazily) := by
  cases pairs with
  | nil => exact keeps_pure start
  | cons pair rest =>
      obtain ⟨key, item⟩ := pair
      refine Keeps.bind _ (keeps_resolve closed item compiled.1 honest.1 guarded.1)
        fun v unmarked => ?_
      exact keeps_resolvePairs closed rest (Value.unmarked_put start (.atom rfl) unmarked)
        compiled.2 honest.2 guarded.2

end

end Term

/-! ## Entries -/

namespace Entry

/-- What is known of the values and the pairs that entries have been resolved to. -/
structure Gathered (count : Nat) (values : List Value) (pairs : List (Value × Value)) : Prop where
  length : values.length = count
  unmarked : ∀ v ∈ values, v.Unmarked False
  keys : ∀ p ∈ pairs, ∃ key, p.1 = .text key
  pairsUnmarked : Value.PairsUnmarked False pairs

variable {entries : List Entry} {count : Nat} {values : List Value} {pairs : List (Value × Value)}

theorem gathered_nil : Gathered 0 [] [] :=
  ⟨rfl, List.forall_mem_nil _, List.forall_mem_nil _, List.forall_mem_nil _⟩

theorem Gathered.append (gathered : Gathered count values pairs) (unmarked : v.Unmarked False) :
    Gathered (count + 1) (values ++ [v]) pairs where
  length := by rw [List.length_append, gathered.length, List.length_singleton]
  unmarked := List.forall_mem_append.mpr
    ⟨gathered.unmarked, List.forall_mem_singleton.mpr unmarked⟩
  keys := gathered.keys
  pairsUnmarked := gathered.pairsUnmarked

theorem Gathered.put (gathered : Gathered count values pairs) (key : Text)
    (unmarked : v.Unmarked False) : Gathered count values (Value.put pairs (.text key) v) where
  length := gathered.length
  unmarked := gathered.unmarked
  keys p member := by
    rcases Value.mem_put member with before | ⟨-, same | ⟨q, here, same⟩⟩
    · exact gathered.keys p before
    · exact ⟨key, same⟩
    · exact same ▸ gathered.keys q here
  pairsUnmarked := Value.unmarked_put gathered.pairsUnmarked (.atom rfl) unmarked

/-- What the changes in a scope make of the values and pairs is known as well. -/
theorem Gathered.current (gathered : Gathered count values pairs) {scope : Scope}
    (kept : scope.Unmarked harmless) :
    ∃ now, scope.current (.keywords pairs) = .keywords now ∧
      Gathered count (values.map scope.current) now := by
  have length : (values.map scope.current).length = count := by
    rw [List.length_map, gathered.length]
  have unmarked : ∀ v ∈ values.map scope.current, v.Unmarked False := by
    rw [List.forall_mem_map]
    exact fun v member => kept.current (gathered.unmarked v member)
  have now : (scope.current (.keywords pairs)).Unmarked False :=
    kept.current (Value.unmarked_keywords.mpr gathered.pairsUnmarked)
  cases changed : scope.changes.isEmpty with
  | true =>
      have same : scope.current (.keywords pairs) = .keywords pairs :=
        Scope.current_of_changes_eq_nil (List.isEmpty_iff.mp changed) _
      exact ⟨pairs, same, length, unmarked, gathered.keys, gathered.pairsUnmarked⟩
  | false =>
      have revised : scope.current (.keywords pairs) =
          .keywords (Value.revisedPairs scope.changed? pairs) := by
        rw [Scope.current, changed]
        rfl
      rw [revised] at now
      refine ⟨_, revised, length, unmarked, ?_, Value.unmarked_keywords.mp now⟩
      rw [Value.revisedPairs_eq, List.forall_mem_map]
      intro p member
      obtain ⟨key, same⟩ := gathered.keys p member
      exact ⟨key, by rw [same]; rfl⟩

/-- Entries are resolved to unmarked values and pairs. -/
theorem keeps_resolveOnto (closed : Function.Closed harmless)
    (compiled : ∀ entry ∈ entries, entry.value.Compiled)
    (honest : ∀ entry ∈ entries, entry.value.Honest)
    (guarded : ∀ entry ∈ entries, entry.value.Guarded False)
    (gathered : Gathered count values pairs) :
    Keeps (Scope.Unmarked harmless) (resolveOnto values pairs entries)
      fun r => Gathered (count + entries.countP (·.key?.isNone)) r.1 r.2 := by
  induction entries generalizing count values pairs with
  | nil => exact keeps_pure gathered
  | cons entry rest ih =>
      obtain ⟨compiled, others⟩ := List.forall_mem_cons.mp compiled
      obtain ⟨honest, behind⟩ := List.forall_mem_cons.mp honest
      obtain ⟨guarded, after⟩ := List.forall_mem_cons.mp guarded
      have resolved := Term.keeps_resolve closed entry.value compiled honest guarded
      cases entry with
      | positional start t =>
          refine Keeps.bind _ resolved fun v unmarked => ?_
          have more : (Entry.positional start t :: rest).countP (·.key?.isNone) =
              1 + rest.countP (·.key?.isNone) := by
            rw [List.countP_cons, Nat.add_comm]
            rfl
          rw [more, ← Nat.add_assoc]
          exact ih others behind after (gathered.append unmarked)
      | keyword start key t =>
          refine Keeps.bind _ resolved fun v unmarked => ?_
          exact ih others behind after (gathered.put key unmarked)

/-- The values of entries are unmarked values without a key and, behind them, unmarked pairs whose
keys are texts. -/
theorem keeps_resolveAll (closed : Function.Closed harmless)
    (compiled : ∀ entry ∈ entries, entry.value.Compiled)
    (honest : ∀ entry ∈ entries, entry.value.Honest)
    (guarded : ∀ entry ∈ entries, entry.value.Guarded False) :
    Keeps (Scope.Unmarked harmless) (resolveAll entries) fun all => ∃ values pairs,
      Gathered (entries.countP (·.key?.isNone)) values pairs ∧
        (all = values ∨ all = values ++ [.keywords pairs]) := by
  have gathered := keeps_resolveOnto closed compiled honest guarded gathered_nil
  rw [Nat.zero_add] at gathered
  refine Keeps.bind _ gathered fun r gathered => ?_
  obtain ⟨values, pairs⟩ := r
  refine keeps_reading fun scope kept all result => ?_
  obtain ⟨now, same, current⟩ := gathered.current kept
  cases result
  refine ⟨_, now, current, ?_⟩
  split
  · rw [List.map_append, List.map_singleton, same]
    exact .inr rfl
  · exact .inl rfl

theorem unmarked_of_gathered {all : List Value} (gathered : Gathered count values pairs)
    (made : all = values ∨ all = values ++ [.keywords pairs]) : ∀ v ∈ all, v.Unmarked False := by
  rcases made with rfl | rfl
  · exact gathered.unmarked
  · exact List.forall_mem_append.mpr ⟨gathered.unmarked,
      List.forall_mem_singleton.mpr (Value.unmarked_keywords.mpr gathered.pairsUnmarked)⟩

theorem plainKeys_of_gathered {all : List Value} (gathered : Gathered count values pairs)
    (made : all = values ∨ all = values ++ [.keywords pairs])
    (plain : Markup.PlainKeys (all.take count)) : Markup.PlainKeys all := by
  have front : all.take count = values := by
    rw [← gathered.length]
    rcases made with rfl | rfl
    · exact List.take_length
    · exact List.take_left
  rw [front] at plain
  rcases made with rfl | rfl
  · exact plain
  · intro ps who member
    rcases List.mem_append.mp member with before | last
    · exact plain ps who before
    · cases List.mem_singleton.mp last
      exact gathered.keys

/-- A literal is never treated as safe unless a filter makes it so, or hands on the mark that the
host gave it: in a scope in which nothing is marked as safe, the entries of an accepted attribute
list with honest filters have no safe text as a value or under a key, and nothing that HTML could
take for markup is written for them. -/
theorem resolveAll_unmarked {source : Text} {scope : Scope}
    (read : Attribute.read source = .ok entries)
    (honest : ∀ entry ∈ entries, entry.value.Honest)
    (guarded : ∀ entry ∈ entries, entry.value.Guarded False)
    (closed : Function.Closed harmless) (unmarked : scope.Unmarked harmless)
    (resolved : (resolveAll entries scope).1 = .ok values) :
    (∀ v ∈ values, v.isSafe = false) ∧
    (∀ ps who, .keywords ps who ∈ values → ∀ p ∈ ps, p.2.isSafe = false) ∧
    ∀ configuration html,
      Markup.PlainKeys (values.take (entries.countP (·.key?.isNone))) →
      (∀ ps who, .keywords ps who ∈ values → ∀ p ∈ ps, p.2.kind = .number → p.2.spell.Plain) →
      (Markup.serialize configuration values).1 = .ok html → html.Inert := by
  have compiled := Attribute.compiled_of_read read
  obtain ⟨front, pairs, gathered, made⟩ :=
    (keeps_resolveAll closed compiled honest guarded scope unmarked).2 values resolved
  have each : ∀ v ∈ values, v.Unmarked False := unmarked_of_gathered gathered made
  have keyed : ∀ ps who, .keywords ps who ∈ values → ∀ p ∈ ps, p.2.isSafe = false :=
    fun ps who member p pair => (Value.unmarked_keywords.mp (each _ member) p pair).2.isSafe
  refine ⟨fun v member => (each v member).isSafe, keyed, ?_⟩
  intro configuration html plain numbers written
  obtain ⟨items, rfl, -, calledFor, -⟩ :=
    Markup.items_of_serialize (plainKeys_of_gathered gathered made plain) written
  exact Markup.inert_join fun item member => (calledFor item member).sound keyed numbers

/-- Literals are escaped as values, as arguments of filters and in lists. -/
theorem resolveAll_unmarked_literals :
    ∃ entries, Attribute.read "\"<i>\" a=x|add:\"<b>\" b=[\"<u>\"]|first".toList = .ok entries ∧
      (∀ entry ∈ entries, entry.value.Honest) ∧ (∀ entry ∈ entries, entry.value.Guarded False) ∧
      (Scope.ofData [("x".toList, .text "y".toList)] true).Unmarked (fun _ => False) ∧
      (resolveAll entries (.ofData [("x".toList, .text "y".toList)] true)).1 =
        .ok [.text "<i>".toList, .keywords [(.text "a".toList, .text "y<b>".toList),
          (.text "b".toList, .text "<u>".toList)]] ∧
      (Markup.serialize (.switches .null (.bool false)) [.text "<i>".toList,
        .keywords [(.text "a".toList, .text "y<b>".toList),
          (.text "b".toList, .text "<u>".toList)]]).1 =
        .ok "&lt;i&gt; a=\"y&lt;b&gt;\" b=\"&lt;u&gt;\"".toList ∧
      Text.Inert "&lt;i&gt; a=\"y&lt;b&gt;\" b=\"&lt;u&gt;\"".toList := by
  let entries : List Entry :=
    [.positional 0 (.plain ⟨"\"<i>\"".toList, .constant (.text "<i>".toList), []⟩),
      .keyword 6 "a".toList (.plain ⟨"x|add:\"<b>\"".toList,
        .variable ⟨"x".toList, .path "x".toList []⟩,
        [⟨.add, some (.constant (.safe "<b>".toList))⟩]⟩),
      .keyword 20 "b".toList
        (.list [.plain ⟨"\"<u>\"".toList, .constant (.text "<u>".toList), []⟩]
          [⟨.first, none⟩])]
  have read : Attribute.read "\"<i>\" a=x|add:\"<b>\" b=[\"<u>\"]|first".toList = .ok entries := by
    cbv
  have unmarked : (Scope.ofData [("x".toList, .text "y".toList)] true).Unmarked fun _ => False := by
    refine Scope.unmarked_ofData ?_ true
    rw [List.forall_mem_singleton]
    exact .atom rfl
  have resolved : (resolveAll entries (.ofData [("x".toList, .text "y".toList)] true)).1 =
      .ok [.text "<i>".toList, .keywords [(.text "a".toList, .text "y<b>".toList),
        (.text "b".toList, .text "<u>".toList)]] := by
    cbv
  have honest : ∀ entry ∈ entries, entry.value.Honest := by
    simp [entries, Term.Throughout, Term.ItemsThroughout, Entry.value, AppliedFilter.Throughout,
      Filter.honest_iff, Filter.marks]
  have guarded : ∀ entry ∈ entries, entry.value.Guarded False := by
    simp [entries, Term.Guarded, Term.ItemsGuarded, Entry.value, AppliedFilter.Guarded,
      FilterExpr.guarded_iff, FilterExpr.IsLocalized, Filter.handsOn]
  have closed : Function.Closed fun _ => False := fun _ none => none.elim
  obtain ⟨-, -, inert⟩ := resolveAll_unmarked read honest guarded closed unmarked resolved
  refine ⟨entries, read, honest, guarded, unmarked, resolved, rfl,
    inert (.switches .null (.bool false)) _ ?plainKeys ?numbers rfl⟩
  case plainKeys =>
    intro ps who member
    simp [entries, Entry.key?] at member
  case numbers =>
    intro ps who member
    simp only [List.mem_cons, List.not_mem_nil, reduceCtorEq, Value.keywords.injEq, or_false,
      false_or] at member
    obtain ⟨rfl, rfl⟩ := member
    rw [List.forall_mem_cons, List.forall_mem_singleton]
    exact ⟨fun none => (by cases none), fun none => (by cases none)⟩

/-- A literal that a filter hands on is safe, and it is written as it stands. -/
theorem not_unmarked_default :
    ∃ entries, Attribute.read "a=x|default:\"<b>\"".toList = .ok entries ∧
      (∀ entry ∈ entries, entry.value.Honest) ∧
      (Scope.ofData [] true).Unmarked (fun _ => False) ∧
      (resolveAll entries (.ofData [] true)).1 =
        .ok [.keywords [(.text "a".toList, .safe "<b>".toList)]] ∧
      (Markup.serialize (.switches .null (.bool false))
        [.keywords [(.text "a".toList, .safe "<b>".toList)]]).1 = .ok "a=\"<b>\"".toList ∧
      ¬Text.Inert "a=\"<b>\"".toList := by
  let entries : List Entry := [.keyword 0 "a".toList (.plain ⟨"x|default:\"<b>\"".toList,
    .variable ⟨"x".toList, .path "x".toList []⟩,
    [⟨.defaultTo, some (.constant (.safe "<b>".toList))⟩]⟩)]
  have read : Attribute.read "a=x|default:\"<b>\"".toList = .ok entries := by cbv
  have honest : ∀ entry ∈ entries, entry.value.Honest := by
    simp [entries, Term.Throughout, Entry.value, Filter.honest_iff, Filter.marks]
  have marked : ¬Text.Inert "a=\"<b>\"".toList := fun inert =>
    absurd inert.noMarkup (by decide)
  exact ⟨entries, read, honest, Scope.unmarked_ofData (List.forall_mem_nil _) true, rfl, rfl,
    marked⟩

end Entry
end ElementTags
