import ElementTags.Proofs.Following
import ElementTags.Proofs.Soundness

/-! # What literals become

The host marks every literal as safe. Where a literal is the operand of a plain value,
it is replaced by a plain text (`ElementTags.Attribute.compiled_of_read`), so that the
only constants that an accepted attribute list has among its operands are plain texts
and localized literals. Literals that are arguments of filters behind a plain value
are left as the host made them.
-/

namespace ElementTags

open Outcome

/-! ## Parts of terms -/

/-- The filter has one property, and its argument another one. -/
def AppliedFilter.Throughout (value : FilterExpr → Prop) (filter : Filter → Prop)
    (f : AppliedFilter) : Prop := filter f.filter ∧ ∀ e ∈ f.argument, value e

namespace Term

section

variable (value : FilterExpr → Prop) (filter : Filter → Prop) (code : Prop)

mutual

/-- All plain values in a term have one property, as values, operands and arguments alike, and all
filters behind lists, dictionaries and joined operands another one. Expressions in parentheses
depend on `code`. -/
def Throughout : Term → Prop
  | plain e => value e
  | hyphenated _ => True
  | list items filters => ItemsThroughout items ∧ ∀ f ∈ filters, f.Throughout value filter
  | dict pairs filters => PairsThroughout pairs ∧ ∀ f ∈ filters, f.Throughout value filter
  | joined first others filters =>
    value first ∧ (∀ operation ∈ others, value operation.2) ∧
      ∀ f ∈ filters, f.Throughout value filter
  | parenthesized _ filters => code ∧ ∀ f ∈ filters, f.Throughout value filter

/-- The items of a list have the properties. -/
def ItemsThroughout : List Term → Prop
  | [] => True
  | item :: rest => item.Throughout ∧ ItemsThroughout rest

/-- The values of a dictionary have the properties. -/
def PairsThroughout : List (Text × Term) → Prop
  | [] => True
  | (_, item) :: rest => item.Throughout ∧ PairsThroughout rest

end

end

end Term

/-! ## Constants -/

/-- An operand that is a constant is a plain text or a localized literal, and one that is written as
a number has an unmarked value. -/
def Operand.Compiled : Operand → Prop
  | .constant c => (∃ s, c = .text s) ∨ ∃ s, c = .lazy s true
  | .variable x => x.Numeric

/-- A constant that the host made is a text of some kind. -/
def Operand.Read : Operand → Prop
  | .constant c => c.anyChars?.isSome
  | .variable x => x.Numeric

/-- No operand is a literal that the host marked as safe. -/
structure FilterExpr.Compiled (e : FilterExpr) : Prop where
  operand : e.operand.Compiled
  arguments : ∀ call ∈ e.filters, ∀ argument ∈ call.argument, argument.Read

/-- No plain value in a term has a literal as its operand that is marked as safe. -/
abbrev Term.Compiled (t : Term) : Prop := t.Throughout FilterExpr.Compiled (fun _ => True) True

namespace FilterExpr

variable {s text rest : Text} {e : FilterExpr} {operand : Operand}

theorem read_operand {part : Part} (made : part.operand = .ok operand) : operand.Read := by
  cases part with
  | literal s =>
      cases made
      rfl
  | localized s =>
      cases made
      rfl
  | name s =>
      obtain ⟨x, read, rfl⟩ := map_eq_ok.mp made
      exact Variable.numeric_ofText read

theorem read_call {written : WrittenFilter} {call : FilterCall}
    (made : written.call = .ok call) : ∀ argument ∈ call.argument, argument.Read := by
  obtain ⟨operand?, argument, made⟩ := bind_eq_ok.mp made
  split at made
  · cases made
  · extract_lets count at made
    clear_value count
    split at made
    · cases made
      intro operand here
      cases given : written.argument with
      | none =>
          rw [given] at argument
          cases argument
          cases here
      | some part =>
          rw [given] at argument
          obtain ⟨made, read, same⟩ := bind_eq_ok.mp argument
          cases same
          cases here
          exact read_operand read
    · cases made

theorem read_filters {calls : List FilterCall} (read : readFilters text rest = .ok calls) :
    ∀ call ∈ calls, ∀ argument ∈ call.argument, argument.Read := by
  fun_induction readFilters text rest generalizing calls with
  | case1 =>
      cases read
      exact List.forall_mem_nil _
  | case2 => cases read
  | case3 rest _ written behind found ih =>
      obtain ⟨call, made, read⟩ := bind_eq_ok.mp read
      obtain ⟨others, next, same⟩ := bind_eq_ok.mp read
      cases same
      exact List.forall_mem_cons.mpr ⟨read_call made, ih next⟩

/-- What is read consists of a part at the start and the filters behind it. -/
theorem parts_of_ofText (read : ofText text = .ok e) :
    ∃ part behind, part? text = some (part, behind) ∧ part.operand = .ok e.operand ∧
      readFilters text behind = .ok e.filters := by
  unfold ofText at read
  split at read
  · split at read
    · cases read
    · cases read
  · rename_i part behind found
    obtain ⟨operand, made, read⟩ := bind_eq_ok.mp read
    obtain ⟨filters, next, same⟩ := bind_eq_ok.mp read
    cases same
    exact ⟨part, behind, found, made, next⟩

/-- A part that does not start with a quote is no literal. -/
theorem compiled_of_part? {c : Char} {part : Part} (noQuote : Text.isQuote c = false)
    (found : part? (c :: s) = some (part, rest)) (made : part.operand = .ok operand) :
    operand.Compiled := by
  unfold part? at found
  split at found
  · cases found
    cases made
    exact .inr ⟨_, rfl⟩
  · have noLiteral : literal? (c :: s) = none := by
      rw [literal?, noQuote, if_neg Bool.false_ne_true]
    rw [noLiteral] at found
    obtain ⟨_, -, same⟩ := Option.map_eq_some_iff.mp found
    cases same
    obtain ⟨x, read, rfl⟩ := map_eq_ok.mp made
    exact Variable.numeric_ofText read

theorem compiled_of_ofText {c : Char} (noQuote : Text.isQuote c = false)
    (read : ofText (c :: s) = .ok e) : e.Compiled := by
  obtain ⟨part, behind, found, made, filters⟩ := parts_of_ofText read
  exact ⟨compiled_of_part? noQuote found made, read_filters filters⟩

end FilterExpr

namespace Written

open Attribute (compile)

variable {e : FilterExpr}

/-- An operand that is no literal does not start with a quote. -/
theorem Operand.noQuote {operand : Operand} (other : operand.operand.isLiteral = false) :
    ∃ c rest, operand.text = c :: rest ∧ Text.isQuote c = false := by
  cases operand with
  | literal word => cases other
  | name word =>
      obtain ⟨nonempty, named⟩ := word.lexeme
      obtain ⟨c, rest, shape⟩ := List.exists_cons_of_ne_nil nonempty
      refine ⟨c, rest, shape, Text.isQuote_of_isNameChar (named c ?_)⟩
      rw [shape]
      exact List.mem_cons_self
  | negative number => exact ⟨'-', number.text, rfl, by decide⟩
  | localized word => exact ⟨'_', _, rfl, by decide⟩

theorem compiled_of_compile {operand : Operand} {filters : Text}
    (read : compile operand.operand filters = .ok e) : e.Compiled := by
  unfold compile at read
  split at read
  · cases read
  · rename_i e' made
    split at read
    · obtain ⟨_, _, -, -, filters⟩ := FilterExpr.parts_of_ofText made
      cases read
      exact ⟨.inl ⟨_, rfl⟩, FilterExpr.read_filters filters⟩
    · rename_i other
      cases read
      obtain ⟨c, rest, shape, noQuote⟩ := operand.noQuote (Bool.eq_false_iff.mpr other)
      have whole : FilterExpr.ofText (c :: (rest ++ filters)) = .ok e := by
        rw [← made, ← List.cons_append, ← shape]
        rfl
      exact FilterExpr.compiled_of_ofText noQuote whole

theorem compiled_argument {call : Call} {argument : Option FilterExpr}
    (read : call.call.compileArgument = .ok argument) (here : e ∈ argument) : e.Compiled := by
  obtain ⟨name, operand?⟩ := call
  cases operand? with
  | none =>
      cases read
      cases here
  | some operand =>
      obtain ⟨value, made, same⟩ := bind_eq_ok.mp read
      cases same
      cases here
      exact compiled_of_compile made

theorem compiled_filters {calls : List Call} {applied : List AppliedFilter}
    (means : filters calls = .ok applied) :
    ∀ f ∈ applied, f.Throughout FilterExpr.Compiled fun _ => True := by
  obtain ⟨arguments, read, known⟩ := bind_eq_ok.mp means
  intro f member
  obtain ⟨⟨call, argument⟩, paired, found⟩ := (mem_of_mapM_eq_ok known).mp member
  have given : f.argument = argument := by
    unfold Attribute.knownFilter at found
    split at found
    · cases found
      rfl
    · cases found
  refine ⟨trivial, fun e here => ?_⟩
  rw [given] at here
  obtain ⟨call, written, made⟩ := (mem_of_mapM_eq_ok read).mp (List.of_mem_zip paired).2
  obtain ⟨call, -, rfl⟩ := List.mem_map.mp written
  exact compiled_argument made here

theorem compiled_operations {others : List (Operator × Operand)}
    {values : List (Operator × FilterExpr)} (means : operations others = .ok values) :
    ∀ operation ∈ values, operation.2.Compiled := by
  induction others generalizing values with
  | nil =>
      cases means
      exact List.forall_mem_nil _
  | cons first rest ih =>
      obtain ⟨value, read, means⟩ := bind_eq_ok.mp means
      obtain ⟨behind, next, same⟩ := bind_eq_ok.mp means
      cases same
      exact List.forall_mem_cons.mpr ⟨compiled_of_compile read, ih next⟩

mutual

theorem compiled_meaning (t : Term) {term : ElementTags.Term} (means : t.meaning = .ok term) :
    term.Compiled := by
  cases t with
  | plain operand calls =>
      obtain ⟨value, read, same⟩ := bind_eq_ok.mp means
      cases same
      exact compiled_of_compile read
  | joined first others several calls =>
      obtain ⟨value, read, means⟩ := bind_eq_ok.mp means
      obtain ⟨values, behind, means⟩ := bind_eq_ok.mp means
      obtain ⟨applied, filtered, same⟩ := bind_eq_ok.mp means
      cases same
      exact ⟨compiled_of_compile read, compiled_operations behind, compiled_filters filtered⟩
  | list items calls =>
      obtain ⟨values, inside, means⟩ := bind_eq_ok.mp means
      obtain ⟨applied, filtered, same⟩ := bind_eq_ok.mp means
      cases same
      exact ⟨compiled_itemsMeaning items inside, compiled_filters filtered⟩
  | dict pairs calls =>
      obtain ⟨values, inside, means⟩ := bind_eq_ok.mp means
      obtain ⟨applied, filtered, same⟩ := bind_eq_ok.mp means
      cases same
      exact ⟨compiled_pairsMeaning pairs inside, compiled_filters filtered⟩
  | parenthesized code calls =>
      obtain ⟨applied, filtered, same⟩ := bind_eq_ok.mp means
      cases same
      exact ⟨trivial, compiled_filters filtered⟩

theorem compiled_itemsMeaning (items : List Term) {terms : List ElementTags.Term}
    (means : itemsMeaning items = .ok terms) :
    ElementTags.Term.ItemsThroughout FilterExpr.Compiled (fun _ => True) True terms := by
  cases items with
  | nil =>
      cases means
      exact trivial
  | cons item rest =>
      obtain ⟨value, first, means⟩ := bind_eq_ok.mp means
      obtain ⟨others, behind, same⟩ := bind_eq_ok.mp means
      cases same
      exact ⟨compiled_meaning item first, compiled_itemsMeaning rest behind⟩

theorem compiled_pairsMeaning (pairs : List (PairKey × Term))
    {terms : List (Text × ElementTags.Term)} (means : pairsMeaning pairs = .ok terms) :
    ElementTags.Term.PairsThroughout FilterExpr.Compiled (fun _ => True) True terms := by
  cases pairs with
  | nil =>
      cases means
      exact trivial
  | cons pair rest =>
      obtain ⟨key, item⟩ := pair
      obtain ⟨value, first, means⟩ := bind_eq_ok.mp means
      obtain ⟨others, behind, same⟩ := bind_eq_ok.mp means
      cases same
      exact ⟨compiled_meaning item first, compiled_pairsMeaning rest behind⟩

end

theorem compiled_entriesMeaning {written : List (Nat × Entry)}
    {entries : List ElementTags.Entry} (means : entriesMeaning written = .ok entries) :
    ∀ entry ∈ entries, entry.value.Compiled := by
  induction written generalizing entries with
  | nil =>
      cases means
      exact List.forall_mem_nil _
  | cons first rest ih =>
      obtain ⟨start, entry⟩ := first
      obtain ⟨value, here, means⟩ := bind_eq_ok.mp means
      obtain ⟨others, behind, same⟩ := bind_eq_ok.mp means
      cases same
      refine List.forall_mem_cons.mpr ⟨?_, ih behind⟩
      cases entry with
      | positional term =>
          obtain ⟨t, meant, rfl⟩ := map_eq_ok.mp here
          exact compiled_meaning term meant
      | lookup name hyphens =>
          cases here
          exact trivial
      | keyword key term =>
          obtain ⟨t, meant, rfl⟩ := map_eq_ok.mp here
          exact compiled_meaning term meant

end Written

namespace Attribute

open Written

/-- No entry of an accepted attribute list has a literal among its operands that is marked as
safe. -/
theorem compiled_of_read {source : Text} {entries : List ElementTags.Entry}
    (accepted : read source = .ok entries) : ∀ entry ∈ entries, entry.value.Compiled := by
  unfold read at accepted
  split at accepted
  · cases accepted
  · rename_i tokens scanned
    obtain ⟨written, _, _, _, _, _, means⟩ :=
      readEntries_sound (Token.part_of_scan scanned) accepted
    exact compiled_entriesMeaning means

end Attribute
end ElementTags
