import Mathlib
import ElementTags.Proofs.Acceptance
import ElementTags.Proofs.Placement
import ElementTags.Proofs.Printing
import ElementTags.Proofs.Soundness

/-! # Printing what was read

A list of attributes that was read is printed from what the program keeps of it: the
texts of values, the names of filters, and keys in quotes. Up to the keys this is
the text of a written form with the same meaning, so reading it gives the same
attributes again, each at the position where it is printed now.
-/

namespace ElementTags.Attribute

open Outcome Token Written

/-! ## Texts of what was read -/

/-- The text of a filter. -/
def printedFilter (applied : AppliedFilter) : Text :=
  '|' :: applied.filter.name.toList ++
    match applied.argument with
    | some argument => ':' :: argument.text
    | none => []

/-- The text of operands with the operators in front of them, between blanks. -/
def printedOperations (others : List (Operator × FilterExpr)) : Text :=
  others.flatMap fun (operator, operand) => ' ' :: operator.mark :: ' ' :: operand.text

mutual

/-- The text of a term. -/
def printedTerm : ElementTags.Term → Text
  | .plain value => value.text
  | .hyphenated name => name
  | .list items filters => '[' :: printedItems items ++ ']' :: filters.flatMap printedFilter
  | .dict pairs filters => '\x7b' :: printedPairs pairs ++ '\x7d' :: filters.flatMap printedFilter
  | .joined first others filters =>
    first.text ++ printedOperations others ++ filters.flatMap printedFilter
  | .parenthesized code filters => '(' :: code ++ ')' :: filters.flatMap printedFilter

/-- The text of the items of a list. -/
def printedItems : List ElementTags.Term → Text
  | [] => []
  | [item] => printedTerm item
  | item :: rest => printedTerm item ++ ", ".toList ++ printedItems rest

/-- The text of the pairs of a dictionary, with keys in quotes. -/
def printedPairs : List (Text × ElementTags.Term) → Text
  | [] => []
  | [(key, item)] => literal key ++ ": ".toList ++ printedTerm item
  | (key, item) :: rest =>
    literal key ++ ": ".toList ++ printedTerm item ++ ", ".toList ++ printedPairs rest

end

/-- The text of an attribute, with its key in quotes. -/
def printedEntry : ElementTags.Entry → Text
  | .positional _ value => printedTerm value
  | .keyword _ key value => literal key ++ '=' :: printedTerm value

/-- The text of attributes. -/
def printedEntries : List ElementTags.Entry → Text
  | [] => []
  | entry :: rest =>
    printedEntry entry ++ rest.flatMap fun entry => ',' :: ' ' :: printedEntry entry

/-- Attributes at the positions where they are printed, when the first one stands at a position. -/
def relocated (start : Nat) : List ElementTags.Entry → List ElementTags.Entry
  | [] => []
  | entry :: rest => entry.placeAt start :: relocated (start + (printedEntry entry).length + 2) rest

/-! ## The written form with keys in quotes -/

theorem text_of_ofText {text : Text} {e : FilterExpr} (accepted : FilterExpr.ofText text = .ok e) :
    e.text = text := by
  unfold FilterExpr.ofText at accepted
  split at accepted
  · split at accepted <;> cases accepted
  · obtain ⟨_, _, accepted⟩ := bind_eq_ok.mp accepted
    obtain ⟨_, _, same⟩ := bind_eq_ok.mp accepted
    cases same
    rfl

theorem text_of_compile {operand : WrittenOperand} {filters : Text} {e : FilterExpr}
    (compiled : compile operand filters = .ok e) : e.text = operand.text ++ filters := by
  unfold compile at compiled
  split at compiled
  · cases compiled
  · rename_i value accepted
    have text : value.text = operand.text ++ filters := text_of_ofText accepted
    split at compiled
    · cases compiled
      exact text
    · cases compiled
      exact text

theorem name_of_ofName? {name : Text} {f : Filter} (known : Filter.ofName? name = some f) :
    f.name.toList = name := by
  obtain ⟨⟨known, filter⟩, found, rfl⟩ := Option.map_eq_some_iff.mp known
  have same := List.find?_some found
  have listed := List.mem_of_find?_eq_some found
  have named : ∀ entry ∈ Filter.registry, entry.2.name = entry.1 := by decide
  rw [named _ listed]
  exact of_decide_eq_true same

theorem printedFilter_of_known {call : Call} {argument : Option FilterExpr}
    {applied : AppliedFilter} (compiled : call.call.compileArgument = .ok argument)
    (known : knownFilter (call.call, argument) = .ok applied) :
    printedFilter applied = call.text := by
  unfold knownFilter at known
  split at known
  · rename_i f found
    cases known
    have name : f.name.toList = call.name.text := name_of_ofName? found
    obtain ⟨word, operand⟩ := call
    cases operand with
    | none =>
        cases compiled
        rw [printedFilter, name]
        rfl
    | some operand =>
        obtain ⟨e, value, same⟩ := map_eq_ok.mp compiled
        cases same
        have text := text_of_compile value
        rw [List.append_nil] at text
        rw [printedFilter, name]
        simp only [text]
        rfl
  · cases known

theorem printedFilters_of_filters {calls : List Call} {applied : List AppliedFilter}
    (means : filters calls = .ok applied) : applied.flatMap printedFilter = callsText calls := by
  obtain ⟨arguments, compiled, known⟩ := bind_eq_ok.mp means
  clear means
  induction calls generalizing arguments applied with
  | nil =>
      cases compiled
      cases known
      rfl
  | cons call calls ih =>
      rw [List.map_cons, List.mapM_cons] at compiled
      obtain ⟨argument, first, compiled⟩ := bind_eq_ok.mp compiled
      obtain ⟨arguments, others, same⟩ := bind_eq_ok.mp compiled
      cases same
      rw [List.map_cons, List.zip_cons_cons, List.mapM_cons] at known
      obtain ⟨filter, head, known⟩ := bind_eq_ok.mp known
      obtain ⟨filters, rest, same⟩ := bind_eq_ok.mp known
      cases same
      rw [List.flatMap_cons, printedFilter_of_known first head, ih arguments others rest]
      rfl

theorem printedOperations_of_operations {others : List (Operator × Written.Operand)}
    {values : List (Operator × FilterExpr)} (means : operations others = .ok values) :
    printedOperations values = operationsText others := by
  induction others generalizing values with
  | nil =>
      cases means
      rfl
  | cons operation others ih =>
      obtain ⟨operator, operand⟩ := operation
      rw [operations] at means
      obtain ⟨value, compiled, means⟩ := bind_eq_ok.mp means
      obtain ⟨rest, more, same⟩ := bind_eq_ok.mp means
      cases same
      have text := text_of_compile compiled
      have rest := ih more
      rw [List.append_nil] at text
      rw [printedOperations] at rest ⊢
      rw [List.flatMap_cons, rest]
      dsimp only
      rw [text]
      rfl

theorem itemsText_eq (item : Written.Term) (rest : List Written.Term) :
    itemsText (item :: rest) =
      item.text ++ if rest.isEmpty then [] else ", ".toList ++ itemsText rest := by
  cases rest with
  | nil => exact (List.append_nil _).symm
  | cons next rest => simp only [itemsText, List.append_assoc, List.isEmpty_cons,
      Bool.false_eq_true, if_false]

theorem printedItems_eq (item : ElementTags.Term) (rest : List ElementTags.Term) :
    printedItems (item :: rest) =
      printedTerm item ++ if rest.isEmpty then [] else ", ".toList ++ printedItems rest := by
  cases rest with
  | nil => exact (List.append_nil _).symm
  | cons next rest => simp only [printedItems, List.append_assoc, List.isEmpty_cons,
      Bool.false_eq_true, if_false]

theorem isEmpty_of_itemsMeaning {items : List Written.Term} {values : List ElementTags.Term}
    (means : itemsMeaning items = .ok values) : values.isEmpty = items.isEmpty := by
  cases items with
  | nil =>
      cases means
      rfl
  | cons item rest =>
      rw [itemsMeaning] at means
      obtain ⟨_, _, means⟩ := bind_eq_ok.mp means
      obtain ⟨_, _, same⟩ := bind_eq_ok.mp means
      cases same
      rfl

theorem pairsText_eq (key : PairKey) (item : Written.Term) (rest : List (PairKey × Written.Term)) :
    pairsText ((key, item) :: rest) = key.text ++ ": ".toList ++ item.text ++
      if rest.isEmpty then [] else ", ".toList ++ pairsText rest := by
  cases rest with
  | nil => exact (List.append_nil _).symm
  | cons next rest => simp only [pairsText, List.append_assoc, List.isEmpty_cons,
      Bool.false_eq_true, if_false]

theorem printedPairs_eq (key : Text) (item : ElementTags.Term)
    (rest : List (Text × ElementTags.Term)) :
    printedPairs ((key, item) :: rest) = literal key ++ ": ".toList ++ printedTerm item ++
      if rest.isEmpty then [] else ", ".toList ++ printedPairs rest := by
  cases rest with
  | nil => exact (List.append_nil _).symm
  | cons next rest => simp only [printedPairs, List.append_assoc, List.isEmpty_cons,
      Bool.false_eq_true, if_false]

theorem isEmpty_of_pairsMeaning {pairs : List (PairKey × Written.Term)}
    {values : List (Text × ElementTags.Term)} (means : pairsMeaning pairs = .ok values) :
    values.isEmpty = pairs.isEmpty := by
  cases pairs with
  | nil =>
      cases means
      rfl
  | cons pair rest =>
      obtain ⟨key, item⟩ := pair
      rw [pairsMeaning] at means
      obtain ⟨_, _, means⟩ := bind_eq_ok.mp means
      obtain ⟨_, _, same⟩ := bind_eq_ok.mp means
      cases same
      rfl

mutual

/-- A term is printed like a written form that means it. -/
theorem printedTerm_of_meaning (term : Written.Term) {value : ElementTags.Term}
    (means : term.meaning = .ok value) :
    ∃ form : Written.Term, form.meaning = .ok value ∧ form.text = printedTerm value := by
  match term with
  | .plain operand calls =>
      refine ⟨.plain operand calls, means, ?_⟩
      rw [Term.meaning] at means
      obtain ⟨e, compiled, same⟩ := bind_eq_ok.mp means
      cases same
      rw [printedTerm, text_of_compile compiled]
      rfl
  | .joined first others several calls =>
      refine ⟨.joined first others several calls, means, ?_⟩
      rw [Term.meaning] at means
      obtain ⟨e, compiled, means⟩ := bind_eq_ok.mp means
      obtain ⟨values, operands, means⟩ := bind_eq_ok.mp means
      obtain ⟨applied, filters, same⟩ := bind_eq_ok.mp means
      cases same
      rw [printedTerm, text_of_compile compiled, printedOperations_of_operations operands,
        printedFilters_of_filters filters, List.append_nil]
      rfl
  | .list items calls =>
      rw [Term.meaning] at means
      obtain ⟨values, inside, means⟩ := bind_eq_ok.mp means
      obtain ⟨applied, known, same⟩ := bind_eq_ok.mp means
      cases same
      obtain ⟨forms, meanings, text⟩ := printedItems_of_meaning items inside
      refine ⟨.list forms calls, ?_, ?_⟩
      · rw [Term.meaning, meanings, ok_bind, known]
        rfl
      · rw [printedTerm, Term.text, text, printedFilters_of_filters known]
  | .dict pairs calls =>
      rw [Term.meaning] at means
      obtain ⟨values, inside, means⟩ := bind_eq_ok.mp means
      obtain ⟨applied, known, same⟩ := bind_eq_ok.mp means
      cases same
      obtain ⟨forms, meanings, text⟩ := printedPairs_of_meaning pairs inside
      refine ⟨.dict forms calls, ?_, ?_⟩
      · rw [Term.meaning, meanings, ok_bind, known]
        rfl
      · rw [printedTerm, Term.text, text, printedFilters_of_filters known]
  | .parenthesized code calls =>
      refine ⟨.parenthesized code calls, means, ?_⟩
      rw [Term.meaning] at means
      obtain ⟨applied, known, same⟩ := bind_eq_ok.mp means
      cases same
      rw [printedTerm, printedFilters_of_filters known]
      rfl

theorem printedItems_of_meaning (items : List Written.Term) {values : List ElementTags.Term}
    (means : itemsMeaning items = .ok values) :
    ∃ forms, itemsMeaning forms = .ok values ∧ itemsText forms = printedItems values := by
  match items with
  | [] =>
      rw [itemsMeaning] at means
      cases means
      exact ⟨[], rfl, rfl⟩
  | item :: rest =>
      rw [itemsMeaning] at means
      obtain ⟨value, first, means⟩ := bind_eq_ok.mp means
      obtain ⟨values, others, same⟩ := bind_eq_ok.mp means
      cases same
      obtain ⟨form, meaning, text⟩ := printedTerm_of_meaning item first
      obtain ⟨forms, meanings, texts⟩ := printedItems_of_meaning rest others
      refine ⟨form :: forms, ?_, ?_⟩
      · rw [itemsMeaning, meaning, ok_bind, meanings]
        rfl
      · rw [itemsText_eq, printedItems_eq, text, texts, isEmpty_of_itemsMeaning meanings]

theorem printedPairs_of_meaning (pairs : List (PairKey × Written.Term))
    {values : List (Text × ElementTags.Term)} (means : pairsMeaning pairs = .ok values) :
    ∃ forms, pairsMeaning forms = .ok values ∧ pairsText forms = printedPairs values := by
  match pairs with
  | [] =>
      rw [pairsMeaning] at means
      cases means
      exact ⟨[], rfl, rfl⟩
  | (key, item) :: rest =>
      rw [pairsMeaning] at means
      obtain ⟨value, first, means⟩ := bind_eq_ok.mp means
      obtain ⟨values, others, same⟩ := bind_eq_ok.mp means
      cases same
      obtain ⟨form, meaning, text⟩ := printedTerm_of_meaning item first
      obtain ⟨forms, meanings, texts⟩ := printedPairs_of_meaning rest others
      refine ⟨(.quoted key.key, form) :: forms, ?_, ?_⟩
      · rw [pairsMeaning, meaning, ok_bind, meanings]
        rfl
      · rw [pairsText_eq, printedPairs_eq, text, texts, isEmpty_of_pairsMeaning meanings,
          PairKey.text]

end

/-- An attribute is printed like a written form that means it, wherever it stands. -/
theorem printedEntry_of_meaning {entry : Written.Entry} {start : Nat} {value : ElementTags.Entry}
    (means : entry.meaning start = .ok value) :
    ∃ form : Written.Entry, (∀ place, form.meaning place = .ok (value.placeAt place)) ∧
      form.text = printedEntry value := by
  cases entry with
  | positional term =>
      obtain ⟨value, inner, rfl⟩ := map_eq_ok.mp means
      obtain ⟨form, meaning, text⟩ := printedTerm_of_meaning term inner
      refine ⟨.positional form, fun place => ?_, text⟩
      rw [Written.Entry.meaning, meaning]
      rfl
  | lookup name hyphens =>
      cases means
      exact ⟨.lookup name hyphens, fun _ => rfl, rfl⟩
  | keyword key term =>
      obtain ⟨value, inner, rfl⟩ := map_eq_ok.mp means
      obtain ⟨form, meaning, text⟩ := printedTerm_of_meaning term inner
      refine ⟨.keyword (.quoted key.key) form, fun place => ?_, ?_⟩
      · rw [Written.Entry.meaning, meaning]
        rfl
      · rw [Written.Entry.text, text]
        rfl

/-- Attributes are printed like written forms that mean them where they are printed. -/
theorem printedEntries_of_meaning {entries : List (Nat × Written.Entry)}
    {values : List ElementTags.Entry} (means : entriesMeaning entries = .ok values) :
    ∃ forms : List Written.Entry, Written.entriesText forms = printedEntries values ∧
      othersText forms = values.flatMap (fun entry => ',' :: ' ' :: printedEntry entry) ∧
      ∀ place, entriesMeaning (placed place forms) = .ok (relocated place values) := by
  induction entries generalizing values with
  | nil =>
      cases means
      exact ⟨[], rfl, rfl, fun _ => rfl⟩
  | cons entry rest ih =>
      obtain ⟨start, entry⟩ := entry
      rw [entriesMeaning] at means
      obtain ⟨value, first, means⟩ := bind_eq_ok.mp means
      obtain ⟨values, others, same⟩ := bind_eq_ok.mp means
      cases same
      obtain ⟨form, meaning, text⟩ := printedEntry_of_meaning first
      obtain ⟨forms, _, texts, meanings⟩ := ih others
      refine ⟨form :: forms, ?_, ?_, fun place => ?_⟩
      · rw [Written.entriesText, printedEntries, text, texts]
      · rw [othersText] at texts ⊢
        rw [List.flatMap_cons, List.flatMap_cons, text, texts]
      · rw [placed, entriesMeaning, meaning, ok_bind, text, meanings]
        rfl

/-- What is printed of accepted attributes is read as the same attributes, at the positions where
they are printed. -/
theorem read_printedEntries {source : Text} {values : List ElementTags.Entry}
    (accepted : read source = .ok values) :
    read (printedEntries values) = .ok (relocated 0 values) := by
  unfold read at accepted
  split at accepted
  · cases accepted
  · rename_i tokens scanned
    obtain ⟨written, own, final, rfl, -, -, means⟩ :=
      readEntries_sound (part_of_scan scanned) accepted
    obtain ⟨forms, text, -, meanings⟩ := printedEntries_of_meaning means
    rw [← text, read_entriesText, meanings]

/-! ## Reading undoes printing -/

/-- The position of an entry is the one at which its text stands. -/
theorem stands_of_placed {entries : List Written.Entry} {start position : Nat}
    {entry : Written.Entry} (member : (position, entry) ∈ placed start entries) :
    ∃ before behind, Written.entriesText entries = before ++ (entry.text ++ behind) ∧
      position = start + before.length := by
  induction entries generalizing start with
  | nil => cases member
  | cons first rest ih =>
      rw [placed] at member
      rcases List.mem_cons.mp member with here | later
      · cases here
        exact ⟨[], othersText rest, rfl, rfl⟩
      · obtain ⟨before, behind, text, rfl⟩ := ih later
        cases rest with
        | nil => cases later
        | cons next rest =>
            refine ⟨first.text ++ ',' :: ' ' :: before, behind, ?_, ?_⟩
            · rw [List.append_assoc, List.cons_append, List.cons_append, ← text]
              simp only [Written.entriesText, othersText, List.flatMap_cons, List.cons_append]
            · rw [List.length_append, List.length_cons, List.length_cons]
              omega

/-- **Reading undoes printing.** Entries that the host accepts are read back from what is printed of
them, each with the position at which its text stands, and so is what was read of any source. -/
theorem read_printed :
    (∀ entries : List Written.Entry, (∀ entry ∈ entries, entry.Accepted) →
      (∃ values, entriesMeaning (placed 0 entries) = .ok values ∧
        read (Written.entriesText entries) = .ok values) ∧
      ∀ position entry, (position, entry) ∈ placed 0 entries →
        ∃ before behind, Written.entriesText entries = before ++ (entry.text ++ behind) ∧
          position = before.length) ∧
    ∀ source values, read source = .ok values →
      read (printedEntries values) = .ok (relocated 0 values) := by
  refine ⟨fun entries accepted => ⟨?_, fun position entry member => ?_⟩, fun source values => ?_⟩
  · obtain ⟨values, meaning⟩ := entriesMeaning_of_accepted accepted 0
    exact ⟨values, meaning, (read_entriesText entries).trans meaning⟩
  · obtain ⟨before, behind, text, place⟩ := stands_of_placed member
    exact ⟨before, behind, text, place.trans (Nat.zero_add _)⟩
  · exact read_printedEntries

/-- The keyword `"a b"` with a name as its value, and the source `c-d, _("e")`. -/
theorem read_printed_keyword :
    (∃ values, read "\"a b\"=x".toList = .ok values) ∧
      ∃ values, read "c-d, _(\"e\")".toList = .ok values ∧
        read (printedEntries values) = .ok (relocated 0 values) := by
  have name : Token.Lexeme .name ['x'] := by
    refine ⟨List.cons_ne_nil _ _, fun c member => ?_⟩
    rw [List.mem_singleton.mp member]
    decide +kernel
  have readable : Readable ['x'] := ok_of_toBool (by cbv)
  obtain ⟨⟨values, -, there⟩, -⟩ := read_printed.1
    [.keyword (.quoted "a b".toList) (.plain (.name ⟨['x'], name⟩) [])]
    (fun entry member => by
      rw [List.mem_singleton.mp member]
      exact readable)
  obtain ⟨others, reads⟩ : ∃ others, read "c-d, _(\"e\")".toList = .ok others :=
    ok_of_toBool (by cbv)
  exact ⟨⟨values, there⟩, others, reads, read_printed.2 _ _ reads⟩

end ElementTags.Attribute
