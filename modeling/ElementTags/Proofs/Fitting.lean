import ElementTags.Proofs.Acceptance
import ElementTags.Proofs.Numerals
import ElementTags.Proofs.Rereading

/-! # Which chains of filters are accepted

A plain value with filters is handed to the host as one text, while the filters behind
anything else are looked at one by one. Both ways accept the same arguments and the same
names of filters (`ElementTags.Written.filters_iff`), and the host also counts the
arguments (`ElementTags.Written.readable_iff`): a filter has to be given as many as it
takes.
-/

namespace ElementTags

open Outcome

namespace Written

open Attribute (compile)

variable {rest : Text}

/-! ## Operands in front of filters -/

/-- What stands behind the part at the start of a text is longer by what is put behind the text. -/
abbrev longer {α : Type} (rest : Text) (read : α × Text) : α × Text := (read.1, read.2 ++ rest)

/-- In a token in quotes, the host reads a literal or none, whatever stands behind the token. -/
theorem literalTail_closed {quote : Char} (noBackslash : quote ≠ '\\') {s body : Text}
    (closed : Token.quotedTail quote s = some (body, [])) (rest : Text) :
    FilterExpr.literalTail quote (s ++ rest) =
      (FilterExpr.literalTail quote s).map (longer rest) := by
  fun_induction Token.quotedTail quote s generalizing body with
  | case1 => cases closed
  | case2 => cases closed
  | case3 c s ih =>
      obtain ⟨⟨inner, left⟩, found, same⟩ := Option.map_eq_some_iff.mp closed
      cases same
      rw [List.cons_append, List.cons_append, FilterExpr.literalTail, FilterExpr.literalTail]
      split
      · rfl
      · rw [ih found, Option.map_map, Option.map_map]
        rfl
  | case4 s noEscape =>
      cases closed
      rw [literalTail_cons noBackslash, List.cons_append, literalTail_cons noBackslash, if_pos rfl,
        if_pos rfl]
      rfl
  | case5 c s noEnd noEscape other ih =>
      obtain ⟨⟨inner, left⟩, found, same⟩ := Option.map_eq_some_iff.mp closed
      cases same
      have plain : c ≠ '\\' := by
        intro backslash
        cases s with
        | nil => exact noEnd backslash rfl
        | cons d s => exact noEscape d s backslash rfl
      rw [literalTail_cons plain, List.cons_append, literalTail_cons plain, if_neg other,
        if_neg other, ih found, Option.map_map, Option.map_map]
      rfl

theorem literal?_word_append (word : Word .quoted) (rest : Text) :
    FilterExpr.literal? (word.text ++ rest) =
      (FilterExpr.literal? word.text).map (longer rest) := by
  obtain ⟨quote, inner, text, isQuote, closed⟩ := word.lexeme
  rw [text, List.cons_append, FilterExpr.literal?, FilterExpr.literal?, if_pos isQuote,
    if_pos isQuote, literalTail_closed (ne_backslash_of_isQuote isQuote) closed, Option.map_map,
    Option.map_map]
  rfl

/-- A run of characters ends where it did, if none of them is put behind it. -/
theorem takeWhile_append_longer {p : Char → Bool} (s : Text)
    (other : ∀ c ∈ rest.head?, p c = false) :
    (s ++ rest).takeWhile p = s.takeWhile p ∧ (s ++ rest).dropWhile p = s.dropWhile p ++ rest := by
  induction s with
  | nil => exact takeWhile_append_of_head (List.forall_mem_nil _) other
  | cons c s ih =>
      rw [List.cons_append, List.takeWhile_cons, List.takeWhile_cons, List.dropWhile_cons,
        List.dropWhile_cons]
      split
      · exact ⟨congrArg (c :: ·) ih.1, ih.2⟩
      · exact ⟨rfl, rfl⟩

theorem Ended.noNumber (ended : Ended rest) :
    ∀ c ∈ rest.head?, FilterExpr.isNumberChar c = false := by
  intro c first
  rw [ended c first]
  decide

theorem signed?_append {sign digit : Char} (s : Text) (ended : Ended rest) :
    FilterExpr.signed? (sign :: digit :: s ++ rest) =
      (FilterExpr.signed? (sign :: digit :: s)).map (longer rest) := by
  obtain ⟨taken, dropped⟩ := takeWhile_append_longer s ended.noNumber
  rw [List.cons_append, List.cons_append, FilterExpr.signed?, FilterExpr.signed?, taken, dropped]
  split <;> rfl

theorem name?_append {c : Char} {s : Text} (ended : Ended rest)
    (signed : Text.isNameChar c = true ∨ s ≠ []) :
    FilterExpr.name? (c :: s ++ rest) = (FilterExpr.name? (c :: s)).map (longer rest) := by
  obtain ⟨taken, dropped⟩ := takeWhile_append_longer (c :: s) ended.noName
  rw [FilterExpr.name?.eq_def, FilterExpr.name?]
  simp only [List.cons_append] at taken dropped ⊢
  split
  · rw [taken, dropped]
    rfl
  · rename_i noName
    obtain ⟨d, s, rfl⟩ := List.exists_cons_of_ne_nil (signed.resolve_left noName)
    exact signed?_append s ended

/-- The parts of a text are found in the same places if this holds of every kind of part. -/
theorem part?_append_of {s : Text}
    (localized : FilterExpr.localized? (s ++ rest) = (FilterExpr.localized? s).map (longer rest))
    (literal : FilterExpr.literal? (s ++ rest) = (FilterExpr.literal? s).map (longer rest))
    (name : FilterExpr.name? (s ++ rest) = (FilterExpr.name? s).map (longer rest)) :
    FilterExpr.part? (s ++ rest) = (FilterExpr.part? s).map (longer rest) := by
  rw [FilterExpr.part?, FilterExpr.part?, localized, literal, name]
  cases FilterExpr.localized? s with
  | some read => rfl
  | none =>
      cases FilterExpr.literal? s with
      | some read => rfl
      | none =>
          cases FilterExpr.name? s with
          | some read => rfl
          | none => rfl

theorem literal?_of_noQuote {c : Char} (noQuote : Text.isQuote c = false) (s : Text) :
    FilterExpr.literal? (c :: s) = none := by
  rw [FilterExpr.literal?, noQuote, if_neg Bool.false_ne_true]

/-- In front of filters, the host finds what it finds in an operand that stands alone. -/
theorem part?_append (operand : Operand) (ended : Ended rest) :
    FilterExpr.part? (operand.text ++ rest) =
      (FilterExpr.part? operand.text).map (longer rest) := by
  cases operand with
  | literal word =>
      obtain ⟨quote, inner, text, isQuote, -⟩ := word.lexeme
      have noMark : quote ≠ '_' := by
        rintro rfl
        cases isQuote
      refine part?_append_of ?_ (literal?_word_append word rest) ?_
      · rw [show (Operand.literal word).text = quote :: inner from text, List.cons_append,
          localized?_of_ne noMark, localized?_of_ne noMark]
        rfl
      · rw [show (Operand.literal word).text = quote :: inner from text, List.cons_append,
          name?_of_isQuote isQuote, name?_of_isQuote isQuote]
        rfl
  | name word =>
      obtain ⟨nonempty, named⟩ := word.lexeme
      have alone : FilterExpr.localized? (word.text ++ []) = none :=
        localized?_name named fun c none => by cases none
      rw [List.append_nil] at alone
      refine part?_append_of ?_ ?_ ?_
      · rw [show (Operand.name word).text = word.text from rfl, localized?_name named ended, alone]
        rfl
      all_goals
        obtain ⟨c, s, text⟩ := List.exists_cons_of_ne_nil nonempty
        have first := named c (text ▸ List.mem_cons_self)
        rw [show (Operand.name word).text = c :: s from text]
      · rw [List.cons_append, literal?_of_noQuote (Text.isQuote_of_isNameChar first),
          literal?_of_noQuote (Text.isQuote_of_isNameChar first)]
        rfl
      · exact name?_append ended (.inl first)
  | negative number =>
      refine part?_append_of ?_ rfl (name?_append ended (.inr number.lexeme.1))
      rw [show (Operand.negative number).text = '-' :: number.text from rfl, List.cons_append,
        localized?_of_ne (by decide), localized?_of_ne (by decide)]
      rfl
  | localized word =>
      have text : (Operand.localized word).text = '_' :: '(' :: (word.text ++ [')']) := rfl
      refine part?_append_of ?_ rfl (text ▸ name?_append ended (.inl (by decide)))
      rw [text, List.cons_append, List.cons_append, List.append_assoc, List.singleton_append,
        FilterExpr.localized?, FilterExpr.localized?, literal?_word_append word [')'],
        literal?_word_append word (')' :: rest)]
      cases found : FilterExpr.literal? word.text with
      | none => rfl
      | some read =>
          obtain ⟨body, left⟩ := read
          rw [← List.append_nil word.text] at found
          rw [(literal?_word word found).2]
          rfl

/-- The host reads an operand that stands alone if it finds the operand and nothing else, and knows
what it stands for. -/
theorem readable_alone_iff {operand : Operand} : Readable operand.text ↔
    FilterExpr.part? operand.text = some (operand.part, []) ∧
      ∃ value, operand.part.operand = .ok value := by
  constructor
  · rintro ⟨e, read⟩
    unfold FilterExpr.ofText at read
    split at read
    · split at read <;> cases read
    · rename_i part behind found
      obtain ⟨value, means, read⟩ := bind_eq_ok.mp read
      obtain ⟨filters, others, -⟩ := bind_eq_ok.mp read
      have ended : Ended [] := fun c none => by cases none
      rw [← List.append_nil operand.text] at found
      rcases part?_operand ended found with ⟨rfl, rfl⟩ | stuck
      · rw [List.append_nil] at found
        exact ⟨found, value, means⟩
      · rw [readFilters_stuck stuck] at others
        cases others
  · rintro ⟨found, value, means⟩
    refine ⟨⟨operand.text, value, []⟩, ?_⟩
    rw [FilterExpr.ofText, found]
    simp only [means, readFilters_nil]
    rfl

/-- The host finds an operand in front of filters if it finds it alone. -/
theorem part?_operand_iff {operand : Operand} (ended : Ended rest) :
    FilterExpr.part? (operand.text ++ rest) = some (operand.part, rest) ↔
      FilterExpr.part? operand.text = some (operand.part, []) := by
  rw [part?_append operand ended]
  constructor
  · intro found
    obtain ⟨⟨part, left⟩, alone, same⟩ := Option.map_eq_some_iff.mp found
    obtain ⟨rfl, behind⟩ := Prod.mk.inj same
    obtain rfl : left = [] := List.append_left_eq_self.mp behind
    exact alone
  · intro alone
    rw [alone]
    rfl

/-! ## Chains behind an operand -/

/-- A call gives its filter as many arguments as it takes. -/
def Call.Fits (call : Call) : Prop :=
  ∀ f, Filter.ofName? call.name.text = some f →
    f.accepts (if call.argument.isSome then 1 else 0) = true

theorem isWord_of_registered {name : Text} {f : Filter} (known : Filter.ofName? name = some f) :
    ∀ c ∈ name, Text.isWord c = true := by
  rw [← Filter.name_of_ofName? known]
  cases f <;> exact Text.forall_mem_of_all (by decide)

/-- The host finds a filter that is registered. -/
theorem writtenFilter?_registered {call : Call} {f : Filter}
    (known : Filter.ofName? call.name.text = some f) (ended : Ended rest) :
    FilterExpr.writtenFilter? (call.text ++ rest) =
      some (⟨call.name.text,
        (FilterExpr.writtenArgument (argumentText call.argument ++ rest)).1⟩,
        (FilterExpr.writtenArgument (argumentText call.argument ++ rest)).2) := by
  have noWord : ∀ c ∈ (argumentText call.argument ++ rest).head?, Text.isWord c = false :=
    noWord_argument ended
  obtain ⟨taken, dropped⟩ := takeWhile_append_of_head (isWord_of_registered known) noWord
  rw [writtenFilter?_text]
  simp only [taken, dropped]
  exact if_neg fun empty => call.name.lexeme.1 (List.isEmpty_iff.mp empty)

/-- The host finds an argument or none where the argument is found that stands alone. -/
theorem writtenArgument_iff {argument : Option Operand} (ended : Ended rest) :
    FilterExpr.writtenArgument (argumentText argument ++ rest) =
        (argument.map Operand.part, rest) ↔
      ∀ operand ∈ argument, FilterExpr.part? operand.text = some (operand.part, []) := by
  cases argument with
  | none =>
      refine iff_of_true (writtenArgument_of_ne fun c first => ?_) fun _ none => by cases none
      rw [ended c first]
      decide
  | some operand =>
      simp only [Option.mem_def, Option.some.injEq, forall_eq']
      rw [← part?_operand_iff ended, argumentText, List.cons_append, FilterExpr.writtenArgument]
      split
      · rename_i part behind found
        rw [found]
        simp only [Option.map_some, Prod.mk.injEq, Option.some.injEq]
      · rename_i none
        rw [none]
        simp only [Option.map_some, Prod.mk.injEq, reduceCtorEq, false_and]

/-- The host takes a filter with what was found behind it if the filter is registered, takes this
many arguments, and the argument stands for something. -/
theorem call_iff {call : Call} :
    (∃ found, FilterExpr.WrittenFilter.call ⟨call.name.text, call.argument.map Operand.part⟩ =
      .ok found) ↔
      (∃ f, Filter.ofName? call.name.text = some f) ∧ call.Fits ∧
        ∀ operand ∈ call.argument, ∃ value, operand.part.operand = .ok value := by
  constructor
  · rintro ⟨found, made⟩
    obtain ⟨argument, means, made⟩ := bind_eq_ok.mp made
    split at made
    · cases made
    · rename_i f known
      by_cases takes : f.accepts (if argument.isSome then 1 else 0) = true
      · refine ⟨⟨f, known⟩, fun g same => ?_, fun operand given => ?_⟩
        · obtain rfl := Option.some.inj (known.symm.trans same)
          cases written : call.argument with
          | none =>
              rw [written] at means
              cases means
              exact takes
          | some operand =>
              rw [written] at means
              obtain ⟨value, -, same⟩ := map_eq_ok.mp means
              cases same
              exact takes
        · rw [given] at means
          obtain ⟨value, means, -⟩ := map_eq_ok.mp means
          exact ⟨value, means⟩
      · rw [if_neg takes] at made
        cases made
  · rintro ⟨⟨f, known⟩, fits, means⟩
    have takes := fits f known
    cases written : call.argument with
    | none =>
        rw [written] at takes
        refine ⟨⟨f, none⟩, bind_eq_ok.mpr ⟨none, rfl, ?_⟩⟩
        simp only [known]
        exact if_pos (show f.accepts 0 = true from takes)
    | some operand =>
        rw [written] at takes
        obtain ⟨value, means⟩ := means operand written
        refine ⟨⟨f, some value⟩, bind_eq_ok.mpr ⟨some value, map_eq_ok.mpr ⟨value, means, rfl⟩, ?_⟩⟩
        simp only [known]
        exact if_pos (show f.accepts 1 = true from takes)

/-- The host reads a chain of filters if it accepts each of them, with as many arguments as it
takes. -/
theorem readFilters_iff {calls : List Call} {text : Text} :
    (∃ found, FilterExpr.readFilters text (callsText calls) = .ok found) ↔
      ∀ call ∈ calls, call.Accepted ∧ call.Fits := by
  induction calls with
  | nil => exact iff_of_true ⟨[], readFilters_nil text⟩ (List.forall_mem_nil _)
  | cons call rest ih =>
      have split : callsText (call :: rest) = call.text ++ callsText rest := List.flatMap_cons
      have nonempty : (call.text ++ callsText rest).isEmpty = false := by
        rw [text_call]
        rfl
      rw [List.forall_mem_cons, ← ih, split]
      constructor
      · rintro ⟨found, read⟩
        rw [FilterExpr.readFilters, nonempty, if_neg Bool.false_ne_true] at read
        split at read
        · cases read
        · rename_i written behind here
          obtain ⟨first, called, read⟩ := bind_eq_ok.mp read
          obtain ⟨others, further, -⟩ := bind_eq_ok.mp read
          rcases writtenFilter?_call (ended_calls rest) here with ⟨rfl, rfl⟩ | stuck
          · obtain ⟨⟨f, known⟩, fits, means⟩ := call_iff.mp ⟨first, called⟩
            rw [writtenFilter?_registered known (ended_calls rest), Option.some.injEq,
              Prod.mk.injEq, FilterExpr.WrittenFilter.mk.injEq] at here
            have alone := (writtenArgument_iff (ended_calls rest)).mp
              (Prod.ext here.1.2 here.2)
            refine ⟨⟨⟨⟨f, known⟩, fun operand given => ?_⟩, fits⟩, others, further⟩
            exact readable_alone_iff.mpr ⟨alone operand given, means operand given⟩
          · rw [readFilters_stuck stuck] at further
            cases further
      · rintro ⟨⟨⟨⟨f, known⟩, readable⟩, fits⟩, others, further⟩
        have alone : ∀ operand ∈ call.argument,
            FilterExpr.part? operand.text = some (operand.part, []) := fun operand given =>
          (readable_alone_iff.mp (readable operand given)).1
        obtain ⟨first, called⟩ := call_iff.mpr ⟨⟨f, known⟩, fits, fun operand given =>
          (readable_alone_iff.mp (readable operand given)).2⟩
        have here := writtenFilter?_registered known (ended_calls rest)
        rw [(writtenArgument_iff (ended_calls rest)).mpr alone] at here
        refine ⟨first :: others, ?_⟩
        rw [FilterExpr.readFilters, nonempty, if_neg Bool.false_ne_true]
        split
        · rename_i none
          rw [here] at none
          cases none
        · rename_i written behind same
          obtain ⟨rfl, rfl⟩ := Prod.mk.inj (Option.some.inj (here.symm.trans same))
          rw [called, ok_bind, further]
          rfl

/-- **What the host accepts.** The host reads an operand with filters if it reads the operand and
the arguments of the filters where they stand alone, and the filters are registered and given as
many arguments as they take. -/
theorem readable_iff {operand : Operand} {calls : List Call} :
    Readable (operand.text ++ callsText calls) ↔
      Readable operand.text ∧ ∀ call ∈ calls, call.Accepted ∧ call.Fits := by
  constructor
  · rintro ⟨e, read⟩
    unfold FilterExpr.ofText at read
    split at read
    · split at read <;> cases read
    · rename_i part behind found
      obtain ⟨value, means, read⟩ := bind_eq_ok.mp read
      obtain ⟨filters, others, -⟩ := bind_eq_ok.mp read
      rcases part?_operand (ended_calls calls) found with ⟨rfl, rfl⟩ | stuck
      · have alone := (part?_operand_iff (ended_calls calls)).mp found
        exact ⟨readable_alone_iff.mpr ⟨alone, value, means⟩, readFilters_iff.mp ⟨filters, others⟩⟩
      · rw [readFilters_stuck stuck] at others
        cases others
  · rintro ⟨readable, chain⟩
    obtain ⟨alone, value, means⟩ := readable_alone_iff.mp readable
    obtain ⟨filters, others⟩ : ∃ found,
        FilterExpr.readFilters (operand.text ++ callsText calls) (callsText calls) = .ok found :=
      readFilters_iff.mpr chain
    refine ⟨⟨operand.text ++ callsText calls, value, filters⟩, ?_⟩
    rw [FilterExpr.ofText, (part?_operand_iff (ended_calls calls)).mpr alone]
    simp only [means, ok_bind, others]
    rfl

/-- What is compiled is what the host reads. -/
theorem compile_iff {operand : Attribute.WrittenOperand} {filters : Text} :
    (∃ e, compile operand filters = .ok e) ↔ Readable (operand.text ++ filters) := by
  refine ⟨fun ⟨e, compiled⟩ => ?_, compile_of_readable⟩
  unfold compile at compiled
  split at compiled
  · cases compiled
  · rename_i host read
    exact ⟨host, read⟩

/-! ## Chains behind anything else -/

/-- **What is accepted behind anything else.** The filters have to be registered, and the host has
to read their arguments; how many there are does not matter. -/
theorem filters_iff {calls : List Call} :
    (∃ applied, filters calls = .ok applied) ↔ ∀ call ∈ calls, call.Accepted := by
  refine ⟨?_, filters_of_accepted⟩
  rintro ⟨applied, means⟩
  induction calls generalizing applied with
  | nil => exact List.forall_mem_nil _
  | cons call rest ih =>
      obtain ⟨arguments, compiled, means⟩ := bind_eq_ok.mp means
      rw [List.map_cons, List.mapM_cons] at compiled
      obtain ⟨argument, here, compiled⟩ := bind_eq_ok.mp compiled
      obtain ⟨others, behind, same⟩ := bind_eq_ok.mp compiled
      cases same
      rw [List.map_cons, List.zip_cons_cons, List.mapM_cons] at means
      obtain ⟨found, known, means⟩ := bind_eq_ok.mp means
      obtain ⟨more, further, -⟩ := bind_eq_ok.mp means
      refine List.forall_mem_cons.mpr ⟨⟨?_, fun operand given => ?_⟩,
        ih more (bind_eq_ok.mpr ⟨others, behind, further⟩)⟩
      · unfold Attribute.knownFilter at known
        split at known
        · rename_i f registered
          exact ⟨f, registered⟩
        · cases known
      · rw [Attribute.WrittenCall.compileArgument, Call.call, given] at here
        obtain ⟨e, alone, -⟩ := map_eq_ok.mp here
        have readable := compile_iff.mp ⟨e, alone⟩
        rw [List.append_nil] at readable
        exact readable

end Written
end ElementTags
