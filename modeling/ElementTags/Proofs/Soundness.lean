import ElementTags.Proofs.Lookahead
import ElementTags.Proofs.Part
import ElementTags.Proofs.Spelling

/-! # What is read is spelled

Every result of the readers is the meaning of a written form, and the tokens that
were read spell this form in front of those that were left
(`ElementTags.Attribute.readEntries_sound`). The written form of code is found with
the part of the source between two parentheses.
-/

namespace ElementTags.Attribute

open Outcome Token Written

variable {source : Text} {ts rest : List Token}

/-! ## Operands and filters -/

theorem readLocalized_sound {value : WrittenOperand} {within : rest.length < ts.length}
    (found : readLocalized source ts = .ok ⟨value, rest, within⟩) :
    ∃ literal close, ts = literal :: close :: rest ∧ literal.kind = .quoted ∧
      close.isMark ')' = true ∧ value = ⟨'_' :: '(' :: literal.text ++ [')'], false⟩ := by
  unfold readLocalized at found
  split at found
  · cases found
  · rename_i literal behind
    split at found
    · rename_i kind
      split at found
      · rename_i close behind
        split at found
        · rename_i mark
          cases found
          exact ⟨literal, close, rfl, kind, mark, rfl⟩
        · cases found
      · cases found
    · cases found

/-- An operand that is read is spelled by the tokens that were read. -/
theorem readOperand_sound (part : Part source ts) {value : WrittenOperand}
    {within : rest.length < ts.length} (found : readOperand source ts = .ok ⟨value, rest, within⟩) :
    ∃ operand own, ts = own ++ rest ∧ Operand.Spelled operand own rest.head? ∧
      operand.operand = value := by
  unfold readOperand at found
  split at found
  · rename_i number behind negative
    obtain ⟨sign, rfl, mark, kind, digit, adjacent⟩ := negative?_eq_some_iff.mp negative
    cases found
    have lexeme : Token.Lexeme .name number.text := by
      rw [← kind]
      exact part.lexeme (by simp only [List.mem_cons, true_or, or_true])
    exact ⟨.negative ⟨⟨number.text, lexeme⟩, digit⟩, [sign, number], rfl,
      .negative mark kind rfl adjacent, rfl⟩
  · split at found
    · rename_i localized
      obtain ⟨⟨operand, left, _⟩, inner, same⟩ := map_eq_ok.mp found
      obtain ⟨name, paren, rfl, nameKind, nameText, opening, adjacent⟩ :=
        localized?_eq_some_iff.mp localized
      obtain ⟨literal, close, rfl, kind, closing, rfl⟩ := readLocalized_sound inner
      cases same
      have lexeme : Token.Lexeme .quoted literal.text := by
        rw [← kind]
        exact part.lexeme (by simp only [List.mem_cons, true_or, or_true])
      exact ⟨.localized ⟨literal.text, lexeme⟩, [name, paren, literal, close], rfl,
        .localized nameKind nameText opening adjacent kind rfl closing, rfl⟩
    · split at found
      · cases found
      · rename_i t behind _ _ _ notLocalized
        split at found
        · cases found
        · rename_i noMark
          cases found
          have lexeme : Token.Lexeme t.kind t.text := part.lexeme List.mem_cons_self
          cases kind : t.kind with
          | mark => exact absurd kind noMark
          | quoted =>
              rw [kind] at lexeme
              exact ⟨.literal ⟨t.text, lexeme⟩, [t], rfl, .literal kind rfl, rfl⟩
          | name =>
              rw [kind] at lexeme
              have plain : NotLocalized t rest.head? := by
                intro text paren next mark
                cases adjacent : t.touches paren with
                | false => rfl
                | true =>
                    obtain ⟨behind, rfl⟩ := List.head?_eq_some_iff.mp next
                    rw [localized?_eq_some_iff.mpr ⟨t, paren, rfl, kind, text, mark, adjacent⟩]
                      at notLocalized
                    cases notLocalized
              exact ⟨.name ⟨t.text, lexeme⟩, [t], rfl, .name kind rfl plain, rfl⟩

theorem noMark_cons {c : Char} {t : Token} {ts : List Token} (other : ¬t.isMark c = true) :
    NoMark c (t :: ts).head? := by
  intro u first
  obtain rfl := Option.some.inj first
  exact eq_false_of_ne_true other

theorem readArgument_sound (part : Part source ts) {value : Option WrittenOperand}
    {within : rest.length < ts.length + 1}
    (found : readArgument source ts = .ok ⟨value, rest, within⟩) :
    (value = none ∧ rest = ts ∧ NoMark ':' ts.head?) ∨
      ∃ operand colon own, ts = colon :: (own ++ rest) ∧ colon.isMark ':' = true ∧
        Operand.Spelled operand own rest.head? ∧ value = some operand.operand := by
  unfold readArgument at found
  split at found
  · rename_i colon behind
    split at found
    · rename_i mark
      obtain ⟨⟨operand, left, _⟩, inner, same⟩ := map_eq_ok.mp found
      obtain ⟨operand, own, rfl, spelled, rfl⟩ := readOperand_sound part.tail inner
      cases same
      exact .inr ⟨operand, colon, own, rfl, mark, spelled, rfl⟩
    · rename_i other
      cases found
      exact .inl ⟨rfl, rfl, noMark_cons other⟩
  · cases found
    refine .inl ⟨rfl, rfl, ?_⟩
    intro t first
    cases first

theorem readCalls_sound (part : Part source ts) {value : List WrittenCall}
    {within : rest.length < ts.length + 1}
    (found : readCalls source ts = .ok ⟨value, rest, within⟩) :
    ∃ calls own, ts = own ++ rest ∧ CallsSpelled calls own rest.head? ∧
      calls.map Call.call = value := by
  induction ts using readCalls.induct generalizing value rest with
  | case1 =>
      rw [readCalls] at found
      cases found
      refine ⟨[], [], rfl, .nil ?_, rfl⟩
      intro t first
      cases first
  | case2 bar mark =>
      rw [readCalls, if_pos mark] at found
      cases found
  | case3 bar mark name behind kind ih =>
      rw [readCalls, if_pos mark] at found
      simp only [if_pos kind] at found
      obtain ⟨⟨argument, left, shorter⟩, first, found⟩ := bind_eq_ok.mp found
      obtain ⟨⟨others, last, _⟩, next, same⟩ := bind_eq_ok.mp found
      have lexeme : Token.Lexeme .name name.text := by
        rw [← kind]
        exact part.lexeme (by simp only [List.mem_cons, true_or, or_true])
      rcases readArgument_sound part.tail.tail first with
        ⟨rfl, rfl, noColon⟩ | ⟨operand, colon, own, rfl, colonMark, spelled, rfl⟩
      · obtain ⟨calls, used, rfl, chain, rfl⟩ := ih ⟨_, _, shorter⟩ part.tail.tail next
        cases same
        rw [List.head?_append] at noColon
        exact ⟨⟨⟨name.text, lexeme⟩, none⟩ :: calls, bar :: name :: used, rfl,
          .plain mark kind rfl noColon chain, rfl⟩
      · obtain ⟨calls, used, rfl, chain, rfl⟩ :=
          ih ⟨_, _, shorter⟩ part.tail.tail.tail.behind next
        cases same
        rw [List.head?_append] at spelled
        refine ⟨⟨⟨name.text, lexeme⟩, some operand⟩ :: calls,
          bar :: name :: colon :: (own ++ used), ?_,
          .argument mark kind rfl colonMark spelled chain, rfl⟩
        simp only [List.cons_append, List.append_assoc]
  | case4 bar mark name behind kind =>
      rw [readCalls, if_pos mark] at found
      simp only [if_neg kind] at found
      cases found
  | case5 t behind other =>
      rw [readCalls.eq_def] at found
      simp only [if_neg other] at found
      cases found
      exact ⟨[], [], rfl, .nil (noMark_cons other), rfl⟩

theorem readFilters_sound (part : Part source ts) {value : List AppliedFilter}
    {within : rest.length < ts.length + 1}
    (found : readFilters source ts = .ok ⟨value, rest, within⟩) :
    ∃ calls own, ts = own ++ rest ∧ CallsSpelled calls own rest.head? ∧
      filters calls = .ok value := by
  obtain ⟨⟨calls, left, _⟩, first, found⟩ := bind_eq_ok.mp found
  obtain ⟨arguments, compiled, found⟩ := bind_eq_ok.mp found
  obtain ⟨applied, known, same⟩ := bind_eq_ok.mp found
  obtain ⟨written, own, rfl, spelled, rfl⟩ := readCalls_sound part first
  cases same
  refine ⟨written, own, rfl, spelled, ?_⟩
  rw [filters, compiled, ok_bind]
  exact known

/-! ## Plain values -/

theorem readOperations_sound (part : Part source ts) {value : List (Operator × FilterExpr)}
    {within : rest.length < ts.length + 1}
    (found : readOperations source ts = .ok ⟨value, rest, within⟩) :
    ∃ others own, ts = own ++ rest ∧ OperationsSpelled others own rest.head? ∧
      operations others = .ok value := by
  induction ts using readOperations.induct generalizing rest value with
  | case1 =>
      rw [readOperations] at found
      cases found
      refine ⟨[], [], rfl, .nil ?_, rfl⟩
      intro t first
      cases first
  | case2 t behind other =>
      rw [readOperations] at found
      simp only [other] at found
      cases found
      refine ⟨[], [], rfl, .nil ?_, rfl⟩
      intro u first
      obtain rfl := Option.some.inj first
      exact other
  | case3 t behind operator mark ih =>
      rw [readOperations] at found
      simp only [mark] at found
      obtain ⟨⟨operand, left, shorter⟩, first, found⟩ := bind_eq_ok.mp found
      obtain ⟨compiled, value, found⟩ := bind_eq_ok.mp found
      obtain ⟨⟨others, last, _⟩, next, same⟩ := bind_eq_ok.mp found
      obtain ⟨operand, own, rfl, spelled, rfl⟩ := readOperand_sound part.tail first
      obtain ⟨written, used, rfl, chain, values⟩ := ih ⟨_, _, shorter⟩ part.tail.behind next
      cases same
      rw [List.head?_append] at spelled
      refine ⟨(operator, operand) :: written, t :: (own ++ used), ?_, .cons mark spelled chain, ?_⟩
      · simp only [List.cons_append, List.append_assoc]
      · rw [operations, value, ok_bind, values]
        rfl

theorem readPlain_sound (part : Part source ts) {value : ElementTags.Term}
    {within : rest.length < ts.length} (found : readPlain source ts = .ok ⟨value, rest, within⟩) :
    ∃ term own, ts = own ++ rest ∧ Written.Term.Spelled source term own rest.head? ∧
      term.meaning = .ok value := by
  obtain ⟨⟨operand, left, _⟩, first, found⟩ := bind_eq_ok.mp found
  obtain ⟨operand, own, rfl, spelled, rfl⟩ := readOperand_sound part first
  split at found
  · rename_i joined
    obtain ⟨compiled, value, found⟩ := bind_eq_ok.mp found
    obtain ⟨⟨_, behind, _⟩, next, found⟩ := bind_eq_ok.mp found
    obtain ⟨⟨_, last, _⟩, applied, same⟩ := bind_eq_ok.mp found
    obtain ⟨others, middle, rfl, operators, values⟩ := readOperations_sound part.behind next
    obtain ⟨calls, used, rfl, chain, applied⟩ := readFilters_sound part.behind.behind applied
    cases same
    have some : others ≠ [] := by
      rintro rfl
      cases operators with
      | nil ended =>
          have single := startsWithOperator_eq_false_iff.mpr ended
          exact absurd joined (ne_true_of_eq_false single)
    have inner : (middle ++ (used ++ last)).head? = middle.head? := by
      cases operators with
      | nil => exact absurd rfl some
      | cons => rfl
    rw [List.head?_append] at operators
    rw [inner] at spelled
    refine ⟨.joined operand others some calls, own ++ (middle ++ used), ?_,
      .joined spelled operators chain, ?_⟩
    · simp only [List.append_assoc]
    · rw [Term.meaning, value, ok_bind, values, ok_bind, applied]
      rfl
  · rename_i single
    obtain ⟨⟨_, last, _⟩, next, found⟩ := bind_eq_ok.mp found
    obtain ⟨compiled, value, same⟩ := bind_eq_ok.mp found
    obtain ⟨calls, used, rfl, chain, rfl⟩ := readCalls_sound part.behind next
    cases same
    have noOperator := startsWithOperator_eq_false_iff.mp (eq_false_of_ne_true single)
    rw [List.head?_append] at spelled noOperator
    refine ⟨.plain operand calls, own ++ used, ?_, .plain spelled noOperator chain, ?_⟩
    · simp only [List.append_assoc]
    · rw [List.flatMap_map] at value
      rw [Term.meaning]
      exact bind_eq_ok.mpr ⟨compiled, value, rfl⟩

/-! ## Expressions in parentheses -/

/-- Code behind a parenthesis is the text up to the one that closes it. -/
theorem readCode_sound {paren : Token} (part : Part source (paren :: ts)) {value : Text}
    {within : rest.length < ts.length}
    (found : readCode source paren ts = .ok ⟨value, rest, within⟩) :
    ∃ (code : Code) (inner : List Token) (close : Token), ts = inner ++ close :: rest ∧
      Balanced inner ∧ close.isMark ')' = true ∧
      codeBetween source paren.stop close.start = code.text ∧ code.text = value := by
  unfold readCode at found
  split at found
  · cases found
  · rename_i close behind closed
    obtain ⟨inner, rfl, -, balanced⟩ := closing?_eq_some_iff.mp closed
    dsimp only at found
    split at found
    · rename_i proper
      cases found
      rw [Bool.and_eq_true, Bool.not_eq_true', List.isEmpty_eq_false_iff] at proper
      obtain ⟨mark, nonempty⟩ := proper
      have balanced : Balanced inner := closed_zero_iff.mp balanced
      have segments := part.between.strip
      rw [← Nat.zero_add (paren.stop + _)] at segments
      obtain ⟨origin, scanned, rfl⟩ := segments.unshift
      exact ⟨⟨codeBetween source paren.stop close.start, nonempty, Text.strip_strip _, origin,
        scanned.scanFrom_eq, balanced_map_shift.mp balanced⟩, _, close, rfl, balanced, mark,
        rfl, rfl⟩
    · cases found

/-! ## Values -/

theorem readColon_sound {key value : Text} {within : rest.length < ts.length + 1}
    (found : readPairKey.readColon source key ts = .ok ⟨value, rest, within⟩) :
    ∃ colon, ts = colon :: rest ∧ colon.isMark ':' = true ∧ key = value := by
  unfold readPairKey.readColon at found
  split at found
  · rename_i colon behind
    split at found
    · rename_i mark
      cases found
      exact ⟨colon, rfl, mark, rfl⟩
    · cases found
  · cases found

theorem readPairKey_sound (part : Part source ts) {value : Text} {within : rest.length < ts.length}
    (found : readPairKey source ts = .ok ⟨value, rest, within⟩) :
    ∃ (key : PairKey) (t colon : Token), ts = t :: colon :: rest ∧ key.Spelled t ∧
      colon.isMark ':' = true ∧ key.key = value := by
  unfold readPairKey at found
  split at found
  · cases found
  · rename_i t behind
    split at found
    · cases found
    · rename_i kind
      obtain ⟨colon, rfl, mark, rfl⟩ := readColon_sound found
      exact ⟨.quoted _, t, colon, rfl, .quoted kind rfl, mark, rfl⟩
    · rename_i kind
      obtain ⟨colon, rfl, mark, rfl⟩ := readColon_sound found
      have lexeme : Token.Lexeme .name t.text := by
        rw [← kind]
        exact part.lexeme List.mem_cons_self
      exact ⟨.bare ⟨t.text, lexeme⟩, t, colon, rfl, .bare kind rfl, mark, rfl⟩

theorem readComma_sound {close : Char} {value : Unit} {within : rest.length < ts.length + 1}
    (found : readComma source close ts = .ok ⟨value, rest, within⟩) :
    (∃ comma, ts = comma :: rest ∧ comma.isMark ',' = true) ∨
      (ts = rest ∧ ∃ t others, ts = t :: others ∧ t.isMark close = true) := by
  unfold readComma at found
  split at found
  · cases found
  · rename_i t behind
    split at found
    · rename_i mark
      cases found
      exact .inl ⟨t, rfl, mark⟩
    · split at found
      · rename_i mark
        cases found
        exact .inr ⟨rfl, t, behind, rfl, mark⟩
      · cases found

/-- What it says for a value to be spelled by the tokens that are read. -/
def TermSound (source : Text) (ts : List Token) : Prop :=
  Part source ts → ∀ {value : ElementTags.Term} {rest : List Token}
    {within : rest.length < ts.length}, readTerm source ts = .ok ⟨value, rest, within⟩ →
    ∃ term own, ts = own ++ rest ∧ Written.Term.Spelled source term own rest.head? ∧
      term.meaning = .ok value

/-- What it says for items to be spelled by the tokens in front of the closing bracket. -/
def ItemsSound (source : Text) (ts : List Token) : Prop :=
  Part source ts → ∀ {value : List ElementTags.Term} {rest : List Token}
    {within : rest.length < ts.length}, readItems source ts = .ok ⟨value, rest, within⟩ →
    ∃ items inner closing, ts = inner ++ closing :: rest ∧
      ItemsSpelled source items inner closing ∧ closing.isMark ']' = true ∧
      itemsMeaning items = .ok value

/-- What it says for pairs to be spelled by the tokens in front of the closing brace. -/
def PairsSound (source : Text) (ts : List Token) : Prop :=
  Part source ts → ∀ {value : List (Text × ElementTags.Term)} {rest : List Token}
    {within : rest.length < ts.length}, readPairs source ts = .ok ⟨value, rest, within⟩ →
    ∃ pairs inner closing, ts = inner ++ closing :: rest ∧
      PairsSpelled source pairs inner closing ∧ closing.isMark '\x7d' = true ∧
      pairsMeaning pairs = .ok value

theorem termSound_list {t : Token} (mark : t.isMark '[' = true) (inside : ItemsSound source ts) :
    TermSound source (t :: ts) := by
  intro part value rest within found
  rw [readTerm, if_pos mark] at found
  obtain ⟨⟨_, behind, _⟩, next, found⟩ := bind_eq_ok.mp found
  obtain ⟨⟨_, last, _⟩, applied, same⟩ := bind_eq_ok.mp found
  obtain ⟨items, inner, closing, rfl, spelled, closeMark, values⟩ := inside part.tail next
  obtain ⟨calls, used, rfl, chain, applied⟩ := readFilters_sound part.tail.behind.tail applied
  cases same
  refine ⟨.list items calls, t :: (inner ++ closing :: used), ?_,
    .list mark spelled closeMark chain, ?_⟩
  · simp only [List.cons_append, List.append_assoc]
  · rw [Term.meaning, values, ok_bind, applied]
    rfl

theorem termSound_dict {t : Token} (mark : t.isMark '\x7b' = true)
    (inside : PairsSound source ts) : TermSound source (t :: ts) := by
  intro part value rest within found
  have other : ¬t.isMark '[' = true := ne_true_of_eq_false (isMark_of_ne mark (by decide))
  rw [readTerm, if_neg other, if_pos mark] at found
  obtain ⟨⟨_, behind, _⟩, next, found⟩ := bind_eq_ok.mp found
  obtain ⟨⟨_, last, _⟩, applied, same⟩ := bind_eq_ok.mp found
  obtain ⟨pairs, inner, closing, rfl, spelled, closeMark, values⟩ := inside part.tail next
  obtain ⟨calls, used, rfl, chain, applied⟩ := readFilters_sound part.tail.behind.tail applied
  cases same
  refine ⟨.dict pairs calls, t :: (inner ++ closing :: used), ?_,
    .dict mark spelled closeMark chain, ?_⟩
  · simp only [List.cons_append, List.append_assoc]
  · rw [Term.meaning, values, ok_bind, applied]
    rfl

theorem termSound_parenthesized {t : Token} (mark : t.isMark '(' = true) :
    TermSound source (t :: ts) := by
  intro part value rest within found
  have noList : ¬t.isMark '[' = true := ne_true_of_eq_false (isMark_of_ne mark (by decide))
  have noDict : ¬t.isMark '\x7b' = true := ne_true_of_eq_false (isMark_of_ne mark (by decide))
  rw [readTerm, if_neg noList, if_neg noDict, if_pos mark] at found
  obtain ⟨⟨_, behind, _⟩, next, found⟩ := bind_eq_ok.mp found
  obtain ⟨⟨_, last, _⟩, applied, same⟩ := bind_eq_ok.mp found
  obtain ⟨code, inner, closing, rfl, balanced, closeMark, text, rfl⟩ := readCode_sound part next
  obtain ⟨calls, used, rfl, chain, applied⟩ := readFilters_sound part.tail.behind.tail applied
  cases same
  refine ⟨.parenthesized code calls, t :: (inner ++ closing :: used), ?_,
    .parenthesized mark balanced closeMark text chain, ?_⟩
  · simp only [List.cons_append, List.append_assoc]
  · rw [Term.meaning, applied]
    rfl

/-- An item is read with the comma behind it, unless the closing bracket follows. -/
theorem itemsSound_cons {t : Token} (other : ¬t.isMark ']' = true)
    (item : TermSound source (t :: ts))
    (others : ∀ (item : Read ElementTags.Term (t :: ts).length)
      (comma : Read Unit (item.rest.length + 1)), ItemsSound source comma.rest) :
    ItemsSound source (t :: ts) := by
  intro part value rest within found
  rw [readItems, if_neg other] at found
  obtain ⟨⟨v, behind, shorter⟩, first, found⟩ := bind_eq_ok.mp found
  obtain ⟨⟨_, left, less⟩, comma, found⟩ := bind_eq_ok.mp found
  obtain ⟨⟨_, last, _⟩, next, same⟩ := bind_eq_ok.mp found
  obtain ⟨term, own, split, spelled, value⟩ := item part first
  have further : ItemsSound source left := others ⟨v, behind, shorter⟩ ⟨(), left, less⟩
  rw [split] at part
  rcases readComma_sound comma with ⟨separator, rfl, mark⟩ | ⟨rfl, close, remaining, rfl, closeMark⟩
  · obtain ⟨items, inner, closing, rfl, more, closeMark, values⟩ := further part.behind.tail next
    cases same
    rw [List.head?_cons] at spelled
    refine ⟨term :: items, own ++ separator :: inner, closing, ?_, .cons spelled mark more,
      closeMark, ?_⟩
    · simp only [split, List.cons_append, List.append_assoc]
    · rw [itemsMeaning, value, ok_bind, values]
      rfl
  · rw [readItems, if_pos closeMark] at next
    cases next
    cases same
    refine ⟨[term], own, close, split, .last spelled, closeMark, ?_⟩
    rw [itemsMeaning, value, ok_bind]
    rfl

/-- A pair is read with the comma behind it, unless the closing brace follows. -/
theorem pairsSound_cons {t : Token} (other : ¬t.isMark '\x7d' = true)
    (item : ∀ key : Read Text (t :: ts).length, TermSound source key.rest)
    (others : ∀ (key : Read Text (t :: ts).length) (value : Read ElementTags.Term key.rest.length)
      (comma : Read Unit (value.rest.length + 1)), PairsSound source comma.rest) :
    PairsSound source (t :: ts) := by
  intro part value rest within found
  rw [readPairs, if_neg other] at found
  obtain ⟨⟨k, valued, lead⟩, keyed, found⟩ := bind_eq_ok.mp found
  obtain ⟨⟨v, behind, shorter⟩, first, found⟩ := bind_eq_ok.mp found
  obtain ⟨⟨_, left, less⟩, comma, found⟩ := bind_eq_ok.mp found
  obtain ⟨⟨_, last, _⟩, next, same⟩ := bind_eq_ok.mp found
  have item : TermSound source valued := item ⟨k, valued, lead⟩
  have further : PairsSound source left :=
    others ⟨k, valued, lead⟩ ⟨v, behind, shorter⟩ ⟨(), left, less⟩
  obtain ⟨key, keyToken, colon, split, keySpelled, colonMark, rfl⟩ := readPairKey_sound part keyed
  rw [split] at part
  obtain ⟨term, own, rfl, spelled, value⟩ := item part.tail.tail first
  rcases readComma_sound comma with ⟨separator, rfl, mark⟩ | ⟨rfl, close, remaining, rfl, closeMark⟩
  · obtain ⟨pairs, inner, closing, rfl, more, closeMark, values⟩ :=
      further part.tail.tail.behind.tail next
    cases same
    rw [List.head?_cons] at spelled
    refine ⟨(key, term) :: pairs, keyToken :: colon :: (own ++ separator :: inner), closing, ?_,
      .cons keySpelled colonMark spelled mark more, closeMark, ?_⟩
    · simp only [split, List.cons_append, List.append_assoc]
    · rw [pairsMeaning, value, ok_bind, values]
      rfl
  · rw [readPairs, if_pos closeMark] at next
    cases next
    cases same
    refine ⟨[(key, term)], keyToken :: colon :: own, close, split,
      .last keySpelled colonMark spelled, closeMark, ?_⟩
    rw [pairsMeaning, value, ok_bind]
    rfl

theorem terms_sound (source : Text) : (∀ ts, TermSound source ts) ∧
    (∀ ts, PairsSound source ts) ∧ ∀ ts, ItemsSound source ts := by
  refine readTerm.mutual_induct (TermSound source) (PairsSound source) (ItemsSound source)
    ?_ ?_ ?_ ?_ ?_ ?_ ?_ ?_ ?_ ?_ ?_
  · intro _ value rest within found
    rw [readTerm] at found
    cases found
  · exact fun _ _ mark items => termSound_list mark items
  · exact fun _ _ _ mark pairs => termSound_dict mark pairs
  · exact fun _ _ _ _ mark => termSound_parenthesized mark
  · intro t ts noList noDict noCode part value rest within found
    rw [readTerm, if_neg noList, if_neg noDict, if_neg noCode] at found
    exact readPlain_sound part found
  · intro _ value rest within found
    rw [readPairs] at found
    cases found
  · intro t ts mark _ value rest within found
    rw [readPairs, if_pos mark] at found
    cases found
    exact ⟨[], [], t, rfl, .nil, mark, rfl⟩
  · exact fun _ _ other item others => pairsSound_cons other item others
  · intro _ value rest within found
    rw [readItems] at found
    cases found
  · intro t ts mark _ value rest within found
    rw [readItems, if_pos mark] at found
    cases found
    exact ⟨[], [], t, rfl, .nil, mark, rfl⟩
  · exact fun _ _ other item others => itemsSound_cons other item others

/-- A value that is read is spelled by the tokens that were read. -/
theorem readTerm_sound (part : Part source ts) {value : ElementTags.Term}
    {within : rest.length < ts.length} (found : readTerm source ts = .ok ⟨value, rest, within⟩) :
    ∃ term own, ts = own ++ rest ∧ Written.Term.Spelled source term own rest.head? ∧
      term.meaning = .ok value :=
  (terms_sound source).1 ts part found

/-! ## Entries -/

/-- The hyphens and names that are read continue the name in front of them, and nothing else that
touches them could. -/
theorem scanHyphens_sound {last : Token} (part : Part source ts) {more : Text}
    (found : scanHyphens last ts = .ok (more, rest)) :
    ∃ words own final, ts = own ++ rest ∧ HyphensSpelled last words own final ∧
      NameEnds final rest.head? ∧ more = words.flatMap ('-' :: ·.text) := by
  induction last, ts using scanHyphens.induct generalizing more rest with
  | case1 last =>
      rw [scanHyphens] at found
      cases found
      refine ⟨[], [], last, rfl, .nil, ?_, rfl⟩
      intro t first
      cases first
  | case2 last hyphen mark =>
      rw [scanHyphens, if_pos mark] at found
      cases found
  | case3 last hyphen mark part behind apart =>
      rw [scanHyphens, if_pos mark] at found
      simp only [if_pos apart] at found
      cases found
  | case4 last hyphen mark part behind adjacent quoted =>
      rw [scanHyphens, if_pos mark] at found
      simp only [if_neg adjacent, if_pos quoted] at found
      cases found
  | case5 last hyphen mark name behind adjacent notQuoted ih =>
      rw [scanHyphens, if_pos mark] at found
      simp only [if_neg adjacent, if_neg notQuoted] at found
      obtain ⟨⟨others, left⟩, next, same⟩ := map_eq_ok.mp found
      cases same
      obtain ⟨words, own, final, rfl, spelled, ended, rfl⟩ := ih part.tail.tail next
      simp only [Bool.and_eq_true, Bool.or_eq_true, Bool.not_eq_true', decide_eq_true_eq,
        not_or, Bool.not_eq_false] at mark adjacent
      have kind : name.kind = .name := by
        cases kind : name.kind with
        | mark => exact absurd kind adjacent.2
        | quoted => exact absurd kind notQuoted
        | name => rfl
      have lexeme : Token.Lexeme .name name.text := by
        rw [← kind]
        exact part.lexeme (by simp only [List.mem_cons, true_or, or_true])
      exact ⟨⟨name.text, lexeme⟩ :: words, hyphen :: name :: own, final, rfl,
        .cons mark.1 mark.2 adjacent.1 kind rfl spelled, ended, rfl⟩
  | case6 last t behind other =>
      rw [scanHyphens.eq_def] at found
      simp only [if_neg other] at found
      obtain ⟨_, passed, same⟩ := map_eq_ok.mp found
      cases same
      refine ⟨[], [], last, rfl, .nil, ?_, rfl⟩
      intro u first touching
      refine ⟨?_, checkBehindName_eq_ok_iff.mp passed u first touching⟩
      obtain rfl := Option.some.inj first
      exact eq_false_of_ne_true fun hyphen => other (by rw [hyphen, touching]; rfl)

/-- A key is spelled by the tokens in front of an equals sign. -/
theorem keyCandidate_sound {first : Token} (part : Part source (first :: ts))
    (starts : mayBeKey first ts = true) {k : KeyCandidate} (found : keyCandidate first ts = .ok k) :
    (first.kind = .quoted ∧ k = ⟨Text.unquote first.text, false, ts⟩ ∧
      ∀ t ∈ ts.head?, first.touches t = true → t.kind = .mark ∧ t.isMark '-' = false) ∨
    ∃ (name : Hyphenated) (own : List Token), ts = own ++ k.rest ∧
      name.Spelled (first :: own) k.rest.head? ∧
      k.key = name.text ∧ k.hasHyphens = decide (name.others ≠ []) ∧
      (name.others = [] → own = []) := by
  unfold keyCandidate at found
  split at found
  · rename_i quoted
    obtain ⟨_, passed, rfl⟩ := map_eq_ok.mp found
    exact .inl ⟨quoted, rfl, checkBehindQuoted_eq_ok_iff.mp passed⟩
  · rename_i notQuoted
    obtain ⟨⟨more, left⟩, scanned, rfl⟩ := map_eq_ok.mp found
    obtain ⟨words, own, final, rfl, spelled, ended, rfl⟩ := scanHyphens_sound part.tail scanned
    have kind : first.kind = .name := by
      simp only [mayBeKey, notQuoted, decide_false, Bool.false_or, Bool.and_eq_true,
        decide_eq_true_eq] at starts
      exact starts.1
    have lexeme : Token.Lexeme .name first.text := by
      rw [← kind]
      exact part.lexeme List.mem_cons_self
    refine .inr ⟨⟨⟨first.text, lexeme⟩, words⟩, own, rfl, .mk kind rfl spelled ended, rfl, ?_, ?_⟩
    · cases words with
      | nil => rfl
      | cons word words => rfl
    · rintro rfl
      cases spelled
      rfl

/-- What has no key is a value. -/
theorem readEntry_positional_sound {first : Token} (part : Part source (first :: ts))
    {value : ElementTags.Entry} {within : rest.length < ts.length + 1}
    (found : readEntry.positional source first ts = .ok ⟨value, rest, within⟩)
    (noKey : NotKey first ts.head?) :
    ∃ (entry : Written.Entry) (own : List Token), ts = own ++ rest ∧
      entry.Spelled source (first :: own) rest.head? ∧ entry.meaning first.start = .ok value := by
  obtain ⟨⟨term, left, less⟩, inner, same⟩ := map_eq_ok.mp found
  obtain ⟨written, used, split, spelled, means⟩ := readTerm_sound part inner
  cases same
  cases used with
  | nil =>
      rw [List.nil_append] at split
      rw [split] at less
      exact absurd less (Nat.lt_irrefl _)
  | cons t own =>
      have same : first = t := (List.cons.inj split).1
      have behind : ts = own ++ left := (List.cons.inj split).2
      subst same
      rw [behind, List.head?_append] at noKey
      refine ⟨.positional written, own, behind, .positional spelled noKey, ?_⟩
      rw [Written.Entry.meaning, means]
      rfl

/-- What could be a key and stands in front of no equals sign is a name with hyphens or a value. -/
theorem readEntry_notKey_sound {first : Token} (part : Part source (first :: ts))
    (starts : mayBeKey first ts = true) {k : KeyCandidate}
    (candidate : keyCandidate first ts = .ok k)
    (noEquals : NoMark '=' k.rest.head?) {value : ElementTags.Entry}
    {within : rest.length < ts.length + 1}
    (found : readEntry.notKey source first ts k candidate = .ok ⟨value, rest, within⟩) :
    ∃ (entry : Written.Entry) (own : List Token), ts = own ++ rest ∧
      entry.Spelled source (first :: own) rest.head? ∧ entry.meaning first.start = .ok value := by
  unfold readEntry.notKey at found
  rcases keyCandidate_sound part starts candidate with
    ⟨quoted, rfl, apart⟩ | ⟨name, own, split, spelled, key, hyphens, single⟩
  · rw [if_neg Bool.false_ne_true] at found
    refine readEntry_positional_sound part found fun _ t next => ⟨noEquals t next, ?_⟩
    intro touching
    obtain ⟨mark, noHyphen⟩ := apart t next touching
    exact ⟨noHyphen, kind_ne mark (by decide), fun _ => mark⟩
  · rw [hyphens] at found
    by_cases others : name.others = []
    · rw [single others, List.nil_append] at split
      rw [if_neg (by rw [others]; decide)] at found
      refine readEntry_positional_sound part found fun _ t next => ?_
      rw [split] at next
      refine ⟨noEquals t next, fun touching => ?_⟩
      cases spelled with
      | mk kind text behind ended =>
          rw [others] at behind
          rw [single others] at behind
          cases behind
          obtain ⟨noHyphen, notQuoted⟩ := ended t next touching
          exact ⟨noHyphen, notQuoted, fun quoted => by rw [kind] at quoted; cases quoted⟩
    · rw [if_pos (decide_eq_true others)] at found
      cases found
      refine ⟨.lookup name others, own, split, .lookup spelled noEquals, ?_⟩
      rw [key]
      rfl

theorem readEntry_keyword_sound {first equals : Token} (part : Part source (first :: ts))
    (starts : mayBeKey first ts = true) {k : KeyCandidate}
    (candidate : keyCandidate first ts = .ok k) {behind : List Token}
    (next : k.rest = equals :: behind) (mark : equals.isMark '=' = true)
    {value : ElementTags.Term} {within : rest.length < behind.length}
    (found : readTerm source behind = .ok ⟨value, rest, within⟩) :
    ∃ (entry : Written.Entry) (own : List Token), ts = own ++ rest ∧
      entry.Spelled source (first :: own) rest.head? ∧
      entry.meaning first.start = .ok (.keyword first.start k.key value) := by
  rcases keyCandidate_sound part starts candidate with
    ⟨quoted, rfl, -⟩ | ⟨name, own, split, spelled, key, -⟩
  · dsimp only at next
    rw [next] at part ⊢
    obtain ⟨written, used, rfl, spelled, means⟩ := readTerm_sound part.tail.tail found
    refine ⟨.keyword (.quoted _) written, equals :: used, rfl,
      .keyword (.quoted quoted rfl) mark spelled, ?_⟩
    rw [Written.Entry.meaning, means]
    rfl
  · rw [next] at split spelled
    rw [split] at part
    obtain ⟨written, used, rfl, spelledValue, means⟩ :=
      readTerm_sound part.tail.behind.tail found
    refine ⟨.keyword (.bare name) written, own ++ equals :: used, ?_,
      .keyword (.bare spelled) mark spelledValue, ?_⟩
    · rw [split, List.append_assoc]
      rfl
    · rw [Written.Entry.meaning, means, Key.key, key]
      rfl

/-- An attribute that is read is spelled by the tokens that were read. -/
theorem readEntry_sound {first : Token} (part : Part source (first :: ts))
    {value : ElementTags.Entry} {within : rest.length < ts.length + 1}
    (found : readEntry source first ts = .ok ⟨value, rest, within⟩) :
    ∃ (entry : Written.Entry) (own : List Token), ts = own ++ rest ∧
      entry.Spelled source (first :: own) rest.head? ∧ entry.meaning first.start = .ok value := by
  unfold readEntry at found
  split at found
  · rename_i starts
    split at found
    · cases found
    · rename_i k candidate
      split at found
      · rename_i equals behind next
        split at found
        · rename_i mark
          obtain ⟨⟨term, left, less⟩, inner, same⟩ := map_eq_ok.mp found
          cases same
          exact readEntry_keyword_sound part starts candidate next mark inner
        · rename_i noMark
          exact readEntry_notKey_sound part starts candidate
            (by rw [next]; exact noMark_cons noMark) found
      · rename_i next
        refine readEntry_notKey_sound part starts candidate ?_ found
        rw [next]
        intro t none
        cases none
  · rename_i noKey
    split at found
    · refine readEntry_positional_sound part found fun other t next => ?_
      simp only [mayBeKey, Bool.or_eq_true, Bool.and_eq_true, decide_eq_true_eq, not_or,
        not_and, Option.isNone_iff_eq_none] at noKey
      obtain ⟨notQuoted, localized⟩ := noKey
      have kind : first.kind = .name := by
        cases kind : first.kind with
        | mark => exact absurd kind other
        | quoted => exact absurd kind notQuoted
        | name => rfl
      obtain ⟨behind, found⟩ := Option.ne_none_iff_exists'.mp (localized kind)
      obtain ⟨name, paren, split, -, -, mark, -⟩ := localized?_eq_some_iff.mp found
      obtain ⟨rfl, rfl⟩ := List.cons.inj split
      obtain rfl := Option.some.inj next
      exact ⟨isMark_of_ne mark (by decide), fun _ => ⟨isMark_of_ne mark (by decide),
        kind_ne (kind_of_isMark mark) (by decide), fun _ => kind_of_isMark mark⟩⟩
    · cases found

/-- The entries that are read are spelled by the tokens. A comma may be left behind them. -/
theorem readEntries_sound (part : Part source ts) {entries : List ElementTags.Entry}
    (found : readEntries source ts = .ok entries) :
    ∃ written own final, ts = own ++ final ∧ Separator final ∧
      EntriesSpelled source written own final.head? ∧ entriesMeaning written = .ok entries := by
  induction ts using readEntries.induct generalizing entries with
  | case1 =>
      rw [readEntries] at found
      cases found
      exact ⟨[], [], [], rfl, .inl rfl, .nil, rfl⟩
  | case2 comma mark =>
      rw [readEntries, if_pos mark] at found
      cases found
      exact ⟨[], [], [comma], rfl, .inr ⟨comma, rfl, mark⟩, .nil, rfl⟩
  | case3 comma mark first behind ih =>
      rw [readEntries, if_pos mark] at found
      obtain ⟨⟨entry, left, less⟩, head, found⟩ := bind_eq_ok.mp found
      obtain ⟨others, next, same⟩ := bind_eq_ok.mp found
      cases same
      obtain ⟨written, own, rfl, spelled, means⟩ := readEntry_sound part.tail head
      obtain ⟨rest, tokens, final, rfl, separated, more, meanings⟩ :=
        ih ⟨_, _, less⟩ part.tail.tail.behind next
      rw [List.head?_append] at spelled
      refine ⟨(first.start, written) :: rest, [comma] ++ (first :: own ++ tokens), final, ?_,
        separated, .cons (.inr ⟨comma, rfl, mark⟩) spelled more, ?_⟩
      · simp only [List.cons_append, List.nil_append, List.append_assoc]
      · rw [entriesMeaning, means, ok_bind, meanings]
        rfl
  | case4 first behind other ih =>
      rw [readEntries.eq_def] at found
      simp only [if_neg other] at found
      obtain ⟨⟨entry, left, less⟩, head, found⟩ := bind_eq_ok.mp found
      obtain ⟨others, next, same⟩ := bind_eq_ok.mp found
      cases same
      obtain ⟨written, own, rfl, spelled, means⟩ := readEntry_sound part head
      obtain ⟨rest, tokens, final, rfl, separated, more, meanings⟩ :=
        ih ⟨_, _, less⟩ part.tail.behind next
      rw [List.head?_append] at spelled
      refine ⟨(first.start, written) :: rest, [] ++ (first :: own ++ tokens), final, ?_,
        separated, .cons (.inl rfl) spelled more, ?_⟩
      · simp only [List.cons_append, List.nil_append, List.append_assoc]
      · rw [entriesMeaning, means, ok_bind, meanings]
        rfl

end ElementTags.Attribute
