import ElementTags.Proofs.Lookahead
import ElementTags.Proofs.Spelling

/-! # What is spelled is read

The readers find the written form that some tokens spell, stop behind these tokens,
and give what the form means, be it a result or a fault
(`ElementTags.Attribute.readEntries_complete`). Induction is on the spelling, so
that each step has the token at hand at which the grammar looks ahead.
-/

namespace ElementTags.Attribute

open Outcome Token Written

variable {source : Text} {own tail : List Token} {next : Option Token}

/-- A certain value was read, and these tokens are left. -/
def Gives {α : Type} (tail : List Token) {n : Nat} (r : Read α n) (v : α) : Prop :=
  r.value = v ∧ r.rest = tail

/-! ## Operands and filters -/

/-- An operand starts with a name, a literal or a minus sign. -/
theorem operand_starts {operand : Written.Operand} (spelled : operand.Spelled own next) :
    ∃ first behind, own = first :: behind ∧ (first.kind ≠ .mark ∨ first.isMark '-' = true) := by
  cases spelled with
  | literal kind _ => exact ⟨_, _, rfl, .inl (kind_ne kind (by decide))⟩
  | name kind _ _ => exact ⟨_, _, rfl, .inl (kind_ne kind (by decide))⟩
  | negative mark _ _ _ => exact ⟨_, _, rfl, .inr mark⟩
  | localized kind _ _ _ _ _ _ =>
      exact ⟨_, _, rfl, .inl (kind_ne kind (by decide))⟩

theorem readLocalized_complete (source : Text) (tail : List Token) {literal close : Token}
    (kind : literal.kind = .quoted) (mark : close.isMark ')' = true) :
    ∃ within, readLocalized source (literal :: close :: tail) =
      .ok ⟨⟨'_' :: '(' :: literal.text ++ [')'], false⟩, tail, within⟩ := by
  refine ⟨by simp only [List.length_cons]; omega, ?_⟩
  simp only [readLocalized, if_pos kind, if_pos mark]

theorem readOperand_single (source : Text) (tail : List Token) {t : Token}
    (noMark : t.kind ≠ .mark) (plain : localized? (t :: tail) = none) :
    ∃ within, readOperand source (t :: tail) =
      .ok ⟨⟨t.text, decide (t.kind = .quoted)⟩, tail, within⟩ := by
  refine ⟨Nat.lt_succ_self _, ?_⟩
  rw [readOperand_cons (negative?_of_kind noMark) plain, if_neg noMark]

/-- An operand that is spelled is read. -/
theorem readOperand_complete (source : Text) {operand : Written.Operand}
    (spelled : operand.Spelled own tail.head?) :
    ∃ within, readOperand source (own ++ tail) = .ok ⟨operand.operand, tail, within⟩ := by
  cases spelled with
  | @literal word t _ kind text =>
      have single := readOperand_single source tail (t := t)
        (kind_ne kind (by decide))
        (localized?_of_kind (kind_ne kind (by decide)))
      rw [kind, text] at single
      exact single
  | @name word t _ kind text plain =>
      have notLocalized : localized? (t :: tail) = none := by
        rw [Option.eq_none_iff_forall_ne_some]
        intro rest found
        obtain ⟨name, paren, split, -, underscore, mark, adjacent⟩ :=
          localized?_eq_some_iff.mp found
        obtain ⟨rfl, rfl⟩ := List.cons.inj split
        rw [plain underscore paren rfl mark] at adjacent
        cases adjacent
      have single := readOperand_single source tail
        (kind_ne kind (by decide)) notLocalized
      rw [kind, text] at single
      exact single
  | @negative number sign t _ mark kind text adjacent =>
      have digit := number.digit
      rw [← text] at digit
      have found : negative? (sign :: t :: tail) = some (t, tail) :=
        negative?_eq_some_iff.mpr ⟨sign, rfl, mark, kind, digit, adjacent⟩
      rw [List.cons_append, List.singleton_append]
      refine ⟨negative?_length found, ?_⟩
      rw [readOperand_negative found, text]
      rfl
  | @localized word name paren t close _ nameKind nameText opening adjacent kind text closing =>
      have found : localized? (name :: paren :: t :: close :: tail) = some (t :: close :: tail) :=
        localized?_eq_some_iff.mpr ⟨name, paren, rfl, nameKind, nameText, opening, adjacent⟩
      have positive : negative? (name :: paren :: t :: close :: tail) = none :=
        negative?_of_kind (kind_ne nameKind (by decide))
      obtain ⟨within, read⟩ := readLocalized_complete source tail kind closing
      refine ⟨Nat.lt_trans within (localized?_length found), ?_⟩
      simp only [List.cons_append, List.nil_append]
      rw [readOperand_localized positive found, read, text]
      rfl

theorem readArgument_none (source : Text) (noColon : NoMark ':' tail.head?) :
    ∃ within, readArgument source tail = .ok ⟨none, tail, within⟩ := by
  refine ⟨Nat.lt_succ_self _, ?_⟩
  cases tail with
  | nil => rfl
  | cons t tail => simp only [readArgument, noColon t rfl, Bool.false_eq_true, if_false]

theorem readArgument_some (source : Text) {operand : Written.Operand} {colon : Token}
    (mark : colon.isMark ':' = true) (spelled : operand.Spelled own tail.head?) :
    ∃ within, readArgument source (colon :: (own ++ tail)) =
      .ok ⟨some operand.operand, tail, within⟩ := by
  obtain ⟨within, read⟩ := readOperand_complete source spelled
  refine ⟨by simp only [List.length_cons, List.length_append]; omega, ?_⟩
  simp only [readArgument, if_pos mark, read]
  rfl

/-- Filters that are spelled are read. -/
theorem readCalls_complete (source : Text) {calls : List Call}
    (spelled : CallsSpelled calls own next) (ahead : next = tail.head?) :
    ∃ within, readCalls source (own ++ tail) = .ok ⟨calls.map Call.call, tail, within⟩ := by
  induction spelled with
  | nil ended =>
      subst ahead
      refine ⟨Nat.lt_succ_self _, ?_⟩
      cases tail with
      | nil =>
          simp only [List.nil_append]
          rw [readCalls]
          rfl
      | cons t tail =>
          simp only [List.nil_append]
          rw [readCalls.eq_def]
          simp only [ended t rfl, Bool.false_eq_true, if_false, List.map_nil]
  | @plain word calls bar name tokens next mark kind text noArgument others ih =>
      subst ahead
      obtain ⟨less, rest⟩ := ih rfl
      rw [← List.head?_append] at noArgument
      obtain ⟨lesser, argument⟩ := readArgument_none source noArgument
      simp only [List.cons_append]
      refine ⟨by simp only [List.length_cons, List.length_append]; omega, ?_⟩
      rw [readCalls, if_pos mark]
      simp only [if_pos kind]
      rw [argument, ok_bind, rest, text]
      rfl
  | @argument word operand calls bar name colon inner tokens next mark kind text colonMark spelled
      others ih =>
      subst ahead
      obtain ⟨less, rest⟩ := ih rfl
      rw [← List.head?_append] at spelled
      obtain ⟨lesser, argument⟩ := readArgument_some source colonMark spelled
      rw [show bar :: name :: colon :: (inner ++ tokens) ++ tail =
        bar :: name :: colon :: (inner ++ (tokens ++ tail)) by
          simp only [List.cons_append, List.append_assoc]]
      refine ⟨by simp only [List.length_cons, List.length_append]; omega, ?_⟩
      rw [readCalls, if_pos mark]
      simp only [if_pos kind]
      rw [argument, ok_bind, rest, text]
      rfl

theorem readFilters_complete {calls : List Call} (spelled : CallsSpelled calls own tail.head?) :
    Related (Gives tail) Eq (readFilters source (own ++ tail)) (filters calls) := by
  obtain ⟨within, read⟩ := readCalls_complete source spelled rfl
  rw [readFilters, read, ok_bind]
  refine Related.bind (Related.refl _ fun _ _ => rfl) ?_
  rintro arguments _ rfl
  exact Related.mapped fun _ => ⟨rfl, rfl⟩

/-! ## Plain values -/

/-- Operators and operands that are spelled are read. -/
theorem readOperations_complete {others : List (Operator × Written.Operand)}
    (spelled : OperationsSpelled others own next) (ahead : next = tail.head?) :
    Related (Gives tail) Eq (readOperations source (own ++ tail)) (operations others) := by
  induction spelled with
  | nil ended =>
      subst ahead
      rw [List.nil_append]
      cases tail with
      | nil =>
          rw [readOperations]
          exact .ok ⟨rfl, rfl⟩
      | cons t tail =>
          rw [readOperations]
          simp only [ended t rfl]
          exact .ok ⟨rfl, rfl⟩
  | @cons operator operand rest t inner tokens next mark spelled others ih =>
      subst ahead
      rw [← List.head?_append] at spelled
      obtain ⟨within, read⟩ := readOperand_complete source spelled
      rw [List.cons_append, List.append_assoc, readOperations]
      simp only [mark]
      rw [read, ok_bind, operations]
      refine Related.bind (Related.refl _ fun _ _ => rfl) ?_
      rintro value _ rfl
      refine Related.bind (ih rfl) ?_
      rintro values _ ⟨rfl, left⟩
      exact .ok ⟨rfl, left⟩

theorem readPlain_single {operand : Written.Operand} {calls : List Call} {tokens : List Token}
    (spelled : operand.Spelled own (tokens.head?.or tail.head?))
    (single : NoOperator (tokens.head?.or tail.head?))
    (others : CallsSpelled calls tokens tail.head?) :
    Related (Gives tail) Eq (readPlain source (own ++ (tokens ++ tail)))
      (Written.Term.plain operand calls).meaning := by
  rw [← List.head?_append] at spelled single
  obtain ⟨_, read⟩ := readOperand_complete source spelled
  obtain ⟨_, chain⟩ := readCalls_complete source others rfl
  have stops : ¬startsWithOperator (tokens ++ tail) = true :=
    ne_true_of_eq_false (startsWithOperator_eq_false_iff.mpr single)
  rw [readPlain, read, ok_bind, if_neg stops, chain, ok_bind, Written.Term.meaning, callsText,
    List.flatMap_map]
  refine Related.bind (Related.refl _ fun _ _ => rfl) ?_
  rintro value _ rfl
  exact .ok ⟨rfl, rfl⟩

theorem readPlain_joined {first : Written.Operand} {rest : List (Operator × Written.Operand)}
    {some : rest ≠ []} {calls : List Call} {middle tokens : List Token}
    (spelled : first.Spelled own middle.head?)
    (operators : OperationsSpelled rest middle (tokens.head?.or tail.head?))
    (others : CallsSpelled calls tokens tail.head?) :
    Related (Gives tail) Eq (readPlain source (own ++ (middle ++ (tokens ++ tail))))
      (Written.Term.joined first rest some calls).meaning := by
  have starts : startsWithOperator (middle ++ (tokens ++ tail)) = true ∧
      (middle ++ (tokens ++ tail)).head? = middle.head? := by
    cases operators with
    | nil => exact absurd rfl some
    | cons mark _ _ => exact ⟨by rw [List.cons_append, startsWithOperator, mark]; rfl, rfl⟩
  rw [← starts.2] at spelled
  rw [← List.head?_append] at operators
  obtain ⟨_, read⟩ := readOperand_complete source spelled
  rw [readPlain, read, ok_bind, if_pos starts.1, Written.Term.meaning]
  refine Related.bind (Related.refl _ fun _ _ => rfl) ?_
  rintro value _ rfl
  refine Related.bind (readOperations_complete operators rfl) ?_
  rintro ⟨values, left, _⟩ _ ⟨rfl, rfl⟩
  refine Related.bind (readFilters_complete others) ?_
  rintro applied _ ⟨rfl, left⟩
  exact .ok ⟨rfl, left⟩

/-! ## Expressions in parentheses, pairs and commas -/

theorem readCode_complete (tail : List Token) {code : Code} {paren close : Token}
    {inner : List Token} (balanced : Balanced inner) (mark : close.isMark ')' = true)
    (text : codeBetween source paren.stop close.start = code.text) :
    ∃ within, readCode source paren (inner ++ close :: tail) = .ok ⟨code.text, tail, within⟩ := by
  have closing : closes close = true := by rw [closes, mark]; rfl
  have closed : closing? 0 (inner ++ close :: tail) = some (close, tail) :=
    closing?_eq_some_iff.mpr ⟨inner, rfl, closing, closed_zero_iff.mpr balanced⟩
  have nonempty : code.text.isEmpty = false := List.isEmpty_eq_false_iff.mpr code.nonempty
  refine ⟨closing?_length closed, ?_⟩
  unfold readCode
  split
  · rename_i none
    rw [closed] at none
    cases none
  · rename_i found
    rw [closed] at found
    cases found
    simp only [text, mark, nonempty, Bool.not_false, Bool.and_self, if_true]

theorem readPairKey_complete (source : Text) (tail : List Token) {key : PairKey} {t colon : Token}
    (spelled : key.Spelled t) (mark : colon.isMark ':' = true) :
    ∃ within, readPairKey source (t :: colon :: tail) = .ok ⟨key.key, tail, within⟩ := by
  refine ⟨by simp only [List.length_cons]; omega, ?_⟩
  unfold readPairKey
  cases spelled with
  | quoted kind text => simp only [kind, readPairKey.readColon, if_pos mark, text, PairKey.key]
  | bare kind text => simp only [kind, readPairKey.readColon, if_pos mark, text, PairKey.key]

/-- The key of a pair is no mark. -/
theorem pairKey_starts {key : PairKey} {t : Token} (spelled : key.Spelled t) {c : Char} :
    ¬t.isMark c = true := by
  cases spelled with
  | quoted kind _ =>
      exact ne_true_of_eq_false (isMark_of_kind (kind_ne kind (by decide)) c)
  | bare kind _ =>
      exact ne_true_of_eq_false (isMark_of_kind (kind_ne kind (by decide)) c)

theorem readComma_comma (source : Text) (tail : List Token) {t : Token}
    (mark : t.isMark ',' = true) (close : Char) :
    ∃ within, readComma source close (t :: tail) = .ok ⟨(), tail, within⟩ := by
  refine ⟨by simp only [List.length_cons]; omega, ?_⟩
  simp only [readComma, if_pos mark]

theorem readComma_close (source : Text) (tail : List Token) {t : Token} {close : Char}
    (mark : t.isMark close = true) (other : close ≠ ',') :
    ∃ within, readComma source close (t :: tail) = .ok ⟨(), t :: tail, within⟩ := by
  refine ⟨Nat.lt_succ_self _, ?_⟩
  simp only [readComma, if_neg (ne_true_of_eq_false (isMark_of_ne mark other)), if_pos mark]

/-! ## Values -/

/-- What starts an operand opens no bracket. -/
theorem readTerm_operand {t : Token} {ts : List Token}
    (starts : t.kind ≠ .mark ∨ t.isMark '-' = true) :
    readTerm source (t :: ts) = readPlain source (t :: ts) := by
  have other (c : Char) (bracket : '-' ≠ c) : ¬t.isMark c = true := by
    rcases starts with kind | hyphen
    · exact ne_true_of_eq_false (isMark_of_kind kind c)
    · exact ne_true_of_eq_false (isMark_of_ne hyphen bracket)
  rw [readTerm, if_neg (other '[' (by decide)), if_neg (other '\x7b' (by decide)),
    if_neg (other '(' (by decide))]

/-- A term starts with what starts an operand, or with an opening bracket. -/
theorem term_starts {term : Written.Term} (spelled : term.Spelled source own next) :
    ∃ first behind, own = first :: behind ∧
      (first.kind ≠ .mark ∨ first.isMark '-' = true ∨ opens first = true) := by
  cases spelled with
  | plain spelled _ _ =>
      obtain ⟨first, behind, rfl, starts⟩ := operand_starts spelled
      exact ⟨first, _, rfl, starts.imp_right .inl⟩
  | joined spelled _ _ =>
      obtain ⟨first, behind, rfl, starts⟩ := operand_starts spelled
      exact ⟨first, _, rfl, starts.imp_right .inl⟩
  | list mark _ _ _ =>
      exact ⟨_, _, rfl, .inr (.inr (by simp only [opens, mark, Bool.or_true, Bool.true_or]))⟩
  | dict mark _ _ _ =>
      exact ⟨_, _, rfl, .inr (.inr (by simp only [opens, mark, Bool.or_true]))⟩
  | parenthesized mark _ _ _ _ =>
      exact ⟨_, _, rfl, .inr (.inr (by simp only [opens, mark, Bool.true_or]))⟩

/-- What starts a term does not close a list or a dictionary. -/
theorem closes_of_starts {t : Token} {c : Char}
    (starts : t.kind ≠ .mark ∨ t.isMark '-' = true ∨ opens t = true)
    (close : c = ']' ∨ c = '\x7d' ∨ c = ',') : ¬t.isMark c = true := by
  intro mark
  rcases starts with kind | hyphen | opening
  · exact kind (kind_of_isMark mark)
  · rw [isMark_unique mark] at hyphen
    rcases close with rfl | rfl | rfl <;> simp at hyphen
  · simp only [opens, isMark_unique mark, Bool.or_eq_true, decide_eq_true_eq] at opening
    rcases close with rfl | rfl | rfl <;> simp at opening

mutual

/-- A term that is spelled is read. -/
theorem readTerm_complete {term : Written.Term} {own tail : List Token}
    (spelled : term.Spelled source own tail.head?) :
    Related (Gives tail) Eq (readTerm source (own ++ tail)) term.meaning := by
  cases spelled with
  | plain spelled single others =>
      obtain ⟨first, behind, rfl, starts⟩ := operand_starts spelled
      rw [List.append_assoc, List.cons_append, readTerm_operand starts]
      exact readPlain_single spelled single others
  | joined spelled operators others =>
      obtain ⟨first, behind, rfl, starts⟩ := operand_starts spelled
      rw [List.append_assoc, List.append_assoc, List.cons_append, readTerm_operand starts]
      exact readPlain_joined spelled operators others
  | @list items calls opening closing inner tokens _ openMark spelled closeMark others =>
      rw [List.cons_append, List.append_assoc, List.cons_append, readTerm, if_pos openMark,
        Term.meaning]
      refine Related.bind (readItems_complete spelled closeMark) ?_
      rintro ⟨values, left, _⟩ _ ⟨rfl, rfl⟩
      refine Related.bind (readFilters_complete others) ?_
      rintro applied _ ⟨rfl, left⟩
      exact .ok ⟨rfl, left⟩
  | @dict pairs calls opening closing inner tokens _ openMark spelled closeMark others =>
      have noList : ¬opening.isMark '[' = true :=
        ne_true_of_eq_false (isMark_of_ne openMark (by decide))
      rw [List.cons_append, List.append_assoc, List.cons_append, readTerm, if_neg noList,
        if_pos openMark, Term.meaning]
      refine Related.bind (readPairs_complete spelled closeMark) ?_
      rintro ⟨values, left, _⟩ _ ⟨rfl, rfl⟩
      refine Related.bind (readFilters_complete others) ?_
      rintro applied _ ⟨rfl, left⟩
      exact .ok ⟨rfl, left⟩
  | @parenthesized code calls opening closing inner tokens _ openMark balanced closeMark text
      others =>
      have noList : ¬opening.isMark '[' = true :=
        ne_true_of_eq_false (isMark_of_ne openMark (by decide))
      have noDict : ¬opening.isMark '\x7b' = true :=
        ne_true_of_eq_false (isMark_of_ne openMark (by decide))
      obtain ⟨_, read⟩ := readCode_complete (tokens ++ tail) balanced closeMark text
      rw [List.cons_append, List.append_assoc, List.cons_append, readTerm, if_neg noList,
        if_neg noDict, if_pos openMark, read, ok_bind, Term.meaning]
      refine Related.bind (readFilters_complete others) ?_
      rintro applied _ ⟨rfl, left⟩
      exact .ok ⟨rfl, left⟩

/-- Items that are spelled are read. -/
theorem readItems_complete {items : List Written.Term} {inner tail : List Token} {closing : Token}
    (spelled : ItemsSpelled source items inner closing) (mark : closing.isMark ']' = true) :
    Related (Gives tail) Eq (readItems source (inner ++ closing :: tail)) (itemsMeaning items) := by
  cases spelled with
  | nil =>
      rw [List.nil_append, readItems, if_pos mark]
      exact .ok ⟨rfl, rfl⟩
  | @last item own _ spelled =>
      obtain ⟨first, behind, rfl, starts⟩ := term_starts spelled
      have read : Related (Gives (closing :: tail)) Eq
          (readTerm source (first :: behind ++ closing :: tail)) item.meaning :=
        readTerm_complete spelled
      rw [List.cons_append] at read ⊢
      rw [readItems, if_neg (closes_of_starts starts (.inl rfl)), itemsMeaning]
      refine Related.bind read ?_
      rintro ⟨value, left, _⟩ _ ⟨rfl, rfl⟩
      obtain ⟨_, comma⟩ := readComma_close source tail mark (by decide)
      rw [comma, ok_bind, readItems, if_pos mark]
      exact .ok ⟨rfl, rfl⟩
  | @cons item rest own tokens comma _ spelled separated others =>
      obtain ⟨first, behind, rfl, starts⟩ := term_starts spelled
      have read : Related (Gives (comma :: (tokens ++ closing :: tail))) Eq
          (readTerm source (first :: behind ++ comma :: (tokens ++ closing :: tail)))
          item.meaning := readTerm_complete spelled
      rw [List.append_assoc, List.cons_append, List.cons_append] at *
      rw [readItems, if_neg (closes_of_starts starts (.inl rfl)), itemsMeaning]
      refine Related.bind read ?_
      rintro ⟨value, left, _⟩ _ ⟨rfl, rfl⟩
      obtain ⟨_, comma⟩ := readComma_comma source (tokens ++ closing :: tail) separated ']'
      rw [comma, ok_bind]
      refine Related.bind (readItems_complete others mark) ?_
      rintro values _ ⟨rfl, left⟩
      exact .ok ⟨rfl, left⟩

/-- Pairs that are spelled are read. -/
theorem readPairs_complete {pairs : List (PairKey × Written.Term)} {inner tail : List Token}
    {closing : Token} (spelled : PairsSpelled source pairs inner closing)
    (mark : closing.isMark '\x7d' = true) :
    Related (Gives tail) Eq (readPairs source (inner ++ closing :: tail)) (pairsMeaning pairs) := by
  cases spelled with
  | nil =>
      rw [List.nil_append, readPairs, if_pos mark]
      exact .ok ⟨rfl, rfl⟩
  | @last key item keyToken colon own _ keySpelled colonMark spelled =>
      obtain ⟨_, keyed⟩ := readPairKey_complete source (own ++ closing :: tail) keySpelled colonMark
      have read : Related (Gives (closing :: tail)) Eq (readTerm source (own ++ closing :: tail))
          item.meaning := readTerm_complete spelled
      rw [List.cons_append, List.cons_append, readPairs, if_neg (pairKey_starts keySpelled), keyed,
        ok_bind, pairsMeaning]
      refine Related.bind read ?_
      rintro ⟨value, left, _⟩ _ ⟨rfl, rfl⟩
      obtain ⟨_, comma⟩ := readComma_close source tail mark (by decide)
      rw [comma, ok_bind, readPairs, if_pos mark]
      exact .ok ⟨rfl, rfl⟩
  | @cons key item rest keyToken colon own tokens comma _ keySpelled colonMark spelled separated
      others =>
      obtain ⟨_, keyed⟩ := readPairKey_complete source
        (own ++ comma :: (tokens ++ closing :: tail)) keySpelled colonMark
      have read : Related (Gives (comma :: (tokens ++ closing :: tail))) Eq
          (readTerm source (own ++ comma :: (tokens ++ closing :: tail))) item.meaning :=
        readTerm_complete spelled
      rw [List.cons_append, List.cons_append, List.append_assoc, List.cons_append, readPairs,
        if_neg (pairKey_starts keySpelled), keyed, ok_bind, pairsMeaning]
      refine Related.bind read ?_
      rintro ⟨value, left, _⟩ _ ⟨rfl, rfl⟩
      obtain ⟨_, comma⟩ := readComma_comma source (tokens ++ closing :: tail) separated '\x7d'
      rw [comma, ok_bind]
      refine Related.bind (readPairs_complete others mark) ?_
      rintro values _ ⟨rfl, left⟩
      exact .ok ⟨rfl, left⟩

end

/-! ## Entries -/

/-- Hyphens and names that are spelled are read. -/
theorem scanHyphens_complete {last final : Token} {words : List (Word .name)}
    (spelled : HyphensSpelled last words own final) (ended : NameEnds final tail.head?) :
    scanHyphens last (own ++ tail) = .ok (words.flatMap ('-' :: ·.text), tail) := by
  induction spelled with
  | @nil last =>
      rw [List.nil_append]
      cases tail with
      | nil => rfl
      | cons t tail =>
          have apart : ¬(t.isMark '-' && last.touches t) = true := by
            rw [Bool.and_eq_true]
            rintro ⟨hyphen, touching⟩
            rw [(ended t rfl touching).1] at hyphen
            cases hyphen
          have passed : checkBehindName last (t :: tail) = .ok () :=
            checkBehindName_eq_ok_iff.mpr fun u first touching => (ended u first touching).2
          rw [scanHyphens.eq_def]
          simp only [if_neg apart, passed]
          rfl
  | @cons word rest last hyphen part final tokens mark left right kind text others ih =>
      have joined : (hyphen.isMark '-' && last.touches hyphen) = true := by rw [mark, left]; rfl
      have named : ¬(!hyphen.touches part || decide (part.kind = .mark)) = true := by
        rw [right, kind]
        decide
      have notQuoted : ¬part.kind = .quoted := kind_ne kind (by decide)
      rw [List.cons_append, List.cons_append, scanHyphens, if_pos joined]
      simp only [if_neg named, if_neg notQuoted, ih ended, List.flatMap_cons, ← text]
      rfl

theorem keyCandidate_name {name : Hyphenated} {first : Token}
    (spelled : name.Spelled (first :: own) tail.head?) :
    first.kind = .name ∧ keyCandidate first (own ++ tail) =
      .ok ⟨name.text, decide (name.others ≠ []), tail⟩ := by
  cases spelled with
  | mk kind text others ended =>
      refine ⟨kind, ?_⟩
      have notQuoted : ¬first.kind = .quoted := kind_ne kind (by decide)
      rw [keyCandidate, if_neg notQuoted, scanHyphens_complete others ended, text]
      cases words : name.others with
      | nil => simp only [Except.map, Hyphenated.text, words]; rfl
      | cons word rest => simp only [Except.map, Hyphenated.text, words]; rfl

theorem readEntry_keyword {first equals : Token} {behind rest : List Token} {key : Text}
    {hyphens : Bool} {term : Written.Term} (starts : mayBeKey first rest = true)
    (candidate : keyCandidate first rest = .ok ⟨key, hyphens, equals :: behind⟩)
    (mark : equals.isMark '=' = true)
    (value : Related (Gives tail) Eq (readTerm source behind) term.meaning) :
    Related (Gives tail) Eq (readEntry source first rest)
      (term.meaning.map (.keyword first.start key)) := by
  obtain ⟨_, read⟩ := readEntry_equals source starts candidate rfl mark
  rw [read]
  refine Related.map value ?_
  rintro r v ⟨rfl, rest⟩
  exact ⟨rfl, rest⟩

theorem startsValue_operand {operand : Written.Operand} {first : Token} {behind : List Token}
    (spelled : operand.Spelled (first :: behind) next) (mark : first.kind = .mark)
    (more : List Token) : (negative? (first :: (behind ++ more))).isSome = true := by
  cases spelled with
  | literal kind _ =>
      rw [kind] at mark
      cases mark
  | name kind _ _ =>
      rw [kind] at mark
      cases mark
  | @negative number _ t _ hyphen kind text adjacent =>
      have digit := number.digit
      rw [← text] at digit
      rw [List.cons_append, List.nil_append,
        negative?_eq_some_iff.mpr ⟨first, rfl, hyphen, kind, digit, adjacent⟩]
      rfl
  | localized kind _ _ _ _ _ _ =>
      rw [kind] at mark
      cases mark

/-- A value may start with the mark that a term starts with. -/
theorem startsValue_term {term : Written.Term} {first : Token} {behind : List Token}
    (spelled : term.Spelled source (first :: behind) next) (mark : first.kind = .mark)
    (more : List Token) : startsValue first (behind ++ more) = true := by
  obtain ⟨tokens, same⟩ : ∃ tokens, tokens = first :: behind := ⟨_, rfl⟩
  rw [← same] at spelled
  cases spelled with
  | plain spelled _ _ =>
      obtain ⟨_, _, rfl, _⟩ := operand_starts spelled
      rw [List.cons_append] at same
      obtain ⟨rfl, rfl⟩ := List.cons.inj same
      rw [startsValue, List.append_assoc, startsValue_operand spelled mark, Bool.or_true]
      rfl
  | joined spelled _ _ =>
      obtain ⟨_, _, rfl, _⟩ := operand_starts spelled
      rw [List.cons_append] at same
      obtain ⟨rfl, rfl⟩ := List.cons.inj same
      rw [startsValue, List.append_assoc, startsValue_operand spelled mark, Bool.or_true]
      rfl
  | list openMark _ _ _ =>
      obtain ⟨rfl, -⟩ := List.cons.inj same
      simp only [startsValue, opens, openMark, Bool.or_true, Bool.true_or]
  | dict openMark _ _ _ =>
      obtain ⟨rfl, -⟩ := List.cons.inj same
      simp only [startsValue, opens, openMark, Bool.or_true, Bool.true_or]
  | parenthesized openMark _ _ _ _ =>
      obtain ⟨rfl, -⟩ := List.cons.inj same
      simp only [startsValue, opens, openMark, Bool.true_or]

/-- A value without a key is read as one. -/
theorem readEntry_positional {first : Token} {rest : List Token}
    (starts : first.kind = .mark → startsValue first rest = true)
    (noKey : NotKey first rest.head?) :
    readEntry source first rest = readEntry.positional source first rest := by
  cases kind : first.kind with
  | mark =>
      unfold readEntry
      have noCandidate : ¬mayBeKey first rest = true := by
        simp only [mayBeKey, kind, reduceCtorEq, decide_false, Bool.false_and, Bool.or_false,
          Bool.false_eq_true, not_false_iff]
      rw [if_neg noCandidate, if_pos (starts kind)]
  | quoted =>
      have around := noKey (kind_ne kind (by decide))
      have passed : checkBehindQuoted first rest = .ok () :=
        checkBehindQuoted_eq_ok_iff.mpr fun t next touching =>
          ⟨((around t next).2 touching).2.2 kind, ((around t next).2 touching).1⟩
      have candidate : keyCandidate first rest = .ok ⟨Text.unquote first.text, false, rest⟩ := by
        rw [keyCandidate, if_pos kind, passed]
        rfl
      have starts : mayBeKey first rest = true := by
        simp only [mayBeKey, kind, decide_true, Bool.true_or]
      rw [readEntry_notKey starts candidate fun t next => (around t next).1]
      unfold readEntry.notKey
      rw [if_neg Bool.false_ne_true]
  | name =>
      have around := noKey (kind_ne kind (by decide))
      cases localized : localized? (first :: rest) with
      | some behind =>
          unfold readEntry
          have noCandidate : ¬mayBeKey first rest = true := by
            simp [mayBeKey, kind, localized]
          have startsHere : startsValue first rest = true := by
            simp only [startsValue, localized, Option.isSome_some, Bool.or_true]
          rw [if_neg noCandidate, if_pos startsHere]
      | none =>
          have ended : NameEnds first rest.head? := fun t next touching =>
            ⟨((around t next).2 touching).1, ((around t next).2 touching).2.1⟩
          have notQuoted : ¬first.kind = .quoted := kind_ne kind (by decide)
          have scanned : scanHyphens first ([] ++ rest) = .ok ([], rest) :=
            scanHyphens_complete .nil ended
          rw [List.nil_append] at scanned
          have candidate : keyCandidate first rest = .ok ⟨first.text ++ [], false, rest⟩ := by
            rw [keyCandidate, if_neg notQuoted, scanned]
            rfl
          have starts : mayBeKey first rest = true := by
            simp only [mayBeKey, kind, localized, decide_true, Option.isNone_none, Bool.and_self,
              Bool.or_true]
          rw [readEntry_notKey starts candidate fun t next => (around t next).1]
          unfold readEntry.notKey
          rw [if_neg Bool.false_ne_true]

/-- A name may be a key if no parenthesis follows. -/
theorem mayBeKey_name {first : Token} {rest : List Token} (kind : first.kind = .name)
    (noParenthesis : NoMark '(' rest.head?) : mayBeKey first rest = true := by
  have plain : localized? (first :: rest) = none := by
    rw [Option.eq_none_iff_forall_ne_some]
    intro behind found
    obtain ⟨name, paren, split, -, -, mark, -⟩ := localized?_eq_some_iff.mp found
    obtain ⟨rfl, rfl⟩ := List.cons.inj split
    rw [noParenthesis paren rfl] at mark
    cases mark
  simp only [mayBeKey, kind, plain, decide_true, Option.isNone_none, Bool.and_self, Bool.or_true]

theorem noMark_of_isMark {t : Token} {c d : Char} (mark : t.isMark c = true) (other : c ≠ d)
    (ts : List Token) : NoMark d (t :: ts).head? := by
  intro u first
  obtain rfl := Option.some.inj first
  exact isMark_of_ne mark other

/-- Behind the first name of a key no parenthesis follows unless one follows the key. -/
theorem noParenthesis_hyphens {last final : Token} {words : List (Word .name)}
    (spelled : HyphensSpelled last words own final)
    (behind : words = [] → NoMark '(' tail.head?) : NoMark '(' (own ++ tail).head? := by
  cases spelled with
  | nil => exact behind rfl
  | cons mark _ _ _ _ _ => exact noMark_of_isMark mark (by decide) _

theorem mayBeKey_hyphenated {name : Hyphenated} {first : Token}
    (spelled : name.Spelled (first :: own) tail.head?)
    (behind : name.others = [] → NoMark '(' tail.head?) : mayBeKey first (own ++ tail) = true := by
  cases spelled with
  | mk kind _ others _ => exact mayBeKey_name kind (noParenthesis_hyphens others behind)

/-- An entry that is spelled is read. -/
theorem readEntry_complete {entry : Written.Entry} {first : Token} {behind : List Token}
    (spelled : entry.Spelled source (first :: behind) tail.head?) :
    Related (Gives tail) Eq (readEntry source first (behind ++ tail))
      (entry.meaning first.start) := by
  obtain ⟨tokens, same⟩ : ∃ tokens, tokens = first :: behind := ⟨_, rfl⟩
  rw [← same] at spelled
  cases spelled with
  | positional spelled noKey =>
      obtain ⟨rfl, rfl⟩ := List.cons.inj same
      have read := readTerm_complete spelled
      rw [← List.head?_append] at noKey
      rw [readEntry_positional (startsValue_term spelled · tail) noKey, readEntry.positional,
        Entry.meaning]
      refine Related.map read ?_
      rintro r v ⟨rfl, rest⟩
      exact ⟨rfl, rest⟩
  | @lookup name hyphens _ _ spelled noEquals =>
      subst same
      obtain ⟨kind, candidate⟩ := keyCandidate_name spelled
      have starts := mayBeKey_hyphenated spelled fun none => absurd none hyphens
      rw [readEntry_notKey starts candidate noEquals, readEntry.notKey,
        if_pos (decide_eq_true hyphens)]
      exact .ok ⟨rfl, rfl⟩
  | @keyword key value own tokens equals _ keySpelled mark spelled =>
      have read := readTerm_complete spelled
      cases keySpelled with
      | @quoted key t _ kind text =>
          obtain ⟨rfl, rfl⟩ := List.cons.inj same
          have passed : checkBehindQuoted t (equals :: (tokens ++ tail)) = .ok () := by
            refine checkBehindQuoted_eq_ok_iff.mpr fun u next _ => ?_
            obtain rfl := Option.some.inj next
            exact ⟨kind_of_isMark mark, isMark_of_ne mark (by decide)⟩
          have candidate : keyCandidate t (equals :: (tokens ++ tail)) =
              .ok ⟨key, false, equals :: (tokens ++ tail)⟩ := by
            rw [keyCandidate, if_pos kind, passed, text]
            rfl
          have starts : mayBeKey t (equals :: (tokens ++ tail)) = true := by
            simp only [mayBeKey, kind, decide_true, Bool.true_or]
          exact readEntry_keyword starts candidate mark read
      | @bare name _ _ spelled =>
          cases own with
          | nil => cases spelled
          | cons t own =>
              rw [List.cons_append] at same
              obtain ⟨rfl, rfl⟩ := List.cons.inj same
              have ahead : some equals = (equals :: (tokens ++ tail)).head? := rfl
              rw [ahead] at spelled
              obtain ⟨kind, candidate⟩ := keyCandidate_name spelled
              have starts := mayBeKey_hyphenated spelled
                fun _ => noMark_of_isMark mark (by decide) _
              rw [List.append_assoc, List.cons_append]
              exact readEntry_keyword starts candidate mark read

theorem readEntries_entry {first : Token} {behind : List Token} (other : ¬first.isMark ',' = true) :
    readEntries source (first :: behind) = (do
      let entry ← readEntry source first behind
      let others ← readEntries source entry.rest
      pure (entry.value :: others)) := by
  rw [readEntries.eq_def]
  simp only [if_neg other]

/-- A comma in front of an entry changes nothing. -/
theorem readEntries_separator {separator : List Token} {first : Token} {behind : List Token}
    (separated : Separator separator) (other : ¬first.isMark ',' = true) :
    readEntries source (separator ++ first :: behind) = readEntries source (first :: behind) := by
  rcases separated with rfl | ⟨comma, rfl, mark⟩
  · rfl
  · rw [readEntries_entry other, List.singleton_append, readEntries, if_pos mark]

theorem readEntries_final {final : List Token} (separated : Separator final) :
    readEntries source final = .ok [] := by
  rcases separated with rfl | ⟨comma, rfl, mark⟩
  · rw [readEntries]
  · rw [readEntries, if_pos mark]

/-- No entry starts with a comma. -/
theorem entry_starts {entry : Written.Entry} {first : Token}
    (spelled : entry.Spelled source (first :: own) next) :
    first.kind ≠ .mark ∨ first.isMark '-' = true ∨ opens first = true := by
  obtain ⟨tokens, same⟩ : ∃ tokens, tokens = first :: own := ⟨_, rfl⟩
  rw [← same] at spelled
  cases spelled with
  | positional spelled _ =>
      obtain ⟨t, behind, split, starts⟩ := term_starts spelled
      obtain ⟨rfl, -⟩ := List.cons.inj same
      obtain ⟨rfl, -⟩ := List.cons.inj split
      exact starts
  | lookup spelled _ =>
      subst same
      cases spelled with
      | mk kind _ _ _ => exact .inl (kind_ne kind (by decide))
  | keyword keySpelled _ _ =>
      cases keySpelled with
      | quoted kind _ =>
          obtain ⟨rfl, -⟩ := List.cons.inj same
          exact .inl (kind_ne kind (by decide))
      | bare spelled =>
          cases spelled with
          | mk kind _ _ _ =>
              rw [List.cons_append] at same
              obtain ⟨rfl, -⟩ := List.cons.inj same
              exact .inl (kind_ne kind (by decide))

/-- Entries that are spelled are read, and then what stands behind them. -/
theorem readEntries_complete {written : List (Nat × Written.Entry)}
    (spelled : EntriesSpelled source written own next) (ahead : next = tail.head?) :
    readEntries source (own ++ tail) = (do
      let entries ← entriesMeaning written
      let others ← readEntries source tail
      pure (entries ++ others)) := by
  induction spelled with
  | nil =>
      rw [List.nil_append, entriesMeaning]
      exact (bind_pure _).symm
  | @cons entry rest first separator inner tokens next separated spelled others ih =>
      subst ahead
      rw [← List.head?_append] at spelled
      have other := closes_of_starts (entry_starts spelled) (.inr (.inr rfl))
      rw [List.append_assoc, List.append_assoc, List.cons_append,
        readEntries_separator separated other, readEntries_entry other]
      refine Related.eq ?_
      rw [entriesMeaning]
      simp only [bind_assoc, pure_bind]
      refine Related.bind (readEntry_complete spelled) ?_
      rintro ⟨value, left, _⟩ _ ⟨rfl, rfl⟩
      rw [ih rfl]
      simp only [bind_assoc, pure_bind]
      exact Related.refl _ fun _ _ => rfl

end ElementTags.Attribute
