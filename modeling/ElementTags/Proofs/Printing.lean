import ElementTags.Proofs.Completeness
import ElementTags.Proofs.Part
import ElementTags.Proofs.Quoting

/-! # Printing and reading back

The text of a written form is cut into tokens that spell it. Induction on the form
carries the source along, because code is what stands between two parentheses of
it, and leaves open which token comes next, as long as it is a mark that ends the
form (`ElementTags.Written.Among`). So a list of attributes that is printed is
read back as it is meant, each attribute at the position where it was printed.
-/

namespace ElementTags.Written

open Attribute Outcome Token

/-! ## Tokens of printed words and marks -/

theorem segments_mark {n : Nat} {c : Char} {rest : Text} {tokens : List Token}
    (lexeme : Token.Lexeme .mark [c]) (behind : Segments (n + 1) rest tokens) :
    Segments n (c :: rest) (⟨.mark, [c], n⟩ :: tokens) :=
  .token (s := [c]) lexeme (fun named => by cases named) behind

theorem segments_word {kind : TokenKind} (word : Word kind) {n : Nat} {rest : Text}
    {tokens : List Token} (whole : kind = .name → NoName rest)
    (behind : Segments (n + word.text.length) rest tokens) :
    Segments n (word.text ++ rest) (⟨kind, word.text, n⟩ :: tokens) :=
  .token word.lexeme whole behind

theorem noName_nil : NoName [] := by
  intro d first
  cases first

theorem segments_single {kind : TokenKind} (word : Word kind) (n : Nat) :
    Segments n word.text [⟨kind, word.text, n⟩] := by
  have single := segments_word word (n := n) (fun _ => noName_nil) (.nil _)
  rw [List.append_nil] at single
  exact single

theorem noName_cons {c : Char} {rest : Text} (other : Text.isNameChar c = false) :
    NoName (c :: rest) := by
  intro d first
  obtain rfl := Option.some.inj first
  exact other

/-- The marks of the grammar. -/
theorem lexeme_mark {c : Char}
    (mark : c ∈ ['|', ':', ',', '=', '(', ')', '[', ']', '\x7b', '\x7d', '+', '-', '*', '/', '%']) :
    Token.Lexeme .mark [c] := by
  refine ⟨c, rfl, ?_⟩
  have all : ['|', ':', ',', '=', '(', ')', '[', ']', '\x7b', '\x7d', '+', '-', '*', '/', '%'].all
      (fun c => !Text.isBlank c && !Text.isQuote c && !Text.isNameChar c) = true := by
    decide
  have here := List.all_eq_true.mp all c mark
  simp only [Bool.and_eq_true, Bool.not_eq_true'] at here
  exact ⟨here.1.1, here.1.2, here.2⟩

/-- The next token, if there is one, is one of some marks. -/
def Among (marks : List Char) (next : Option Token) : Prop :=
  ∀ t ∈ next, ∃ c ∈ marks, t.isMark c = true

/-- The marks that end an item. -/
def delimiters : List Char := [',', ']', '\x7d']

theorem among_none (marks : List Char) : Among marks none := by
  intro t none
  cases none

theorem among_some {marks : List Char} {t : Token} {c : Char} (mark : t.isMark c = true)
    (member : c ∈ marks) : Among marks (some t) := by
  intro u same
  obtain rfl := Option.some.inj same
  exact ⟨c, member, mark⟩

theorem Among.mono {marks more : List Char} {next : Option Token} (among : Among marks next)
    (included : marks ⊆ more) : Among more next := by
  intro t same
  obtain ⟨c, member, mark⟩ := among t same
  exact ⟨c, included member, mark⟩

theorem Among.noMark {marks : List Char} {next : Option Token} (among : Among marks next) {c : Char}
    (other : c ∉ marks) : NoMark c next := by
  intro t same
  obtain ⟨d, member, mark⟩ := among t same
  refine isMark_of_ne mark ?_
  rintro rfl
  exact other member

theorem Among.kind {marks : List Char} {next : Option Token} (among : Among marks next) :
    ∀ t ∈ next, t.kind = .mark := by
  intro t same
  obtain ⟨c, _, mark⟩ := among t same
  exact kind_of_isMark mark

theorem Among.noOperator {marks : List Char} {next : Option Token} (among : Among marks next)
    (others : ∀ operator : Operator, operator.mark ∉ marks) : NoOperator next := by
  intro t same
  rw [Option.eq_none_iff_forall_ne_some]
  intro operator found
  have apart := among.noMark (others operator) t same
  rw [operator?_eq_some_iff.mp found] at apart
  cases apart

/-- The next token is a mark, but neither an equals sign nor a hyphen that stands right here. -/
def Aside (here : Nat) (next : Option Token) : Prop :=
  ∀ t ∈ next, t.kind = .mark ∧ t.isMark '=' = false ∧ (t.start = here → t.isMark '-' = false)

theorem Among.aside {marks : List Char} {next : Option Token} (among : Among marks next)
    (noEquals : '=' ∉ marks) (noHyphen : '-' ∉ marks) (here : Nat) : Aside here next :=
  fun t same => ⟨among.kind t same, among.noMark noEquals t same,
    fun _ => among.noMark noHyphen t same⟩

/-- A single token in front of such a mark is no key. -/
theorem Aside.notKey {here : Nat} {next : Option Token} (aside : Aside here next) {first : Token}
    (stop : first.stop = here) : NotKey first next := by
  intro _ t same
  obtain ⟨kind, noEquals, noHyphen⟩ := aside t same
  refine ⟨noEquals, fun touching => ⟨noHyphen ?_, ?_, fun _ => kind⟩⟩
  · rw [touches, decide_eq_true_eq] at touching
    rw [← touching, stop]
  · rw [kind]
    exact TokenKind.noConfusion

/-! ## Operands and filters -/

/-- The name in front of the parenthesis of a localized literal. -/
def underscore : Word .name :=
  ⟨['_'], List.cons_ne_nil _ _, fun c member => by
    rw [List.mem_singleton.mp member]
    decide⟩

/-- The tokens of an operand that is printed at a position. They are no key in front of a mark that
is not part of one. -/
theorem operand_printed (operand : Operand) (n : Nat) :
    ∃ first behind, Segments n operand.text (first :: behind) ∧ first.start = n ∧
      ∀ next, NoMark '(' next → operand.Spelled (first :: behind) next ∧
        (Aside (n + operand.text.length) next → NotKey first (behind.head?.or next)) := by
  cases operand with
  | literal word =>
      exact ⟨_, [], segments_single word n, rfl, fun _ _ =>
        ⟨.literal rfl rfl, fun aside => aside.notKey rfl⟩⟩
  | name word =>
      refine ⟨_, [], segments_single word n, rfl, fun next noParenthesis =>
        ⟨.name rfl rfl ?_, fun aside => aside.notKey rfl⟩⟩
      intro _ paren same mark
      rw [noParenthesis paren same] at mark
      cases mark
  | negative number =>
      refine ⟨_, _, segments_mark (lexeme_mark (by decide)) (segments_single number.toWord (n + 1)),
        rfl, fun next _ => ⟨.negative rfl rfl rfl ?_, fun _ other => absurd rfl other⟩⟩
      simp only [touches, stop, List.length_singleton, decide_true]
  | localized word =>
      have close : Segments (n + 2 + word.text.length) [')']
          [⟨.mark, [')'], n + 2 + word.text.length⟩] :=
        segments_mark (lexeme_mark (by decide)) (.nil _)
      have inner := segments_word word (n := n + 2) (fun named => by cases named) close
      have opening := segments_mark (n := n + 1) (lexeme_mark (c := '(') (by decide)) inner
      have all :=
        segments_word underscore (n := n) (fun _ => noName_cons (by decide)) opening
      refine ⟨_, _, all, rfl, fun next _ => ⟨.localized rfl rfl rfl ?_ rfl rfl rfl, ?_⟩⟩
      · simp only [touches, stop, underscore, List.length_singleton, decide_true]
      · intro _ _ t same
        obtain rfl := Option.some.inj same
        exact ⟨rfl, fun _ => ⟨rfl, TokenKind.noConfusion, fun _ => rfl⟩⟩

/-- What stands behind the text of a chain of filters that may be empty. -/
theorem among_calls {calls : List Call} {tokens : List Token} {next : Option Token}
    {marks : List Char} (spelled : CallsSpelled calls tokens next) (among : Among marks next) :
    Among ('|' :: marks) (tokens.head?.or next) := by
  cases spelled with
  | nil _ => exact among.mono (List.subset_cons_self _ _)
  | plain mark _ _ _ _ => exact among_some mark List.mem_cons_self
  | argument mark _ _ _ _ _ => exact among_some mark List.mem_cons_self

/-- A chain of filters continues no name. -/
theorem noName_calls (calls : List Call) {rest : Text} (behind : NoName rest) :
    NoName (callsText calls ++ rest) := by
  cases calls with
  | nil => exact behind
  | cons call calls => exact noName_cons (by decide)

theorem parted_calls (a : Text) (calls : List Call) : Parted a (callsText calls) := by
  have noName := noName_calls calls noName_nil
  rw [List.append_nil] at noName
  exact fun _ _ _ => noName

/-- The tokens of filters that are printed at a position. -/
theorem calls_printed (calls : List Call) (n : Nat) :
    ∃ tokens, Segments n (callsText calls) tokens ∧
      ∀ next, Among delimiters next → CallsSpelled calls tokens next := by
  induction calls generalizing n with
  | nil => exact ⟨[], .nil n, fun next among => .nil (among.noMark (by decide))⟩
  | cons call calls ih =>
      obtain ⟨name, argument⟩ := call
      cases argument with
      | none =>
          obtain ⟨tokens, segments, spelled⟩ := ih (n + 1 + name.text.length)
          have text : callsText (⟨name, none⟩ :: calls) =
              '|' :: (name.text ++ callsText calls) := by
            simp only [callsText, List.flatMap_cons, Call.text, Call.call, WrittenCall.text,
              Option.map_none, List.append_nil, List.cons_append]
          have noName := noName_calls calls noName_nil
          rw [List.append_nil] at noName
          rw [text]
          refine ⟨_, segments_mark (lexeme_mark (by decide)) (segments_word name (fun _ => noName)
            segments), fun next among => .plain rfl rfl rfl ?_ (spelled next among)⟩
          exact (among_calls (spelled next among) among).noMark (by decide)
      | some operand =>
          obtain ⟨first, behind, inner, _, spelledOperand⟩ :=
            operand_printed operand (n + 1 + name.text.length + 1)
          obtain ⟨tokens, segments, spelled⟩ :=
            ih (n + 1 + name.text.length + 1 + operand.text.length)
          have text : callsText (⟨name, some operand⟩ :: calls) =
              '|' :: (name.text ++ ':' :: (operand.text ++ callsText calls)) := by
            simp only [callsText, List.flatMap_cons, Call.text, Call.call, WrittenCall.text,
              Option.map_some, List.append_assoc, List.cons_append, Operand.text]
          rw [text]
          refine ⟨_, segments_mark (lexeme_mark (by decide)) (segments_word name
            (fun _ => noName_cons (by decide)) (segments_mark (lexeme_mark (by decide))
              (inner.append segments (parted_calls _ calls)))), fun next among => ?_⟩
          have ahead := among_calls (spelled next among) among
          exact .argument rfl rfl rfl rfl (spelledOperand _ (ahead.noMark (by decide))).1
            (spelled next among)

/-! ## Operations -/

/-- The marks of operators. -/
def operators : List Char := ['+', '-', '*', '/', '%']

theorem mark_mem_operators (operator : Operator) : operator.mark ∈ operators := by
  cases operator <;> decide

theorem lexeme_operator (operator : Operator) : Token.Lexeme .mark [operator.mark] := by
  cases operator <;> exact lexeme_mark (by decide)

/-- The tokens of operators and operands that are printed at a position. A blank stands in front of
the first one. -/
theorem operations_printed (others : List (Operator × Operand)) (n : Nat) :
    ∃ tokens, Segments n (operationsText others) tokens ∧
      (∀ t ∈ tokens.head?, t.start = n + 1 ∧ ∃ c ∈ operators, t.isMark c = true) ∧
      (tokens = [] → others = []) ∧
      ∀ next, Among ('|' :: delimiters) next → OperationsSpelled others tokens next := by
  induction others generalizing n with
  | nil =>
      refine ⟨[], .nil n, fun t none => (by cases none), fun _ => rfl,
        fun next among => .nil (among.noOperator ?_)⟩
      intro operator
      cases operator <;> decide
  | cons operation others ih =>
      obtain ⟨operator, operand⟩ := operation
      obtain ⟨first, behind, inner, _, spelledOperand⟩ := operand_printed operand (n + 3)
      obtain ⟨tokens, segments, starts, _, spelled⟩ := ih (n + 3 + operand.text.length)
      have text : operationsText ((operator, operand) :: others) =
          ' ' :: operator.mark :: ' ' :: (operand.text ++ operationsText others) := by
        simp only [operationsText, List.flatMap_cons, List.cons_append]
      have parted : Parted operand.text (operationsText others) := by
        cases others with
        | nil => exact parted_nil _
        | cons operation others => exact parted_cons (by decide) _ _
      rw [text]
      refine ⟨_, .blank (by decide) (segments_mark (lexeme_operator operator)
        (.blank (by decide) (inner.append segments parted))), ?_, ?_, fun next among => ?_⟩
      · intro t same
        obtain rfl := Option.some.inj same
        exact ⟨rfl, operator.mark, mark_mem_operators operator, by simp [isMark]⟩
      · intro none
        cases none
      · have noParenthesis : NoMark '(' (tokens.head?.or next) := by
          cases tokens with
          | nil => exact among.noMark (by decide)
          | cons t tokens =>
              obtain ⟨_, c, member, mark⟩ := starts t rfl
              exact (among_some mark member).noMark (by decide)
        exact .cons (operator?_eq_some_iff.mpr (by simp [isMark]))
          (spelledOperand _ noParenthesis).1 (spelled next among)

/-! ## Terms -/

theorem plain_printed (operand : Operand) (calls : List Call) (source : Text) (n : Nat) :
    ∃ first behind, Segments n (operand.text ++ callsText calls) (first :: behind) ∧
      first.start = n ∧ ∀ next, Among delimiters next →
        Term.Spelled source (.plain operand calls) (first :: behind) next ∧
          NotKey first (behind.head?.or next) := by
  obtain ⟨first, behind, inner, start, spelledOperand⟩ := operand_printed operand n
  obtain ⟨tokens, segments, spelled⟩ := calls_printed calls (n + operand.text.length)
  refine ⟨first, behind ++ tokens, inner.append segments (parted_calls _ calls), start,
    fun next among => ?_⟩
  have ahead := among_calls (spelled next among) among
  obtain ⟨own, noKey⟩ := spelledOperand _ (ahead.noMark (by decide))
  refine ⟨.plain own (ahead.noOperator ?_) (spelled next among), ?_⟩
  · intro operator
    cases operator <;> decide
  · rw [List.head?_append, Option.or_assoc]
    exact noKey (ahead.aside (by decide) (by decide) _)

theorem joined_printed (first : Operand) (others : List (Operator × Operand)) (some : others ≠ [])
    (calls : List Call) (source : Text) (n : Nat) :
    ∃ t behind, Segments n (first.text ++ operationsText others ++ callsText calls) (t :: behind) ∧
      t.start = n ∧ ∀ next, Among delimiters next →
        Term.Spelled source (.joined first others some calls) (t :: behind) next ∧
          NotKey t (behind.head?.or next) := by
  obtain ⟨t, behind, inner, start, spelledOperand⟩ := operand_printed first n
  obtain ⟨middle, operations, starts, nonempty, spelledOperations⟩ :=
    operations_printed others (n + first.text.length)
  obtain ⟨tokens, segments, spelled⟩ :=
    calls_printed calls (n + (first.text ++ operationsText others).length)
  have parted : Parted first.text (operationsText others) := by
    cases others with
    | nil => exact parted_nil _
    | cons operation others => exact parted_cons (by decide) _ _
  refine ⟨t, behind ++ middle ++ tokens,
    (inner.append operations parted).append segments (parted_calls _ calls), start,
    fun next among => ?_⟩
  have ahead := among_calls (spelled next among) among
  cases middle with
  | nil => exact absurd (nonempty rfl) some
  | cons mark middle =>
      obtain ⟨place, c, member, isMark⟩ := starts mark rfl
      have operator : Among operators (Option.some mark) := among_some isMark member
      obtain ⟨own, noKey⟩ := spelledOperand (Option.some mark) (operator.noMark (by decide))
      constructor
      · rw [List.append_assoc, ← List.cons_append]
        exact .joined own (spelledOperations _ ahead) (spelled next among)
      · rw [List.append_assoc, List.head?_append, Option.or_assoc]
        refine noKey ?_
        intro u same
        obtain rfl := Option.some.inj same
        refine ⟨operator.kind mark rfl, operator.noMark (by decide) mark rfl, fun here => ?_⟩
        rw [place] at here
        omega

theorem parenthesized_printed (code : Code) (calls : List Call) {source before after : Text}
    (split : source = before ++ ((Term.parenthesized code calls).text ++ after)) :
    ∃ first behind, Segments before.length (Term.parenthesized code calls).text (first :: behind) ∧
      first.start = before.length ∧ ∀ next, Among delimiters next →
        Term.Spelled source (.parenthesized code calls) (first :: behind) next ∧
          NotKey first (behind.head?.or next) := by
  rw [Term.text] at split ⊢
  obtain ⟨tokens, segments, spelled⟩ :=
    calls_printed calls (before.length + 1 + code.text.length + 1)
  have inner := (segments_of_scanFrom code.scanned).shift (before.length + 1)
  rw [Nat.zero_add] at inner
  have closing := inner.append (segments_mark (c := ')') (lexeme_mark (by decide)) segments)
    (parted_cons (by decide) _ _)
  refine ⟨_, _, segments_mark (lexeme_mark (by decide)) closing, rfl, fun next among => ?_⟩
  refine ⟨.parenthesized rfl (balanced_map_shift.mpr code.balanced) rfl ?_ (spelled next among),
    fun other => absurd rfl other⟩
  have here : (before ++ ['(']).length = before.length + 1 := by
    rw [List.length_append, List.length_singleton]
  have whole : source = (before ++ ['(']) ++ code.text ++ (')' :: callsText calls ++ after) := by
    rw [split]
    simp only [List.append_assoc, List.cons_append, List.nil_append]
  have between : (source.take (before.length + 1 + code.text.length)).drop (before.length + 1) =
      code.text := by
    rw [whole, ← here, ← List.length_append, List.take_left, List.drop_left]
  rw [codeBetween, stop]
  exact (congrArg Text.strip between).trans code.stripped

theorem itemsText_cons (item second : Term) (rest : List Term) :
    itemsText (item :: second :: rest) =
      item.text ++ ',' :: ' ' :: itemsText (second :: rest) := by
  simp only [itemsText, List.append_assoc]
  rfl

theorem pairsText_single (key : PairKey) (item : Term) :
    pairsText [(key, item)] = key.text ++ ':' :: ' ' :: item.text := by
  simp only [pairsText, List.append_assoc]
  rfl

theorem pairsText_cons (key : PairKey) (item : Term) (second : PairKey × Term)
    (rest : List (PairKey × Term)) : pairsText ((key, item) :: second :: rest) =
      key.text ++ ':' :: ' ' :: (item.text ++ ',' :: ' ' :: pairsText (second :: rest)) := by
  simp only [pairsText, List.append_assoc]
  rfl

/-- The tokens of a word, of the colon, and of what stands behind them. -/
theorem segments_keyed {kind : TokenKind} (word : Word kind) (n : Nat) {rest : Text}
    {tokens : List Token} (behind : Segments (n + word.text.length + 1 + 1) rest tokens) :
    Segments n (word.text ++ ':' :: ' ' :: rest)
      (⟨kind, word.text, n⟩ :: ⟨.mark, [':'], n + word.text.length⟩ :: tokens) :=
  segments_word word (fun _ => noName_cons (by decide))
    (segments_mark (lexeme_mark (by decide)) (.blank (by decide) behind))

/-- The tokens of a key, of the colon, and of what stands behind them. -/
theorem pairKey_printed (key : PairKey) (n : Nat) {rest : Text} {tokens : List Token}
    (behind : Segments (n + key.text.length + 1 + 1) rest tokens) :
    ∃ t colon, Segments n (key.text ++ ':' :: ' ' :: rest) (t :: colon :: tokens) ∧
      key.Spelled t ∧ colon.isMark ':' = true := by
  cases key with
  | quoted key =>
      exact ⟨_, _, segments_keyed ⟨literal key, lexeme_literal key⟩ n behind,
        .quoted rfl (unquote_literal key), rfl⟩
  | bare word => exact ⟨_, _, segments_keyed word n behind, .bare rfl rfl, rfl⟩

mutual

/-- The tokens of a term that is printed somewhere in a source. -/
theorem term_printed (term : Term) {source before after : Text}
    (split : source = before ++ (term.text ++ after)) :
    ∃ first behind, Segments before.length term.text (first :: behind) ∧
      first.start = before.length ∧ ∀ next, Among delimiters next →
        term.Spelled source (first :: behind) next ∧ NotKey first (behind.head?.or next) := by
  match term with
  | .plain operand calls => exact plain_printed operand calls source _
  | .joined first others several calls => exact joined_printed first others several calls source _
  | .list items calls =>
      rw [Term.text] at split ⊢
      have inside : source =
          before ++ ['['] ++ (itemsText items ++ (']' :: callsText calls ++ after)) := by
        rw [split]
        simp only [List.append_assoc, List.cons_append, List.nil_append]
      obtain ⟨inner, segmentsInner, spelledInner⟩ := items_printed items inside
      obtain ⟨tokens, segments, spelled⟩ :=
        calls_printed calls (before.length + 1 + (itemsText items).length + 1)
      rw [List.length_append, List.length_singleton] at segmentsInner
      have closing := segmentsInner.append (segments_mark (c := ']') (lexeme_mark (by decide))
        segments) (parted_cons (by decide) _ _)
      refine ⟨_, _, segments_mark (lexeme_mark (by decide)) closing, rfl, fun next among => ?_⟩
      exact ⟨.list rfl (spelledInner _ rfl) rfl (spelled next among), fun other => absurd rfl other⟩
  | .dict pairs calls =>
      rw [Term.text] at split ⊢
      have inside : source =
          before ++ ['\x7b'] ++ (pairsText pairs ++ ('\x7d' :: callsText calls ++ after)) := by
        rw [split]
        simp only [List.append_assoc, List.cons_append, List.nil_append]
      obtain ⟨inner, segmentsInner, spelledInner⟩ := pairs_printed pairs inside
      obtain ⟨tokens, segments, spelled⟩ :=
        calls_printed calls (before.length + 1 + (pairsText pairs).length + 1)
      rw [List.length_append, List.length_singleton] at segmentsInner
      have closing := segmentsInner.append (segments_mark (c := '\x7d') (lexeme_mark (by decide))
        segments) (parted_cons (by decide) _ _)
      refine ⟨_, _, segments_mark (lexeme_mark (by decide)) closing, rfl, fun next among => ?_⟩
      exact ⟨.dict rfl (spelledInner _ rfl) rfl (spelled next among), fun other => absurd rfl other⟩
  | .parenthesized code calls => exact parenthesized_printed code calls split

/-- The tokens of the items of a list that is printed somewhere in a source. -/
theorem items_printed (items : List Term) {source before after : Text}
    (split : source = before ++ (itemsText items ++ after)) :
    ∃ tokens, Segments before.length (itemsText items) tokens ∧
      ∀ closing, closing.isMark ']' = true → ItemsSpelled source items tokens closing := by
  match items with
  | [] => exact ⟨[], .nil _, fun closing mark => .nil⟩
  | [item] =>
      rw [itemsText] at split ⊢
      obtain ⟨first, behind, segments, -, spelled⟩ := term_printed item split
      exact ⟨_, segments, fun closing mark => .last (spelled _ (among_some mark (by decide))).1⟩
  | item :: second :: rest =>
      rw [itemsText_cons] at split ⊢
      have here : source =
          before ++ (item.text ++ (',' :: ' ' :: (itemsText (second :: rest)) ++ after)) := by
        rw [split]
        simp only [List.append_assoc, List.cons_append]
      have further : source =
          before ++ item.text ++ [',', ' '] ++ (itemsText (second :: rest) ++ after) := by
        rw [split]
        simp only [List.append_assoc, List.cons_append, List.nil_append]
      obtain ⟨first, behind, segments, -, spelled⟩ := term_printed item here
      obtain ⟨tokens, segmentsRest, spelledRest⟩ := items_printed (second :: rest) further
      rw [List.length_append, List.length_append] at segmentsRest
      have further := segments_mark (c := ',') (lexeme_mark (by decide))
        (.blank (c := ' ') (by decide) segmentsRest)
      refine ⟨_, segments.append further (parted_cons (by decide) _ _),
        fun closing mark => ?_⟩
      exact .cons (spelled _ (among_some (c := ',') rfl (by decide))).1 rfl
        (spelledRest closing mark)

/-- The tokens of the pairs of a dictionary that is printed somewhere in a source. -/
theorem pairs_printed (pairs : List (PairKey × Term)) {source before after : Text}
    (split : source = before ++ (pairsText pairs ++ after)) :
    ∃ tokens, Segments before.length (pairsText pairs) tokens ∧
      ∀ closing, closing.isMark '\x7d' = true → PairsSpelled source pairs tokens closing := by
  match pairs with
  | [] => exact ⟨[], .nil _, fun closing mark => .nil⟩
  | [(key, item)] =>
      rw [pairsText_single] at split ⊢
      have behindKey : source = before ++ (key.text ++ [':', ' ']) ++ (item.text ++ after) := by
        rw [split]
        simp only [List.append_assoc, List.cons_append, List.nil_append]
      obtain ⟨first, behind, segments, -, spelled⟩ := term_printed item behindKey
      rw [List.length_append, List.length_append, ← Nat.add_assoc] at segments
      obtain ⟨t, colon, keyed, spelledKey, colonMark⟩ := pairKey_printed key before.length segments
      exact ⟨_, keyed, fun closing mark =>
        .last spelledKey colonMark (spelled _ (among_some mark (by decide))).1⟩
  | (key, item) :: second :: rest =>
      rw [pairsText_cons] at split ⊢
      have behindKey : source = before ++ (key.text ++ [':', ' ']) ++
          (item.text ++ (',' :: ' ' :: pairsText (second :: rest) ++ after)) := by
        rw [split]
        simp only [List.append_assoc, List.cons_append, List.nil_append]
      have further : source = before ++ (key.text ++ [':', ' ']) ++ item.text ++ [',', ' '] ++
          (pairsText (second :: rest) ++ after) := by
        rw [split]
        simp only [List.append_assoc, List.cons_append, List.nil_append]
      obtain ⟨first, behind, segments, -, spelled⟩ := term_printed item behindKey
      obtain ⟨tokens, segmentsRest, spelledRest⟩ := pairs_printed (second :: rest) further
      have place : (before ++ (key.text ++ [':', ' ']) ++ item.text ++ [',', ' ']).length =
          (before ++ (key.text ++ [':', ' '])).length + item.text.length + 1 + 1 := by
        rw [List.length_append, List.length_append]
        rfl
      rw [place] at segmentsRest
      have further := segments.append (segments_mark (c := ',') (lexeme_mark (by decide))
        (.blank (c := ' ') (by decide) segmentsRest)) (parted_cons (by decide) _ _)
      rw [List.length_append, List.length_append, ← Nat.add_assoc] at further
      obtain ⟨t, colon, keyed, spelledKey, colonMark⟩ := pairKey_printed key before.length further
      exact ⟨_, keyed, fun closing mark =>
        .cons spelledKey colonMark (spelled _ (among_some (c := ',') rfl (by decide))).1 rfl
          (spelledRest closing mark)⟩

end

/-! ## Entries -/

/-- The marks that stand behind a key or an attribute. -/
def boundaries : List Char := ['=', ',']

theorem Among.nameEnds {next : Option Token} (among : Among boundaries next) (last : Token) :
    NameEnds last next := by
  intro t same _
  refine ⟨among.noMark (by decide) t same, ?_⟩
  rw [among.kind t same]
  exact TokenKind.noConfusion

theorem hyphens_printed (words : List (Word .name)) (last : Token) :
    ∃ tokens final, Segments last.stop (words.flatMap ('-' :: ·.text)) tokens ∧
      HyphensSpelled last words tokens final := by
  induction words generalizing last with
  | nil => exact ⟨[], last, .nil _, .nil⟩
  | cons word words ih =>
      obtain ⟨tokens, final, segments, spelled⟩ := ih ⟨.name, word.text, last.stop + 1⟩
      have noName : NoName (words.flatMap ('-' :: ·.text)) := by
        cases words with
        | nil => exact noName_nil
        | cons next words => exact noName_cons (by decide)
      have named := segments_word word (n := last.stop + 1) (fun _ => noName) segments
      refine ⟨_, final, segments_mark (lexeme_mark (by decide)) named,
        .cons rfl ?_ ?_ rfl rfl spelled⟩
      · rw [touches, decide_eq_true_eq]
      · rw [touches, decide_eq_true_eq]
        rfl

/-- The tokens of names joined by hyphens that are printed at a position. -/
theorem hyphenated_printed (name : Hyphenated) (n : Nat) :
    ∃ first own, Segments n name.text (first :: own) ∧ first.start = n ∧
      ∀ next, Among boundaries next → name.Spelled (first :: own) next := by
  obtain ⟨tokens, final, segments, spelled⟩ :=
    hyphens_printed name.others ⟨.name, name.first.text, n⟩
  have noName : NoName (name.others.flatMap ('-' :: ·.text)) := by
    cases name.others with
    | nil => exact noName_nil
    | cons next words => exact noName_cons (by decide)
  exact ⟨_, tokens, segments_word name.first (fun _ => noName) segments, rfl,
    fun next among => .mk rfl rfl spelled (among.nameEnds final)⟩

/-- The tokens of a key that is printed at a position. -/
theorem key_printed (key : Key) (n : Nat) :
    ∃ first own, Segments n key.text (first :: own) ∧ first.start = n ∧
      ∀ next, Among boundaries next → key.Spelled (first :: own) next := by
  cases key with
  | quoted key =>
      exact ⟨_, [], segments_single ⟨literal key, lexeme_literal key⟩ n, rfl,
        fun next _ => .quoted rfl (unquote_literal key)⟩
  | bare name =>
      obtain ⟨first, own, segments, start, spelled⟩ := hyphenated_printed name n
      exact ⟨first, own, segments, start, fun next among => .bare (spelled next among)⟩

/-- The tokens of an attribute that is printed somewhere in a source. -/
theorem entry_printed (entry : Entry) {source before after : Text}
    (split : source = before ++ (entry.text ++ after)) :
    ∃ first own, Segments before.length entry.text (first :: own) ∧ first.start = before.length ∧
      ∀ next, Among [','] next → entry.Spelled source (first :: own) next := by
  cases entry with
  | positional value =>
      obtain ⟨first, own, segments, start, spelled⟩ := term_printed value split
      refine ⟨first, own, segments, start, fun next among => ?_⟩
      obtain ⟨inner, noKey⟩ := spelled next (among.mono (by decide))
      exact .positional inner noKey
  | lookup name hyphens =>
      obtain ⟨first, own, segments, start, spelled⟩ := hyphenated_printed name before.length
      exact ⟨first, own, segments, start, fun next among =>
        .lookup (spelled next (among.mono (by decide))) (among.noMark (by decide))⟩
  | keyword key value =>
      obtain ⟨first, own, keySegments, start, keySpelled⟩ := key_printed key before.length
      have placed : source = (before ++ (key.text ++ ['='])) ++ (value.text ++ after) := by
        rw [split, Entry.text]
        simp only [List.append_assoc, List.cons_append, List.nil_append]
      obtain ⟨t, behind, segments, -, spelled⟩ := term_printed value placed
      rw [List.length_append, List.length_append, ← Nat.add_assoc] at segments
      have all := keySegments.append (segments_mark (c := '=') (lexeme_mark (by decide)) segments)
        (parted_cons (by decide) _ _)
      refine ⟨first, _, all, start, fun next among => ?_⟩
      exact .keyword (keySpelled _ (among_some (c := '=') rfl (by decide))) rfl
        (spelled next (among.mono (by decide))).1

/-- The tokens of attributes that are printed behind another one. -/
theorem others_printed (entries : List Entry) {source before after : Text}
    (split : source = before ++ (othersText entries ++ after)) :
    ∃ tokens, Segments before.length (othersText entries) tokens ∧
      Among [','] tokens.head? ∧
      EntriesSpelled source (placed (before.length + 2) entries) tokens none := by
  induction entries generalizing before with
  | nil => exact ⟨[], .nil _, among_none _, .nil⟩
  | cons entry rest ih =>
      have text : othersText (entry :: rest) = ',' :: ' ' :: (entry.text ++ othersText rest) := by
        simp only [othersText, List.flatMap_cons, List.cons_append]
      rw [text] at split ⊢
      have here : source =
          before ++ [',', ' '] ++ (entry.text ++ (othersText rest ++ after)) := by
        rw [split]
        simp only [List.append_assoc, List.cons_append, List.nil_append]
      have further : source =
          before ++ [',', ' '] ++ entry.text ++ (othersText rest ++ after) := by
        rw [here]
        simp only [List.append_assoc]
      obtain ⟨first, own, segments, start, spelled⟩ := entry_printed entry here
      obtain ⟨tokens, segmentsRest, ahead, spelledRest⟩ := ih further
      rw [List.length_append] at segments start
      rw [List.length_append, List.length_append] at segmentsRest spelledRest
      have parted : Parted entry.text (othersText rest) := by
        cases rest with
        | nil => exact parted_nil _
        | cons next rest => exact parted_cons (by decide) _ _
      refine ⟨_, segments_mark (c := ',') (lexeme_mark (by decide)) (.blank (c := ' ')
        (by decide) (segments.append segmentsRest parted)), among_some rfl
        List.mem_cons_self, ?_⟩
      have separated : Separator [⟨.mark, [','], before.length⟩] := .inr ⟨_, rfl, rfl⟩
      have more := EntriesSpelled.cons separated
        (spelled _ (by rw [Option.or_none]; exact ahead)) spelledRest
      rw [start] at more
      exact more

/-- The tokens of attributes that are printed. -/
theorem entries_printed (entries : List Entry) :
    ∃ tokens, Segments 0 (entriesText entries) tokens ∧
      EntriesSpelled (entriesText entries) (placed 0 entries) tokens none := by
  cases entries with
  | nil => exact ⟨[], .nil _, .nil⟩
  | cons entry rest =>
      have here : entriesText (entry :: rest) = [] ++ (entry.text ++ othersText rest) := rfl
      have further : entriesText (entry :: rest) = entry.text ++ (othersText rest ++ []) := by
        rw [List.append_nil]
        rfl
      obtain ⟨first, own, segments, start, spelled⟩ := entry_printed entry here
      obtain ⟨tokens, segmentsRest, ahead, spelledRest⟩ := others_printed rest further
      have parted : Parted entry.text (othersText rest) := by
        cases rest with
        | nil => exact parted_nil _
        | cons next rest => exact parted_cons (by decide) _ _
      rw [← Nat.zero_add entry.text.length] at segmentsRest spelledRest
      refine ⟨_, segments.append segmentsRest parted, ?_⟩
      have separated : Separator [] := .inl rfl
      have all := EntriesSpelled.cons separated
        (spelled _ (by rw [Option.or_none]; exact ahead)) spelledRest
      rw [start] at all
      exact all

end ElementTags.Written

namespace ElementTags.Attribute

open Written

/-- A source whose tokens spell attributes is read as they are meant. -/
theorem read_of_spelled {source : Text} {tokens : List Token} {entries : List (Nat × Written.Entry)}
    (segments : Token.Segments 0 source tokens)
    (spelled : EntriesSpelled source entries tokens none) :
    read source = entriesMeaning entries := by
  have all := readEntries_complete spelled (show none = ([] : List Token).head? from rfl)
  rw [List.append_nil, readEntries] at all
  rw [read, Token.scan, segments.scanFrom_eq]
  refine all.trans ?_
  cases entriesMeaning entries with
  | error fault => rfl
  | ok values => exact congrArg Except.ok (List.append_nil values)

/-- Attributes that are printed are read back as they are meant, each at the position where it was
printed. Where a value or a filter is not accepted, reading fails for the same reason. -/
theorem read_entriesText (entries : List Written.Entry) :
    read (entriesText entries) = entriesMeaning (placed 0 entries) := by
  obtain ⟨tokens, segments, spelled⟩ := entries_printed entries
  exact read_of_spelled segments spelled

end ElementTags.Attribute
