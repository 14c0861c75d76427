import ElementTags.Proofs.Slices

/-! # Tokens at other positions

The grammar asks of two neighbouring tokens whether they touch, and it takes code
from the source; nothing else depends on where a token stands. So what some tokens
spell, they also spell at other positions (`ElementTags.Written.Term.Spelled.relocate`),
if no two of them come to touch, if those that belong together go on to touch, and if
the code between parentheses stays as it is (`ElementTags.Token.Relocated`). Tokens at
such positions are read as the same attributes
(`ElementTags.Attribute.readEntries_relocated`).
-/

namespace ElementTags

/-- An attribute at the place of its position. -/
def Entry.relocate (place : Nat → Nat) (entry : Entry) : Entry := entry.placeAt (place entry.start)

namespace Token

open Attribute

/-- A token at the place of its position. -/
def relocate (place : Nat → Nat) (t : Token) : Token := { t with start := place t.start }

@[simp] theorem relocate_text (place : Nat → Nat) (t : Token) : (t.relocate place).text = t.text :=
  rfl

/-- Two tokens may belong together when they touch: a hyphen and what stands beside it, and the
underscore and the parenthesis of a localized literal. -/
def Tied (left right : Token) : Prop :=
  left.isMark '-' = true ∨ right.isMark '-' = true ∨
    (left.kind = .name ∧ left.text = ['_'] ∧ right.isMark '(' = true)

/-! ## Code between parentheses -/

/-- How many brackets are open behind a token. Only a parenthesis is the first to be opened, and
then brackets of all kinds count alike. -/
def deepen (depth : Nat) (t : Token) : Nat :=
  match depth with
  | 0 => if t.isMark '(' then 1 else 0
  | depth + 1 => if opens t then depth + 2 else if closes t then depth else depth + 1

/-- How many brackets are open behind some tokens, since the parenthesis around them all. -/
def codeDepth (tokens : List Token) : Nat := tokens.foldl deepen 0

theorem deepen_of_not_isMark {t : Token} (other : t.isMark '(' = false) : deepen 0 t = 0 :=
  if_neg (ne_true_of_eq_false other)

theorem deepen_succ (depth : Nat) (t : Token) :
    (deepen (depth + 1) t : Int) = depth + 1 + bracket t := by
  cases opening : opens t with
  | true =>
      rw [bracket_of_opens opening, deepen, if_pos opening]
      omega
  | false =>
      cases closing : closes t with
      | true =>
          rw [bracket_of_closes closing, deepen, if_neg (ne_true_of_eq_false opening),
            if_pos closing]
          omega
      | false =>
          rw [bracket_of_neither opening closing, deepen, if_neg (ne_true_of_eq_false opening),
            if_neg (ne_true_of_eq_false closing)]
          omega

/-- Behind the first of some tokens whose brackets close, those of the others do. -/
theorem deepen_of_closed {depth : Nat} {t : Token} {tokens : List Token}
    (closed : Closed depth (t :: tokens)) :
    ∃ next : Nat, deepen (depth + 1) t = next + 1 ∧ Closed next tokens := by
  obtain ⟨_, behind⟩ := closed_cons_iff.mp closed
  have under := behind.1 0
  rw [List.take_zero, openBrackets_nil] at under
  obtain ⟨next, here⟩ : ∃ next : Nat, (depth : Int) + bracket t = next :=
    ⟨(depth + bracket t).toNat, by omega⟩
  have moved := deepen_succ depth t
  rw [here] at behind
  exact ⟨next, by omega, behind⟩

/-- Behind brackets that close, only those in front of them are open. -/
theorem foldl_deepen_of_closed {depth : Nat} {tokens : List Token} (closed : Closed depth tokens) :
    tokens.foldl deepen (depth + 1) = 1 := by
  induction tokens generalizing depth with
  | nil =>
      have none := closed_nil_iff.mp closed
      rw [List.foldl_nil]
      omega
  | cons t tokens ih =>
      obtain ⟨next, deeper, behind⟩ := deepen_of_closed closed
      rw [List.foldl_cons, deeper]
      exact ih behind

theorem codeDepth_concat (front : List Token) (t : Token) :
    codeDepth (front ++ [t]) = deepen (codeDepth front) t := by
  rw [codeDepth, List.foldl_concat, ← codeDepth]

theorem codeDepth_append {front : List Token} (level : codeDepth front = 0) (tokens : List Token) :
    codeDepth (front ++ tokens) = codeDepth tokens := by
  rw [codeDepth, List.foldl_append, ← codeDepth, level]
  rfl

theorem codeDepth_cons {t : Token} (other : t.isMark '(' = false) (tokens : List Token) :
    codeDepth (t :: tokens) = codeDepth tokens := by
  rw [codeDepth, List.foldl_cons, deepen_of_not_isMark other]
  rfl

theorem codeDepth_parenthesized {paren close : Token} {inner : List Token}
    (mark : paren.isMark '(' = true) (balanced : Balanced inner)
    (closeMark : close.isMark ')' = true) (tokens : List Token) :
    codeDepth (paren :: (inner ++ close :: tokens)) = codeDepth tokens := by
  have opened : deepen 0 paren = 1 := if_pos mark
  have closed : Closed (0 : Nat) inner := closed_zero_iff.mpr balanced
  have inside : inner.foldl deepen 1 = 1 := foldl_deepen_of_closed closed
  have closing : closes close = true := by rw [closes, closeMark]; rfl
  have ends : deepen 1 close = 0 := by
    have under := deepen_succ 0 close
    rw [bracket_of_closes closing, Nat.zero_add] at under
    omega
  rw [codeDepth, List.foldl_cons, opened, List.foldl_append, inside, List.foldl_cons, ends]
  rfl

theorem openBrackets_map_relocate (place : Nat → Nat) (tokens : List Token) :
    openBrackets (tokens.map (relocate place)) = openBrackets tokens := by
  simp only [openBrackets, List.countP_map]
  rfl

theorem balanced_map_relocate {place : Nat → Nat} {tokens : List Token} :
    Balanced (tokens.map (relocate place)) ↔ Balanced tokens := by
  simp only [Balanced, ← List.map_take, openBrackets_map_relocate]

/-! ## Places that keep what tokens spell -/

/-- At their new places in a target the tokens of a source still belong together as they did: none
of them come to touch, those that may belong together go on to touch, and code stays as it is. -/
structure Relocated (place : Nat → Nat) (source target : Text) (tokens : List Token) : Prop where
  apart : ∀ left right, [left, right] <:+: tokens →
    (left.relocate place).touches (right.relocate place) = true → left.touches right = true
  tied : ∀ left right, [left, right] <:+: tokens → Tied left right →
    left.touches right = true → (left.relocate place).touches (right.relocate place) = true
  code : ∀ front paren inner close behind, tokens = front ++ paren :: (inner ++ close :: behind) →
    codeDepth front = 0 → paren.isMark '(' = true → Balanced inner → close.isMark ')' = true →
    codeBetween target (paren.relocate place).stop (close.relocate place).start =
      codeBetween source paren.stop close.start

variable {place : Nat → Nat} {source target : Text} {tokens own rest : List Token}

theorem Relocated.behind (relocated : Relocated place source target (own ++ rest))
    (level : codeDepth own = 0) : Relocated place source target rest where
  apart left right inside :=
    relocated.apart left right (inside.trans (List.suffix_append own rest).isInfix)
  tied left right inside :=
    relocated.tied left right (inside.trans (List.suffix_append own rest).isInfix)
  code front paren inner close others split outside := by
    refine relocated.code (own ++ front) paren inner close others ?_ ?_
    · rw [split, List.append_assoc]
    · rw [codeDepth_append level, outside]

theorem Relocated.tail {t : Token} (relocated : Relocated place source target (t :: tokens))
    (other : t.isMark '(' = false) : Relocated place source target tokens :=
  Relocated.behind (show Relocated place source target ([t] ++ tokens) from relocated)
    (by rw [codeDepth_cons other]; rfl)

/-- The first two tokens go on to touch. -/
theorem Relocated.tied_head {left right : Token}
    (relocated : Relocated place source target (left :: right :: tokens)) (tied : Tied left right)
    (touching : left.touches right = true) :
    (left.relocate place).touches (right.relocate place) = true :=
  relocated.tied left right ⟨[], tokens, rfl⟩ tied touching

/-- The last of some tokens and the next one do not come to touch. -/
theorem Relocated.apart_last {last next : Token}
    (relocated : Relocated place source target (own ++ rest)) (final : own.getLast? = some last)
    (ahead : rest.head? = some next)
    (touching : (last.relocate place).touches (next.relocate place) = true) :
    last.touches next = true := by
  obtain ⟨front, rfl⟩ := List.getLast?_eq_some_iff.mp final
  obtain ⟨others, rfl⟩ := List.head?_eq_some_iff.mp ahead
  refine relocated.apart last next ⟨front, others, ?_⟩ touching
  simp only [List.append_assoc, List.cons_append, List.nil_append]

end Token

namespace Written

open Attribute Token Outcome

variable {place : Nat → Nat} {source target : Text} {own tokens rest : List Token}
  {next : Option Token}

/-! ## No parenthesis stays open -/

theorem isMark_of_operator {t : Token} {operator : Operator} (mark : operator? t = some operator) :
    t.isMark '(' = false :=
  isMark_of_ne (operator?_eq_some_iff.mp mark) (by cases operator <;> decide)

theorem Operand.Spelled.codeDepth {operand : Operand} (spelled : operand.Spelled own next) :
    Token.codeDepth own = 0 := by
  cases spelled with
  | literal kind _ => exact codeDepth_cons (isMark_of_kind (kind_ne kind (by decide)) _) []
  | name kind _ _ => exact codeDepth_cons (isMark_of_kind (kind_ne kind (by decide)) _) []
  | negative mark kind _ _ =>
      rw [codeDepth_cons (isMark_of_ne mark (by decide))]
      exact codeDepth_cons (isMark_of_kind (kind_ne kind (by decide)) _) []
  | @localized word name paren t close _ nameKind _ opening _ kind _ closing =>
      have other : t.kind ≠ .mark := kind_ne kind (by decide)
      have plain : bracket t = 0 := bracket_of_neither
        (by simp only [opens, isMark_of_kind other, Bool.or_false])
        (by simp only [closes, isMark_of_kind other, Bool.or_false])
      have balanced : Balanced [t] := by
        refine closed_zero_iff.mp (closed_cons_iff.mpr ⟨Int.le_refl 0, closed_nil_iff.mpr ?_⟩)
        rw [plain]
        rfl
      rw [codeDepth_cons (isMark_of_kind (kind_ne nameKind (by decide)) _)]
      exact codeDepth_parenthesized opening balanced closing []

theorem CallsSpelled.codeDepth {calls : List Call} (spelled : CallsSpelled calls tokens next) :
    Token.codeDepth tokens = 0 := by
  induction spelled with
  | nil => rfl
  | plain mark kind _ _ _ ih =>
      rw [codeDepth_cons (isMark_of_ne mark (by decide)),
        codeDepth_cons (isMark_of_kind (kind_ne kind (by decide)) _)]
      exact ih
  | argument mark kind _ colonMark spelled _ ih =>
      rw [codeDepth_cons (isMark_of_ne mark (by decide)),
        codeDepth_cons (isMark_of_kind (kind_ne kind (by decide)) _),
        codeDepth_cons (isMark_of_ne colonMark (by decide)), codeDepth_append spelled.codeDepth]
      exact ih

theorem OperationsSpelled.codeDepth {others : List (Operator × Operand)}
    (spelled : OperationsSpelled others tokens next) : Token.codeDepth tokens = 0 := by
  induction spelled with
  | nil => rfl
  | cons mark spelled _ ih =>
      rw [codeDepth_cons (isMark_of_operator mark), codeDepth_append spelled.codeDepth]
      exact ih

theorem PairKey.Spelled.isMark {key : PairKey} {t : Token} (spelled : key.Spelled t) (c : Char) :
    t.isMark c = false := by
  cases spelled with
  | quoted kind _ => exact isMark_of_kind (kind_ne kind (by decide)) _
  | bare kind _ => exact isMark_of_kind (kind_ne kind (by decide)) _

mutual

theorem Term.Spelled.codeDepth {term : Term} {own : List Token} {next : Option Token}
    (spelled : term.Spelled source own next) :
    Token.codeDepth own = 0 := by
  cases spelled with
  | plain spelled _ others =>
      rw [codeDepth_append spelled.codeDepth]
      exact others.codeDepth
  | joined spelled operations others =>
      rw [codeDepth_append spelled.codeDepth, codeDepth_append operations.codeDepth]
      exact others.codeDepth
  | list openMark spelled closeMark others =>
      rw [codeDepth_cons (isMark_of_ne openMark (by decide)), codeDepth_append spelled.codeDepth,
        codeDepth_cons (isMark_of_ne closeMark (by decide))]
      exact others.codeDepth
  | dict openMark spelled closeMark others =>
      rw [codeDepth_cons (isMark_of_ne openMark (by decide)), codeDepth_append spelled.codeDepth,
        codeDepth_cons (isMark_of_ne closeMark (by decide))]
      exact others.codeDepth
  | parenthesized openMark balanced closeMark _ others =>
      rw [codeDepth_parenthesized openMark balanced closeMark]
      exact others.codeDepth

theorem ItemsSpelled.codeDepth {items : List Term} {tokens : List Token} {closing : Token}
    (spelled : ItemsSpelled source items tokens closing) : Token.codeDepth tokens = 0 := by
  cases spelled with
  | nil => rfl
  | last spelled => exact spelled.codeDepth
  | cons spelled mark others =>
      rw [codeDepth_append spelled.codeDepth, codeDepth_cons (isMark_of_ne mark (by decide))]
      exact others.codeDepth

theorem PairsSpelled.codeDepth {pairs : List (PairKey × Term)} {tokens : List Token}
    {closing : Token} (spelled : PairsSpelled source pairs tokens closing) :
    Token.codeDepth tokens = 0 := by
  cases spelled with
  | nil => rfl
  | last keySpelled colonMark spelled =>
      rw [codeDepth_cons (keySpelled.isMark _), codeDepth_cons (isMark_of_ne colonMark (by decide))]
      exact spelled.codeDepth
  | cons keySpelled colonMark spelled mark others =>
      rw [codeDepth_cons (keySpelled.isMark _), codeDepth_cons (isMark_of_ne colonMark (by decide)),
        codeDepth_append spelled.codeDepth, codeDepth_cons (isMark_of_ne mark (by decide))]
      exact others.codeDepth

end

/-! ## What is spelled at other places -/

theorem NoMark.relocate {c : Char} (noMark : NoMark c next) :
    NoMark c (next.map (Token.relocate place)) := by
  intro t same
  obtain ⟨u, here, rfl⟩ := Option.map_eq_some_iff.mp same
  exact noMark u here

theorem NoOperator.relocate (noOperator : NoOperator next) :
    NoOperator (next.map (Token.relocate place)) := by
  intro t same
  obtain ⟨u, here, rfl⟩ := Option.map_eq_some_iff.mp same
  exact noOperator u here

/-- The next token behind some tokens is the first of them or of the others. -/
theorem map_head?_or (place : Nat → Nat) (tokens rest : List Token) :
    (tokens.head?.or rest.head?).map (Token.relocate place) =
      (tokens.map (Token.relocate place)).head?.or (rest.head?.map (Token.relocate place)) := by
  rw [Option.map_or, List.head?_map]

theorem Operand.Spelled.relocate {operand : Operand} (spelled : operand.Spelled own rest.head?)
    (relocated : Relocated place source target (own ++ rest)) :
    operand.Spelled (own.map (Token.relocate place)) (rest.head?.map (Token.relocate place)) := by
  generalize ahead : rest.head? = next at spelled
  cases spelled with
  | literal kind text => exact .literal kind text
  | @name word t _ kind text plain =>
      refine .name kind text fun underscore paren same mark => ?_
      obtain ⟨u, here, rfl⟩ := Option.map_eq_some_iff.mp same
      refine eq_false_of_ne_true fun touching => ?_
      have final : [t].getLast? = some t := rfl
      have close := relocated.apart_last final (ahead.trans here) touching
      rw [plain underscore u here mark] at close
      cases close
  | @negative number sign t _ mark kind text adjacent =>
      exact .negative mark kind text (relocated.tied_head (.inl mark) adjacent)
  | @localized word name paren t close _ nameKind nameText opening adjacent kind text closing =>
      exact .localized nameKind nameText opening
        (relocated.tied_head (.inr (.inr ⟨nameKind, nameText, opening⟩)) adjacent) kind text closing

theorem CallsSpelled.relocate {calls : List Call} (spelled : CallsSpelled calls tokens next)
    (ahead : rest.head? = next) (relocated : Relocated place source target (tokens ++ rest)) :
    CallsSpelled calls (tokens.map (Token.relocate place)) (next.map (Token.relocate place)) := by
  induction spelled with
  | nil ended => exact .nil ended.relocate
  | plain mark kind text noArgument others ih =>
      have behind := (relocated.tail (isMark_of_ne mark (by decide))).tail
        (isMark_of_kind (kind_ne kind (by decide)) _)
      refine .plain mark kind text ?_ (ih ahead behind)
      subst ahead
      rw [← map_head?_or]
      exact noArgument.relocate
  | @argument word operand calls bar name colon own tokens next mark kind text colonMark spelled
      others ih =>
      simp only [List.cons_append, List.append_assoc] at relocated
      have behind := ((relocated.tail (isMark_of_ne mark (by decide))).tail
        (isMark_of_kind (kind_ne kind (by decide)) _)).tail (isMark_of_ne colonMark (by decide))
      simp only [List.map_cons, List.map_append]
      refine .argument mark kind text colonMark ?_ (ih ahead (behind.behind spelled.codeDepth))
      subst ahead
      rw [← List.head?_append] at spelled
      rw [← map_head?_or, ← List.head?_append]
      exact spelled.relocate behind

theorem OperationsSpelled.relocate {others : List (Operator × Operand)}
    (spelled : OperationsSpelled others tokens next) (ahead : rest.head? = next)
    (relocated : Relocated place source target (tokens ++ rest)) :
    OperationsSpelled others (tokens.map (Token.relocate place))
      (next.map (Token.relocate place)) := by
  induction spelled with
  | nil ended => exact .nil ended.relocate
  | @cons operator operand others t own tokens next mark spelled _ ih =>
      rw [List.cons_append, List.append_assoc] at relocated
      have behind := relocated.tail (isMark_of_operator mark)
      simp only [List.map_cons, List.map_append]
      refine .cons mark ?_ (ih ahead (behind.behind spelled.codeDepth))
      subst ahead
      rw [← List.head?_append] at spelled
      rw [← map_head?_or, ← List.head?_append]
      exact spelled.relocate behind

theorem PairKey.Spelled.relocate {key : PairKey} {t : Token} (spelled : key.Spelled t) :
    key.Spelled (t.relocate place) := by
  cases spelled with
  | quoted kind text => exact .quoted kind text
  | bare kind text => exact .bare kind text

mutual

/-- **A term is spelled by its tokens at other places, too.** -/
theorem Term.Spelled.relocate {term : Term} {own rest : List Token}
    (spelled : term.Spelled source own rest.head?)
    (relocated : Relocated place source target (own ++ rest)) :
    term.Spelled target (own.map (Token.relocate place))
      (rest.head?.map (Token.relocate place)) := by
  cases spelled with
  | @plain operand calls own tokens _ spelled single others =>
      rw [List.append_assoc] at relocated
      rw [← List.head?_append] at spelled
      have operands := spelled.relocate relocated
      rw [List.head?_append, map_head?_or] at operands
      have calls := others.relocate rfl (relocated.behind spelled.codeDepth)
      rw [List.map_append]
      refine .plain operands ?_ calls
      rw [← map_head?_or]
      exact single.relocate
  | @joined first others several calls own middle tokens _ spelled operations filtered =>
      rw [List.append_assoc, List.append_assoc] at relocated
      have nonempty : middle.head? = (middle ++ (tokens ++ rest)).head? := by
        cases operations with
        | nil => exact absurd rfl several
        | cons => rfl
      rw [nonempty] at spelled
      have operands := spelled.relocate relocated
      rw [← nonempty, ← List.head?_map] at operands
      have behind := relocated.behind spelled.codeDepth
      rw [← List.head?_append] at operations
      have operators := operations.relocate rfl behind
      rw [List.head?_append, map_head?_or] at operators
      have calls := filtered.relocate rfl (behind.behind operations.codeDepth)
      rw [List.map_append, List.map_append]
      exact .joined operands operators calls
  | @list items calls opening closing inner tokens _ openMark spelled closeMark others =>
      rw [List.cons_append, List.append_assoc, List.cons_append] at relocated
      have inside := relocated.tail (isMark_of_ne openMark (by decide))
      have behind := (inside.behind spelled.codeDepth).tail (isMark_of_ne closeMark (by decide))
      rw [List.map_cons, List.map_append, List.map_cons]
      exact .list openMark (spelled.relocate inside) closeMark (others.relocate rfl behind)
  | @dict pairs calls opening closing inner tokens _ openMark spelled closeMark others =>
      rw [List.cons_append, List.append_assoc, List.cons_append] at relocated
      have inside := relocated.tail (isMark_of_ne openMark (by decide))
      have behind := (inside.behind spelled.codeDepth).tail (isMark_of_ne closeMark (by decide))
      rw [List.map_cons, List.map_append, List.map_cons]
      exact .dict openMark (spelled.relocate inside) closeMark (others.relocate rfl behind)
  | @parenthesized code calls opening closing inner tokens _ openMark balanced closeMark text
      others =>
      have level : Token.codeDepth (opening :: (inner ++ [closing])) = 0 :=
        codeDepth_parenthesized openMark balanced closeMark []
      have same := relocated.code [] opening inner closing (tokens ++ rest)
        (by simp only [List.cons_append, List.append_assoc, List.nil_append]) rfl openMark balanced
        closeMark
      have split : opening :: (inner ++ closing :: tokens) ++ rest =
          opening :: (inner ++ [closing]) ++ (tokens ++ rest) := by
        simp only [List.cons_append, List.append_assoc, List.nil_append]
      rw [split] at relocated
      rw [List.map_cons, List.map_append, List.map_cons]
      refine .parenthesized openMark ?_ closeMark (same.trans text)
        (others.relocate rfl (relocated.behind level))
      exact balanced_map_relocate.mpr balanced

/-- The items of a list are, too. -/
theorem ItemsSpelled.relocate {items : List Term} {tokens rest : List Token} {closing : Token}
    (spelled : ItemsSpelled source items tokens closing)
    (relocated : Relocated place source target (tokens ++ closing :: rest)) :
    ItemsSpelled target items (tokens.map (Token.relocate place)) (closing.relocate place) := by
  cases spelled with
  | nil => exact .nil
  | @last item _ _ spelled =>
      have here : item.Spelled source tokens (closing :: rest).head? := spelled
      exact .last (here.relocate relocated)
  | @cons item others own tokens comma _ spelled mark behind =>
      rw [List.append_assoc, List.cons_append] at relocated
      have here : item.Spelled source own (comma :: (tokens ++ closing :: rest)).head? := spelled
      rw [List.map_append, List.map_cons]
      refine .cons (here.relocate relocated) mark ?_
      exact behind.relocate ((relocated.behind spelled.codeDepth).tail
        (isMark_of_ne mark (by decide)))

/-- The pairs of a dictionary are, too. -/
theorem PairsSpelled.relocate {pairs : List (PairKey × Term)} {tokens rest : List Token}
    {closing : Token} (spelled : PairsSpelled source pairs tokens closing)
    (relocated : Relocated place source target (tokens ++ closing :: rest)) :
    PairsSpelled target pairs (tokens.map (Token.relocate place)) (closing.relocate place) := by
  cases spelled with
  | nil => exact .nil
  | @last key item keyToken colon own _ keySpelled colonMark spelled =>
      have inside := (relocated.tail (keySpelled.isMark _)).tail
        (isMark_of_ne colonMark (by decide))
      have here : item.Spelled source own (closing :: rest).head? := spelled
      exact .last keySpelled.relocate colonMark (here.relocate inside)
  | @cons key item others keyToken colon own tokens comma _ keySpelled colonMark spelled mark
      behind =>
      simp only [List.cons_append, List.append_assoc] at relocated
      have inside := (relocated.tail (keySpelled.isMark _)).tail
        (isMark_of_ne colonMark (by decide))
      have here : item.Spelled source own (comma :: (tokens ++ closing :: rest)).head? := spelled
      rw [List.map_cons, List.map_cons, List.map_append, List.map_cons]
      refine .cons keySpelled.relocate colonMark (here.relocate inside) mark ?_
      exact behind.relocate ((inside.behind spelled.codeDepth).tail
        (isMark_of_ne mark (by decide)))

end

/-! ## Keys and attributes -/

theorem HyphensSpelled.codeDepth {last final : Token} {words : List (Word .name)}
    (spelled : HyphensSpelled last words tokens final) : Token.codeDepth tokens = 0 := by
  induction spelled with
  | nil => rfl
  | cons mark _ _ kind _ _ ih =>
      rw [codeDepth_cons (isMark_of_ne mark (by decide)),
        codeDepth_cons (isMark_of_kind (kind_ne kind (by decide)) _)]
      exact ih

theorem Hyphenated.Spelled.codeDepth {name : Hyphenated} (spelled : name.Spelled own next) :
    Token.codeDepth own = 0 := by
  cases spelled with
  | mk kind _ others _ =>
      rw [codeDepth_cons (isMark_of_kind (kind_ne kind (by decide)) _)]
      exact others.codeDepth

theorem Key.Spelled.codeDepth {key : Key} (spelled : key.Spelled own next) :
    Token.codeDepth own = 0 := by
  cases spelled with
  | quoted kind _ => exact codeDepth_cons (isMark_of_kind (kind_ne kind (by decide)) _) []
  | bare spelled => exact spelled.codeDepth

theorem Entry.Spelled.codeDepth {entry : Entry} (spelled : entry.Spelled source own next) :
    Token.codeDepth own = 0 := by
  cases spelled with
  | positional spelled _ => exact spelled.codeDepth
  | lookup spelled _ => exact spelled.codeDepth
  | keyword keySpelled mark spelled =>
      rw [codeDepth_append keySpelled.codeDepth, codeDepth_cons (isMark_of_ne mark (by decide))]
      exact spelled.codeDepth

theorem Separator.codeDepth (separated : Separator tokens) : Token.codeDepth tokens = 0 := by
  rcases separated with rfl | ⟨comma, rfl, mark⟩
  · rfl
  · exact codeDepth_cons (isMark_of_ne mark (by decide)) []

theorem Separator.relocate (separated : Separator tokens) :
    Separator (tokens.map (Token.relocate place)) := by
  rcases separated with rfl | ⟨comma, rfl, mark⟩
  · exact .inl rfl
  · exact .inr ⟨_, rfl, mark⟩

theorem HyphensSpelled.relocate {last final : Token} {words : List (Word .name)}
    (spelled : HyphensSpelled last words tokens final) (named : last.kind = .name)
    (relocated : Relocated place source target (last :: (tokens ++ rest))) :
    HyphensSpelled (last.relocate place) words (tokens.map (Token.relocate place))
      (final.relocate place) := by
  induction spelled with
  | nil => exact .nil
  | cons mark left right kind text _ ih =>
      simp only [List.cons_append] at relocated
      have behind := relocated.tail (isMark_of_kind (kind_ne named (by decide)) _)
      exact .cons mark (relocated.tied_head (.inr (.inl mark)) left)
        (behind.tied_head (.inl mark) right) kind text
        (ih kind (behind.tail (isMark_of_ne mark (by decide))))

theorem Hyphenated.Spelled.relocate {name : Hyphenated} (spelled : name.Spelled own rest.head?)
    (relocated : Relocated place source target (own ++ rest)) :
    name.Spelled (own.map (Token.relocate place)) (rest.head?.map (Token.relocate place)) := by
  generalize ahead : rest.head? = next at spelled
  cases spelled with
  | mk kind text others ended =>
      refine .mk kind text (others.relocate kind relocated) fun t same touching => ?_
      obtain ⟨u, here, rfl⟩ := Option.map_eq_some_iff.mp same
      exact ended u here (relocated.apart_last others.getLast? (ahead.trans here) touching)

theorem Key.Spelled.relocate {key : Key} (spelled : key.Spelled own rest.head?)
    (relocated : Relocated place source target (own ++ rest)) :
    key.Spelled (own.map (Token.relocate place)) (rest.head?.map (Token.relocate place)) := by
  cases spelled with
  | quoted kind text => exact .quoted kind text
  | bare spelled => exact .bare (spelled.relocate relocated)

/-- An attribute is spelled by its tokens at other places, too. -/
theorem Entry.Spelled.relocate {entry : Entry} (spelled : entry.Spelled source own rest.head?)
    (relocated : Relocated place source target (own ++ rest)) :
    entry.Spelled target (own.map (Token.relocate place))
      (rest.head?.map (Token.relocate place)) := by
  cases spelled with
  | @positional value first tokens _ spelled noKey =>
      refine .positional (spelled.relocate relocated) fun other t same => ?_
      rw [← map_head?_or] at same
      obtain ⟨u, here, rfl⟩ := Option.map_eq_some_iff.mp same
      obtain ⟨noEquals, apart⟩ := noKey other u here
      refine ⟨noEquals, fun touching => apart ?_⟩
      rw [← List.head?_append] at here
      have final : [first].getLast? = some first := rfl
      have whole : Relocated place source target ([first] ++ (tokens ++ rest)) := relocated
      exact whole.apart_last final here touching
  | lookup spelled noKey => exact .lookup (spelled.relocate relocated) noKey.relocate
  | @keyword key value own tokens equals _ keySpelled mark spelled =>
      rw [List.append_assoc, List.cons_append] at relocated
      have behind := (relocated.behind keySpelled.codeDepth).tail (isMark_of_ne mark (by decide))
      have here : key.Spelled own (equals :: (tokens ++ rest)).head? := keySpelled
      rw [List.map_append, List.map_cons]
      exact .keyword (here.relocate relocated) mark (spelled.relocate behind)

/-- Attributes are spelled by their tokens at other places, too. -/
theorem EntriesSpelled.relocate {written : List (Nat × Entry)}
    (spelled : EntriesSpelled source written tokens next) (ahead : rest.head? = next)
    (relocated : Relocated place source target (tokens ++ rest)) :
    EntriesSpelled target (written.map fun p => (place p.1, p.2))
      (tokens.map (Token.relocate place)) (next.map (Token.relocate place)) := by
  induction spelled with
  | nil => exact .nil
  | @cons entry others first separator own tokens next separated spelled behind ih =>
      subst ahead
      rw [List.append_assoc, List.append_assoc] at relocated
      have here := relocated.behind separated.codeDepth
      rw [← List.head?_append] at spelled
      have entries := spelled.relocate here
      rw [List.head?_append, map_head?_or] at entries
      simp only [List.map_cons, List.map_append]
      exact .cons separated.relocate entries (ih rfl (here.behind spelled.codeDepth))

/-- Only the position of an entry depends on where it stands. -/
theorem Entry.meaning_placeAt {entry : Entry} {start : Nat} {value : ElementTags.Entry}
    (means : entry.meaning start = .ok value) (place : Nat) :
    entry.meaning place = .ok (value.placeAt place) := by
  cases entry with
  | positional term =>
      obtain ⟨found, inner, rfl⟩ := map_eq_ok.mp means
      exact map_eq_ok.mpr ⟨found, inner, rfl⟩
  | lookup name hyphens =>
      cases means
      rfl
  | keyword key term =>
      obtain ⟨found, inner, rfl⟩ := map_eq_ok.mp means
      exact map_eq_ok.mpr ⟨found, inner, rfl⟩

theorem entriesMeaning_relocate (place : Nat → Nat) {written : List (Nat × Entry)}
    {entries : List ElementTags.Entry} (means : entriesMeaning written = .ok entries) :
    entries.map (·.start) = written.map (·.1) ∧
      entriesMeaning (written.map fun p => (place p.1, p.2)) =
        .ok (entries.map (ElementTags.Entry.relocate place)) := by
  induction written generalizing entries with
  | nil =>
      cases means
      exact ⟨rfl, rfl⟩
  | cons p written ih =>
      rw [entriesMeaning] at means
      obtain ⟨value, here, means⟩ := bind_eq_ok.mp means
      obtain ⟨values, behind, same⟩ := bind_eq_ok.mp means
      cases same
      have start := start_of_meaning here
      have there := Entry.meaning_placeAt here (place p.1)
      obtain ⟨starts, others⟩ := ih behind
      constructor
      · rw [List.map_cons, List.map_cons, start, starts]
      · rw [List.map_cons, entriesMeaning, there, ok_bind, others, List.map_cons,
          ElementTags.Entry.relocate, start]
        rfl

theorem EntriesSpelled.starts_sublist {written : List (Nat × Entry)}
    (spelled : EntriesSpelled source written tokens next) :
    (written.map (·.1)).Sublist (tokens.map (·.start)) := by
  induction spelled with
  | nil => exact .slnil
  | @cons entry others first separator own tokens next _ _ _ ih =>
      simp only [List.map_cons, List.map_append]
      exact (((List.Sublist.refl [first.start]).append
        (ih.trans (List.sublist_append_right _ _)))).trans (List.sublist_append_right _ _)

end Written

namespace Attribute

open Token Written

/-- The tokens of accepted attributes are read as the same attributes at other places. Each
attribute starts with a token. -/
theorem readEntries_relocated {place : Nat → Nat} {source target : Text} {tokens : List Token}
    {entries : List ElementTags.Entry} (part : Part source tokens)
    (accepted : readEntries source tokens = .ok entries)
    (relocated : Relocated place source target tokens) :
    readEntries target (tokens.map (Token.relocate place)) =
        .ok (entries.map (Entry.relocate place)) ∧
      (entries.map (·.start)).Sublist (tokens.map (·.start)) := by
  obtain ⟨written, own, final, rfl, separated, spelled, means⟩ := readEntries_sound part accepted
  obtain ⟨starts, meansThere⟩ := entriesMeaning_relocate place means
  have there := spelled.relocate rfl relocated
  rw [← List.head?_map] at there
  constructor
  · rw [List.map_append, readEntries_complete there rfl, meansThere,
      readEntries_final separated.relocate]
    exact congrArg Except.ok (List.append_nil _)
  · rw [starts, List.map_append]
    exact spelled.starts_sublist.trans (List.sublist_append_left _ _)

end Attribute
end ElementTags
