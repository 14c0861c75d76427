import ElementTags.Attribute.Reader
import ElementTags.Proofs.Segmentation

/-! # Balanced brackets

Brackets of all kinds count alike in code. The token that closes the parenthesis in
front of the code is the first one behind which fewer brackets are open than at the
start (`ElementTags.Attribute.closing?_eq_some_iff`), so the tokens in front of it
are balanced.
-/

namespace ElementTags

open Attribute

namespace Token

theorem isMark_iff {t : Token} {c : Char} : t.isMark c = true ↔ t.kind = .mark ∧ t.text = [c] := by
  simp only [isMark, Bool.and_eq_true, decide_eq_true_eq]

/-- A token is one mark at most. -/
theorem isMark_unique {t : Token} {c d : Char} (mark : t.isMark c = true) :
    t.isMark d = decide (c = d) := by
  obtain ⟨kind, text⟩ := isMark_iff.mp mark
  simp only [isMark, kind, text, decide_true, Bool.true_and, List.cons.injEq, and_true]

/-- What a bracket adds to the number of open brackets. -/
def bracket (t : Token) : Int := if opens t then 1 else if closes t then -1 else 0

/-- How many brackets are open behind some tokens, brackets of all kinds alike. -/
def openBrackets (tokens : List Token) : Int :=
  (tokens.countP opens : Int) - (tokens.countP closes : Int)

/-- Behind `depth` open brackets, no more are closed than are open, and in the end all are
closed. -/
def Closed (depth : Int) (tokens : List Token) : Prop :=
  (∀ count, 0 ≤ depth + openBrackets (tokens.take count)) ∧ depth + openBrackets tokens = 0

/-- No bracket is closed before it is opened, and none stays open. -/
def Balanced (tokens : List Token) : Prop :=
  (∀ count, 0 ≤ openBrackets (tokens.take count)) ∧ openBrackets tokens = 0

theorem closed_zero_iff {tokens : List Token} : Closed 0 tokens ↔ Balanced tokens := by
  simp only [Closed, Balanced, Int.zero_add]

@[simp] theorem openBrackets_nil : openBrackets [] = 0 := rfl

theorem opens_of_closes {t : Token} (closing : closes t = true) : opens t = false := by
  simp only [closes, Bool.or_eq_true] at closing
  rcases closing with (mark | mark) | mark <;>
    simp only [opens, isMark_unique mark, Char.reduceEq, decide_false, Bool.or_false]

theorem bracket_of_opens {t : Token} (opening : opens t = true) : bracket t = 1 := by
  rw [bracket, if_pos opening]

theorem bracket_of_closes {t : Token} (closing : closes t = true) : bracket t = -1 := by
  rw [bracket, if_neg (ne_true_of_eq_false (opens_of_closes closing)), if_pos closing]

theorem bracket_of_neither {t : Token} (notOpening : opens t = false)
    (notClosing : closes t = false) : bracket t = 0 := by
  rw [bracket, if_neg (ne_true_of_eq_false notOpening), if_neg (ne_true_of_eq_false notClosing)]

theorem openBrackets_cons (t : Token) (tokens : List Token) :
    openBrackets (t :: tokens) = bracket t + openBrackets tokens := by
  simp only [openBrackets, bracket, List.countP_cons]
  cases closing : closes t with
  | true =>
      simp only [opens_of_closes closing, Bool.false_eq_true, ↓reduceIte]
      omega
  | false =>
      cases opening : opens t <;> simp only [Bool.false_eq_true, ↓reduceIte] <;> omega

theorem closed_nil_iff {depth : Int} : Closed depth [] ↔ depth = 0 := by
  simp only [Closed, List.take_nil, openBrackets_nil, Int.add_zero, forall_const]
  omega

theorem closed_cons_iff {depth : Int} {t : Token} {tokens : List Token} :
    Closed depth (t :: tokens) ↔ 0 ≤ depth ∧ Closed (depth + bracket t) tokens := by
  constructor
  · rintro ⟨counts, total⟩
    refine ⟨?_, fun count => ?_, ?_⟩
    · simpa only [List.take_zero, openBrackets_nil, Int.add_zero] using counts 0
    · have here := counts (count + 1)
      rw [List.take_succ_cons, openBrackets_cons] at here
      omega
    · rw [openBrackets_cons] at total
      omega
  · rintro ⟨nonneg, counts, total⟩
    refine ⟨fun count => ?_, ?_⟩
    · cases count with
      | zero => simpa only [List.take_zero, openBrackets_nil, Int.add_zero] using nonneg
      | succ count =>
          have here := counts count
          rw [List.take_succ_cons, openBrackets_cons]
          omega
    · rw [openBrackets_cons]
      omega

theorem openBrackets_map_shift (k : Nat) (tokens : List Token) :
    openBrackets (tokens.map (shift k)) = openBrackets tokens := by
  simp only [openBrackets, List.countP_map]
  rfl

/-- Moving tokens does not change their brackets. -/
theorem balanced_map_shift {k : Nat} {tokens : List Token} :
    Balanced (tokens.map (shift k)) ↔ Balanced tokens := by
  simp only [Balanced, ← List.map_take, openBrackets_map_shift]

end Token

namespace Attribute

open Token

section

variable {depth : Nat} {tokens others : List Token} {close t : Token}

/-- A token that leaves some brackets open stands in front of the closing one, and the depth behind
it is what counts for the others. -/
theorem closed_before_cons_iff {next : Nat} (deeper : (depth : Int) + bracket t = next)
    (isOpen : closes t = true → depth ≠ 0) :
    (∃ inner, t :: tokens = inner ++ close :: others ∧ closes close = true ∧ Closed depth inner) ↔
      ∃ inner, tokens = inner ++ close :: others ∧ closes close = true ∧ Closed next inner := by
  constructor
  · rintro ⟨inner, same, closing, closed⟩
    cases inner with
    | nil =>
        obtain ⟨rfl, rfl⟩ := List.cons.inj same
        have empty := closed_nil_iff.mp closed
        exact absurd (by omega) (isOpen closing)
    | cons u inner =>
        obtain ⟨rfl, rfl⟩ := List.cons.inj same
        have inside := (closed_cons_iff.mp closed).2
        rw [deeper] at inside
        exact ⟨inner, rfl, closing, inside⟩
  · rintro ⟨inner, rfl, closing, closed⟩
    refine ⟨t :: inner, rfl, closing, closed_cons_iff.mpr ⟨by omega, ?_⟩⟩
    rw [deeper]
    exact closed

/-- With no bracket open a closing token is the one that is looked for. -/
theorem closed_before_closing_iff (closing : closes t = true) :
    (∃ inner, t :: tokens = inner ++ close :: others ∧ closes close = true ∧
      Closed (0 : Nat) inner) ↔ t = close ∧ tokens = others := by
  constructor
  · rintro ⟨inner, same, _, closed⟩
    cases inner with
    | nil => exact List.cons.inj same
    | cons u inner =>
        obtain ⟨rfl, -⟩ := List.cons.inj same
        have under := (closed_cons_iff.mp closed).2.1 0
        rw [bracket_of_closes closing, List.take_zero, openBrackets_nil] at under
        omega
  · rintro ⟨rfl, rfl⟩
    exact ⟨[], rfl, closing, closed_nil_iff.mpr rfl⟩

/-- The closing token is the first one that leaves fewer brackets open than there were. -/
theorem closing?_eq_some_iff :
    closing? depth tokens = some (close, others) ↔
      ∃ inner, tokens = inner ++ close :: others ∧ closes close = true ∧ Closed depth inner := by
  induction tokens generalizing depth with
  | nil =>
      constructor
      · intro found
        cases found
      · rintro ⟨inner, same, -⟩
        cases inner <;> cases same
  | cons t tokens ih =>
      unfold closing?
      cases closing : closes t with
      | true =>
          have notOpening : ¬opens t = true := ne_true_of_eq_false (opens_of_closes closing)
          rw [if_neg notOpening, if_pos rfl]
          cases depth with
          | zero =>
              rw [closed_before_closing_iff closing]
              simp only [Option.some.injEq, Prod.mk.injEq]
          | succ depth =>
              have higher : ((depth + 1 : Nat) : Int) + bracket t = depth := by
                rw [bracket_of_closes closing]
                omega
              rw [closed_before_cons_iff higher fun _ => Nat.succ_ne_zero depth]
              exact ih
      | false =>
          have stays : closes t = true → depth ≠ 0 := fun impossible => by
            rw [closing] at impossible
            cases impossible
          cases opening : opens t with
          | true =>
              have deeper : (depth : Int) + bracket t = (depth + 1 : Nat) := by
                rw [bracket_of_opens opening, Int.natCast_succ]
              rw [if_pos rfl, closed_before_cons_iff deeper stays]
              exact ih
          | false =>
              have level : (depth : Int) + bracket t = depth := by
                rw [bracket_of_neither opening closing, Int.add_zero]
              rw [if_neg Bool.false_ne_true, if_neg Bool.false_ne_true,
                closed_before_cons_iff level stays]
              exact ih

end

end Attribute
end ElementTags
