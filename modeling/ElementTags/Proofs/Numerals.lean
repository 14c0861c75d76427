import ElementTags.Filter.Variable
import ElementTags.Proofs.Outcome
import ElementTags.Text.Word

/-! # Whole numbers read back

The decimal digits of a whole number, behind a minus sign when it is negative, are
read as that number (`ElementTags.Text.integer?_ofInt`), also as the text of a
variable (`ElementTags.Variable.ofText_ofInt`), unless there are too many of them.
-/

namespace ElementTags

namespace Text

/-! ## Digits -/

/-- The common decimal digits. -/
def commonDigits : List Char := ['0', '1', '2', '3', '4', '5', '6', '7', '8', '9']

/-- What is found to hold of each character of a text holds of all of them. -/
theorem forall_mem_of_all {s : Text} {holds : Char → Prop} [DecidablePred holds]
    (each : s.all (fun c => decide (holds c)) = true) : ∀ c ∈ s, holds c := fun c member =>
  of_decide_eq_true (List.all_eq_true.mp each c member)

theorem mem_commonDigits {c : Char} (digit : c.isDigit = true) : c ∈ commonDigits := by
  have all : ∀ n < 58, 48 ≤ n → Char.ofNat n ∈ commonDigits := by decide
  simp only [Char.isDigit, ge_iff_le, Bool.and_eq_true, decide_eq_true_eq, UInt32.le_iff_toNat_le]
    at digit
  rw [← Char.ofNat_toNat c]
  exact all c.toNat (Nat.lt_succ_of_le digit.2) digit.1

theorem mem_commonDigits_of_mem_ofNat {n : Nat} {c : Char} (member : c ∈ ofNat n) :
    c ∈ commonDigits :=
  mem_commonDigits (Nat.isDigit_of_mem_toDigits (by decide) (by decide) member)

theorem digitValue?_of_mem {c : Char} (digit : c ∈ commonDigits) :
    digitValue? c = some (c.toNat - '0'.toNat) := by
  have all : ∀ c ∈ commonDigits, digitValue? c = some (c.toNat - '0'.toNat) :=
    forall_mem_of_all (by decide)
  exact all c digit

theorem readDigits_of_mem {s : Text} (digits : ∀ c ∈ s, c ∈ commonDigits) (value count : Nat) :
    readDigits value count false s = some (Nat.ofDigitChars 10 s value, count + s.length) := by
  induction s generalizing value count with
  | nil => rfl
  | cons c s ih =>
      obtain ⟨first, rest⟩ := List.forall_mem_cons.mp digits
      rw [readDigits, digitValue?_of_mem first, Nat.ofDigitChars_cons, List.length_cons]
      simp only [ih rest]
      rw [Nat.add_assoc, Nat.add_comm 1]

theorem ofNat_ne_nil (n : Nat) : ofNat n ≠ [] := Nat.toDigits_ne_nil

/-- The digits of a number are read as the number. -/
theorem natural?_ofNat (n : Nat) : natural? (ofNat n) = some (n, (ofNat n).length) := by
  have digits : ∀ c ∈ ofNat n, c ∈ commonDigits := fun c => mem_commonDigits_of_mem_ofNat
  have value : Nat.ofDigitChars 10 (ofNat n) 0 = n :=
    Nat.ofDigitChars_toDigits (by decide) (by decide)
  cases shape : ofNat n with
  | nil => exact absurd shape (ofNat_ne_nil n)
  | cons c s =>
      rw [shape] at digits value
      obtain ⟨first, rest⟩ := List.forall_mem_cons.mp digits
      rw [Nat.ofDigitChars_cons] at value
      rw [natural?, readDigits, digitValue?_of_mem first]
      simp only [readDigits_of_mem rest]
      rw [value, List.length_cons, Nat.zero_add, Nat.add_comm]

/-! ## Numbers with a sign -/

theorem trimNumeral_of_mem {s : Text} (all : ∀ c ∈ s, c ∈ '-' :: commonDigits) :
    trimNumeral s = s := by
  have each : ∀ c ∈ '-' :: commonDigits, c.toNat < 0x80 ∧ isPlainBlank c = false :=
    forall_mem_of_all (by decide)
  have common : s.all (·.toNat < 0x80) = true :=
    List.all_eq_true.mpr fun c member => decide_eq_true (each c (all c member)).1
  have kept {t : Text} (inside : ∀ c ∈ t, c ∈ '-' :: commonDigits) :
      t.dropWhile isPlainBlank = t := by
    cases t with
    | nil => rfl
    | cons c t =>
        have visible := (each c (inside c List.mem_cons_self)).2
        rw [List.dropWhile_cons_of_neg (ne_true_of_eq_false visible)]
  rw [trimNumeral, if_pos common, kept all, kept fun c member => all c (List.mem_reverse.mp member),
    List.reverse_reverse]

theorem mem_of_mem_ofInt {n : Int} {c : Char} (member : c ∈ ofInt n) : c ∈ '-' :: commonDigits := by
  cases n with
  | ofNat n => exact List.mem_cons_of_mem _ (mem_commonDigits_of_mem_ofNat member)
  | negSucc n =>
      rcases List.mem_cons.mp member with rfl | digit
      · exact List.mem_cons_self
      · exact List.mem_cons_of_mem _ (mem_commonDigits_of_mem_ofNat digit)

theorem splitSign_ofNat (n : Nat) : splitSign (ofNat n) = (false, ofNat n) := by
  have digits : ∀ c ∈ ofNat n, c ∈ commonDigits := fun c => mem_commonDigits_of_mem_ofNat
  cases shape : ofNat n with
  | nil => rfl
  | cons c s =>
      rw [shape] at digits
      have other : ∀ c ∈ commonDigits, c ≠ '-' ∧ c ≠ '+' := forall_mem_of_all (by decide)
      obtain ⟨noMinus, noPlus⟩ := other c (digits c List.mem_cons_self)
      unfold splitSign
      split
      · rename_i same
        exact absurd (List.cons.inj same).1 noMinus
      · rename_i same
        exact absurd (List.cons.inj same).1 noPlus
      · rfl

/-- The text of a whole number is read as the number. -/
theorem integer?_ofInt {n : Int} (short : (ofNat n.natAbs).length ≤ maxDigits) :
    integer? (ofInt n) = some n := by
  rw [integer?, trimNumeral_of_mem fun c => mem_of_mem_ofInt]
  cases n with
  | ofNat n =>
      simp only [ofInt, splitSign_ofNat, natural?_ofNat]
      exact if_pos short
  | negSucc n =>
      simp only [ofInt, splitSign, natural?_ofNat]
      exact if_pos short

end Text

/-- The text of a whole number is the variable that stands for the number. -/
theorem Variable.ofText_ofInt {n : Int} (short : (Text.ofNat n.natAbs).length ≤ Text.maxDigits) :
    Variable.ofText (Text.ofInt n) = .ok ⟨Text.ofInt n, .number (.int n)⟩ := by
  have whole : ((Text.ofInt n).any fun c => c = '.' || c = 'e' || c = 'E') = false := by
    have other : ∀ c ∈ '-' :: Text.commonDigits, ¬(c = '.' || c = 'e' || c = 'E') = true :=
      Text.forall_mem_of_all (by decide)
    exact List.any_eq_false.mpr fun c member => other c (Text.mem_of_mem_ofInt member)
  have number : Variable.number? (Text.ofInt n) = some (.int n) := by
    rw [Variable.number?, whole, if_neg Bool.false_ne_true, Text.integer?_ofInt short]
    rfl
  rw [Variable.ofText, number]

end ElementTags
