import Mathlib
import ElementTags.Attribute.Resolve
import ElementTags.Proofs.Computation
import ElementTags.Proofs.Soundness

/-! # Precedence of operators

Joined operands are evaluated in two passes over a list, without an expression tree.
They have one standard tree all the same, in which `*`, `/` and `%` bind tighter than
`+` and `-` and operators of the same strength are applied from left to right
(`ElementTags.Expression.existsUnique_standard`), and both passes together come to what
this tree comes to, whatever the operators do
(`ElementTags.Expression.joinAll_eq_ok_iff`). So every value with operators that is read
from an attribute list is that of its standard tree, and its filters are applied to this
value (`ElementTags.Term.resolve_precedence`).
-/

namespace ElementTags

open Outcome

/-- Operands that are joined two by two. -/
inductive Expression (α : Type)
  | operand (a : α)
  | join (o : Operator) (left right : Expression α)

namespace Expression

variable {α ε : Type}

/-- The operator that is applied last. -/
def root? : Expression α → Option Operator
  | operand _ => none
  | join o _ _ => some o

/-- The leftmost operand. -/
def first : Expression α → α
  | operand a => a
  | join _ left _ => left.first

/-- The other operands from left to right, with the operators in front of them. -/
def others : Expression α → List (Operator × α)
  | operand _ => []
  | join o left right => left.others ++ (o, right.first) :: right.others

/-- Tight operators bind before loose ones, and those of the same strength from left to right: what
stands left of an operator is joined at least as tightly as by this operator, and what stands right
of it is joined more tightly. -/
def Standard : Expression α → Prop
  | operand _ => True
  | join o left right => left.Standard ∧ right.Standard ∧
    (∀ p ∈ left.root?, o.isTight = true → p.isTight = true) ∧
      ∀ p ∈ right.root?, o.isTight = false ∧ p.isTight = true

/-- The value of an expression, where the left side of an operator comes before the right one. -/
def eval (apply : Operator → α → α → Except ε α) : Expression α → Except ε α
  | operand a => .ok a
  | join o left right => do
    let a ← left.eval apply
    let b ← right.eval apply
    apply o a b

/-! ## The standard tree -/

/-- An expression with one more operand behind it. A tight operator takes the operand along that a
loose one has in front of it. -/
def attach (o : Operator) (a : α) : Expression α → Expression α
  | operand b => join o (operand b) (operand a)
  | join p left right =>
    if o.isTight = true ∧ p.isTight = false then join p left (attach o a right)
    else join o (join p left right) (operand a)

/-- The expression of operands that are joined one after the other. -/
def ofOperands (a : α) (as : List (Operator × α)) : Expression α :=
  as.foldl (fun e p => e.attach p.1 p.2) (operand a)

theorem first_attach (o : Operator) (a : α) (e : Expression α) :
    (e.attach o a).first = e.first := by
  cases e with
  | operand b => rfl
  | join p left right =>
      rw [attach]
      split <;> rfl

theorem others_attach (o : Operator) (a : α) (e : Expression α) :
    (e.attach o a).others = e.others ++ [(o, a)] := by
  induction e with
  | operand b => rfl
  | join p left right _ ih =>
      rw [attach]
      split
      · rw [others, first_attach, ih, others, List.append_assoc, List.cons_append]
      · rfl

/-- A tight operator behind tight ones is applied last. -/
theorem root?_attach {o : Operator} {e : Expression α}
    (tight : ∀ p ∈ e.root?, p.isTight = true) (a : α) : (e.attach o a).root? = some o := by
  cases e with
  | operand b => rfl
  | join p left right =>
      rw [attach, if_neg]
      · rfl
      · rintro ⟨-, loose⟩
        rw [tight p rfl] at loose
        cases loose

theorem standard_attach (o : Operator) (a : α) {e : Expression α} (standard : e.Standard) :
    (e.attach o a).Standard := by
  induction e with
  | operand b =>
      exact ⟨trivial, trivial, fun _ none => (by cases none), fun _ none => (by cases none)⟩
  | join p left right _ ih =>
      obtain ⟨leftStandard, rightStandard, leftRoot, rightRoot⟩ := standard
      rw [attach]
      split
      · rename_i taken
        refine ⟨leftStandard, ih rightStandard, leftRoot, ?_⟩
        rw [root?_attach (fun q known => (rightRoot q known).2)]
        rintro _ ⟨⟩
        exact ⟨taken.2, taken.1⟩
      · rename_i whole
        refine ⟨⟨leftStandard, rightStandard, leftRoot, rightRoot⟩, trivial, ?_,
          fun _ none => (by cases none)⟩
        rintro _ ⟨⟩ tight
        rw [not_and, Bool.not_eq_false] at whole
        exact whole tight

/-- Operands have a standard expression. -/
theorem ofOperands_spec (a : α) (as : List (Operator × α)) :
    (ofOperands a as).Standard ∧ (ofOperands a as).first = a ∧ (ofOperands a as).others = as := by
  induction as using List.reverseRecOn with
  | nil => exact ⟨trivial, rfl, rfl⟩
  | append_singleton as p ih =>
      obtain ⟨standard, first, others⟩ := ih
      have last : ofOperands a (as ++ [p]) = (ofOperands a as).attach p.1 p.2 := by
        rw [ofOperands, List.foldl_append]
        rfl
      rw [last, first_attach, others_attach, first, others]
      exact ⟨standard_attach p.1 p.2 standard, rfl, rfl⟩

/-- Below a tight operator all operators are tight. -/
theorem tight_others {e : Expression α} (standard : e.Standard)
    (tight : ∀ p ∈ e.root?, p.isTight = true) : ∀ p ∈ e.others, p.1.isTight = true := by
  induction e with
  | operand a => exact List.forall_mem_nil _
  | join o left right ihLeft ihRight =>
      obtain ⟨leftStandard, rightStandard, leftRoot, rightRoot⟩ := standard
      have own : o.isTight = true := tight o rfl
      rw [others, List.forall_mem_append, List.forall_mem_cons]
      exact ⟨ihLeft leftStandard fun p known => leftRoot p known own, own,
        ihRight rightStandard fun p known => (rightRoot p known).2⟩

/-- Tight operators behind a loose one join what stands right of it. -/
theorem foldl_attach_loose {o : Operator} (loose : o.isTight = false) (left right : Expression α)
    {as : List (Operator × α)} (tight : ∀ p ∈ as, p.1.isTight = true) :
    as.foldl (fun e q => e.attach q.1 q.2) (join o left right) =
      join o left (as.foldl (fun e q => e.attach q.1 q.2) right) := by
  induction as generalizing right with
  | nil => rfl
  | cons p as ih =>
      obtain ⟨here, behind⟩ := List.forall_mem_cons.mp tight
      rw [List.foldl_cons, List.foldl_cons, attach, if_pos ⟨here, loose⟩]
      exact ih _ behind

/-- A standard expression is that of its operands. -/
theorem ofOperands_eq {e : Expression α} (standard : e.Standard) :
    ofOperands e.first e.others = e := by
  induction e with
  | operand a => rfl
  | join o left right ihLeft ihRight =>
      obtain ⟨leftStandard, rightStandard, leftRoot, rightRoot⟩ := standard
      have leftPart := ihLeft leftStandard
      have rightPart := ihRight rightStandard
      unfold ofOperands at leftPart rightPart ⊢
      rw [first, others, List.foldl_append, leftPart, List.foldl_cons]
      have joined : left.attach o right.first = join o left (operand right.first) := by
        cases left with
        | operand b => rfl
        | join p further last =>
            rw [attach, if_neg]
            rintro ⟨tight, loose⟩
            rw [leftRoot p rfl tight] at loose
            cases loose
      rw [joined]
      cases strength : o.isTight with
      | true =>
          cases right with
          | operand b => rfl
          | join p further last =>
              rw [(rightRoot p rfl).1] at strength
              cases strength
      | false =>
          have tight := tight_others rightStandard fun p known => (rightRoot p known).2
          rw [foldl_attach_loose strength _ _ tight, rightPart]

/-- **Operands have exactly one standard expression.** -/
theorem existsUnique_standard (a : α) (as : List (Operator × α)) :
    ∃! e : Expression α, e.Standard ∧ e.first = a ∧ e.others = as := by
  refine ⟨ofOperands a as, ofOperands_spec a as, ?_⟩
  rintro e ⟨standard, rfl, rfl⟩
  exact (ofOperands_eq standard).symm

/-! ## Both passes -/

variable {apply : Operator → α → α → Except ε α}

variable (apply) in
/-- The first pass goes over tight operators only, and comes to the value of the expression. -/
theorem tighten_tight {e : Expression α} (standard : e.Standard)
    (tight : ∀ p ∈ e.root?, p.isTight = true) (behind : List (Operator × α)) :
    Operator.tighten apply e.first (e.others ++ behind) =
      e.eval apply >>= fun a => Operator.tighten apply a behind := by
  induction e generalizing behind with
  | operand a => rfl
  | join o left right ih _ =>
      obtain ⟨leftStandard, -, leftRoot, rightRoot⟩ := standard
      have own : o.isTight = true := tight o rfl
      cases right with
      | join p further last =>
          rw [(rightRoot p rfl).1] at own
          cases own
      | operand b =>
          rw [first, others, List.append_assoc,
            ih leftStandard (fun p known => leftRoot p known own), eval, bind_assoc]
          refine congrArg (left.eval apply >>= ·) (funext fun a => ?_)
          simp only [first, others, List.cons_append, List.nil_append, Operator.tighten, own,
            if_true, eval, ok_bind]

/-- The first pass starts anew behind a loose operator. -/
theorem tighten_loose {o : Operator} (loose : o.isTight = false) (current a : α)
    (front back : List (Operator × α)) :
    Operator.tighten apply current (front ++ (o, a) :: back) = (do
      let (value, before) ← Operator.tighten apply current front
      let (next, behind) ← Operator.tighten apply a back
      pure (value, before ++ (o, next) :: behind)) := by
  induction front generalizing current with
  | nil =>
      simp only [List.nil_append, Operator.tighten, loose, Bool.false_eq_true, if_false, ok_bind]
  | cons p front ih =>
      obtain ⟨q, b⟩ := p
      simp only [List.cons_append, Operator.tighten]
      split
      · rw [bind_assoc]
        exact congrArg _ (funext fun v => ih v)
      · simp only [ih, bind_assoc, pure_bind, List.cons_append]

/-- **Both passes come to the value of the standard expression**, and they have a value only if it
has one. Which operator fails first may differ: the passes apply all tight ones before the loose
ones. -/
theorem joinAll_eq_ok_iff {e : Expression α} (standard : e.Standard) {b : α} :
    Operator.joinAll apply e.first e.others = .ok b ↔ e.eval apply = .ok b := by
  induction e generalizing b with
  | operand a => rfl
  | join o left right ih _ =>
      cases strength : o.isTight with
      | true =>
          have whole := tighten_tight apply standard
            (fun p known => by cases known; exact strength) []
          rw [List.append_nil] at whole
          rw [Operator.joinAll, whole, bind_assoc]
          cases (join o left right).eval apply with
          | error fault => exact ⟨fun failed => (by cases failed), fun failed => (by cases failed)⟩
          | ok a => rfl
      | false =>
          obtain ⟨leftStandard, rightStandard, -, rightRoot⟩ := standard
          have last := tighten_tight apply rightStandard
            (fun p known => (rightRoot p known).2) []
          rw [List.append_nil] at last
          have here {a : α} : Operator.joinAll apply left.first left.others = .ok a ↔
              left.eval apply = .ok a := ih leftStandard
          have passes :
              Operator.joinAll apply (join o left right).first (join o left right).others =
              Operator.tighten apply left.first left.others >>= fun t =>
                right.eval apply >>= fun w =>
                  t.2.foldlM (fun v p => apply p.1 v p.2) t.1 >>= fun v => apply o v w := by
            rw [Operator.joinAll, first, others, tighten_loose strength, last]
            simp only [bind_assoc, pure_bind, Operator.tighten, ok_bind, List.foldlM_append]
            simp only [List.foldlM_cons, List.foldlM_nil, bind_pure]
          rw [passes, eval]
          constructor
          · intro done
            obtain ⟨t, first, done⟩ := bind_eq_ok.mp done
            obtain ⟨w, second, done⟩ := bind_eq_ok.mp done
            obtain ⟨v, loose, done⟩ := bind_eq_ok.mp done
            have value := here.mp (bind_eq_ok.mpr ⟨t, first, loose⟩)
            exact bind_eq_ok.mpr ⟨v, value, bind_eq_ok.mpr ⟨w, second, done⟩⟩
          · intro done
            obtain ⟨v, value, done⟩ := bind_eq_ok.mp done
            obtain ⟨w, second, done⟩ := bind_eq_ok.mp done
            obtain ⟨t, first, loose⟩ := bind_eq_ok.mp (here.mpr value)
            exact bind_eq_ok.mpr ⟨t, first, bind_eq_ok.mpr ⟨w, second,
              bind_eq_ok.mpr ⟨v, loose, done⟩⟩⟩

end Expression

/-! ## Terms -/

namespace Term

mutual

/-- The terms in a term: itself and those in its items or pairs. -/
def parts : Term → List Term
  | plain e => [plain e]
  | hyphenated name => [hyphenated name]
  | list items filters => list items filters :: itemParts items
  | dict pairs filters => dict pairs filters :: pairParts pairs
  | joined first others filters => [joined first others filters]
  | parenthesized code filters => [parenthesized code filters]

/-- The terms in items. -/
def itemParts : List Term → List Term
  | [] => []
  | item :: rest => item.parts ++ itemParts rest

/-- The terms in pairs. -/
def pairParts : List (Text × Term) → List Term
  | [] => []
  | (_, item) :: rest => item.parts ++ pairParts rest

end

end Term

namespace Written

mutual

/-- Every part of the term that a written one means is meant by a written one. -/
theorem exists_part (t : Term) {term part : ElementTags.Term} (means : t.meaning = .ok term)
    (inside : part ∈ term.parts) : ∃ own : Term, own.meaning = .ok part := by
  cases t with
  | plain operand calls =>
      obtain ⟨value, read, same⟩ := bind_eq_ok.mp means
      cases same
      rw [List.mem_singleton.mp inside]
      exact ⟨_, means⟩
  | joined first others several calls =>
      obtain ⟨value, read, rest⟩ := bind_eq_ok.mp means
      obtain ⟨values, behind, rest⟩ := bind_eq_ok.mp rest
      obtain ⟨applied, filtered, same⟩ := bind_eq_ok.mp rest
      cases same
      rw [List.mem_singleton.mp inside]
      exact ⟨_, means⟩
  | list items calls =>
      obtain ⟨values, within, rest⟩ := bind_eq_ok.mp means
      obtain ⟨applied, filtered, same⟩ := bind_eq_ok.mp rest
      cases same
      rcases List.mem_cons.mp inside with rfl | inner
      · exact ⟨_, means⟩
      · exact exists_itemPart items within inner
  | dict pairs calls =>
      obtain ⟨values, within, rest⟩ := bind_eq_ok.mp means
      obtain ⟨applied, filtered, same⟩ := bind_eq_ok.mp rest
      cases same
      rcases List.mem_cons.mp inside with rfl | inner
      · exact ⟨_, means⟩
      · exact exists_pairPart pairs within inner
  | parenthesized code calls =>
      obtain ⟨applied, filtered, same⟩ := bind_eq_ok.mp means
      cases same
      rw [List.mem_singleton.mp inside]
      exact ⟨_, means⟩

theorem exists_itemPart (items : List Term) {terms : List ElementTags.Term}
    {part : ElementTags.Term} (means : itemsMeaning items = .ok terms)
    (inside : part ∈ ElementTags.Term.itemParts terms) : ∃ own : Term, own.meaning = .ok part := by
  cases items with
  | nil =>
      cases means
      cases inside
  | cons item rest =>
      obtain ⟨value, first, means⟩ := bind_eq_ok.mp means
      obtain ⟨others, behind, same⟩ := bind_eq_ok.mp means
      cases same
      rcases List.mem_append.mp inside with here | later
      · exact exists_part item first here
      · exact exists_itemPart rest behind later

theorem exists_pairPart (pairs : List (PairKey × Term)) {terms : List (Text × ElementTags.Term)}
    {part : ElementTags.Term} (means : pairsMeaning pairs = .ok terms)
    (inside : part ∈ ElementTags.Term.pairParts terms) : ∃ own : Term, own.meaning = .ok part := by
  cases pairs with
  | nil =>
      cases means
      cases inside
  | cons pair rest =>
      obtain ⟨key, item⟩ := pair
      obtain ⟨value, first, means⟩ := bind_eq_ok.mp means
      obtain ⟨others, behind, same⟩ := bind_eq_ok.mp means
      cases same
      rcases List.mem_append.mp inside with here | later
      · exact exists_part item first here
      · exact exists_pairPart rest behind later

end

theorem exists_entryPart {written : List (Nat × Entry)} {entries : List ElementTags.Entry}
    (means : entriesMeaning written = .ok entries) {part : ElementTags.Term}
    (inside : part ∈ entries.flatMap fun entry => entry.value.parts) :
    (∃ own : Term, own.meaning = .ok part) ∨ ∃ name, part = .hyphenated name := by
  induction written generalizing entries with
  | nil =>
      cases means
      cases inside
  | cons first rest ih =>
      obtain ⟨start, entry⟩ := first
      obtain ⟨value, here, means⟩ := bind_eq_ok.mp means
      obtain ⟨others, behind, same⟩ := bind_eq_ok.mp means
      cases same
      rw [List.flatMap_cons, List.mem_append] at inside
      rcases inside with own | later
      · cases entry with
        | positional term =>
            obtain ⟨t, meant, rfl⟩ := map_eq_ok.mp here
            exact .inl (exists_part term meant own)
        | lookup name hyphens =>
            cases here
            exact .inr ⟨_, List.mem_singleton.mp own⟩
        | keyword key term =>
            obtain ⟨t, meant, rfl⟩ := map_eq_ok.mp here
            exact .inl (exists_part term meant own)
      · exact ih behind later

/-- As many operations are meant as are written, with the same operators. -/
theorem operators_of_operations {others : List (Operator × Operand)}
    {values : List (Operator × FilterExpr)} (means : operations others = .ok values) :
    values.map (·.1) = others.map (·.1) := by
  induction others generalizing values with
  | nil =>
      cases means
      rfl
  | cons first rest ih =>
      obtain ⟨value, read, means⟩ := bind_eq_ok.mp means
      obtain ⟨behind, next, same⟩ := bind_eq_ok.mp means
      cases same
      rw [List.map_cons, List.map_cons, ih next]

end Written

namespace Attribute

/-- Joined operands in an accepted attribute list are written as operands with operators between
them and filters behind the last one. -/
theorem exists_written_joined {source : Text} {entries : List Entry}
    (accepted : read source = .ok entries) {first : FilterExpr}
    {others : List (Operator × FilterExpr)} {filters : List AppliedFilter}
    (inside : .joined first others filters ∈ entries.flatMap fun entry => entry.value.parts) :
    ∃ operand operands several calls,
      (Written.Term.joined operand operands several calls).meaning =
        .ok (.joined first others filters) := by
  unfold read at accepted
  split at accepted
  · cases accepted
  · rename_i tokens scanned
    obtain ⟨written, _, _, _, _, _, means⟩ :=
      readEntries_sound (Token.part_of_scan scanned) accepted
    rcases Written.exists_entryPart means inside with ⟨own, meant⟩ | ⟨name, impossible⟩
    · cases own with
      | joined operand operands several calls => exact ⟨operand, operands, several, calls, meant⟩
      | plain operand calls =>
          obtain ⟨_, _, same⟩ := bind_eq_ok.mp meant
          cases same
      | list items calls =>
          obtain ⟨_, _, meant⟩ := bind_eq_ok.mp meant
          obtain ⟨_, _, same⟩ := bind_eq_ok.mp meant
          cases same
      | dict pairs calls =>
          obtain ⟨_, _, meant⟩ := bind_eq_ok.mp meant
          obtain ⟨_, _, same⟩ := bind_eq_ok.mp meant
          cases same
      | parenthesized code calls =>
          obtain ⟨_, _, same⟩ := bind_eq_ok.mp meant
          cases same
    · cases impossible

end Attribute

namespace Term

variable {first : FilterExpr} {others : List (Operator × FilterExpr)}

/-- Joined operands come to what both passes make of the values of the operands. -/
theorem joinedValue_eq {scope mid after : Scope} {v : Value} {vs : List (Operator × Value)}
    (head : plainValue first scope = (.ok v, mid))
    (rest : operandValues others mid = (.ok vs, after)) :
    joinedValue first others scope = (Operator.joinAll Operator.operation (after.current v)
      (vs.map fun (o, w) => (o, after.current w)), after) := by
  rw [joinedValue, Computation.bind_of_ok head, Computation.bind_of_ok rest]
  rfl

/-- Joined operands with filters have the value of the standard expression of their operands after
the filters, and none if this expression has none. -/
theorem resolve_joined (filters : List AppliedFilter) {scope mid after : Scope} {v : Value}
    {vs : List (Operator × Value)} (head : plainValue first scope = (.ok v, mid))
    (rest : operandValues others mid = (.ok vs, after)) {e : Expression Value}
    (standard : e.Standard) (firstOperand : e.first = after.current v)
    (otherOperands : e.others = vs.map fun (o, w) => (o, after.current w)) :
    (∀ w, e.eval Operator.operation = .ok w →
        resolve (.joined first others filters) scope = AppliedFilter.applyAll w filters after) ∧
      ∀ fault, e.eval Operator.operation = .error fault →
        ∃ other, resolve (.joined first others filters) scope = (.error other, after) := by
  have passes := joinedValue_eq head rest
  rw [← firstOperand, ← otherOperands] at passes
  constructor
  · intro w value
    rw [(Expression.joinAll_eq_ok_iff standard).mpr value] at passes
    rw [resolve, Computation.bind_of_ok passes]
  · intro fault failed
    cases joined : Operator.joinAll Operator.operation e.first e.others with
    | error other =>
        rw [joined] at passes
        refine ⟨other, ?_⟩
        rw [resolve, Computation.bind_of_error passes]
    | ok w =>
        rw [(Expression.joinAll_eq_ok_iff standard).mp joined] at failed
        cases failed

/-- **Operators have their usual precedence.** Joined operands in an accepted attribute list are
written with operators between them, at least one, and with filters behind the last operand. For
whatever the operands are worth and whatever the operators do, there is one standard expression of
these operands, and both passes over them have a value exactly if it has, which is the same. In a
scope in which all operands are resolved, the filters are applied once, to this value. -/
theorem resolve_precedence {source : Text} {entries : List Entry}
    (accepted : Attribute.read source = .ok entries) {filters : List AppliedFilter}
    (inside : .joined first others filters ∈ entries.flatMap fun entry => entry.value.parts) :
    (∃ operand operands several calls,
      (Written.Term.joined operand operands several calls).meaning =
        .ok (.joined first others filters) ∧ operands.map (·.1) = others.map (·.1)) ∧
      (others ≠ [] ∧ (first :: others.map (·.2)).length = (others.map (·.1)).length + 1) ∧
      (∀ {α ε : Type} (apply : Operator → α → α → Except ε α) (a : α) (as : List (Operator × α)),
        as.map (·.1) = others.map (·.1) →
          (∃! e : Expression α, e.Standard ∧ e.first = a ∧ e.others = as) ∧
            ∀ e : Expression α, e.Standard → e.first = a → e.others = as →
              ∀ b, Operator.joinAll apply a as = .ok b ↔ e.eval apply = .ok b) ∧
      ∀ (scope mid after : Scope) (v : Value) (vs : List (Operator × Value)),
        plainValue first scope = (.ok v, mid) → operandValues others mid = (.ok vs, after) →
          ∀ e : Expression Value, e.Standard → e.first = after.current v →
            (e.others = vs.map fun (o, w) => (o, after.current w)) →
              (∀ w, e.eval Operator.operation = .ok w →
                resolve (.joined first others filters) scope =
                  AppliedFilter.applyAll w filters after) ∧
                ∀ fault, e.eval Operator.operation = .error fault → ∃ other,
                  resolve (.joined first others filters) scope = (.error other, after) := by
  obtain ⟨operand, operands, several, calls, means⟩ :=
    Attribute.exists_written_joined accepted inside
  have operators : others.map (·.1) = operands.map (·.1) := by
    obtain ⟨value, -, rest⟩ := bind_eq_ok.mp means
    obtain ⟨values, behind, rest⟩ := bind_eq_ok.mp rest
    obtain ⟨applied, -, same⟩ := bind_eq_ok.mp rest
    cases same
    exact Written.operators_of_operations behind
  have some : others ≠ [] := by
    rintro rfl
    exact several (List.map_eq_nil_iff.mp operators.symm)
  refine ⟨⟨operand, operands, several, calls, means, operators.symm⟩, ⟨some, ?_⟩, ?_, ?_⟩
  · rw [List.length_cons, List.length_map, List.length_map]
  · rintro α ε apply a as -
    refine ⟨Expression.existsUnique_standard a as, ?_⟩
    rintro e standard rfl rfl b
    exact Expression.joinAll_eq_ok_iff standard
  · intro scope mid after v vs head rest e standard firstOperand otherOperands
    exact resolve_joined filters head rest standard firstOperand otherOperands

/-- A sum of a number and a product, less a number, in a list, with a filter behind it. -/
theorem resolve_precedence_nested :
    ∃ entries first others filters, Attribute.read "a=[2+3*4-1|add:5]".toList = .ok entries ∧
      (.joined first others filters ∈ entries.flatMap fun entry => entry.value.parts) ∧
      resolve (.joined first others filters) (Scope.ofData [] true) =
        (.ok (.int 18), Scope.ofData [] true) := by
  let number (s : Text) (n : Int) : FilterExpr := ⟨s, .variable ⟨s, .number (.int n)⟩, []⟩
  let others : List (Operator × FilterExpr) :=
    [(.plus, number ['3'] 3), (.times, number ['4'] 4), (.minus, number ['1'] 1)]
  let filters : List AppliedFilter := [⟨.add, some (number ['5'] 5)⟩]
  let entries : List Entry :=
    [.keyword 0 ['a'] (.list [.joined (number ['2'] 2) others filters] [])]
  have accepted : Attribute.read "a=[2+3*4-1|add:5]".toList = .ok entries := by cbv
  have inside : Term.joined (number ['2'] 2) others filters ∈
      entries.flatMap fun entry => entry.value.parts :=
    List.mem_cons_of_mem _ List.mem_cons_self
  have standard : Expression.Standard (.join .minus (.join .plus (.operand (.int 2))
      (.join .times (.operand (.int 3)) (.operand (.int 4)))) (.operand (Value.int 1))) := by
    simp [Expression.Standard, Expression.root?, Operator.isTight]
  obtain ⟨-, -, -, resolves⟩ := resolve_precedence accepted inside
  obtain ⟨value, -⟩ := resolves (Scope.ofData [] true) (Scope.ofData [] true)
    (Scope.ofData [] true) (.int 2) [(.plus, .int 3), (.times, .int 4), (.minus, .int 1)] rfl rfl _
    standard rfl rfl
  exact ⟨entries, _, others, filters, accepted, inside, (value (.int 13) rfl).trans (by cbv)⟩

end Term

end ElementTags
