import Mathlib
import ElementTags.Attribute.Resolve
import ElementTags.Proofs.Completeness
import ElementTags.Proofs.Computation
import ElementTags.Proofs.Denotation
import ElementTags.Proofs.Fitting

/-! # Filters behind a variable and behind anything else

The filters behind a variable are left to the host; those behind lists, dictionaries,
joined operands and expressions are applied by `ElementTags.AppliedFilter.applyAll`.
From the same tokens both ways get the same filters with the same arguments
(`ElementTags.Written.twins`), and they give the same, marks and faults included, as
long as nothing depends on one of three points (`ElementTags.Attribute.filters_agree`).
Only the host counts the arguments, only to the host an undefined argument is a fault,
and only the host marks a literal argument as safe.
-/

namespace ElementTags

open Outcome

/-! ## Marks of literal arguments -/

namespace Filter

/-- Whether the result of a filter may depend on a mark of its argument. -/
def heedsMark : Filter → Bool
  | add | defaultTo | defaultIfAbsent | join => true
  | _ => false

/-- Most filters only look at the text of an argument. -/
theorem apply_safe {f : Filter} (heedless : f.heedsMark = false) (autoescape : Bool) (v : Value)
    (s : Text) :
    f.apply autoescape v (some (.safe s)) = f.apply autoescape v (some (.text s)) := by
  cases f with
  | add => cases heedless
  | defaultTo => cases heedless
  | defaultIfAbsent => cases heedless
  | join => cases heedless
  | _ => rfl

end Filter

/-! ## Twins -/

/-- What an argument stands for behind a variable, and what it stands for elsewhere. -/
inductive Operand.Twin : Operand → Operand → Prop
  | literal (s : Text) : Twin (.constant (.safe s)) (.constant (.text s))
  | localized (s : Text) (isSafe : Bool) :
      Twin (.constant (.lazy s isSafe)) (.constant (.lazy s isSafe))
  | named (x : Variable) : Twin (.variable x) (.variable x)

/-- The same filter with the same argument, once behind a variable and once elsewhere. -/
structure FilterCall.Twin (call : FilterCall) (f : AppliedFilter) : Prop where
  filter : call.filter = f.filter
  argument : Option.Rel (fun operand e => operand.Twin e.operand ∧ e.filters = []) call.argument
    f.argument

/-- A filter is given as many arguments as it takes. -/
def AppliedFilter.Fits (f : AppliedFilter) : Prop :=
  f.filter.accepts (if f.argument.isSome then 1 else 0) = true

/-- At a value in a scope, the argument of a filter is defined if it is a variable, and if it is a
literal, the filter does not care whether the literal is marked as safe. -/
structure AppliedFilter.Neutral (f : AppliedFilter) (v : Value) (scope : Scope) : Prop where
  defined : ∀ e ∈ f.argument, ∀ x, e.operand = .variable x →
    (x.resolve scope).1 ≠ .error .undefinedVariable
  unmarked : ∀ e ∈ f.argument, ∀ s, e.operand = .constant (.text s) →
    f.filter.apply scope.autoescape (scope.current v) (some (.safe s)) =
      f.filter.apply scope.autoescape (scope.current v) (some (.text s))

/-- Filters that are applied one after the other, each of them neutral at the value and in the scope
that it is applied to. -/
def AppliedFilter.AllNeutral : List AppliedFilter → Value → Scope → Prop
  | [], _, _ => True
  | f :: rest, v, scope => f.Neutral v scope ∧
      ∀ next after, AppliedFilter.apply v f scope = (.ok next, after) → AllNeutral rest next after

namespace FilterCall.Twin

variable {call : FilterCall} {f : AppliedFilter} {v : Value} {scope : Scope}

theorem resolve_bare {e : FilterExpr} (bare : e.filters = []) (missing : Value) :
    e.resolve missing = FilterExpr.initialValue missing e.operand := by
  rw [FilterExpr.resolve, bare]
  exact bind_pure _

/-- A variable that is defined has the same value whether it may be undefined or not. -/
theorem initialValue_defined {x : Variable} (missing : Value)
    (defined : (x.resolve scope).1 ≠ .error .undefinedVariable) :
    FilterExpr.initialValue missing (.variable x) scope = x.resolve scope := by
  rw [FilterExpr.initialValue, Scoped.recover]
  split
  · rename_i result
    exact result.symm
  · rename_i fault after result
    rw [result] at defined ⊢
    split
    · exact absurd rfl defined
    · rfl

/-- A neutral filter gives the same behind a variable and elsewhere. -/
theorem applyCall_eq (twin : call.Twin f) (neutral : f.Neutral v scope) :
    FilterExpr.applyCall v call scope = AppliedFilter.apply v f scope := by
  obtain ⟨filter, operand?⟩ := call
  obtain ⟨own, e?⟩ := f
  obtain ⟨same, argument⟩ := twin
  obtain rfl : filter = own := same
  cases argument with
  | none => rfl
  | @some operand e related =>
      obtain ⟨related, bare⟩ := related
      simp only [FilterExpr.applyCall, AppliedFilter.apply, resolve_bare bare]
      obtain ⟨text, value, filters⟩ := e
      cases related with
      | literal s => exact congrArg (·, scope) (neutral.unmarked _ rfl s rfl)
      | localized s isSafe => rfl
      | named x =>
          rw [Computation.bind_eq, Computation.bind_eq,
            initialValue_defined .null (neutral.defined _ rfl x rfl)]
          rfl

/-- Neutral filters give the same, one after the other. -/
theorem applyCalls_eq {calls : List FilterCall} {filters : List AppliedFilter}
    (twins : List.Forall₂ FilterCall.Twin calls filters)
    (neutral : AppliedFilter.AllNeutral filters v scope) :
    FilterExpr.applyCalls v calls scope = AppliedFilter.applyAll v filters scope := by
  induction twins generalizing v scope with
  | nil => rfl
  | @cons call f calls filters twin _ ih =>
      have step := applyCall_eq twin neutral.1
      cases result : AppliedFilter.apply v f scope with
      | mk outcome after =>
          rw [result] at step
          rw [FilterExpr.applyCalls, AppliedFilter.applyAll]
          cases outcome with
          | ok next =>
              rw [Computation.bind_of_ok step, Computation.bind_of_ok result]
              exact ih (neutral.2 next after result)
          | error fault =>
              rw [Computation.bind_of_error step, Computation.bind_of_error result]

end FilterCall.Twin

/-! ## The same tokens on both ways -/

namespace Written

theorem twin_of_stands {operand : Operand} {o p : ElementTags.Operand}
    (host : operand.Stands FilterExpr.literalValue o) (own : operand.Stands plainLiteral p) :
    o.Twin p := by
  cases host with
  | literal =>
      cases own with
      | literal => exact .literal _
  | @name word x text means =>
      cases own with
      | @name _ y same reads =>
          rw [text] at means
          rw [same, means] at reads
          cases reads
          exact .named x
  | @negative number x text means =>
      cases own with
      | @negative _ y same reads =>
          rw [text] at means
          rw [same, means] at reads
          cases reads
          exact .named x
  | localized =>
      cases own with
      | localized => exact .localized _ _

theorem twin_of_call {call : Call} {found : FilterCall} {f : AppliedFilter}
    (host : call.Calls found) (own : call.Applies f) : found.Twin f := by
  obtain ⟨name, operand?⟩ := call
  obtain ⟨filter, o?⟩ := found
  obtain ⟨applied, e?⟩ := f
  refine ⟨?_, ?_⟩
  · have registered := Filter.ofName?_name filter
    rw [host.name.trans own.name.symm, Filter.ofName?_name applied] at registered
    exact (Option.some.inj registered).symm
  · cases host.argument with
    | none =>
        cases own.argument with
        | none => exact .none
    | some stands =>
        cases own.argument with
        | some same =>
            exact .some ⟨twin_of_stands stands same.operand,
              List.forall₂_nil_left_iff.mp same.filters⟩

/-- The filters that the host reads and the ones that are looked at one by one are the same. -/
theorem twins {calls : List Call} {found : List FilterCall} {applied : List AppliedFilter}
    (host : List.Forall₂ Call.Calls calls found) (own : List.Forall₂ Call.Applies calls applied) :
    List.Forall₂ FilterCall.Twin found applied := by
  induction host generalizing applied with
  | nil =>
      cases own
      exact .nil
  | cons calls _ ih =>
      cases own with
      | cons applies others => exact .cons (twin_of_call calls applies) (ih others)

theorem fits_iff {calls : List Call} {applied : List AppliedFilter}
    (own : List.Forall₂ Call.Applies calls applied) :
    (∀ call ∈ calls, call.Fits) ↔ ∀ f ∈ applied, f.Fits := by
  induction own with
  | nil => exact iff_of_true (List.forall_mem_nil _) (List.forall_mem_nil _)
  | @cons call f calls applied applies _ ih =>
      rw [List.forall_mem_cons, List.forall_mem_cons, ih]
      refine and_congr_left fun _ => ?_
      have known : Filter.ofName? call.name.text = some f.filter := by
        rw [← applies.name, Filter.ofName?_name]
      have same : call.argument.isSome = f.argument.isSome := by
        obtain ⟨name, operand?⟩ := call
        obtain ⟨filter, e?⟩ := f
        cases applies.argument <;> rfl
      rw [AppliedFilter.Fits, ← same]
      refine ⟨fun fits => fits _ known, fun fits g registered => ?_⟩
      obtain rfl := Option.some.inj (known.symm.trans registered)
      exact fits

end Written

namespace Attribute

open Written

variable {source : Text} {name : Token} {ts : List Token} {x : Variable}

/-- A name that is a variable does not open a localized literal. -/
theorem localized?_variable (named : Variable.ofText name.text = .ok x) (ts : List Token) :
    localized? (name :: ts) = none := by
  unfold localized?
  split
  · rename_i first paren rest same
    obtain ⟨rfl, rfl⟩ := List.cons.inj same
    split
    · rename_i mark
      have hidden : Variable.ofText ['_'] = .error (.hiddenName ['_']) := rfl
      simp only [Bool.and_eq_true, decide_eq_true_eq] at mark
      rw [mark.1.1.2, hidden] at named
      cases named
    · rfl
  · rfl

/-- A variable with filters is read as its filters and a text for the host. -/
theorem readTerm_variable (kind : name.kind = .name) (named : Variable.ofText name.text = .ok x)
    (alone : startsWithOperator ts = false) {host : Read Term (name :: ts).length} :
    readTerm source (name :: ts) = .ok host ↔
      ∃ calls e, readCalls source ts = .ok calls ∧
        compile ⟨name.text, false⟩ (calls.value.flatMap WrittenCall.text) = .ok e ∧
          host.value = .plain e ∧ host.rest = calls.rest := by
  have noMark : name.kind ≠ .mark := by rw [kind]; decide
  have noQuote : decide (name.kind = .quoted) = false := by rw [kind]; rfl
  obtain ⟨within, single⟩ := readOperand_single source ts noMark (localized?_variable named ts)
  rw [readTerm_operand (.inl noMark), readPlain, single, ok_bind,
    if_neg (ne_true_of_eq_false alone), noQuote]
  constructor
  · intro read
    obtain ⟨calls, chain, read⟩ := bind_eq_ok.mp read
    obtain ⟨e, compiled, same⟩ := bind_eq_ok.mp read
    cases same
    exact ⟨calls, e, chain, compiled, rfl, rfl⟩
  · rintro ⟨calls, e, chain, compiled, value, rest⟩
    rw [chain, ok_bind, compiled, ok_bind]
    obtain ⟨t, left, _⟩ := host
    cases value
    cases rest
    rfl

/-- Filters are read as they are written, and looked at one by one. -/
theorem readFilters_eq_ok {own : Read (List AppliedFilter) (ts.length + 1)} :
    readFilters source ts = .ok own ↔
      ∃ calls, readCalls source ts = .ok calls ∧
        (calls.value.mapM WrittenCall.compileArgument >>= fun arguments =>
          (calls.value.zip arguments).mapM knownFilter) = .ok own.value ∧
            own.rest = calls.rest := by
  constructor
  · intro read
    obtain ⟨calls, chain, read⟩ := bind_eq_ok.mp read
    obtain ⟨arguments, compiled, read⟩ := bind_eq_ok.mp read
    obtain ⟨filters, known, same⟩ := bind_eq_ok.mp read
    cases same
    exact ⟨calls, chain, bind_eq_ok.mpr ⟨arguments, compiled, known⟩, rfl⟩
  · rintro ⟨calls, chain, read, rest⟩
    obtain ⟨arguments, compiled, known⟩ := bind_eq_ok.mp read
    rw [readFilters, chain, ok_bind, compiled, ok_bind, known, ok_bind]
    obtain ⟨filters, left, _⟩ := own
    cases rest
    rfl

/-- **Filters agree behind a variable and behind anything else.** From the same tokens, the host
reads filters behind a variable exactly when they are accepted behind anything else and each of them
is given as many arguments as it takes. Then both ways go on at the same token, and applied to the
value of the variable they give the same, marks, faults and changes of the scope included, as long
as no argument is undefined and no filter heeds the mark of a literal argument. -/
theorem filters_agree {before : List Token}
    (scanned : Token.scan source = .ok (before ++ name :: ts)) (kind : name.kind = .name)
    (named : Variable.ofText name.text = .ok x) (alone : startsWithOperator ts = false) :
    ((∃ host, readTerm source (name :: ts) = .ok host) ↔
      ∃ own, readFilters source ts = .ok own ∧ ∀ f ∈ own.value, f.Fits) ∧
    ∀ host own, readTerm source (name :: ts) = .ok host → readFilters source ts = .ok own →
      host.rest = own.rest ∧ ∃ e, host.value = .plain e ∧
        ∀ scope v after, x.resolve scope = (.ok v, after) →
          AppliedFilter.AllNeutral own.value v after →
            e.resolve .null scope = AppliedFilter.applyAll v own.value after := by
  have part : Token.Part source (name :: ts) := (Token.part_of_scan scanned).behind
  have lexeme : Token.Lexeme .name name.text := by
    rw [← kind]
    exact part.lexeme List.mem_cons_self
  let word : Word .name := ⟨name.text, lexeme⟩
  have readable : Readable (Written.Operand.name word).text := ⟨_, ofText_name lexeme named⟩
  -- Both ways read the same calls, which have a written form.
  have written {calls : Read (List WrittenCall) (ts.length + 1)}
      (chain : readCalls source ts = .ok calls) :
      ∃ forms, forms.map Call.call = calls.value ∧
        calls.value.flatMap WrittenCall.text = callsText forms := by
    obtain ⟨value, rest, within⟩ := calls
    obtain ⟨forms, -, -, -, rfl⟩ := readCalls_sound part.tail chain
    exact ⟨forms, rfl, by rw [List.flatMap_map]; rfl⟩
  refine ⟨⟨?_, ?_⟩, ?_⟩
  · rintro ⟨host, read⟩
    obtain ⟨calls, e, chain, compiled, -⟩ := (readTerm_variable kind named alone).mp read
    obtain ⟨forms, same, text⟩ := written chain
    rw [text] at compiled
    have accepted := (@readable_iff (.name word) forms).mp (compile_iff.mp ⟨e, compiled⟩)
    obtain ⟨applied, means⟩ := filters_iff.mpr fun call member => (accepted.2 call member).1
    refine ⟨⟨applied, calls.rest, calls.within⟩,
      readFilters_eq_ok.mpr ⟨calls, chain, by rw [← same]; exact means, rfl⟩, ?_⟩
    exact (fits_iff (filters_reread means)).mp fun call member => (accepted.2 call member).2
  · rintro ⟨own, read, fits⟩
    obtain ⟨calls, chain, means, -⟩ := readFilters_eq_ok.mp read
    obtain ⟨forms, same, text⟩ := written chain
    rw [← same] at means
    have each := filters_iff.mp ⟨own.value, means⟩
    have fitting := (fits_iff (filters_reread means)).mpr fits
    have whole := (@readable_iff (.name word) forms).mpr
      ⟨readable, fun call member => ⟨each call member, fitting call member⟩⟩
    obtain ⟨e, compiled⟩ := (@compile_iff ⟨name.text, false⟩ (callsText forms)).mpr whole
    refine ⟨⟨.plain e, calls.rest, Nat.lt_of_lt_of_le calls.within (Nat.le_refl _)⟩,
      (readTerm_variable kind named alone).mpr ⟨calls, e, chain, ?_, rfl, rfl⟩⟩
    rw [text]
    exact compiled
  · intro host own read behind
    obtain ⟨calls, e, chain, compiled, value, rest⟩ := (readTerm_variable kind named alone).mp read
    obtain ⟨again, chainAgain, means, restAgain⟩ := readFilters_eq_ok.mp behind
    obtain rfl := Except.ok.inj (chain.symm.trans chainAgain)
    obtain ⟨forms, same, text⟩ := written chain
    rw [← same] at means
    rw [text] at compiled
    refine ⟨rest.trans restAgain.symm, e, value, fun scope v after bound neutral => ?_⟩
    obtain ⟨-, stands, chained⟩ := @compile_rereads (.name word) forms e compiled
    have operand : e.operand = .variable x := by
      obtain ⟨whole, operand, filters⟩ := e
      cases stands with
      | @name _ y own means =>
          rw [own] at means
          exact congrArg Operand.variable (Except.ok.inj (means.symm.trans named))
    have defined : (x.resolve scope).1 ≠ .error .undefinedVariable := by
      rw [bound]
      exact fun failed => by cases failed
    have start : FilterExpr.initialValue .null e.operand scope = (.ok v, after) := by
      rw [operand, FilterCall.Twin.initialValue_defined .null defined, bound]
    rw [FilterExpr.resolve, Computation.bind_of_ok start]
    exact FilterCall.Twin.applyCalls_eq (twins chained (filters_reread means)) neutral

/-- A literal that is cut out, and a variable that is joined on. -/
theorem filters_agree_cut :
    let source := "x|cut:\" \"|add:y".toList
    let scope :=
      Scope.ofData [("x".toList, .text "a b".toList), ("y".toList, .text "c".toList)] true
    ∃ name ts own e, Token.scan source = .ok (name :: ts) ∧ readFilters source ts = .ok own ∧
      (∀ f ∈ own.value, f.Fits) ∧ (readTerm source (name :: ts)).map (·.value) = .ok (.plain e) ∧
      e.resolve .null scope = AppliedFilter.applyAll (.text "a b".toList) own.value scope ∧
      AppliedFilter.applyAll (.text "a b".toList) own.value scope =
        (.ok (.text "abc".toList), scope) := by
  let name : Token := ⟨.name, "x".toList, 0⟩
  let ts : List Token := [⟨.mark, "|".toList, 1⟩, ⟨.name, "cut".toList, 2⟩, ⟨.mark, ":".toList, 5⟩,
    ⟨.quoted, "\" \"".toList, 6⟩, ⟨.mark, "|".toList, 9⟩, ⟨.name, "add".toList, 10⟩,
    ⟨.mark, ":".toList, 13⟩, ⟨.name, "y".toList, 14⟩]
  let filters : List AppliedFilter :=
    [⟨.cut, some ⟨"\" \"".toList, .constant (.text " ".toList), []⟩⟩,
      ⟨.add, some ⟨"y".toList, .variable ⟨"y".toList, .path "y".toList []⟩, []⟩⟩]
  have scanned : Token.scan "x|cut:\" \"|add:y".toList = .ok ([] ++ name :: ts) := by cbv
  have read : readFilters "x|cut:\" \"|add:y".toList ts =
      .ok ⟨filters, [], Nat.zero_lt_succ _⟩ := by cbv
  have fits : ∀ f ∈ filters, f.Fits := by
    simp only [filters, List.forall_mem_cons]
    exact ⟨rfl, rfl, List.forall_mem_nil _⟩
  have named : Variable.ofText name.text = .ok ⟨"x".toList, .path "x".toList []⟩ := rfl
  have both := filters_agree scanned rfl named rfl
  obtain ⟨host, term⟩ := both.1.mpr ⟨_, read, fits⟩
  obtain ⟨-, e, value, agree⟩ := both.2 host _ term read
  have neutral : AppliedFilter.AllNeutral filters (.text "a b".toList)
      (.ofData [("x".toList, .text "a b".toList), ("y".toList, .text "c".toList)] true) := by
    refine ⟨⟨?_, fun e _ s _ => Filter.apply_safe rfl _ _ s⟩, fun next after first => ?_⟩
    · rintro _ ⟨⟩ x ⟨⟩
    · have cut : AppliedFilter.apply (.text "a b".toList) ⟨.cut, some ⟨"\" \"".toList,
          .constant (.text " ".toList), []⟩⟩ (.ofData [("x".toList, .text "a b".toList),
            ("y".toList, .text "c".toList)] true) = (.ok (.text "ab".toList),
          .ofData [("x".toList, .text "a b".toList), ("y".toList, .text "c".toList)] true) := by
        cbv
      cases cut.symm.trans first
      refine ⟨⟨?_, ?_⟩, fun _ _ _ => trivial⟩
      · rintro _ ⟨⟩ x ⟨⟩ failed
        cases failed
      · rintro _ ⟨⟩ s ⟨⟩
  exact ⟨name, ts, _, e, scanned, read, fits, by rw [term, ← value]; rfl, agree _ _ _ rfl neutral,
    by cbv⟩

/-- Without a condition the two ways differ. Behind a list, a filter is given an argument too many,
and an undefined argument is absent; behind a variable, the one is refused, and the other fails. -/
theorem filters_disagree :
    (∃ entries, read "a=[]|upper:\"x\"".toList = .ok entries) ∧
    (∃ fault, read "a=x|upper:\"x\"".toList = .error fault) ∧
    (∃ entries, read "a=[]|default:y".toList = .ok entries ∧
      (Entry.resolveAll entries (.ofData [("x".toList, .list [])] true)).1 =
        .ok [.keywords [(.text "a".toList, .null)]]) ∧
    ∃ entries, read "a=x|default:y".toList = .ok entries ∧
      (Entry.resolveAll entries (.ofData [("x".toList, .list [])] true)).1 =
        .error .undefinedVariable := by
  refine ⟨⟨[.keyword 0 "a".toList (.list [] [⟨.upper, some ⟨"\"x\"".toList,
      .constant (.text "x".toList), []⟩⟩])], by cbv⟩,
    ⟨.value (.argumentCount "upper".toList 1 2), by cbv⟩,
    ⟨[.keyword 0 "a".toList (.list [] [⟨.defaultTo, some ⟨"y".toList,
      .variable ⟨"y".toList, .path "y".toList []⟩, []⟩⟩])], by cbv, by rfl⟩,
    ⟨[.keyword 0 "a".toList (.plain ⟨"x|default:y".toList,
      .variable ⟨"x".toList, .path "x".toList []⟩,
      [⟨.defaultTo, some (.variable ⟨"y".toList, .path "y".toList []⟩)⟩]⟩)], by cbv, by rfl⟩⟩

end Attribute
end ElementTags
