import ElementTags.Method
import ElementTags.Proofs.Operands

/-! # Calls without arguments

What is found on a path is called without arguments. A method that can be called in
this way marks nothing: neither what it gives nor what it makes of the value that it
belongs to (`ElementTags.Value.Unmarked.callMethod`). The tables of methods are gone
through one by one; a method that cannot do without arguments is refused before it
runs.
-/

namespace ElementTags

open Outcome

/-- What a method gives is unmarked, and so is the new content of the value that it belongs to. -/
structure Outcome.Unmarked (outcome : Outcome) : Prop where
  result : outcome.result.Unmarked True
  content : ∀ content ∈ outcome.receiver, content.Unmarked True

namespace Method

variable {α : Type} {own : α → Prop} {name : String} {signature : Signature}

/-- Called without arguments, a method of unmarked values is refused, or it leads to unmarked values
only. -/
def Discreet (own : α → Prop) (m : Method α) : Prop :=
  m.signature.bind {} = .error .wrongType ∨
    ∀ owner arguments outcome, own owner → m.run owner arguments = .ok outcome → outcome.Unmarked

theorem discreet_reading {f : α → List (Option Value) → Except EvalFault Value}
    (gives : ∀ owner arguments v, own owner → f owner arguments = .ok v → v.Unmarked True) :
    (reading name signature f).Discreet own := by
  refine .inr fun owner arguments outcome owned result => ?_
  obtain ⟨v, given, rfl⟩ := map_eq_ok.mp result
  exact ⟨gives owner arguments v owned given, fun _ none => by cases none⟩

theorem discreet_simple {f : α → Value} (gives : ∀ owner, own owner → (f owner).Unmarked True) :
    (simple name f).Discreet own := by
  refine discreet_reading fun owner arguments v owned given => ?_
  cases given
  exact gives owner owned

theorem discreet_changing {f : α → List (Option Value) → Except EvalFault Value}
    (leaves : ∀ owner arguments v, own owner → f owner arguments = .ok v → v.Unmarked True) :
    (changing name signature f).Discreet own := by
  refine .inr fun owner arguments outcome owned result => ?_
  obtain ⟨v, left, rfl⟩ := map_eq_ok.mp result
  refine ⟨.atom rfl, ?_⟩
  rintro _ ⟨⟩
  exact leaves owner arguments v owned left

/-- What a method of a table of discreet ones leads to when it is called without arguments. -/
theorem outcome_of_discreet {methods : List (Method α)} (sought : Text) {owner : α}
    {outcome : Outcome} (discreet : ∀ m ∈ methods, m.Discreet own) (owned : own owner)
    (called : (match find? methods sought with
      | some m => m.call owner {}
      | none => .error .missingAttribute) = .ok outcome) : outcome.Unmarked := by
  split at called
  · rename_i m found
    obtain ⟨arguments, bound, result⟩ := bind_eq_ok.mp called
    rcases discreet m (List.mem_of_find?_eq_some found) with refused | gives
    · rw [refused] at bound
      cases bound
    · exact gives owner arguments outcome owned result
  · cases called

end Method

open Method

/-! ## Texts -/

namespace TextMethod

variable {v : Value} {s : Text} {arguments : List (Option Value)}

/-- A method of texts leads to unmarked values, whatever the text was. -/
abbrev Discreet (m : Method Text) : Prop := m.Discreet fun _ => True

theorem discreet_transforming (name : String) (f : Text → Text) : Discreet (transforming name f) :=
  discreet_simple fun _ _ => .atom rfl

theorem discreet_asking (name : String) (f : Text → Bool) : Discreet (asking name f) :=
  discreet_simple fun _ _ => .atom rfl

theorem discreet_stripped (name : String) (signature : Signature) (atStart atEnd : Bool) :
    Discreet (reading name signature (stripped atStart atEnd)) := by
  refine discreet_reading fun s arguments v _ result => ?_
  unfold stripped at result
  extract_lets strip at result
  have plain : ∀ isIn, strip isIn = .ok v → v.Unmarked True := by
    intro isIn result
    cases result
    exact .atom rfl
  split at result
  · exact plain _ result
  · obtain ⟨set, -, result⟩ := bind_eq_ok.mp result
    exact plain _ result

theorem unmarked_textList (parts : List Text) : (textList parts).Unmarked True :=
  .list (List.forall_mem_map.mpr fun s _ => Value.unmarked_text s)

theorem discreet_splitBy (name : String) (signature : Signature) (turned : Bool) :
    Discreet (reading name signature (splitBy turned)) := by
  refine discreet_reading fun s arguments v _ result => ?_
  obtain ⟨limit, -, result⟩ := bind_eq_ok.mp result
  split at result
  · cases result
    exact unmarked_textList _
  · obtain ⟨separator, -, result⟩ := bind_eq_ok.mp result
    split at result
    · cases result
    · split at result
      · cases result
        exact unmarked_textList _
      · cases result
        exact unmarked_textList _

theorem discreet_transformations : ∀ m ∈ transformations, Discreet m := by
  simp only [transformations, List.forall_mem_cons]
  -- `.inl rfl` is for a method that is refused without arguments.
  refine ⟨discreet_transforming _ _, discreet_transforming _ _, discreet_transforming _ _,
    discreet_transforming _ _, discreet_transforming _ _, discreet_transforming _ _, .inl rfl,
    .inl rfl, .inl rfl, .inl rfl, ?expandtabs, discreet_stripped _ _ _ _, discreet_stripped _ _ _ _,
    discreet_stripped _ _ _ _, .inl rfl, .inl rfl, .inl rfl, .inl rfl, .inl rfl, ?format, .inl rfl,
    List.forall_mem_nil _⟩
  case expandtabs =>
    refine discreet_reading fun s arguments v _ result => ?_
    obtain ⟨size, -, result⟩ := bind_eq_ok.mp result
    cases result
    exact .atom rfl
  case format =>
    refine discreet_reading fun s _ v _ result => ?_
    obtain ⟨t, -, rfl⟩ := map_eq_ok.mp result
    exact .atom rfl

theorem discreet_searches : ∀ m ∈ searches, Discreet m := by
  simp only [searches, List.forall_mem_cons]
  refine ⟨.inl rfl, .inl rfl, .inl rfl, .inl rfl, .inl rfl, .inl rfl, .inl rfl,
    discreet_splitBy _ _ _, discreet_splitBy _ _ _, ?splitlines, .inl rfl, .inl rfl, ?encode,
    .inl rfl, List.forall_mem_nil _⟩
  case splitlines =>
    refine discreet_reading fun s arguments v _ result => ?_
    obtain ⟨keepsEnds, -, result⟩ := bind_eq_ok.mp result
    cases result
    exact unmarked_textList _
  case encode =>
    refine discreet_reading fun s arguments v _ result => ?_
    obtain ⟨⟨encoding, remedy⟩, -, result⟩ := bind_eq_ok.mp result
    obtain ⟨octets, -, result⟩ := bind_eq_ok.mp result
    cases result
    exact .atom rfl

theorem discreet_questions : ∀ m ∈ questions, Discreet m := by
  have asked (name : String) (holds : Char → Bool) : Discreet (simple name (allOf holds)) :=
    discreet_simple fun _ _ => .atom rfl
  simp only [questions, List.forall_mem_cons]
  exact ⟨asked _ _, asked _ _, discreet_asking _ _, asked _ _, asked _ _, discreet_asking _ _,
    discreet_asking _ _, asked _ _, discreet_asking _ _, asked _ _, discreet_asking _ _,
    discreet_asking _ _, List.forall_mem_nil _⟩

theorem discreet_all : ∀ m ∈ all, Discreet m :=
  List.forall_mem_append.mpr
    ⟨List.forall_mem_append.mpr ⟨discreet_transformations, discreet_searches⟩, discreet_questions⟩

end TextMethod

/-! ## Octets -/

namespace BytesMethod

variable {v : Value}

/-- A method of octets leads to unmarked values. -/
abbrev Discreet (m : Method (List UInt8)) : Prop := m.Discreet fun _ => True

theorem unmarked_asBytes (unmarked : v.Unmarked True) : (asBytes v).Unmarked True := by
  unfold asBytes
  split
  · exact .atom rfl
  · refine .list ?_
    rw [List.forall_mem_map]
    intro w member
    split
    · exact .atom rfl
    · exact Value.unmarked_list.mp unmarked _ member
  · refine .tuple ?_
    rw [List.forall_mem_map]
    intro w member
    split
    · exact .atom rfl
    · exact Value.unmarked_tuple.mp unmarked _ member
  · exact unmarked

theorem discreet_like (name : String) {m : Method Text} (discreet : TextMethod.Discreet m) :
    Discreet (like name m) := by
  rcases discreet with refused | gives
  · exact .inl refused
  · refine .inr fun octets arguments outcome _ result => ?_
    dsimp only [like] at result
    have plain : ∀ arguments, (do
        let outcome ← m.run (toText octets) (asTexts arguments)
        pure (⟨asBytes outcome.result, none⟩ : Outcome)) = .ok outcome → outcome.Unmarked := by
      intro arguments result
      obtain ⟨given, run, result⟩ := bind_eq_ok.mp result
      cases result
      exact ⟨unmarked_asBytes (gives _ _ _ trivial run).1, fun _ none => by cases none⟩
    split at result
    · obtain ⟨sought, -, result⟩ := bind_eq_ok.mp result
      exact plain _ result
    · exact plain _ result

theorem discreet_shared : ∀ m ∈ shared.filterMap fun name =>
    (find? TextMethod.all name.toList).map (like name), Discreet m := by
  intro m member
  obtain ⟨name, -, found⟩ := List.mem_filterMap.mp member
  obtain ⟨original, here, rfl⟩ := Option.map_eq_some_iff.mp found
  exact discreet_like name (TextMethod.discreet_all _ (List.mem_of_find?_eq_some here))

theorem discreet_all : ∀ m ∈ all, Discreet m := by
  have mapped (name : String) (f : Char → Char) : Discreet (mapping name f) :=
    discreet_simple fun _ _ => .atom rfl
  have transformed (name : String) (f : List Char → List Char) : Discreet (transforming name f) :=
    discreet_simple fun _ _ => .atom rfl
  have asked (name : String) (f : List UInt8 → Bool) :
      Discreet (simple name fun octets => .bool (f octets)) :=
    discreet_simple fun _ _ => .atom rfl
  have classed (name : String) (holds : Char → Bool) : Discreet (asking name holds) :=
    discreet_simple fun _ _ => .atom rfl
  refine List.forall_mem_append.mpr ⟨?_, discreet_shared⟩
  simp only [List.forall_mem_cons]
  refine ⟨?decode, ?hex, mapped _ _, mapped _ _, mapped _ _, transformed _ _, transformed _ _,
    asked _ _, asked _ _, asked _ _, .inl rfl, .inl rfl, .inl rfl, classed _ _, classed _ _,
    classed _ _, classed _ _, asked _ _, .inl rfl, List.forall_mem_nil _⟩
  case decode =>
    refine discreet_reading fun octets arguments v _ result => ?_
    obtain ⟨⟨encoding, remedy⟩, -, result⟩ := bind_eq_ok.mp result
    obtain ⟨s, -, result⟩ := bind_eq_ok.mp result
    cases result
    exact .atom rfl
  case hex =>
    refine discreet_reading fun octets arguments v _ result => ?_
    obtain ⟨count, -, result⟩ := bind_eq_ok.mp result
    split at result
    · obtain ⟨separator, -, result⟩ := bind_eq_ok.mp result
      cases result
      exact .atom rfl
    · cases result
      exact .atom rfl

end BytesMethod

/-! ## Numbers -/

namespace NumberMethod

theorem discreet_ofWhole : ∀ m ∈ ofWhole, m.Discreet fun _ => True := by
  simp only [ofWhole, List.forall_mem_cons]
  refine ⟨discreet_simple fun _ _ => .atom rfl, discreet_simple fun _ _ => .atom rfl,
    discreet_simple fun _ _ => .atom rfl, ?ratio, ?octets, .inl rfl, List.forall_mem_nil _⟩
  case ratio =>
    exact discreet_simple fun n _ => Value.unmarked_pair (.atom rfl) (.atom rfl)
  case octets =>
    refine discreet_reading fun n arguments v _ result => ?_
    obtain ⟨count, -, result⟩ := bind_eq_ok.mp result
    obtain ⟨little, -, result⟩ := bind_eq_ok.mp result
    extract_lets signed size fits octets at result
    clear_value fits
    split at result
    · cases result
    · split at result
      · cases result
      · split at result
        · cases result
          exact .atom rfl
        · cases result

theorem discreet_ofReal : ∀ m ∈ ofReal, m.Discreet fun _ => True := by
  simp only [ofReal, List.forall_mem_cons]
  refine ⟨?ratio, discreet_simple fun _ _ => .atom rfl, discreet_simple fun _ _ => .atom rfl,
    .inl rfl, discreet_simple fun _ _ => .atom rfl, List.forall_mem_nil _⟩
  case ratio =>
    refine discreet_reading fun x _ v _ result => ?_
    unfold ratioOf at result
    split at result
    · cases result
      exact Value.unmarked_pair (.atom rfl) (.atom rfl)
    · cases result
    · cases result

theorem discreet_ofComplex : ∀ m ∈ ofComplex, m.Discreet fun _ => True := by
  simp only [ofComplex, List.forall_mem_cons]
  exact ⟨discreet_simple fun _ _ => .atom rfl, List.forall_mem_nil _⟩

end NumberMethod

/-! ## Lists -/

namespace SequenceMethod

variable {items sorted : List Value} {ranked run behind : List Ranked} {last : Ranked}

theorem runFrom_subset {down : Bool} (found : runFrom down last ranked = .ok (run, behind)) :
    run ⊆ ranked ∧ behind ⊆ ranked := by
  induction ranked generalizing last run with
  | nil =>
      cases found
      exact ⟨List.nil_subset _, List.nil_subset _⟩
  | cons next rest ih =>
      obtain ⟨before, -, found⟩ := bind_eq_ok.mp found
      split at found
      · obtain ⟨⟨more, others⟩, found', same⟩ := bind_eq_ok.mp found
        cases same
        obtain ⟨inside, outside⟩ := ih found'
        exact ⟨List.cons_subset_cons next inside, List.subset_cons_of_subset next outside⟩
      · cases found
        exact ⟨List.nil_subset _, List.Subset.refl _⟩

theorem insertRanked_subset {item : Ranked} {result : List Ranked}
    (inserted : insertRanked ranked item = .ok result) : result ⊆ item :: ranked := by
  obtain ⟨place, -, same⟩ := bind_eq_ok.mp inserted
  cases same
  intro r member
  rcases List.mem_append.mp member with front | member
  · exact List.mem_cons_of_mem _ (List.mem_of_mem_take front)
  · rcases List.mem_cons.mp member with rfl | back
    · exact List.mem_cons_self
    · exact List.mem_cons_of_mem _ (List.mem_of_mem_drop back)

theorem foldlM_insertRanked_subset {result : List Ranked}
    (inserted : behind.foldlM insertRanked ranked = .ok result) : result ⊆ ranked ++ behind := by
  induction behind generalizing ranked with
  | nil =>
      cases inserted
      exact List.subset_append_left _ _
  | cons item rest ih =>
      rw [List.foldlM_cons] at inserted
      obtain ⟨next, first, inserted⟩ := bind_eq_ok.mp inserted
      intro r member
      rcases List.mem_append.mp (ih inserted member) with before | later
      · rcases List.mem_cons.mp (insertRanked_subset first before) with rfl | old
        · exact List.mem_append_right _ List.mem_cons_self
        · exact List.mem_append_left _ old
      · exact List.mem_append_right _ (List.mem_cons_of_mem _ later)

theorem ordered_subset {result : List Ranked} (inOrder : ordered ranked = .ok result) :
    result ⊆ ranked := by
  unfold ordered at inOrder
  split at inOrder
  · rename_i first second rest
    obtain ⟨down, -, inOrder⟩ := bind_eq_ok.mp inOrder
    obtain ⟨⟨run, behind⟩, found, inOrder⟩ := bind_eq_ok.mp inOrder
    obtain ⟨inside, outside⟩ := runFrom_subset found
    have start : (if down then (first :: second :: run).reverse else first :: second :: run) ⊆
        first :: second :: rest := by
      have forward := List.cons_subset_cons first (List.cons_subset_cons second inside)
      split
      · exact fun r member => forward (List.mem_reverse.mp member)
      · exact forward
    intro r member
    rcases List.mem_append.mp (foldlM_insertRanked_subset inOrder member) with before | later
    · exact start before
    · exact List.mem_cons_of_mem _ (List.mem_cons_of_mem _ (outside later))
  · cases inOrder
    exact List.Subset.refl _

/-- Sorting adds no items. -/
theorem sort_subset {isReversed : Bool} (result : sort items isReversed = .ok sorted) :
    sorted ⊆ items := by
  obtain ⟨ranked, inOrder, same⟩ := bind_eq_ok.mp result
  cases same
  intro v member
  have among : v ∈ ranked.map Ranked.item := by
    obtain ⟨r, here, rfl⟩ := List.mem_map.mp member
    split at here
    · exact List.mem_map_of_mem (List.mem_reverse.mp here)
    · exact List.mem_map_of_mem here
  obtain ⟨r, here, rfl⟩ := List.mem_map.mp among
  have before := ordered_subset inOrder here
  split at before
  · obtain ⟨v, known, rfl⟩ := List.mem_map.mp (List.mem_reverse.mp before)
    exact known
  · obtain ⟨v, known, rfl⟩ := List.mem_map.mp before
    exact known

/-- A method of unmarked items leads to unmarked values. -/
abbrev Discreet (m : Method (List Value)) : Prop :=
  m.Discreet fun items => ∀ v ∈ items, v.Unmarked True

theorem discreet_ofList : ∀ m ∈ ofList, Discreet m := by
  simp only [ofList, List.forall_mem_cons]
  refine ⟨.inl rfl, .inl rfl, ?copy, .inl rfl, ?clear, .inl rfl, .inl rfl, ?pop, .inl rfl, ?reverse,
    ?sort, List.forall_mem_nil _⟩
  case copy =>
    refine discreet_reading fun items _ v unmarked result => ?_
    cases result
    exact .list unmarked
  case clear =>
    refine discreet_changing fun items _ v _ result => ?_
    cases result
    exact .list (List.forall_mem_nil _)
  case pop =>
    refine .inr fun items arguments outcome unmarked result => ?_
    obtain ⟨position, -, result⟩ := bind_eq_ok.mp result
    obtain ⟨v, found, result⟩ := bind_eq_ok.mp result
    cases result
    refine ⟨unmarked v (Value.itemAt_mem found), ?_⟩
    rintro _ ⟨⟩
    exact .list fun w member => unmarked w (List.mem_of_mem_eraseIdx member)
  case reverse =>
    refine discreet_changing fun items _ v unmarked result => ?_
    cases result
    exact .list fun w member => unmarked w (List.mem_reverse.mp member)
  case sort =>
    refine discreet_changing fun items arguments v unmarked result => ?_
    obtain ⟨isReversed, -, result⟩ := bind_eq_ok.mp result
    split at result
    · obtain ⟨sorted, inOrder, result⟩ := bind_eq_ok.mp result
      cases result
      exact .list fun w member => unmarked w (sort_subset inOrder member)
    · cases result

theorem discreet_ofTuple : ∀ m ∈ ofTuple, Discreet m := by
  simp only [ofTuple, List.forall_mem_cons]
  exact ⟨.inl rfl, .inl rfl, List.forall_mem_nil _⟩

end SequenceMethod

/-! ## Mappings -/

namespace MappingMethod

/-- Nothing in a mapping is marked. -/
structure Owner.Unmarked (o : Owner) : Prop where
  self : o.self.Unmarked True
  pairs : Value.PairsUnmarked True o.pairs

theorem discreet_readings : ∀ m ∈ readings, m.Discreet Owner.Unmarked := by
  simp only [readings, List.forall_mem_cons]
  exact ⟨.inl rfl, discreet_simple fun o unmarked => .view unmarked.self,
    discreet_simple fun o unmarked => .view unmarked.self,
    discreet_simple fun o unmarked => .view unmarked.self,
    discreet_simple fun o unmarked => Value.unmarked_dict.mpr unmarked.pairs, List.forall_mem_nil _⟩

theorem discreet_changes : ∀ m ∈ changes, m.Discreet Owner.Unmarked := by
  simp only [changes, List.forall_mem_cons]
  refine ⟨?clear, .inl rfl, ?popitem, .inl rfl, .inl rfl, List.forall_mem_nil _⟩
  case clear =>
    refine discreet_changing fun o _ v _ result => ?_
    cases result
    exact Value.unmarked_dict.mpr (List.forall_mem_nil _)
  case popitem =>
    refine .inr fun o _ outcome unmarked result => ?_
    dsimp only [popPair] at result
    split at result
    · rename_i k v last
      cases result
      obtain ⟨key, value⟩ := unmarked.pairs (k, v) (List.mem_of_getLast? last)
      refine ⟨Value.unmarked_pair key value, ?_⟩
      rintro _ ⟨⟩
      exact Value.unmarked_dict.mpr fun p here => unmarked.pairs p (List.dropLast_subset _ here)
    · cases result

theorem discreet_ofDict : ∀ m ∈ ofDict, m.Discreet Owner.Unmarked :=
  List.forall_mem_append.mpr ⟨discreet_readings, discreet_changes⟩

theorem discreet_ofView :
    ∀ m ∈ ofView, m.Discreet fun items => ∀ v ∈ items, v.Unmarked True := by
  simp only [ofView, List.forall_mem_cons]
  exact ⟨.inl rfl, List.forall_mem_nil _⟩

end MappingMethod

/-! ## Sets -/

namespace SetMethod

theorem discreet_all : ∀ m ∈ all, m.Discreet fun items => ∀ v ∈ items, v.Unmarked True := by
  simp only [all, List.forall_mem_cons]
  refine ⟨?copy, .inl rfl, .inl rfl, .inl rfl, .inl rfl, ?clear, .inl rfl, .inl rfl, ?pop,
    List.forall_mem_nil _⟩
  case copy =>
    refine discreet_reading fun items _ v unmarked result => ?_
    cases result
    exact .set fun w member => unmarked w (Value.copied_subset items member)
  case clear =>
    refine discreet_changing fun items _ v _ result => ?_
    cases result
    exact .set (List.forall_mem_nil _)
  case pop =>
    refine .inr fun items _ outcome unmarked result => ?_
    dsimp only at result
    split at result
    · cases result
      obtain ⟨first, others⟩ := List.forall_mem_cons.mp unmarked
      refine ⟨first, ?_⟩
      rintro _ ⟨⟩
      exact .set others
    · cases result

/-- A set that is combined with nothing keeps its items. -/
theorem unmarked_combine? {items : List Value} {name : Text} {outcome : Outcome}
    (unmarked : ∀ v ∈ items, v.Unmarked True)
    (result : combine? items name {} = some (.ok outcome)) :
    outcome.Unmarked := by
  have copy : (Value.set (Value.copied items)).Unmarked True :=
    .set fun w member => unmarked w (Value.copied_subset items member)
  unfold combine? at result
  dsimp only at result
  split at result
  · obtain ⟨v, made, rfl⟩ := map_eq_ok.mp (Option.some.inj result)
    cases made
    exact ⟨copy, fun _ none => by cases none⟩
  · cases result
  · split at result
    · obtain ⟨v, made, rfl⟩ := map_eq_ok.mp (Option.some.inj result)
      cases made
      refine ⟨.atom rfl, ?_⟩
      rintro _ ⟨⟩
      exact copy
    · cases result
  · cases result

end SetMethod

/-! ## Values -/

namespace Value

variable {v w : Value} {name : Text} {outcome : Outcome}

theorem unmarked_wholePart? {n : Int} (found : NumberMethod.wholePart? n name = some v) :
    v.Unmarked True := by
  unfold NumberMethod.wholePart? at found
  split at found
  · cases found
    exact .atom rfl
  · split at found
    · cases found
      exact .atom rfl
    · split at found
      · cases found
        exact .atom rfl
      · cases found

theorem unmarked_realPart? (unmarked : v.Unmarked True)
    (found : NumberMethod.realPart? v name = some w) : w.Unmarked True := by
  unfold NumberMethod.realPart? at found
  split at found
  · cases found
    exact unmarked
  · split at found
    · cases found
      exact .atom rfl
    · cases found

theorem unmarked_complexPart? {re im : Float}
    (found : NumberMethod.complexPart? re im name = some w) : w.Unmarked True := by
  unfold NumberMethod.complexPart? at found
  split at found
  · cases found
    exact .atom rfl
  · split at found
    · cases found
      exact .atom rfl
    · cases found

/-- A part of an unmarked value is unmarked. -/
theorem Unmarked.part? (unmarked : v.Unmarked True) (found : v.part? name = some w) :
    w.Unmarked True := by
  unfold Value.part? at found
  split at found
  · obtain ⟨a, here, rfl⟩ := Option.map_eq_some_iff.mp found
    cases unmarked with
    | atom plain => cases plain
    | object each => exact each a (List.mem_of_find?_eq_some here)
  · exact unmarked_wholePart? found
  · exact unmarked_wholePart? found
  · exact unmarked_realPart? unmarked found
  · exact unmarked_realPart? unmarked found
  · exact unmarked_complexPart? found
  · cases unmarked with
    | atom plain => cases plain
    | bounds first second third =>
        split at found
        · cases found
          exact first
        · split at found
          · cases found
            exact second
          · split at found
            · cases found
              exact third
            · cases found
  · split at found
    · obtain ⟨pairs, shown, rfl⟩ := Option.map_eq_some_iff.mp found
      cases unmarked with
      | atom plain => cases plain
      | view owner =>
          have each := owner.pairs? shown
          exact .mapping (fun p member => (each p member).1) fun p member => (each p member).2
    · cases found
  · cases found

/-- What a name leads to from an unmarked value is unmarked. -/
theorem Unmarked.member? (unmarked : v.Unmarked True) (found : v.member? name = some w) :
    w.Unmarked True := by
  unfold Value.member? at found
  split at found
  · rename_i part
    cases found
    exact unmarked.part? part
  · obtain ⟨_, -, rfl⟩ := Option.map_eq_some_iff.mp found
    exact .method unmarked

/-- A dictionary that is updated with nothing stays what it is. -/
theorem unmarked_update {o : MappingMethod.Owner} (unmarked : o.Unmarked)
    (called : MappingMethod.update o {} = .ok outcome) : outcome.Unmarked := by
  cases called
  refine ⟨.atom rfl, ?_⟩
  rintro _ ⟨⟩
  exact unmarked_dict.mpr unmarked.pairs

/-- What a method of an unmarked value leads to is unmarked. -/
theorem Unmarked.callMethod (unmarked : v.Unmarked True)
    (called : v.callMethod name {} = .ok outcome) : outcome.Unmarked := by
  have owner {pairs : List (Value × Value)} (shown : v.pairs? = some pairs) :
      MappingMethod.Owner.Unmarked ⟨v, pairs⟩ := ⟨unmarked, unmarked.pairs? shown⟩
  have items : ∀ w ∈ v.items?.getD [], w.Unmarked True := by
    cases shown : v.items? with
    | none => exact List.forall_mem_nil _
    | some items => exact unmarked.items? shown
  unfold Value.callMethod at called
  dsimp only at called
  split at called
  · exact outcome_of_discreet name TextMethod.discreet_all trivial called
  · exact outcome_of_discreet name NumberMethod.discreet_ofWhole trivial called
  · exact outcome_of_discreet name NumberMethod.discreet_ofWhole trivial called
  · exact outcome_of_discreet name NumberMethod.discreet_ofReal trivial called
  · exact outcome_of_discreet name NumberMethod.discreet_ofReal trivial called
  · exact outcome_of_discreet name NumberMethod.discreet_ofComplex trivial called
  · exact outcome_of_discreet name BytesMethod.discreet_all trivial called
  · exact outcome_of_discreet name SequenceMethod.discreet_ofList items called
  · exact outcome_of_discreet name SequenceMethod.discreet_ofTuple items called
  · split at called
    · exact unmarked_update (owner rfl) called
    · exact outcome_of_discreet name MappingMethod.discreet_ofDict (owner rfl) called
  · split at called
    · exact unmarked_update (owner rfl) called
    · exact outcome_of_discreet name MappingMethod.discreet_ofDict (owner rfl) called
  · exact outcome_of_discreet name MappingMethod.discreet_readings (owner rfl) called
  · split at called
    · rename_i combined
      exact SetMethod.unmarked_combine? items (called ▸ combined)
    · exact outcome_of_discreet name SetMethod.discreet_all items called
  · exact outcome_of_discreet name MappingMethod.discreet_ofView items called

/-- New content keeps an unmarked value unmarked. -/
theorem Unmarked.withContent (unmarked : v.Unmarked True) (content : w.Unmarked True) :
    (v.withContent w).Unmarked True := by
  unfold Value.withContent
  split
  · exact .list (unmarked_list.mp content)
  · exact .set (unmarked_set.mp content)
  · exact unmarked_dict.mpr (unmarked_dict.mp content)
  · exact unmarked_keywords.mpr (unmarked_dict.mp content)
  · exact unmarked

end Value
end ElementTags
