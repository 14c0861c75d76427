import ElementTags.Template.Node

/-! # What nodes contain

Nodes use tags, and may include other templates. Nodes fit a property of tags if all tags
that are used in them have it, also in the bodies of others, and if no template is included,
should that be required (`ElementTags.Node.Fit`). What fits is told apart node by node, so
that inductions over templates can carry it along.
-/

namespace ElementTags.Node

/-! ## Tags -/

/-- All tags that are used in nodes have a property. -/
def AllTags (holds : Tag → Prop) (nodes : List Node) : Prop :=
  ∀ o ∈ occurrencesAll nodes, holds o.tag

theorem allTags_nil (holds : Tag → Prop) : AllTags holds [] := List.forall_mem_nil _

theorem allTags_append {holds : Tag → Prop} {front back : List Node} :
    AllTags holds (front ++ back) ↔ AllTags holds front ∧ AllTags holds back := by
  have whole : occurrencesAll (front ++ back) = occurrencesAll front ++ occurrencesAll back := by
    induction front with
    | nil => rfl
    | cons node front ih =>
        rw [List.cons_append, occurrencesAll, ih, occurrencesAll, List.append_assoc]
  rw [AllTags, whole, List.forall_mem_append]
  rfl

theorem allTags_singleton {holds : Tag → Prop} {node : Node} :
    AllTags holds [node] ↔ ∀ o ∈ occurrences node, holds o.tag := by
  rw [AllTags, occurrencesAll, occurrencesAll, List.append_nil]

/-! ## Inclusions -/

mutual

/-- Whether a node includes other templates. -/
def includes : Node → Bool
  | text _ => false
  | value _ => false
  | choice _ body otherwise => includesAny body || includesAny otherwise
  | loop _ _ _ body whenEmpty => includesAny body || includesAny whenEmpty
  | binding _ body => includesAny body
  | escaping _ body => includesAny body
  | inclusion _ _ _ => true
  | group body => includesAny body
  | host _ parts => includesAny parts
  | element _ _ _ _ body => includesAny body

/-- Whether some of several nodes include other templates. -/
def includesAny : List Node → Bool
  | [] => false
  | n :: rest => includes n || includesAny rest

end

/-! ## Nodes that fit -/

variable {holds : Tag → Prop} {isClosed : Bool} {node : Node} {rest body other : List Node}

/-- All tags that are used in nodes have a property, and no template is included if the nodes have
to be closed. -/
structure Fit (holds : Tag → Prop) (isClosed : Bool) (nodes : List Node) : Prop where
  tags : AllTags holds nodes
  closed : isClosed = true → includesAny nodes = false

theorem fit_nil : Fit holds isClosed [] := ⟨allTags_nil holds, fun _ => rfl⟩

/-- Nodes whose tags have a property may include templates unless they have to be closed. -/
theorem fit_open_iff : Fit holds false body ↔ AllTags holds body :=
  ⟨Fit.tags, fun tags => ⟨tags, fun none => by cases none⟩⟩

theorem fit_cons : Fit holds isClosed (node :: rest) ↔
    Fit holds isClosed [node] ∧ Fit holds isClosed rest := by
  have tags : AllTags holds (node :: rest) ↔ AllTags holds [node] ∧ AllTags holds rest :=
    @allTags_append holds [node] rest
  have closed : includesAny (node :: rest) = (includesAny [node] || includesAny rest) := by
    simp only [includesAny, Bool.or_false]
  constructor
  · rintro ⟨all, none⟩
    rw [closed] at none
    obtain ⟨first, others⟩ := tags.mp all
    exact ⟨⟨first, fun required => (Bool.or_eq_false_iff.mp (none required)).1⟩,
      others, fun required => (Bool.or_eq_false_iff.mp (none required)).2⟩
  · rintro ⟨first, others⟩
    refine ⟨tags.mpr ⟨first.tags, others.tags⟩, fun required => ?_⟩
    rw [closed, first.closed required, others.closed required]
    rfl

/-- The two bodies of a node fit each. -/
theorem fit_two_iff (tags : occurrences node = occurrencesAll body ++ occurrencesAll other)
    (included : includes node = (includesAny body || includesAny other)) :
    Fit holds isClosed [node] ↔ Fit holds isClosed body ∧ Fit holds isClosed other := by
  have all : AllTags holds [node] ↔ AllTags holds body ∧ AllTags holds other := by
    rw [allTags_singleton, tags, List.forall_mem_append]
    rfl
  have closed : includesAny [node] = (includesAny body || includesAny other) := by
    rw [includesAny, includesAny, Bool.or_false, included]
  constructor
  · rintro ⟨uses, none⟩
    rw [closed] at none
    obtain ⟨first, second⟩ := all.mp uses
    exact ⟨⟨first, fun required => (Bool.or_eq_false_iff.mp (none required)).1⟩,
      second, fun required => (Bool.or_eq_false_iff.mp (none required)).2⟩
  · rintro ⟨first, second⟩
    refine ⟨all.mpr ⟨first.tags, second.tags⟩, fun required => ?_⟩
    rw [closed, first.closed required, second.closed required]
    rfl

theorem fit_choice {condition : FilterExpr} : Fit holds isClosed [choice condition body other] ↔
    Fit holds isClosed body ∧ Fit holds isClosed other := fit_two_iff rfl rfl

theorem fit_loop {names : List Text} {collection : FilterExpr} {backwards : Bool} :
    Fit holds isClosed [loop names collection backwards body other] ↔
      Fit holds isClosed body ∧ Fit holds isClosed other := fit_two_iff rfl rfl

/-- The only body of a node fits. -/
theorem fit_one_iff (tags : occurrences node = occurrencesAll body)
    (included : includes node = includesAny body) :
    Fit holds isClosed [node] ↔ Fit holds isClosed body := by
  have two : Fit holds isClosed [node] ↔ Fit holds isClosed body ∧ Fit holds isClosed [] :=
    fit_two_iff (by rw [tags, occurrencesAll, List.append_nil])
      (by rw [included, includesAny, Bool.or_false])
  exact two.trans (and_iff_left fit_nil)

theorem fit_binding {bindings : List (Text × FilterExpr)} :
    Fit holds isClosed [binding bindings body] ↔ Fit holds isClosed body := fit_one_iff rfl rfl

theorem fit_escaping {on : Bool} :
    Fit holds isClosed [escaping on body] ↔ Fit holds isClosed body := fit_one_iff rfl rfl

theorem fit_group : Fit holds isClosed [group body] ↔ Fit holds isClosed body :=
  fit_one_iff rfl rfl

theorem fit_host {weave : Weave} :
    Fit holds isClosed [host weave body] ↔ Fit holds isClosed body := fit_one_iff rfl rfl

theorem Fit.notClosed {serial : Nat} {origin : Option Text} {name : FilterExpr}
    (fit : Fit holds isClosed [inclusion serial origin name]) : isClosed = false := by
  cases isClosed with
  | false => rfl
  | true => cases fit.closed rfl

theorem fit_element {tag : Tag} {identifier source : Text} {entries : List Entry} :
    Fit holds isClosed [element tag identifier source entries body] ↔
      holds tag ∧ Fit holds isClosed body := by
  have tags : AllTags holds [element tag identifier source entries body] ↔
      holds tag ∧ AllTags holds body := by
    rw [allTags_singleton, occurrences, List.forall_mem_cons]
    rfl
  have closed : includesAny [element tag identifier source entries body] = includesAny body := by
    rw [includesAny, includesAny, includes, Bool.or_false]
  constructor
  · rintro ⟨all, none⟩
    rw [closed] at none
    obtain ⟨here, inside⟩ := tags.mp all
    exact ⟨here, inside, none⟩
  · rintro ⟨here, inside⟩
    exact ⟨tags.mpr ⟨here, inside.tags⟩, closed ▸ inside.closed⟩

end ElementTags.Node
