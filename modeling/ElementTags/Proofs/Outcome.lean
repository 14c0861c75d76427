/-! # Outcomes that correspond

Readers of attribute lists succeed or fail, and are put together from smaller
ones. Two runs of the same reader on different tokens are compared by relating
their outcomes (`ElementTags.Outcome.Related`), and the relation passes through
sequencing and deciding.
-/

namespace ElementTags.Outcome

variable {ε ε' α α' β β' : Type}

theorem bind_eq_ok {x : Except ε α} {f : α → Except ε β} {b : β} :
    x >>= f = .ok b ↔ ∃ a, x = .ok a ∧ f a = .ok b := by
  cases x with
  | error e =>
      constructor
      · intro failed
        cases failed
      · rintro ⟨_, failed, _⟩
        cases failed
  | ok a =>
      constructor
      · intro result
        exact ⟨a, rfl, result⟩
      · rintro ⟨_, same, result⟩
        cases same
        exact result

theorem map_eq_ok {x : Except ε α} {f : α → β} {b : β} :
    x.map f = .ok b ↔ ∃ a, x = .ok a ∧ f a = b := by
  cases x with
  | error e =>
      constructor
      · intro failed
        cases failed
      · rintro ⟨_, failed, _⟩
        cases failed
  | ok a =>
      constructor
      · intro result
        exact ⟨a, rfl, Except.ok.inj result⟩
      · rintro ⟨_, same, rfl⟩
        cases same
        rfl

theorem eq_error_of_map {x : Except ε α} {f : α → β} {e : ε} (failed : x.map f = .error e) :
    x = .error e := by
  cases x with
  | error e' => exact congrArg _ (Except.error.inj failed)
  | ok a => cases failed

theorem eq_error_of_bind_pure {x : Except ε α} {f : α → β} {e : ε}
    (failed : (x >>= fun a => pure (f a)) = .error e) : x = .error e := by
  cases x with
  | error e' =>
      cases failed
      rfl
  | ok a => cases failed

/-- Every item of a list has a result if the whole list has. -/
theorem exists_ok_of_mapM_eq_ok {f : α → Except ε β} {as : List α} {bs : List β}
    (results : as.mapM f = .ok bs) {a : α} (member : a ∈ as) : ∃ b, f a = .ok b := by
  induction as generalizing bs with
  | nil => cases member
  | cons first rest ih =>
      rw [List.mapM_cons] at results
      obtain ⟨b, here, results⟩ := bind_eq_ok.mp results
      obtain ⟨others, behind, -⟩ := bind_eq_ok.mp results
      rcases List.mem_cons.mp member with rfl | later
      · exact ⟨b, here⟩
      · exact ih behind later

/-- The results of a list are those of its items. -/
theorem mem_of_mapM_eq_ok {f : α → Except ε β} {as : List α} {bs : List β}
    (results : as.mapM f = .ok bs) {b : β} : b ∈ bs ↔ ∃ a ∈ as, f a = .ok b := by
  induction as generalizing bs with
  | nil =>
      rw [List.mapM_nil] at results
      cases results
      simp only [List.not_mem_nil, false_and, exists_false]
  | cons first rest ih =>
      rw [List.mapM_cons] at results
      obtain ⟨c, here, results⟩ := bind_eq_ok.mp results
      obtain ⟨others, behind, same⟩ := bind_eq_ok.mp results
      cases same
      simp only [List.mem_cons, ih behind, exists_eq_or_imp, here, Except.ok.injEq,
        eq_comm (a := b)]

/-- A whole list has results if every item of it has. -/
theorem exists_mapM_eq_ok {f : α → Except ε β} {as : List α} (each : ∀ a ∈ as, ∃ b, f a = .ok b) :
    ∃ bs, as.mapM f = .ok bs := by
  induction as with
  | nil => exact ⟨[], rfl⟩
  | cons first rest ih =>
      obtain ⟨⟨b, here⟩, others⟩ := List.forall_mem_cons.mp each
      obtain ⟨bs, behind⟩ := ih others
      exact ⟨b :: bs, by rw [List.mapM_cons, here, behind]; rfl⟩

/-- The fault of a list is that of one of its items. -/
theorem exists_error_of_mapM_eq_error {f : α → Except ε β} {as : List α} {e : ε}
    (failed : as.mapM f = .error e) : ∃ a ∈ as, f a = .error e := by
  induction as with
  | nil => cases failed
  | cons first rest ih =>
      rw [List.mapM_cons] at failed
      cases here : f first with
      | error other =>
          rw [here] at failed
          cases failed
          exact ⟨first, List.mem_cons_self, here⟩
      | ok b =>
          rw [here] at failed
          obtain ⟨a, member, fault⟩ := ih (eq_error_of_bind_pure failed)
          exact ⟨a, List.mem_cons_of_mem _ member, fault⟩

/-- The results of a list are put together from those of its items. -/
theorem flatten_of_mapM_eq_ok {f : α → Except ε (List β)} {g : α → List β} {as : List α}
    {results : List (List β)} (each : ∀ a ∈ as, ∀ bs, f a = .ok bs → bs = g a)
    (all : as.mapM f = .ok results) : results.flatten = as.flatMap g := by
  induction as generalizing results with
  | nil =>
      cases all
      rfl
  | cons a rest ih =>
      obtain ⟨first, others⟩ := List.forall_mem_cons.mp each
      rw [List.mapM_cons] at all
      obtain ⟨own, here, all⟩ := bind_eq_ok.mp all
      obtain ⟨behind, later, same⟩ := bind_eq_ok.mp all
      cases same
      rw [List.flatten_cons, first own here, ih others later, List.flatMap_cons]

/-- An outcome that counts as true is a result. -/
theorem ok_of_toBool {x : Except ε α} (counts : x.toBool = true) : ∃ a, x = .ok a := by
  cases x with
  | ok a => exact ⟨a, rfl⟩
  | error e => cases counts

theorem error_of_toBool {x : Except ε α} (counts : x.toBool = false) : ∃ e, x = .error e := by
  cases x with
  | ok a => cases counts
  | error e => exact ⟨e, rfl⟩

theorem ok_bind (a : α) (f : α → Except ε β) : (Except.ok a >>= f) = f a := rfl

/-- Both outcomes are results that are related, or both are faults that are. -/
inductive Related (R : α → α' → Prop) (E : ε → ε' → Prop) : Except ε α → Except ε' α' → Prop
  | ok {a : α} {a' : α'} (results : R a a') : Related R E (.ok a) (.ok a')
  | error {e : ε} {e' : ε'} (faults : E e e') : Related R E (.error e) (.error e')

namespace Related

variable {R : α → α' → Prop} {S : β → β' → Prop} {E : ε → ε' → Prop}

theorem bind {x : Except ε α} {x' : Except ε' α'} {f : α → Except ε β} {f' : α' → Except ε' β'}
    (first : Related R E x x') (next : ∀ a a', R a a' → Related S E (f a) (f' a')) :
    Related S E (x >>= f) (x' >>= f') := by
  cases first with
  | ok results => exact next _ _ results
  | error faults => exact .error faults

theorem map {x : Except ε α} {x' : Except ε' α'} {f : α → β} {f' : α' → β'}
    (first : Related R E x x') (next : ∀ a a', R a a' → S (f a) (f' a')) :
    Related S E (x.map f) (x'.map f') := by
  cases first with
  | ok results => exact .ok (next _ _ results)
  | error faults => exact .error faults

theorem mono {R' : α → α' → Prop} {x : Except ε α} {x' : Except ε' α'} (first : Related R E x x')
    (weaker : ∀ a a', R a a' → R' a a') : Related R' E x x' := by
  cases first with
  | ok results => exact .ok (weaker _ _ results)
  | error faults => exact .error faults

/-- One outcome is related to itself when its fault is. -/
theorem refl {F : ε → ε → Prop} (x : Except ε α) (faults : ∀ e, x = .error e → F e e) :
    Related Eq F x x := by
  cases x with
  | ok a => exact .ok rfl
  | error e => exact .error (faults e rfl)

/-- Both runs decide alike. -/
theorem ite {c c' : Prop} [Decidable c] [Decidable c'] {x y : Except ε α} {x' y' : Except ε' α'}
    (same : c ↔ c') (yes : c → Related R E x x') (no : ¬c → Related R E y y') :
    Related R E (if c then x else y) (if c' then x' else y') := by
  by_cases decided : c
  · rw [if_pos decided, if_pos (same.mp decided)]
    exact yes decided
  · rw [if_neg decided, if_neg fun there => decided (same.mpr there)]
    exact no decided

/-- An outcome is related to itself when its result goes into another one. -/
theorem mapped {x : Except ε α} {f : α → α'} {R : α' → α → Prop} (results : ∀ a, R (f a) a) :
    Related R Eq (x >>= fun a => pure (f a)) x := by
  cases x with
  | ok a => exact .ok (results a)
  | error e => exact .error rfl

/-- Outcomes with the same results and faults are the same. -/
theorem eq {x y : Except ε α} (related : Related Eq Eq x y) : x = y := by
  cases related with
  | ok results => rw [results]
  | error faults => rw [faults]

end Related

end ElementTags.Outcome
