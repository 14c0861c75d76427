import ElementTags.Ledger
import ElementTags.Template.Node

/-! # Visits of tags

A step of an engine, such as compiling a template, comes to uses of tags, and to others
within them (`ElementTags.Visit`). Each visit is logged by a line where it starts and,
unless it fails, by a line where it is done, with the lines of the visits within it in
between (`ElementTags.Visit.linesAll`).

Visits are complete if all of them are done. They are underway if those that are not
done lie within each other and nothing was visited behind them; then what is logged
breaks off, and missing are only the lines that tell that these visits are done
(`ElementTags.Visit.Underway.breaksOff`).
-/

namespace ElementTags

/-- A visit of a use of a tag, and the visits within it. -/
inductive Visit
  | visit (tag identifier : Text) (isDone : Bool) (inside : List Visit)

namespace Visit

mutual

/-- The lines that are logged about a visit and those within it. -/
def lines (step : String) : Visit → List LogLine
  | visit tag identifier isDone inside =>
    Ledger.openingLine step tag identifier :: (linesAll step inside ++
      if isDone then [Ledger.closingLine step tag identifier] else [])

/-- The lines that are logged about visits, one after the other. -/
def linesAll (step : String) : List Visit → List LogLine
  | [] => []
  | v :: rest => lines step v ++ linesAll step rest

end

mutual

/-- The identifiers of the use of a tag that is visited and of those within it, in this order. -/
def identifiers : Visit → List Text
  | visit _ identifier _ inside => identifier :: identifiersAll inside

/-- The identifiers of the uses of tags that are visited, one after the other. -/
def identifiersAll : List Visit → List Text
  | [] => []
  | v :: rest => identifiers v ++ identifiersAll rest

end

variable {visits earlier inside : List Visit} {path : List (Text × Text)}

theorem linesAll_append (step : String) (front back : List Visit) :
    linesAll step (front ++ back) = linesAll step front ++ linesAll step back := by
  induction front with
  | nil => rfl
  | cons v front ih => rw [List.cons_append, linesAll, linesAll, ih, List.append_assoc]

theorem linesAll_singleton (step : String) (v : Visit) : linesAll step [v] = lines step v :=
  List.append_nil _

theorem lines_done (step : String) (tag identifier : Text) (inside : List Visit) :
    lines step (visit tag identifier true inside) = Ledger.openingLine step tag identifier ::
      (linesAll step inside ++ [Ledger.closingLine step tag identifier]) := rfl

theorem lines_undone (step : String) (tag identifier : Text) (inside : List Visit) :
    lines step (visit tag identifier false inside) =
      Ledger.openingLine step tag identifier :: linesAll step inside :=
  congrArg (_ :: ·) (List.append_nil _)

theorem identifiersAll_append (front back : List Visit) :
    identifiersAll (front ++ back) = identifiersAll front ++ identifiersAll back := by
  induction front with
  | nil => rfl
  | cons v front ih =>
      rw [List.cons_append, identifiersAll, identifiersAll, ih, List.append_assoc]

theorem identifiersAll_singleton (v : Visit) : identifiersAll [v] = identifiers v :=
  List.append_nil _

/-- Something that is told about visits in their order: nothing is told where a visit ends that is
not done, so that what is further visited within it is told behind everything else. -/
structure Serial {β : Type} (tell : List Visit → List β) : Prop where
  append (front back : List Visit) : tell (front ++ back) = tell front ++ tell back
  undone (tag identifier : Text) (inside further : List Visit) :
    tell [visit tag identifier false (inside ++ further)] =
      tell [visit tag identifier false inside] ++ tell further

theorem serial_linesAll (step : String) : Serial (linesAll step) where
  append := linesAll_append step
  undone tag identifier inside further := by
    simp only [linesAll_singleton, lines_undone, linesAll_append, List.cons_append]

theorem serial_identifiersAll : Serial identifiersAll where
  append := identifiersAll_append
  undone tag identifier inside further := by
    simp only [identifiersAll_singleton, identifiers, identifiersAll_append, List.cons_append]

/-- All visits and those within them are done. -/
inductive Complete : List Visit → Prop
  | nil : Complete []
  | cons {tag identifier : Text} {inside rest : List Visit} (within : Complete inside)
      (others : Complete rest) : Complete (visit tag identifier true inside :: rest)

theorem Complete.append (first : Complete earlier) (others : Complete visits) :
    Complete (earlier ++ visits) := by
  induction first with
  | nil => exact others
  | cons within _ _ ih => exact .cons within ih

/-- The visits that are not done lie within each other: `path` names their tags, the outermost
first. Nothing was visited behind them. -/
inductive Underway : List Visit → List (Text × Text) → Prop
  | complete {visits : List Visit} (all : Complete visits) : Underway visits []
  | within {tag identifier : Text} {earlier inside : List Visit} {path : List (Text × Text)}
      (before : Complete earlier) (deeper : Underway inside path) :
      Underway (earlier ++ [visit tag identifier false inside]) ((tag, identifier) :: path)

theorem Underway.behind (underway : Underway visits path) (before : Complete earlier) :
    Underway (earlier ++ visits) path := by
  cases underway with
  | complete all => exact .complete (before.append all)
  | within between deeper =>
      rw [← List.append_assoc]
      exact .within (before.append between) deeper

/-- What is logged about visits that are underway is the start of what is logged about complete
ones: what is missing are the lines that tell that they are done, the innermost first. -/
structure BreaksOff (step : String) (visits : List Visit) (path : List (Text × Text)) : Prop where
  underway : Underway visits path
  start : ∃ whole, Complete whole ∧ linesAll step whole =
    linesAll step visits ++ path.reverse.map fun p => Ledger.closingLine step p.1 p.2

theorem Underway.breaksOff (underway : Underway visits path) (step : String) :
    BreaksOff step visits path := by
  refine ⟨underway, ?_⟩
  induction underway with
  | complete all => exact ⟨_, all, (List.append_nil _).symm⟩
  | @within tag identifier earlier inside path before deeper ih =>
      obtain ⟨whole, complete, missing⟩ := ih
      refine ⟨earlier ++ [visit tag identifier true whole],
        before.append (.cons complete .nil), ?_⟩
      rw [linesAll_append, linesAll_append, linesAll_singleton, linesAll_singleton, lines_done,
        lines_undone, missing, List.reverse_cons, List.map_append]
      simp only [List.append_assoc, List.cons_append, List.map_cons, List.map_nil]

end Visit

namespace Node

open Visit (Complete)

mutual

/-- The uses of tags in a node as visits that are done, each before those in its body. -/
def visits : Node → List Visit
  | text _ => []
  | value _ => []
  | choice _ body otherwise => visitsAll body ++ visitsAll otherwise
  | loop _ _ _ body whenEmpty => visitsAll body ++ visitsAll whenEmpty
  | binding _ body => visitsAll body
  | escaping _ body => visitsAll body
  | inclusion _ _ _ => []
  | group body => visitsAll body
  | host _ parts => visitsAll parts
  | element tag identifier _ _ body => [.visit tag.name identifier true (visitsAll body)]

/-- The uses of tags in nodes as visits that are done, in the order of the template. -/
def visitsAll : List Node → List Visit
  | [] => []
  | n :: rest => visits n ++ visitsAll rest

end

theorem visitsAll_append (front back : List Node) :
    visitsAll (front ++ back) = visitsAll front ++ visitsAll back := by
  induction front with
  | nil => rfl
  | cons n front ih => rw [List.cons_append, visitsAll, visitsAll, ih, List.append_assoc]

theorem visitsAll_singleton (n : Node) : visitsAll [n] = visits n := List.append_nil _

mutual

theorem complete_visits (node : Node) : Complete (visits node) := by
  match node with
  | text _ => exact .nil
  | value _ => exact .nil
  | choice _ body otherwise =>
      exact (complete_visitsAll body).append (complete_visitsAll otherwise)
  | loop _ _ _ body whenEmpty =>
      exact (complete_visitsAll body).append (complete_visitsAll whenEmpty)
  | binding _ body => exact complete_visitsAll body
  | escaping _ body => exact complete_visitsAll body
  | inclusion _ _ _ => exact .nil
  | group body => exact complete_visitsAll body
  | host _ parts => exact complete_visitsAll parts
  | element _ _ _ _ body => exact .cons (complete_visitsAll body) .nil

theorem complete_visitsAll (nodes : List Node) : Complete (visitsAll nodes) := by
  match nodes with
  | [] => exact .nil
  | n :: rest => exact (complete_visits n).append (complete_visitsAll rest)

end

end Node
end ElementTags
