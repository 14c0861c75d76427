import ElementTags.Channel.Nesting

/-!
# Programs with nested blocks

What is done with a scope from its creation on, as far as variables and the channel are concerned:
variables are set and read, values are injected, blocks provide values for a part of the program,
and a part of it runs with a further layer. Something may fail at any point. A failure ends the
program, but what is open is left on the way out.
-/

namespace ElementTags.Channel

/-- A program over a scope: a first step and what comes next. What a program computes from the
values that it reads stands in its steps. -/
inductive Program
  | done
  /-- Something fails. -/
  | fail (fault : Fault)
  | set (name : Text) (value : Value) (next : Program)
  | get (name : Text) (next : Program)
  | inject (name : Text) (default : Value) (next : Program)
  /-- Provides values to a part of the program. -/
  | provide (values : Layer) (body next : Program)
  /-- A part of the program with a further layer. -/
  | layered (layer : Layer) (body next : Program)

/-- A point of a run: the scope, and the values of the blocks that are open, innermost first. -/
structure Moment where
  scope : Scope
  provided : List Layer

/-- What happened to a block that provided values: where it was entered and where it was left, how
its body ended, and how the block ended. -/
structure Passage where
  before : Nesting
  after : Nesting
  body : Except Fault Unit
  block : Except Fault Unit

/-- A run of a program: how and where it ends, the points that it comes through, and what happened
to its blocks. -/
structure Run where
  outcome : Except Fault Unit
  nesting : Nesting
  moments : List Moment
  passages : List Passage

namespace Run

/-- A step that changes nothing and leads to a result. -/
def still (provided : List Layer) (n : Nesting) (outcome : Except Fault Unit) : Run :=
  ⟨outcome, n, [⟨n.scope, provided⟩], []⟩

/-- A step that cannot be done. -/
def refused (n : Nesting) (fault : Fault) : Run := ⟨.error fault, n, [], []⟩

/-- A run that goes on, unless it failed. -/
def andThen (first : Run) (next : Nesting → Run) : Run :=
  match first.outcome with
  | .error _ => first
  | .ok () =>
    let second := next first.nesting
    ⟨second.outcome, second.nesting, first.moments ++ second.moments,
      first.passages ++ second.passages⟩

/-- What was open is left behind a run. If that fails, it counts more than a failure of the run. -/
def leaving (inner : Run) (provided : List Layer) (exit : Nesting → Except Fault Unit × Nesting) :
    Run :=
  let (result, after) := exit inner.nesting
  ⟨do result; inner.outcome, after, inner.moments ++ [⟨after.scope, provided⟩], inner.passages⟩

/-- The run of a block that provided values, from the run of its body. -/
def passed (inner : Run) (provided : List Layer) (before : Nesting) : Run :=
  let block := inner.leaving provided Nesting.leave
  let passage : Passage := ⟨before, block.nesting, inner.outcome, block.outcome⟩
  { block with passages := block.passages ++ [passage] }

end Run

/-- Removes the layer that was opened last. -/
def Nesting.unlayer (n : Nesting) : Except Fault Unit × Nesting :=
  match n.pop with
  | .ok (_, rest) => (.ok (), rest)
  | .error fault => (.error fault, n)

/-- The run of a program while some blocks are open. -/
def Program.run : Program → List Layer → Nesting → Run
  | .done, provided, n => .still provided n (.ok ())
  | .fail fault, provided, n => .still provided n (.error fault)
  | .set name value next, provided, n =>
    (Run.still provided n (.ok ())).andThen fun n => next.run provided (n.set name value)
  | .get _ next, provided, n =>
    (Run.still provided n (.ok ())).andThen fun n => next.run provided n
  | .inject name default next, provided, n =>
    (Run.still provided n ((n.inject name default).map fun _ => ())).andThen fun n =>
      next.run provided n
  | .provide values body next, provided, n =>
    (Run.still provided n (.ok ())).andThen fun n =>
      let block : Run :=
        match n.enter values with
        | .error fault => .refused n fault
        | .ok (_, inside) => (body.run (values :: provided) inside).passed provided n
      block.andThen fun n => next.run provided n
  | .layered layer body next, provided, n =>
    (Run.still provided n (.ok ())).andThen fun n =>
      ((body.run provided (n.push layer)).leaving provided Nesting.unlayer).andThen fun n =>
        next.run provided n

/-- The program with an empty layer in place of every block that provides values. -/
def Program.plain : Program → Program
  | .done => .done
  | .fail fault => .fail fault
  | .set name value next => .set name value next.plain
  | .get name next => .get name next.plain
  | .inject name default next => .inject name default next.plain
  | .provide _ body next => .layered [] body.plain next.plain
  | .layered layer body next => .layered layer body.plain next.plain

end ElementTags.Channel
