import ElementTags.Markup
import ElementTags.Scope
import ElementTags.Text.Quoted

/-!
# The ledger of an engine

What an engine keeps from one template to the next: its configuration, the log, the counters from
which tags and inclusions take their numbers, and the readings of code. It lends the readings to the
scopes in which something is evaluated.
-/

namespace ElementTags

/-- What an engine keeps. -/
structure Ledger where
  configuration : Configuration
  /-- Whether the steps of compiling and rendering are logged. -/
  tracing : Bool
  /-- The lines logged so far, the latest first. -/
  lines : List LogLine
  /-- The number of tags that have taken an identifier. -/
  tagCount : Nat
  /-- The number of inclusions that have been compiled. -/
  inclusionCount : Nat
  /-- How often a counting behaviour has been asked to count. -/
  tally : Nat
  /-- The code that was read so far. -/
  readings : Readings := .nothing

namespace Ledger

/-- The ledger of a new engine. -/
def start (configuration : Configuration) (tracing : Bool) : Ledger :=
  { configuration := configuration, tracing := tracing, lines := [], tagCount := 0,
    inclusionCount := 0, tally := 0 }

/-- The identifier of a number: at least four hexadecimal digits. -/
def identifier (n : Nat) : Text := Text.hexDigits 4 n

/-- The next identifier, and the ledger in which it is taken. -/
def takeIdentifier (ledger : Ledger) : Text × Ledger :=
  (identifier (ledger.tagCount + 1), { ledger with tagCount := ledger.tagCount + 1 })

/-- The ledger after logging some lines. -/
def log (ledger : Ledger) (lines : List LogLine) : Ledger :=
  { ledger with lines := lines.reverse ++ ledger.lines }

/-- The line that tells that a step with a tag starts. -/
def openingLine (step : String) (tag identifier : Text) : LogLine :=
  ⟨.trace, step.toList ++ ' ' :: tag ++ " ID ".toList ++ identifier⟩

/-- The line that tells that a step with a tag is done. -/
def closingLine (step : String) (tag identifier : Text) : LogLine :=
  ⟨.trace, step.toList ++ ' ' :: tag ++ " ID ".toList ++ identifier ++ " ...Done!".toList⟩

/-- The ledger after logging a line about a step, if steps are logged. -/
def trace (ledger : Ledger) (line : LogLine) : Ledger :=
  if ledger.tracing then ledger.log [line] else ledger

/-- The lines of the log in order, and the ledger with an empty log. -/
def takeLines (ledger : Ledger) : List LogLine × Ledger :=
  (ledger.lines.reverse, { ledger with lines := [] })

/-- What a computation in a scope comes to, to which the engine lends its readings. It keeps those
that were added, and the scope has the readings that it had. -/
def evaluate {α : Type} (ledger : Ledger) (x : Scoped α) (scope : Scope) :
    Except EvalFault α × Ledger × Scope :=
  match x (scope.lend ledger.readings) with
  | (result, after) =>
    (result, { ledger with readings := after.readings }, after.lend scope.readings)

end Ledger
end ElementTags
