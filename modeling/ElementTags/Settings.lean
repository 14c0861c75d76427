import ElementTags.Fault
import ElementTags.Value.Basic

/-!
# Settings

Two switches: whether tags read their attributes by the attribute grammar, and whether dropped
attributes are logged. The settings are looked at anew each time a switch is needed, and malformed
ones are only noticed then.

What is logged goes to a handler, which is not configured here but by whoever runs the engine. It
matters for values that cannot be described.
-/

namespace ElementTags

/-- How the switches are set. -/
inductive Settings
  /-- A value for each switch; an absent one means that it keeps its default. -/
  | switches (useAttributeGrammar logDropped : Value)
  /-- Settings that say nothing understandable. -/
  | malformed

/-- What becomes of a line of the log that cannot be put into words. -/
inductive LogHandler
  /-- The failure is passed on to whoever logs. -/
  | strict
  /-- The line is left out, as the handlers do that come with the logging library: they report such
  a failure elsewhere. -/
  | lenient
  deriving DecidableEq

/-- How an engine is configured. -/
structure Configuration where
  settings : Settings
  handler : LogHandler := .strict

namespace Configuration

/-- A value for each switch. -/
def switches (useAttributeGrammar logDropped : Value) : Configuration :=
  ⟨.switches useAttributeGrammar logDropped, .strict⟩

/-- A configuration with settings that say nothing understandable. -/
def malformed : Configuration := ⟨.malformed, .strict⟩

/-- The configuration that says nothing. -/
def unset : Configuration := switches .null .null

/-- The configuration that gives values to switches by name. -/
def ofPairs (pairs : List (Text × Value)) : Configuration :=
  let known := ["use_custom_grammar".toList, "log_dropped_attrs".toList]
  if pairs.all fun p => known.contains p.1 then
    let valueOf (name : String) : Value :=
      ((pairs.find? fun p => p.1 = name.toList).map (·.2)).getD .null
    switches (valueOf "use_custom_grammar") (valueOf "log_dropped_attrs")
  else malformed

/-- A configured value, or true when there is none. -/
def orTrue : Value → Value
  | .null => .bool true
  | v => v

/-- Whether tags read their attributes by the attribute grammar, as configured. -/
def useAttributeGrammar (configuration : Configuration) : Except EvalFault Value :=
  match configuration.settings with
  | .switches v _ => .ok (orTrue v)
  | .malformed => .error .wrongType

/-- Whether dropped attributes are logged, as configured. -/
def logDropped (configuration : Configuration) : Except EvalFault Value :=
  match configuration.settings with
  | .switches _ v => .ok (orTrue v)
  | .malformed => .error .wrongType

end Configuration
end ElementTags
