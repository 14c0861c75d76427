import ElementTags.Fault
import ElementTags.Filter.Expression

/-!
# Blocks of the host

The host of a template language has more block tags than those that are statements here. What one
of them does is left open. While it is compiled, it reads what stands in its block tags, each of
which ends one part of it and starts the next. When it is rendered, it may look at the scope and
change it, ask for the values of expressions, and render its parts, several times and in any order.
What fails in a part fails as a whole.
-/

namespace ElementTags

/-- What a block of the host does when it is rendered, up to what it writes. -/
inductive Weave
  | done (result : Except Fault Text)
  | look (next : Scope → Weave)
  | change (scope : Scope) (next : Weave)
  /-- Asks for the value of an expression, which may have none. `missing` stands for the value of an
  undefined variable. -/
  | evaluate (e : FilterExpr) (missing : Value) (next : Except EvalFault Value → Weave)
  /-- Renders a part. -/
  | part (index : Nat) (next : Text → Weave)
  /-- Does something in a new layer of the scope. -/
  | within (layer : Layer) (inside : Weave) (next : Text → Weave)

/-- What a block of the host does when one of its block tags was read. -/
inductive HostStep
  /-- Waits for one of some block tags, and goes on with what stands in it. What comes until then is
  a part of the block; it is empty if the block skips all that. -/
  | part (skips : Bool) (endings : List Text) (next : Text → HostStep)
  /-- Ends with its last block tag. -/
  | done (weave : Weave)
  | reject (fault : TemplateFault)

/-- A block tag of the host: its name, and what it does with what stands in it. -/
structure HostTag where
  name : Text
  read : Text → HostStep

end ElementTags
