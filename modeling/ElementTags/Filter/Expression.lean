import ElementTags.Filter.Basic
import ElementTags.Filter.Variable
import ElementTags.Text.Quoted
import ElementTags.Text.Word

/-!
# Values with filters

The text of a value with filters is an operand followed by filters: `item.name|default:"none"`. The
operand and the argument of a filter are a literal in quotes, a localized literal `_("text")`, or a
variable or number. The text is read from left to right, and what belongs to no part is rejected.

Literals stand for safe texts here, since whoever writes the template answers for them.
-/

namespace ElementTags

/-- What the operand or an argument stands for. -/
inductive Operand
  | constant (value : Value)
  | variable (v : Variable)

/-- A filter with its argument. -/
structure FilterCall where
  filter : Filter
  argument : Option Operand

/-- A value with filters, together with its text. -/
structure FilterExpr where
  text : Text
  operand : Operand
  filters : List FilterCall

namespace FilterExpr

/-! ## Reading -/

/-- The rest of a literal behind its opening quote, up to and including the closing one. A backslash
takes the next character along, which has to be on the same line. -/
def literalTail (quote : Char) : Text → Option (Text × Text)
  | [] => none
  | '\\' :: c :: rest =>
    if c = '\n' then none
    else (literalTail quote rest).map fun (body, rest) => ('\\' :: c :: body, rest)
  | c :: rest =>
    if c = quote then some ([c], rest)
    else if c = '\\' then none
    else (literalTail quote rest).map fun (body, rest) => (c :: body, rest)

/-- The literal at the start of a text, and what stands behind it. -/
def literal? : Text → Option (Text × Text)
  | c :: rest =>
    if Text.isQuote c then (literalTail c rest).map fun (body, rest) => (c :: body, rest) else none
  | [] => none

/-- The literal inside the localized literal at the start of a text, and what stands behind it. -/
def localized? : Text → Option (Text × Text)
  | '_' :: '(' :: rest =>
    match literal? rest with
    | some (body, ')' :: rest) => some (body, rest)
    | _ => none
  | _ => none

/-- Whether a character may stand behind the first digit of a number with a sign. -/
def isNumberChar (c : Char) : Bool := Text.isDecimal c || c = '.' || c = 'e'

/-- The number with a sign at the start of a text, and what stands behind it. -/
def signed? : Text → Option (Text × Text)
  | sign :: digit :: rest =>
    if (sign = '-' || sign = '+') && Text.isDecimal digit then
      some (sign :: digit :: rest.takeWhile isNumberChar, rest.dropWhile isNumberChar)
    else none
  | _ => none

/-- The text of a variable or number at the start of a text, and what stands behind it. -/
def name? (s : Text) : Option (Text × Text) :=
  match s with
  | c :: _ =>
    if Text.isNameChar c then some (s.takeWhile Text.isNameChar, s.dropWhile Text.isNameChar)
    else signed? s
  | [] => none

/-- The value of a literal. -/
def literalValue (literal : Text) : Value := .safe (Text.unquote literal)

/-- A text in which every end of a line is written in one way. -/
def withPlainLineEnds (s : Text) : Text :=
  Text.replaceAll ['\r'] ['\n'] (Text.replaceAll ['\r', '\n'] ['\n'] s)

/-- The value of a localized literal: it is lazy, each percent sign in it is doubled, and its lines
end in one way. -/
def localizedValue (literal : Text) : Value :=
  .lazy (withPlainLineEnds (Text.replaceAll ['%'] ['%', '%'] (Text.unquote literal))) true

/-- The parts that an operand or argument may have. -/
inductive Part
  | literal (text : Text)
  | localized (literal : Text)
  | name (text : Text)

/-- The operand or argument at the start of a text, and what stands behind it. -/
def part? (s : Text) : Option (Part × Text) :=
  match localized? s with
  | some (body, rest) => some (.localized body, rest)
  | none =>
    match literal? s with
    | some (body, rest) => some (.literal body, rest)
    | none => (name? s).map fun (body, rest) => (.name body, rest)

/-- What a part stands for. -/
def Part.operand : Part → Except FilterFault Operand
  | literal s => .ok (.constant (literalValue s))
  | localized s => .ok (.constant (localizedValue s))
  | name s => (Variable.ofText s).map .variable

/-- A filter as it is written. -/
structure WrittenFilter where
  name : Text
  argument : Option Part

/-- The argument behind the name of a filter. A colon without an argument belongs to no filter. -/
def writtenArgument (s : Text) : Option Part × Text :=
  match s with
  | ':' :: rest =>
    match part? rest with
    | some (part, rest) => (some part, rest)
    | none => (none, s)
  | _ => (none, s)

/-- The filter at the start of a text, and what stands behind it. -/
def writtenFilter? (s : Text) : Option (WrittenFilter × Text) :=
  match Text.dropBlanks s with
  | '|' :: rest =>
    let name := (Text.dropBlanks rest).takeWhile Text.isWord
    if name.isEmpty then none
    else
      let behind := writtenArgument ((Text.dropBlanks rest).dropWhile Text.isWord)
      some (⟨name, behind.1⟩, behind.2)
  | _ => none

/-- The characters in front of the first filter in a text, if there is a filter in it. -/
def gapBeforeFilter? : Text → Option Text
  | [] => none
  | c :: rest =>
    match writtenFilter? (c :: rest) with
    | some _ => some []
    | none => (gapBeforeFilter? rest).map (c :: ·)

/-- What is wrong with a text whose part from `rest` on starts with nothing that belongs there. -/
def unreadableFrom (text rest : Text) : FilterFault :=
  let before := text.take (text.length - rest.length)
  match gapBeforeFilter? rest with
  | some gap => .unreadable before gap (rest.drop gap.length)
  | none => .unreadableEnd rest text

/-- The known filter of a written one, with as many arguments as it takes. -/
def WrittenFilter.call (w : WrittenFilter) : Except FilterFault FilterCall := do
  let argument ← w.argument.mapM Part.operand
  match Filter.ofName? w.name with
  | none => throw (.unknownFilter w.name)
  | some f =>
    let count := if argument.isSome then 1 else 0
    if f.accepts count then pure ⟨f, argument⟩
    else throw (.argumentCount w.name (f.arity.1 + 1) (count + 1))

theorem length_dropWhile_le {α : Type} (p : α → Bool) (l : List α) :
    (l.dropWhile p).length ≤ l.length :=
  (List.dropWhile_suffix p).length_le

theorem literalTail_length {q : Char} {s body rest : Text}
    (h : literalTail q s = some (body, rest)) :
    rest.length < s.length := by
  fun_induction literalTail q s generalizing body rest with
  | case1 => simp at h
  | case2 => simp at h
  | case3 c s _ ih =>
    obtain ⟨⟨b, r⟩, hb, he⟩ := Option.map_eq_some_iff.1 h
    obtain ⟨-, rfl⟩ := Prod.mk.inj he
    have := ih hb
    simp only [List.length_cons]
    omega
  | case4 s =>
    obtain ⟨-, rfl⟩ := Prod.mk.inj (Option.some.inj h)
    simp
  | case5 => simp at h
  | case6 c s _ _ _ ih =>
    obtain ⟨⟨b, r⟩, hb, he⟩ := Option.map_eq_some_iff.1 h
    obtain ⟨-, rfl⟩ := Prod.mk.inj he
    have := ih hb
    simp only [List.length_cons]
    omega

theorem literal?_length {s body rest : Text} (h : literal? s = some (body, rest)) :
    rest.length < s.length := by
  unfold literal? at h
  split at h
  · split at h
    · obtain ⟨⟨b, r⟩, hb, he⟩ := Option.map_eq_some_iff.1 h
      obtain ⟨-, rfl⟩ := Prod.mk.inj he
      have := literalTail_length hb
      simp only [List.length_cons]
      omega
    · simp at h
  · simp at h

theorem localized?_length {s body rest : Text} (h : localized? s = some (body, rest)) :
    rest.length < s.length := by
  unfold localized? at h
  split at h
  · split at h
    · rename_i hl
      obtain ⟨-, rfl⟩ := Prod.mk.inj (Option.some.inj h)
      have := literal?_length hl
      simp only [List.length_cons] at this ⊢
      omega
    · simp at h
  · simp at h

theorem name?_length {s body rest : Text} (h : name? s = some (body, rest)) :
    rest.length < s.length := by
  unfold name? at h
  split at h
  · split at h
    · rename_i c t hc
      obtain ⟨-, rfl⟩ := Prod.mk.inj (Option.some.inj h)
      have := length_dropWhile_le Text.isNameChar t
      simp only [List.dropWhile_cons, hc, if_true, List.length_cons]
      omega
    · unfold signed? at h
      split at h
      · split at h
        · rename_i heq _
          obtain ⟨-, rfl⟩ := List.cons.inj heq
          obtain ⟨-, rfl⟩ := Prod.mk.inj (Option.some.inj h)
          exact Nat.lt_succ_of_le (Nat.le_succ_of_le (length_dropWhile_le isNumberChar _))
        · simp at h
      · simp at h
  · simp at h

/-- A part takes at least one character. -/
theorem part?_length {s rest : Text} {p : Part} (h : part? s = some (p, rest)) :
    rest.length < s.length := by
  unfold part? at h
  split at h
  · rename_i ht
    obtain ⟨-, rfl⟩ := Prod.mk.inj (Option.some.inj h)
    exact localized?_length ht
  · split at h
    · rename_i hl
      obtain ⟨-, rfl⟩ := Prod.mk.inj (Option.some.inj h)
      exact literal?_length hl
    · obtain ⟨⟨b, r⟩, hb, he⟩ := Option.map_eq_some_iff.1 h
      obtain ⟨-, rfl⟩ := Prod.mk.inj he
      exact name?_length hb

theorem writtenArgument_length (s : Text) : (writtenArgument s).2.length ≤ s.length := by
  unfold writtenArgument
  split
  · split
    · rename_i h
      have := part?_length h
      simp only [List.length_cons]
      omega
    · simp
  · simp

/-- A filter takes at least one character. -/
theorem writtenFilter?_length {s rest : Text} {w : WrittenFilter}
    (h : writtenFilter? s = some (w, rest)) : rest.length < s.length := by
  unfold writtenFilter? at h
  split at h
  · rename_i t ht
    dsimp only at h
    split at h
    · simp at h
    · obtain ⟨-, rfl⟩ := Prod.mk.inj (Option.some.inj h)
      have h1 := writtenArgument_length ((Text.dropBlanks t).dropWhile Text.isWord)
      have h2 := length_dropWhile_le Text.isWord (Text.dropBlanks t)
      have h3 : (Text.dropBlanks t).length ≤ t.length := length_dropWhile_le _ _
      have h4 : (Text.dropBlanks s).length ≤ s.length := length_dropWhile_le _ _
      rw [ht, List.length_cons] at h4
      omega
  · simp at h

/-- The filters of a text from `rest` on. -/
def readFilters (text rest : Text) : Except FilterFault (List FilterCall) :=
  if rest.isEmpty then .ok []
  else
    match _h : writtenFilter? rest with
    | none => .error (unreadableFrom text rest)
    | some (written, behind) => do
      let call ← written.call
      let calls ← readFilters text behind
      pure (call :: calls)
termination_by rest.length
decreasing_by exact writtenFilter?_length _h

/-- The value with filters that a text spells. -/
def ofText (text : Text) : Except FilterFault FilterExpr :=
  match part? text with
  | none =>
    match writtenFilter? text with
    | some _ => .error (.noValue text)
    | none => .error (unreadableFrom text text)
  | some (part, rest) => do
    let operand ← part.operand
    let filters ← readFilters text rest
    pure ⟨text, operand, filters⟩

/-! ## Resolving -/

/-- The value of an argument. Unlike an operand, it has to be defined. -/
def argumentValue : Operand → Scoped Value
  | .constant v => pure v
  | .variable v => v.resolve

/-- The value of an operand, where an undefined variable has the value `missing`. -/
def initialValue (missing : Value) : Operand → Scoped Value
  | .constant v => pure v
  | .variable v => Scoped.recover v.resolve fun fault =>
    match fault with
    | .undefinedVariable => .ok missing
    | fault => .error fault

/-- A value after a filter with the value of its argument. -/
def applied (filter : Filter) (v : Value) (argument : Option Value) : Scoped Value :=
  Scoped.reading fun scope => filter.apply scope.autoescape (scope.current v) argument

/-- A value after one filter. -/
def applyCall (v : Value) (call : FilterCall) : Scoped Value := do
  match call.argument with
  | some operand => applied call.filter v (some (← argumentValue operand))
  | none => applied call.filter v none

/-- A value after several filters. -/
def applyCalls (v : Value) : List FilterCall → Scoped Value
  | [] => pure v
  | call :: rest => do
    let next ← applyCall v call
    applyCalls next rest

/-- The value of an expression in a scope, where an undefined operand has the value `missing`. -/
def resolve (e : FilterExpr) (missing : Value) : Scoped Value := do
  let v ← initialValue missing e.operand
  applyCalls v e.filters

end FilterExpr
end ElementTags
