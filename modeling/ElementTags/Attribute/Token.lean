import ElementTags.Fault
import ElementTags.Text.Blank
import ElementTags.Text.Quoted
import ElementTags.Text.Word

/-!
# Tokens of an attribute list

The tokens are texts in quotes, runs of name characters, and single marks. Blanks only separate
them, but a token knows its position, so that the grammar can tell tokens that touch from those that
do not.
-/

namespace ElementTags

/-- The kinds of tokens. -/
inductive TokenKind
  /-- A text in quotes, quotes included. -/
  | quoted
  /-- A name, a path or a number. -/
  | name
  /-- Any other character. -/
  | mark
  deriving DecidableEq

/-- A token and the position of its first character. -/
structure Token where
  kind : TokenKind
  text : Text
  start : Nat
  deriving DecidableEq

namespace Token

/-- The position behind a token. -/
def stop (t : Token) : Nat := t.start + t.text.length

/-- Whether a token is a certain mark. -/
def isMark (t : Token) (c : Char) : Bool := t.kind = .mark && t.text = [c]

/-- Whether nothing stands between two tokens. -/
def touches (left right : Token) : Bool := left.stop = right.start

/-- The rest of a quoted text behind its opening quote, up to and including the closing one, and
what stands behind it. A backslash takes the next character along. -/
def quotedTail (quote : Char) : Text → Option (Text × Text)
  | [] => none
  | '\\' :: [] => none
  | '\\' :: c :: rest => (quotedTail quote rest).map fun (body, rest) => ('\\' :: c :: body, rest)
  | c :: rest =>
    if c = quote then some ([c], rest)
    else (quotedTail quote rest).map fun (body, rest) => (c :: body, rest)

theorem quotedTail_eq_append {quote : Char} {s body rest : Text}
    (h : quotedTail quote s = some (body, rest)) : s = body ++ rest := by
  fun_induction quotedTail quote s generalizing body rest with
  | case1 => simp at h
  | case2 => simp at h
  | case3 c s ih =>
    obtain ⟨⟨b, r⟩, hb, he⟩ := Option.map_eq_some_iff.1 h
    obtain ⟨rfl, rfl⟩ := Prod.mk.inj he
    simp [ih hb]
  | case4 s =>
    obtain ⟨rfl, rfl⟩ := Prod.mk.inj (Option.some.inj h)
    simp
  | case5 c s _ _ _ ih =>
    obtain ⟨⟨b, r⟩, hb, he⟩ := Option.map_eq_some_iff.1 h
    obtain ⟨rfl, rfl⟩ := Prod.mk.inj he
    simp [ih hb]

/-- The tokens of a text whose first character stands at a position. A quoted text that is not
closed is the unexpected token, up to the end. -/
def scanFrom (start : Nat) (s : Text) : Except GrammarFault (List Token) :=
  match s with
  | [] => .ok []
  | c :: rest =>
    if Text.isBlank c then scanFrom (start + 1) rest
    else if Text.isQuote c then
      match _h : quotedTail c rest with
      | none => .error ⟨.unexpectedToken, c :: rest, start⟩
      | some (body, behind) => do
        let tokens ← scanFrom (start + 1 + body.length) behind
        pure (⟨.quoted, c :: body, start⟩ :: tokens)
    else if Text.isNameChar c then do
      let name := c :: rest.takeWhile Text.isNameChar
      let tokens ← scanFrom (start + name.length) (rest.dropWhile Text.isNameChar)
      pure (⟨.name, name, start⟩ :: tokens)
    else do
      let tokens ← scanFrom (start + 1) rest
      pure (⟨.mark, [c], start⟩ :: tokens)
termination_by s.length
decreasing_by
  · simp
  · have := congrArg List.length (quotedTail_eq_append _h)
    simp only [List.length_append] at this
    simp only [List.length_cons]
    omega
  · exact Nat.lt_succ_of_le (List.dropWhile_suffix _).length_le
  · simp

/-- The tokens of an attribute list. -/
def scan (source : Text) : Except GrammarFault (List Token) := scanFrom 0 source

end Token
end ElementTags
