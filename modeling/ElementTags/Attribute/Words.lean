import ElementTags.Attribute.Entry
import ElementTags.Fault

/-!
# Attributes as words

The plain way to write the attributes of a tag: words between blanks, where blanks inside a text in
quotes do not count. A word is a value with filters, or a key, an equals sign and such a value.
Values without a key come first, and no key is given twice. Literals stand for safe texts here.
-/

namespace ElementTags.Words

/-- Whether a character may stand outside of quotes. -/
def isBare (c : Char) : Bool := !Text.isBlank c && c ≠ '"' && c ≠ '\''

/-- Texts in quotes, each followed by characters outside of quotes, at the start of a text that does
not end inside of quotes, and what stands behind them. At most `limit` of them are taken. -/
def quotedParts : Nat → Text → Text × Text
  | 0, s => ([], s)
  | limit + 1, s =>
    match FilterExpr.literal? s with
    | none => ([], s)
    | some (literal, rest) =>
      let (more, behind) := quotedParts limit (rest.dropWhile isBare)
      (literal ++ rest.takeWhile isBare ++ more, behind)

/-- The word at the start of a text that does not start with a blank, and what stands behind it. A
quote that is not closed is a character like any other, and then the word ends at the next blank. -/
def word (s : Text) : Text × Text :=
  let (parts, behind) := quotedParts s.length (s.dropWhile isBare)
  if parts.isEmpty then (s.takeWhile (!Text.isBlank ·), s.dropWhile (!Text.isBlank ·))
  else (s.takeWhile isBare ++ parts, behind)

/-- The words of a text, at most `limit` of them. -/
def splitWithin : Nat → Text → List Text
  | 0, _ => []
  | limit + 1, s =>
    match Text.dropBlanks s with
    | [] => []
    | c :: rest =>
      let (first, behind) := word (c :: rest)
      first :: splitWithin limit behind

/-- The quote with which a word starts a localized text. -/
def localizedQuote? (word : Text) : Option Char :=
  match word with
  | '_' :: '(' :: q :: _ => if Text.isQuote q then some q else none
  | _ => none

/-- Whether a word ends a localized text. -/
def endsLocalized (q : Char) (word : Text) : Bool := [q, ')'].isSuffixOf word

/-- The words up to the one that ends a localized text, joined by single blanks, and the words
behind them. -/
def untilEnd (q : Char) : List Text → Option (Text × List Text)
  | [] => none
  | w :: rest =>
    if endsLocalized q w then some (w, rest)
    else (untilEnd q rest).map fun (joined, behind) => (w ++ ' ' :: joined, behind)

theorem untilEnd_length {q : Char} {ws behind : List Text} {joined : Text}
    (h : untilEnd q ws = some (joined, behind)) : behind.length < ws.length := by
  induction ws generalizing joined with
  | nil => simp [untilEnd] at h
  | cons w rest ih =>
    unfold untilEnd at h
    split at h
    · obtain ⟨-, rfl⟩ := Prod.mk.inj (Option.some.inj h)
      simp
    · obtain ⟨⟨j, b⟩, hb, he⟩ := Option.map_eq_some_iff.1 h
      obtain ⟨-, rfl⟩ := Prod.mk.inj he
      have := ih hb
      simp only [List.length_cons]
      omega

/-- Words where those of a localized text are joined. A localized text has to end. -/
def joinLocalized (ws : List Text) : Except AttributeFault (List Text) :=
  match ws with
  | [] => .ok []
  | w :: rest =>
    match localizedQuote? w with
    | none => (joinLocalized rest).map (w :: ·)
    | some q =>
      match _h : untilEnd q (w :: rest) with
      | none => .error .openLocalized
      | some (joined, behind) => (joinLocalized behind).map (joined :: ·)
termination_by ws.length
decreasing_by
  · simp
  · exact untilEnd_length _h

/-- The words of a text, localized texts among them. -/
def split (s : Text) : Except AttributeFault (List Text) := joinLocalized (splitWithin s.length s)

/-- The key and the value of a word that has a key. -/
def keyed? (word : Text) : Option (Text × Text) :=
  match word.dropWhile Text.isWord with
  | '=' :: rest =>
    let key := word.takeWhile Text.isWord
    let value := rest.takeWhile (· ≠ '\n')
    if key.isEmpty || value.isEmpty then none else some (key, value)
  | _ => none

/-- The expression of a value. -/
def compile (s : Text) : Except AttributeFault FilterExpr :=
  match FilterExpr.ofText s with
  | .ok e => .ok e
  | .error fault => .error (.value fault)

/-- The entries of words, of which those before are given. -/
def readOnto (tag : Text) (before : List Entry) : List Text → Except AttributeFault (List Entry)
  | [] => .ok before
  | w :: rest =>
    match keyed? w with
    | some (key, value) => do
      let e ← compile value
      if before.any (·.key? = some key) then throw (.repeatedKeyword tag key)
      else readOnto tag (before ++ [.keyword 0 key (.plain e)]) rest
    | none =>
      if before.any (·.key?.isSome) then throw (.positionalAfterKeyword tag)
      else do
        let e ← compile w
        readOnto tag (before ++ [.positional 0 (.plain e)]) rest

/-- The entries that the contents of a tag spell behind their first word. -/
def read (tag contents : Text) : Except AttributeFault (List Entry) := do
  let ws ← split contents
  readOnto tag [] (ws.drop 1)

end ElementTags.Words
