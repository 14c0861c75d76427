import ElementTags.Behaviour
import ElementTags.Proofs.Decoding
import ElementTags.Proofs.Rereading

/-! # Start tags as HTML reads them

HTML reads a start tag from left to right (`ElementTags.Html.readStartTag`). Blanks and
slashes separate attributes. A name ends in front of a blank, a slash, an equals sign or
the end of the tag, and a value follows it behind an equals sign, in quotes or bare, in
which entities are read as the characters that they stand for. Blanks may stand around
the equals sign, so an attribute may get its value from what looks like the next one.

Attributes whose names do not end early are read back when they are written with a
blank between each two and with escaped values in double quotes
(`ElementTags.Html.readAttributes_join`).
-/

namespace ElementTags.Html

open Written (takeWhile_append_of_head)

/-! ## Reading -/

/-- The characters that HTML takes for blanks. -/
def isSpace (c : Char) : Bool := c = '\t' || c = '\n' || c = '\x0c' || c = '\r' || c = ' '

/-- The characters in front of which the name of a tag ends. -/
def endsTag (c : Char) : Bool := isSpace c || c = '/' || c = '>'

/-- The characters in front of which the name of an attribute ends. -/
def endsName (c : Char) : Bool := endsTag c || c = '='

/-- The characters in front of which a bare value ends. -/
def endsValue (c : Char) : Bool := isSpace c || c = '>'

/-- An attribute as HTML reads it: its name, and its value if it has one. -/
structure Attribute where
  name : Text
  value? : Option Text
  deriving DecidableEq

/-- A value behind its opening quote, and what stands behind the closing one. -/
def readQuoted (quote : Char) (s : Text) : Option (Text × Text) :=
  match s.dropWhile (· ≠ quote) with
  | [] => none
  | _ :: rest => some (s.takeWhile (· ≠ quote), rest)

/-- A value behind an equals sign, and what stands behind the value. -/
def readValue (s : Text) : Option (Text × Text) :=
  match s.dropWhile isSpace with
  | '"' :: rest => readQuoted '"' rest
  | '\'' :: rest => readQuoted '\'' rest
  | rest => some (rest.takeWhile (!endsValue ·), rest.dropWhile (!endsValue ·))

theorem readQuoted_length {quote : Char} {s value rest : Text}
    (read : readQuoted quote s = some (value, rest)) : rest.length ≤ s.length := by
  unfold readQuoted at read
  have suffix := (List.dropWhile_suffix (l := s) fun c => decide (c ≠ quote)).length_le
  split at read
  · cases read
  · rename_i close left dropped
    cases read
    rw [dropped, List.length_cons] at suffix
    omega

/-- A value takes no more than what is there. -/
theorem readValue_length {s value rest : Text} (read : readValue s = some (value, rest)) :
    rest.length ≤ s.length := by
  have suffix := (List.dropWhile_suffix (l := s) isSpace).length_le
  unfold readValue at read
  split at read
  · rename_i left dropped
    have inner := readQuoted_length read
    rw [dropped, List.length_cons] at suffix
    omega
  · rename_i left dropped
    have inner := readQuoted_length read
    rw [dropped, List.length_cons] at suffix
    omega
  · cases read
    exact Nat.le_trans (List.dropWhile_suffix _).length_le suffix

/-- What stands behind the name of an attribute: its value, if it has one, and the rest. -/
def readBehindName (s : Text) : Option (Option Text × Text) :=
  match s.dropWhile isSpace with
  | '=' :: rest => (readValue rest).map fun (value, rest) => (some (Text.decode value), rest)
  | rest => some (none, rest)

theorem readBehindName_length {s rest : Text} {value? : Option Text}
    (read : readBehindName s = some (value?, rest)) : rest.length ≤ s.length := by
  have suffix := (List.dropWhile_suffix (l := s) isSpace).length_le
  unfold readBehindName at read
  split at read
  · rename_i left dropped
    obtain ⟨⟨value, behind⟩, found, same⟩ := Option.map_eq_some_iff.mp read
    cases same
    have inner := readValue_length found
    rw [dropped, List.length_cons] at suffix
    omega
  · cases read
    exact suffix

/-- The attributes at the start of a text up to the end of the tag, and what stands behind the tag.
The first character of a name may be any that is no separator. -/
def readAttributes (s : Text) : Option (List Attribute × Text) :=
  match s with
  | [] => none
  | c :: rest =>
    if c = '>' then some ([], rest)
    else if endsTag c then readAttributes rest
    else
      match _read : readBehindName (rest.dropWhile (!endsName ·)) with
      | some (value?, left) =>
        (readAttributes left).map fun (others, behind) =>
          (⟨c :: rest.takeWhile (!endsName ·), value?⟩ :: others, behind)
      | none => none
termination_by s.length
decreasing_by
  · simp only [List.length_cons]
    omega
  · have value := readBehindName_length _read
    have name := (List.dropWhile_suffix (l := rest) (!endsName ·)).length_le
    simp only [List.length_cons]
    omega

/-- A start tag: the name of its element and its attributes. -/
structure StartTag where
  name : Text
  attributes : List Attribute
  deriving DecidableEq

/-- The start tag at the start of a text, and what stands behind it. -/
def readStartTag (s : Text) : Option (StartTag × Text) :=
  match s with
  | '<' :: rest =>
    let name := rest.takeWhile (!endsTag ·)
    if (name.head?.map Char.isAlpha).getD false then
      (readAttributes (rest.dropWhile (!endsTag ·))).map fun (attributes, behind) =>
        (⟨name, attributes⟩, behind)
    else none
  | _ => none

/-! ## Writing -/

/-- An attribute as it is written: its name, and its value in double quotes. -/
def Attribute.spelling (a : Attribute) : Text :=
  match a.value? with
  | none => a.name
  | some value => a.name ++ "=\"".toList ++ Text.escape value ++ ['"']

/-- A name that does not end early. -/
structure ProperName (name : Text) : Prop where
  nonempty : name ≠ []
  unended : ∀ c ∈ name, endsName c = false

theorem endsTag_of_isSpace {c : Char} (space : isSpace c = true) : endsTag c = true := by
  rw [endsTag, space, Bool.true_or, Bool.true_or]

theorem endsName_of_endsTag {c : Char} (ends : endsTag c = true) : endsName c = true := by
  rw [endsName, ends, Bool.true_or]

/-- The first character of a name is no separator and no equals sign. -/
theorem apart_of_unended {c : Char} (unended : endsName c = false) :
    endsTag c = false ∧ c ≠ '=' := by
  rw [endsName, Bool.or_eq_false_iff, decide_eq_false_iff_not] at unended
  exact unended

theorem readAttributes_close (rest : Text) : readAttributes ('>' :: rest) = some ([], rest) := by
  rw [readAttributes, if_pos rfl]

theorem readAttributes_separator {c : Char} (ends : endsTag c = true) (other : c ≠ '>')
    (rest : Text) : readAttributes (c :: rest) = readAttributes rest := by
  rw [readAttributes, if_neg other, if_pos ends]

/-- Blanks in front of attributes do not matter. -/
theorem readAttributes_dropWhile (s : Text) :
    readAttributes (s.dropWhile isSpace) = readAttributes s := by
  induction s with
  | nil => rfl
  | cons c rest ih =>
      rw [List.dropWhile_cons]
      split
      · rename_i space
        have other : c ≠ '>' := by
          rintro rfl
          cases space
        rw [ih, readAttributes_separator (endsTag_of_isSpace space) other]
      · rfl

/-- A name is read up to its end. -/
theorem readAttributes_name {name : Text} (proper : ProperName name) {rest : Text}
    (ended : ∀ c ∈ rest.head?, endsName c = true) :
    readAttributes (name ++ rest) = (readBehindName rest).bind fun (value?, left) =>
      (readAttributes left).map fun (others, behind) => (⟨name, value?⟩ :: others, behind) := by
  obtain ⟨nonempty, unended⟩ := proper
  cases name with
  | nil => exact absurd rfl nonempty
  | cons c name =>
      obtain ⟨first, others⟩ := List.forall_mem_cons.mp unended
      have apart := (apart_of_unended first).1
      have other : c ≠ '>' := by
        rintro rfl
        cases apart
      have stops := takeWhile_append_of_head (p := (!endsName ·))
        (fun d member => by rw [others d member]; rfl)
        (fun d member => by rw [ended d member]; rfl)
      rw [List.cons_append, readAttributes, if_neg other, apart, if_neg Bool.false_ne_true,
        stops.1, stops.2]
      cases readBehindName rest <;> rfl

/-- An attribute is read back up to what may stand behind it: a blank or the end of the tag, and
then anything but a blank and an equals sign. -/
theorem readAttributes_spelling {a : Attribute} (proper : ProperName a.name) {rest : Text}
    (ended : ∀ c ∈ rest.head?, endsTag c = true)
    (opened : ∀ c ∈ (rest.dropWhile isSpace).head?, c ≠ '=') :
    readAttributes (a.spelling ++ rest) =
      (readAttributes rest).map fun (others, behind) => (a :: others, behind) := by
  obtain ⟨name, value?⟩ := a
  cases value? with
  | none =>
      have bare : readBehindName rest = some (none, rest.dropWhile isSpace) := by
        unfold readBehindName
        split
        · rename_i equals
          rw [equals] at opened
          exact absurd rfl (opened _ rfl)
        · rfl
      rw [Attribute.spelling, readAttributes_name proper fun c first =>
        endsName_of_endsTag (ended c first), bare, Option.bind_some,
        ← readAttributes_dropWhile rest]
  | some value =>
      have noQuote : ∀ c ∈ Text.escape value, decide (c ≠ '"') = true := by
        intro c member
        refine decide_eq_true ?_
        rintro rfl
        exact Text.quote_not_mem_escape value member
      have quote : ∀ c ∈ List.head? ('"' :: rest), decide (c ≠ '"') = false := by
        intro c first
        cases first
        rfl
      have stops := takeWhile_append_of_head noQuote quote
      have valued : readBehindName ('=' :: '"' :: (Text.escape value ++ '"' :: rest)) =
          some (some value, rest) := by
        change ((readQuoted '"' (Text.escape value ++ '"' :: rest)).map _) = _
        rw [readQuoted, stops.2, stops.1, Option.map_some]
        exact congrArg (fun s => some (some s, rest)) (Text.decode_escape value)
      have text : (Attribute.mk name (some value)).spelling ++ rest =
          name ++ '=' :: '"' :: (Text.escape value ++ '"' :: rest) := by
        simp only [Attribute.spelling, List.append_assoc]
        rfl
      rw [text, readAttributes_name proper (fun c first => by cases first; rfl), valued,
        Option.bind_some]

/-- What is written for attributes starts with a name, which is no blank and no equals sign. -/
theorem opened_join {attributes : List Attribute}
    (proper : ∀ a ∈ attributes, ProperName a.name) (behind : Text) :
    ∀ c ∈ ((Text.join [' '] (attributes.map Attribute.spelling) ++
      '>' :: behind).dropWhile isSpace).head?, c ≠ '=' := by
  cases attributes with
  | nil =>
      intro c first
      cases first
      decide
  | cons a others =>
      obtain ⟨nonempty, unended⟩ := proper a List.mem_cons_self
      obtain ⟨c, name, text⟩ := List.exists_cons_of_ne_nil nonempty
      obtain ⟨more, starts⟩ : ∃ more, Text.join [' '] ((a :: others).map Attribute.spelling) ++
          '>' :: behind = c :: more := by
        rw [List.map_cons]
        by_cases last : others.map Attribute.spelling = []
        · rw [last, Text.join_singleton, Attribute.spelling]
          split <;> rw [text] <;> exact ⟨_, rfl⟩
        · rw [Text.join_cons last, Attribute.spelling]
          split <;> rw [text] <;> exact ⟨_, rfl⟩
      have apart := apart_of_unended (unended c (text ▸ List.mem_cons_self))
      have solid : isSpace c = false :=
        Bool.eq_false_iff.mpr fun space => by
          rw [endsTag_of_isSpace space] at apart
          exact Bool.noConfusion apart.1
      rw [starts, List.dropWhile_cons, solid, if_neg Bool.false_ne_true]
      intro d first
      cases first
      exact apart.2

/-- **Attributes are read back.** Attributes with proper names that are written with a blank between
each two are read back, up to the end of the tag. -/
theorem readAttributes_join {attributes : List Attribute}
    (proper : ∀ a ∈ attributes, ProperName a.name) (behind : Text) :
    readAttributes (Text.join [' '] (attributes.map Attribute.spelling) ++ '>' :: behind) =
      some (attributes, behind) := by
  induction attributes with
  | nil => exact readAttributes_close behind
  | cons a others ih =>
      obtain ⟨first, rest⟩ := List.forall_mem_cons.mp proper
      by_cases last : others = []
      · subst last
        have closed : ∀ c ∈ List.head? ('>' :: behind), endsTag c = true := by
          intro c same
          cases same
          rfl
        have read := readAttributes_spelling first closed (opened_join rest behind)
        rw [readAttributes_close] at read
        rw [List.map_singleton, Text.join_singleton]
        exact read
      · have apart : ∀ c ∈ List.head? (' ' :: (Text.join [' '] (others.map Attribute.spelling) ++
            '>' :: behind)), endsTag c = true := by
          intro c same
          cases same
          rfl
        have read := readAttributes_spelling first apart (opened_join rest behind)
        rw [readAttributes_separator rfl (by decide), ih rest] at read
        rw [List.map_cons, Text.join_cons (fun none => last (List.map_eq_nil_iff.mp none)),
          List.append_assoc, List.append_assoc]
        exact read

/-- A name that HTML takes for that of an element: it starts with a letter and does not end early.
-/
structure TagName (name : Text) : Prop where
  starts : (name.head?.map Char.isAlpha).getD false = true
  unended : ∀ c ∈ name, endsTag c = false

/-- A start tag is read up to the end of its name. -/
theorem readStartTag_name {name : Text} (isName : TagName name) {rest : Text}
    (ended : ∀ c ∈ rest.head?, endsTag c = true) :
    readStartTag ('<' :: (name ++ rest)) =
      (readAttributes rest).map fun (attributes, behind) => (⟨name, attributes⟩, behind) := by
  have unended : ∀ c ∈ name, (!endsTag c) = true := by
    intro c member
    rw [isName.unended c member]
    rfl
  have stops : ∀ c ∈ rest.head?, (!endsTag c) = false := by
    intro c first
    rw [ended c first]
    rfl
  have cut := takeWhile_append_of_head unended stops
  simp only [readStartTag, cut.1, cut.2, isName.starts, if_true]

/-- **Start tags are read back.** A start tag with such a name and with attributes that are read
back is read as what it was written for. -/
theorem readStartTag_startTag {name : Text} (isName : TagName name) {attributes : List Attribute}
    (proper : ∀ a ∈ attributes, ProperName a.name) (behind : Text) :
    readStartTag (Behaviour.startTag name (Text.join [' '] (attributes.map Attribute.spelling)) ++
      behind) = some (⟨name, attributes⟩, behind) := by
  have read := readAttributes_join proper behind
  rw [Behaviour.startTag, List.append_assoc, List.append_assoc, List.cons_append]
  split
  · rename_i empty
    rw [List.isEmpty_iff.mp empty] at read
    have closes : ∀ c ∈ List.head? ([] ++ (['>'] ++ behind)), endsTag c = true := by
      intro c first
      cases first
      rfl
    rw [readStartTag_name isName closes]
    exact congrArg (Option.map _) read
  · have blank : ∀ c ∈ List.head? (' ' :: Text.join [' '] (attributes.map Attribute.spelling) ++
        (['>'] ++ behind)), endsTag c = true := by
      intro c first
      cases first
      rfl
    rw [readStartTag_name isName blank, List.cons_append,
      readAttributes_separator rfl (by decide)]
    exact congrArg (Option.map _) read

end ElementTags.Html
