import ElementTags.Text.Basic

/-!
# Excerpts of a source

An excerpt shows the lines of a source that a range of positions touches. Each line is numbered and
followed by a line of carets under its part of the range; a line without a character of the range
still gets one caret.
-/

namespace ElementTags.Excerpt

/-- A line of a source, counted from one, with the position of its first character. -/
structure Line where
  number : Nat
  start : Nat
  content : Text

/-- Consecutive lines, of which the first has the given number and position. A line end takes one
position. -/
def number (first start : Nat) : List Text → List Line
  | [] => []
  | content :: rest =>
    ⟨first, start, content⟩ :: number (first + 1) (start + content.length + 1) rest

/-- The lines of a source. -/
def lines (source : Text) : List Line := number 1 0 (Text.pieces '\n' source)

/-- How many lines stand before the one that holds a position: the last line that starts at or
before it, and the first line for a position before the source. -/
def indexOf (all : List Line) (position : Int) : Nat :=
  (all.takeWhile fun line => (line.start : Int) ≤ position).length - 1

/-- The number in front of a line. -/
def margin (line : Line) : Text :=
  "  ".toList ++ Text.padLeft ' ' 4 (Text.ofNat line.number) ++ " | ".toList

/-- The columns of a line that are underlined, from the first up to but not including the second.
Only the first line of an excerpt starts late, and only the last one ends early. -/
def columns (line : Line) (isFirst isLast : Bool) (start stop : Int) : Nat × Int :=
  let first : Nat := if isFirst then (start - line.start).toNat else 0
  let past : Int :=
    if isLast then min line.content.length (stop - line.start) else line.content.length
  (first, past)

/-- A line and the carets under it. -/
def rows (line : Line) (isFirst isLast : Bool) (start stop : Int) : List Text :=
  let (first, past) := columns line isFirst isLast start stop
  [ margin line ++ line.content,
    List.replicate ((margin line).length + first) ' ' ++
      List.replicate (max 1 (past - first)).toNat '^' ]

/-- The lines from the one that holds `start` to the one that holds the last position of the range,
each with its carets. -/
def mark (source : Text) (start stop : Int) : List Text :=
  let all := lines source
  let first := indexOf all start
  let last := indexOf all (max start (stop - 1))
  ((all.take (last + 1)).drop first).flatMap fun line =>
    rows line (line.number = first + 1) (line.number = last + 1) start stop

/-- A message, an empty line, and the excerpt of a range of a source. -/
def explain (message source : Text) (start stop : Int) : Text :=
  Text.join ['\n'] (message :: [] :: mark source start stop)

end ElementTags.Excerpt
