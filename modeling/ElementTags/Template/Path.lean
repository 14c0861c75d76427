import ElementTags.Fault
import ElementTags.Text.Quoted

/-!
# Names of included templates

The name of a template is a path. A path that starts with `./` or `../` is relative to the directory
of the template that names it, and has a meaning only in a template that has a name itself. It may
lead neither out of the tree of templates nor, unless that is allowed, back to the template itself.
-/

namespace ElementTags.Path

/-- The parts of a path after some others, where one point is no step and two points are a step
back. -/
def normalFrom (before : List Text) : List Text → List Text
  | [] => before
  | part :: rest =>
    if part.isEmpty || part = ['.'] then normalFrom before rest
    else if part = ['.', '.'] then
      match before.getLast? with
      | none => normalFrom [part] rest
      | some last =>
        if last = part then normalFrom (before ++ [part]) rest else normalFrom before.dropLast rest
    else normalFrom (before ++ [part]) rest

/-- A relative path in its shortest form. -/
def normal (path : Text) : Text :=
  match normalFrom [] (Text.pieces '/' path) with
  | [] => ['.']
  | parts => Text.join ['/'] parts

/-- A path without the slashes in front of it. -/
def withoutRoot (path : Text) : Text := path.dropWhile (· = '/')

/-- The directory part of a path, with the slash behind it. -/
def directory (path : Text) : Text := (path.reverse.dropWhile (· ≠ '/')).reverse

/-- A text without the quotes around it. -/
def bare (s : Text) : Text := ((s.dropWhile Text.isQuote).reverse.dropWhile Text.isQuote).reverse

/-- Whether a text starts like a relative path. -/
def isRelative (s : Text) : Bool := "./".toList.isPrefixOf s || "../".toList.isPrefixOf s

/-- Whether a text starts and ends with the same quote. -/
def hasQuotes (s : Text) : Bool := s.head?.any Text.isQuote && s.head? = s.getLast?

/-- Rejects a path with a message. -/
def reject {α : Type} (parts : List Text) : Except TemplateFault α :=
  .error (.malformedBlock (String.ofList parts.flatten))

/-- A text that may be a relative path, seen from a template: quotes around a path stay. -/
def seenFrom (origin : Option Text) (mayReturn : Bool) (s : Text) : Except TemplateFault Text :=
  if !isRelative (bare s) then .ok s
  else
    match origin with
    | none =>
      reject ["The relative path ".toList, s,
        " cannot be evaluated due to an unknown template origin.".toList]
    | some origin =>
      let path := normal (directory (withoutRoot origin) ++ bare s)
      if "../".toList.isPrefixOf path then
        reject ["The relative path '".toList, s,
          "' points outside the file hierarchy that template '".toList, origin, "' is in.".toList]
      else if !mayReturn && withoutRoot origin = path then
        reject ["The relative path '".toList, s, "' was translated to template name '".toList,
          origin, "', the same template in which the tag appears.".toList]
      else .ok (if hasQuotes s then '"' :: path ++ ['"'] else path)

end ElementTags.Path
