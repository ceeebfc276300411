import StoryValues.Error.Basic
import StoryValues.Error.Limit
import StoryValues.Text.Blank

/-
  A RENDERER of templates.  A template is text with tags in double braces.  A tag with a name stands for
  the text of that field; a `#` tag opens a section that is kept if its field is set, a `^` tag one
  that is kept if it is not, and a `/` tag closes the section of its name.

  1. **Cutting** (`tokens`).  Text is cut at its tags.  A section tag alone on a line takes the whole
     line with it: the blanks before it and the line end behind it.
  2. **Nesting** (`nest`).  Sections become segments with a body.  A section that is never closed
     leaves its own content only; a closing tag that closes nothing is a fault.
  3. **Filling** (`fill`).  Field texts are escaped, but never read as tags.

  The library works with any renderer; this one stands in the settings that are used unless a host
  brings its own (`Settings.usual`).
-/

namespace StoryValues

namespace Template

/-! ## Cutting -/

/-- The kinds of tag. -/
inductive TagKind where
  | field | ifSet | ifUnset | close
  deriving DecidableEq

/-- A piece of text, or a tag with its name. -/
inductive Token where
  | text (cs : List Char)
  | tag (kind : TagKind) (name : List Char)
  deriving DecidableEq

/-- Whether a character ends a line. -/
def isLineEnd (c : Char) : Bool := c = '\n' || c = '\r'

/-- Whether a character is blank within a line. -/
def isInlineBlank (c : Char) : Bool := c = ' ' || c = '\t'

/-- Finds the end of a tag: blanks and two closing braces.  Gives what follows them. -/
def tagEnd? (cs : List Char) : Option (List Char) :=
  match cs.dropWhile isBlank with
  | '}' :: '}' :: rest => some rest
  | _ => none

/-- The name of a tag, at least one character long and ending where the tag first can, with what
follows the tag. -/
def tagName? : List Char → Option (List Char × List Char)
  | [] => none
  | c :: cs =>
    match tagEnd? cs with
    | some rest => some ([c], rest)
    | none => (tagName? cs).map fun (name, rest) => (c :: name, rest)

/-- Reads a name after optional blanks; where there is nothing else, a blank is the name. -/
def tagBody? (cs : List Char) : Option (List Char × List Char) :=
  (tagName? (cs.dropWhile isBlank)).or <|
    match cs.takeWhile isBlank with
    | [] => none
    | blanks => tagName? (blanks.drop (blanks.length - 1) ++ cs.dropWhile isBlank)

/-- The kind that a character behind the opening braces gives to a tag. -/
def tagKind? : Char → Option TagKind
  | '#' => some .ifSet
  | '^' => some .ifUnset
  | '/' => some .close
  | _ => none

/-- Reads a tag behind its opening braces. -/
def tag? (cs : List Char) : Option (TagKind × List Char × List Char) :=
  let marked : Option (TagKind × List Char × List Char) := do
    let c ← (cs.dropWhile isBlank).head?
    let kind ← tagKind? c
    let (name, rest) ← tagBody? ((cs.dropWhile isBlank).drop 1)
    return (kind, name, rest)
  marked.or ((tagBody? cs).map fun (name, rest) => (.field, name, rest))

/-- Drops one line end. -/
def dropLineEnd : List Char → List Char
  | '\r' :: '\n' :: rest => rest
  | '\r' :: rest => rest
  | '\n' :: rest => rest
  | rest => rest

/-- The text token of characters gathered in reverse, if there are any. -/
def flush (gathered : List Char) : List Token :=
  if gathered.isEmpty then [] else [.text gathered.reverse]

/-- Cuts text at its tags.  `fresh` says whether a line starts where `gathered` does; `fuel` bounds
the number of steps, one for each character. -/
def tokensFrom : (fuel : Nat) → (fresh : Bool) → (gathered : List Char) → List Char → List Token
  | _, _, gathered, [] => flush gathered
  | 0, _, gathered, _ => flush gathered
  | fuel + 1, fresh, gathered, c :: cs =>
    let found := match c, cs with
      | '{', '{' :: rest => tag? rest
      | _, _ => none
    match found with
    | none => tokensFrom fuel fresh (c :: gathered) cs
    | some (kind, name, rest) =>
      let before := gathered.dropWhile isInlineBlank
      let beginsLine : Bool := match before with
        | [] => fresh
        | b :: _ => isLineEnd b
      let endsLine : Bool := match rest with
        | [] => true
        | r :: _ => isLineEnd r
      if kind ≠ .field ∧ beginsLine ∧ endsLine then
        flush before ++ .tag kind name :: tokensFrom fuel (!rest.isEmpty) [] (dropLineEnd rest)
      else
        flush gathered ++ .tag kind name :: tokensFrom fuel false [] rest

/-- The pieces and tags of a template. -/
def tokens (s : String) : List Token := tokensFrom s.length true [] s.toList

end Template

/-! ## Nesting -/

/-- A part of a template: text, a field, or a section with its body. -/
inductive Segment where
  | text (s : String)
  | field (name : String)
  | group (inverted : Bool) (name : String) (body : List Segment)

/-- A template is its parts in order. -/
structure Template where
  segments : List Segment

namespace Template

/-- A section that is still open: how it was opened, its name, and the parts before it in reverse. -/
structure Opened where
  inverted : Bool
  name : List Char
  before : List Segment

/-- Nests sections.  `done` holds the parts of the innermost open section in reverse. -/
def nest : List Opened → (done : List Segment) → List Token → Except Fault (List Segment)
  | _, done, [] => .ok done.reverse
  | stack, done, .text cs :: rest => nest stack (.text (String.ofList cs) :: done) rest
  | stack, done, .tag .field name :: rest => nest stack (.field (String.ofList name) :: done) rest
  | stack, done, .tag .ifSet name :: rest => nest (⟨false, name, done⟩ :: stack) [] rest
  | stack, done, .tag .ifUnset name :: rest => nest (⟨true, name, done⟩ :: stack) [] rest
  | opened :: stack, done, .tag .close name :: rest =>
    if name = opened.name then
      nest stack (.group opened.inverted (String.ofList name) done.reverse :: opened.before) rest
    else
      .error (.malformedTemplate
        s!"Section end tag mismatch: {String.ofList name} != {String.ofList opened.name}")
  | [], _, .tag .close name :: _ =>
    .error (.malformedTemplate s!"Section end tag mismatch: {String.ofList name} != None")

/-- Reads a template. -/
def read (s : String) : Except Fault Template := (nest [] [] (tokens s)).map Template.mk

/-! ## Filling -/

mutual

/-- The text of one part. -/
def fillSegment (escape : String → String) (params : List (String × Param)) : Segment → String
  | .text s => s
  | .field name => escape (Param.shown (params.lookup name))
  | .group inverted name body =>
    if Param.isSet (params.lookup name) != inverted then fillSegments escape params body else ""

/-- The texts of parts, one after another. -/
def fillSegments (escape : String → String) (params : List (String × Param)) : List Segment → String
  | [] => ""
  | s :: rest => fillSegment escape params s ++ fillSegments escape params rest

end

/-- The text of a template with its fields filled in. -/
def fill (t : Template) (escape : String → String) (params : List (String × Param)) : String :=
  fillSegments escape params t.segments

/-- Reads a template and fills it. -/
def render : Renderer := fun escape source params => return (← read source).fill escape params

end Template

/-- The settings that are used unless a host brings its own. -/
def Settings.usual : Settings where
  catalogue := Catalogue.bundled
  renderer := Template.render
  repeatLimit := Limit.usual

end StoryValues
