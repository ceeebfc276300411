import StoryValues.Text.Blank
import StoryValues.Text.Template

/-
  TEMPLATES AS THEY ARE WRITTEN, and what is documented about rendering them.

  1. **Templates** (`Markup`) — literals, fields, and sections with a body, in any nesting, on one line.  Names and
     literals carry what they must not hold.  What a template is filled with is told of its parts (`Markup.filled`), not
     of its characters.
  2. **What is documented of a renderer** (`Renderer.Documented`) — text is copied, a tag with a name stands for the
     escaped text of its field, a section is kept or left out whole, and parts are rendered one after another.
  3. **So a template is filled as it is written** (`Documented.render_source`), by induction on its parts.
-/

namespace StoryValues

namespace Template

/-! ## Templates -/

/-- Whether a character can stand in a literal: it is no brace and does not end the line. -/
def isPlain (c : Char) : Bool := c != '{' && c != '}' && c != '\n' && c != '\r'

/-- Text without tags, on one line. -/
structure Literal where
  chars : List Char
  plain : ∀ c ∈ chars, isPlain c = true

/-- Characters that pass the test, one by one. -/
def Literal.of (cs : List Char) (h : cs.all isPlain = true) : Literal := ⟨cs, List.all_eq_true.mp h⟩

/-- Whether a character can stand in a name: a letter, a digit, an underscore, or one beyond ASCII that is not blank. -/
def isNameChar (c : Char) : Bool := c.isAlphanum || c == '_' || (decide (128 ≤ c.toNat) && !isBlank c)

/-- The name of a field. -/
structure Identifier where
  chars : List Char
  nonempty : chars ≠ []
  named : ∀ c ∈ chars, isNameChar c = true

/-- A first character and others, all of which pass the test. -/
def Identifier.of (c : Char) (cs : List Char) (h : (c :: cs).all isNameChar = true) : Identifier :=
  ⟨c :: cs, List.cons_ne_nil c cs, List.all_eq_true.mp h⟩

/-- The text of a name. -/
def Identifier.text (n : Identifier) : String := String.ofList n.chars

/-- **A template of one line:** parts in order, where a section has parts of its own. -/
inductive Markup where
  | done
  | literal (l : Literal) (rest : Markup)
  | field (name : Identifier) (rest : Markup)
  | group (inverted : Bool) (name : Identifier) (body rest : Markup)

/-- A tag in its braces, with a mark in front of the name or without one. -/
def tagged (mark : List Char) (name : Identifier) : List Char :=
  '{' :: '{' :: (mark ++ (name.chars ++ ['}', '}']))

/-- The mark of the tag that opens a section. -/
def opening (inverted : Bool) : List Char := if inverted then ['^'] else ['#']

namespace Markup

/-- The characters of a template. -/
def written : Markup → List Char
  | done => []
  | literal l rest => l.chars ++ rest.written
  | field name rest => tagged [] name ++ rest.written
  | group inverted name body rest =>
    tagged (opening inverted) name ++ (body.written ++ (tagged ['/'] name ++ rest.written))

/-- The text of a template. -/
def source (m : Markup) : String := String.ofList m.written

/-- **What a template is filled with:** literals as they are, for a field its text, escaped, and a section if its field
is set, or is not if the section is inverted. -/
def filled (escape : String → String) (params : List (String × Param)) : Markup → String
  | done => ""
  | literal l rest => String.ofList l.chars ++ rest.filled escape params
  | field name rest => escape (Param.shown (params.lookup name.text)) ++ rest.filled escape params
  | group inverted name body rest =>
    (if Param.isSet (params.lookup name.text) != inverted then body.filled escape params else "") ++
      rest.filled escape params

end Markup

/-! ## What is documented -/

/-- **What is documented of a renderer,** as far as templates of one line go.  Nothing is said of lines that a section
tag has to itself, of partials, or of other delimiters: the library's templates do without them. -/
structure Renderer.Documented (render : Renderer) : Prop where
  /-- Text without tags is copied. -/
  literal : ∀ (escape : String → String) (l : Literal) (params : List (String × Param)),
    render escape (String.ofList l.chars) params = .ok (String.ofList l.chars)
  /-- A tag with a name stands for the text of its field, on which the escape function is called; a field that is
  missing has the empty text. -/
  field : ∀ (escape : String → String) (name : Identifier) (params : List (String × Param)),
    render escape (Markup.field name .done).source params = .ok (escape (Param.shown (params.lookup name.text)))
  /-- A section is its body, rendered with the same fields, if its field is set, and nothing if it is not; an inverted
  one is the other way about. -/
  group : ∀ (escape : String → String) (inverted : Bool) (name : Identifier) (body : Markup)
      (params : List (String × Param)),
    render escape (Markup.group inverted name body .done).source params =
      if Param.isSet (params.lookup name.text) != inverted then render escape body.source params else .ok ""
  /-- Parts are rendered one after another. -/
  append : ∀ (escape : String → String) (first rest : Markup) (params : List (String × Param)),
    render escape (String.ofList (first.written ++ rest.written)) params = do
      let start ← render escape first.source params
      let others ← render escape rest.source params
      return start ++ others

namespace Renderer.Documented

variable {render : Renderer} {escape : String → String} {params : List (String × Param)}

/-- One part and the parts behind it, where both are rendered. -/
theorem render_append (h : render.Documented) {first rest : Markup} {start others : String}
    (hfirst : render escape first.source params = .ok start) (hrest : render escape rest.source params = .ok others) :
    render escape (String.ofList (first.written ++ rest.written)) params = .ok (start ++ others) := by
  rw [h.append, hfirst, hrest]
  rfl

/-- **A template is filled as it is written,** by induction on its parts: each is rendered by itself, and the body of a
section with the same fields. -/
theorem render_source (h : render.Documented) (m : Markup) :
    render escape m.source params = .ok (m.filled escape params) := by
  induction m with
  | done => exact h.literal escape ⟨[], nofun⟩ params
  | literal l rest ih =>
    have hfirst : render escape (Markup.literal l .done).source params = .ok (String.ofList l.chars) := by
      rw [Markup.source, Markup.written, Markup.written, List.append_nil]
      exact h.literal escape l params
    have hboth := h.render_append hfirst ih
    rwa [Markup.written, Markup.written, List.append_nil] at hboth
  | field name rest ih =>
    have hboth := h.render_append (h.field escape name params) ih
    rwa [Markup.written, Markup.written, List.append_nil] at hboth
  | group inverted name body rest ihbody ih =>
    have hfirst := h.group escape inverted name body params
    rw [ihbody, ← apply_ite Except.ok] at hfirst
    have hboth := h.render_append hfirst ih
    rwa [Markup.written, Markup.written, List.append_nil, List.append_assoc, List.append_assoc] at hboth

end Renderer.Documented

end Template

end StoryValues
