import Mathlib.Data.List.Basic
import StoryValues.Error.Catalogue
import StoryValues.Proofs.Error.Renderer

/-
  MESSAGES ARE FILLED IN, and nothing of what they are filled with is read.

  1. **What a template means** (`Markup.meaning`) — told of its parts and of what the fields are given.
  2. **Fields as a renderer gets them** (`plainParams`) — integers are made into text first, unless they are too long
     (`mapM_param`).
  3. **The message is the meaning** (`message_of_written`), whatever the fields are given, for every renderer that does
     what is documented.
-/

namespace StoryValues

namespace Template

/-! ## What templates mean -/

/-- The text that stands for what is given. -/
def Given.text : Given → String
  | string s => s
  | integer n => toString n
  | boolean true => "True"
  | boolean false => "False"

/-- Whether it is true, or text that is not empty. -/
def Given.isOn : Given → Bool
  | string s => s != ""
  | integer n => toString n != ""
  | boolean on => on

/-- Whether it can be made into text: all but integers that are too long. -/
def Given.isShort : Given → Bool
  | integer n => (Number.int n).isShort
  | _ => true

/-- **The meaning of a template:** literals as they are, for a field the text of what it is given, and a section if what
its field is given is on, or is not if the section is inverted. -/
def Markup.meaning (given : String → Option Given) : Markup → String
  | done => ""
  | literal l rest => String.ofList l.chars ++ rest.meaning given
  | field name rest => ((given name.text).map Given.text).getD "" ++ rest.meaning given
  | group inverted name body rest =>
    (if (given name.text).any Given.isOn != inverted then body.meaning given else "") ++ rest.meaning given

/-! ## Fields as a renderer gets them -/

/-- What becomes of what can be made into text. -/
def Given.plain : Given → Param
  | string s => .text s
  | integer n => .text (toString n)
  | boolean on => .switch on

/-- What a field is given becomes text, if it is short enough. -/
theorem Given.param_eq (g : Given) : g.param = if g.isShort then .ok g.plain else .error .integerTooLong := by
  cases g with
  | string s => rfl
  | boolean on => rfl
  | integer n =>
    rw [param, Number.format, isShort]
    cases (Number.int n).isShort <;> rfl

/-- Fields, each as it becomes. -/
def plainParams (given : List (String × Given)) : List (String × Param) := given.map fun g => (g.1, g.2.plain)

/-- **All fields are made into text, or one of them is too long,** by induction on the fields. -/
theorem mapM_param (given : List (String × Given)) :
    (given.mapM fun (name, value) => return (name, ← value.param)) =
      if given.all fun g => g.2.isShort then Except.ok (plainParams given) else .error .integerTooLong := by
  induction given with
  | nil => rfl
  | cons g given ih =>
    obtain ⟨name, value⟩ := g
    rw [List.mapM_cons, ih, List.all_cons]
    dsimp only
    rw [Given.param_eq]
    cases value.isShort
    · rfl
    · cases given.all fun g => g.2.isShort <;> rfl

/-- Fields are found under their names as before. -/
theorem lookup_plainParams (given : List (String × Given)) (name : String) :
    (plainParams given).lookup name = (given.lookup name).map Given.plain := by
  induction given with
  | nil => rfl
  | cons g given ih =>
    rw [plainParams, List.map_cons, List.lookup_cons, List.lookup_cons, ← plainParams, ih]
    cases name == g.1 <;> rfl

/-- A field shows the text of what it is given, and nothing if it is given nothing. -/
theorem shown_plainParams (given : List (String × Given)) (name : String) :
    Param.shown ((plainParams given).lookup name) = ((given.lookup name).map Given.text).getD "" := by
  rw [lookup_plainParams]
  rcases given.lookup name with _ | ⟨s⟩ | ⟨n⟩ | ⟨on⟩
  · rfl
  · rfl
  · rfl
  · cases on <;> rfl

/-- And it is on when what it is given is. -/
theorem isSet_plainParams (given : List (String × Given)) (name : String) :
    Param.isSet ((plainParams given).lookup name) = (given.lookup name).any Given.isOn := by
  rw [lookup_plainParams]
  rcases given.lookup name with _ | ⟨s⟩ | ⟨n⟩ | ⟨on⟩ <;> rfl

/-- **What a template is filled with is its meaning,** if nothing is escaped: by induction on its parts. -/
theorem Markup.filled_plainParams (m : Markup) (given : List (String × Given)) :
    m.filled id (plainParams given) = m.meaning fun name => given.lookup name := by
  induction m with
  | done => rfl
  | literal l rest ih => rw [filled, meaning, ih]
  | field name rest ih => rw [filled, meaning, ih, shown_plainParams, id]
  | group inverted name body rest ihbody ih => rw [filled, meaning, ih, ihbody, isSet_plainParams]

end Template

namespace Catalogue

open Template

variable {c : Catalogue} {key : String}

/-- **What is asked of the renderer:** the template that was found, with all fields made into text. -/
theorem message_of_found {render : Renderer} {source : String} (hfound : c.messages.lookup key = some source)
    (given : List (String × Given)) :
    c.message render key given =
      if takesKey given then .error (.badOperand "got multiple values for argument 'key'")
      else if given.all fun g => g.2.isShort then render id source (plainParams given)
      else .error .integerTooLong := by
  rw [message, hfound]
  refine if_congr Iff.rfl rfl ?_
  show ((given.mapM fun (name, value) => return (name, ← value.param)) >>= render id source) = _
  rw [mapM_param]
  cases given.all fun g => g.2.isShort <;> rfl

/-- **A message is the meaning of its template,** whatever text the fields are given: braces and whole tags in it are
text like any other.  It fails only where a field goes by the name of the key, or is given an integer that is too long
to be written. -/
theorem message_of_written {render : Renderer} (hrender : render.Documented) {m : Markup}
    (hfound : c.messages.lookup key = some m.source) (given : List (String × Given)) :
    c.message render key given =
      if takesKey given then .error (.badOperand "got multiple values for argument 'key'")
      else if given.all fun g => g.2.isShort then .ok (m.meaning fun name => given.lookup name)
      else .error .integerTooLong := by
  rw [message_of_found hfound, hrender.render_source, m.filled_plainParams]

/-- Who it is, if it is anyone, and how many. -/
def whoIsIt : Markup :=
  let who : Identifier := .of 'w' ['h', 'o'] rfl
  .group false who (.literal (.of "It is ".toList rfl) (.field who .done))
    (.group true who (.literal (.of "Nobody".toList rfl) .done)
      (.literal (.of ", ".toList rfl) (.field (.of 'n' [] rfl) .done)))

/-- A tag is put in as it is. -/
theorem message_whoIsIt :
    let c : Catalogue := ⟨[], [("m",
      "\x7b\x7b#who\x7d\x7dIt is \x7b\x7bwho\x7d\x7d\x7b\x7b/who\x7d\x7d" ++
        "\x7b\x7b^who\x7d\x7dNobody\x7b\x7b/who\x7d\x7d, \x7b\x7bn\x7d\x7d")]⟩
    Renderer.Documented render ∧ c.messages.lookup "m" = some whoIsIt.source ∧
      c.message render "m" [("who", .string "\x7b\x7b/who\x7d\x7d"), ("n", .integer (-1))] =
        .ok "It is \x7b\x7b/who\x7d\x7d, -1" ∧
      c.message render "m" [("who", .boolean false)] = .ok "Nobody, " := by
  intro c
  have hfound : c.messages.lookup "m" = some whoIsIt.source := by decide +kernel
  refine ⟨documented_render, hfound, ?_, ?_⟩
  · rw [message_of_written documented_render hfound]
    decide +kernel
  · rw [message_of_written documented_render hfound]
    decide +kernel

/-- **A field by the name of the key** is refused, and so is an integer of 4301 digits: there is no message. -/
theorem message_fieldKey :
    let alone (name : Identifier) : Markup := .field name .done
    let k : Identifier := .of 'k' ['e', 'y'] rfl
    let n : Identifier := .of 'n' [] rfl
    (⟨[], [("m", (alone k).source)]⟩ : Catalogue).message render "m" [("key", .string "v")] ≠
        .ok ((alone k).meaning fun name => [("key", Given.string "v")].lookup name) ∧
      (⟨[], [("m", (alone n).source)]⟩ : Catalogue).message render "m" [("n", .integer (tenTo 4300))] ≠
        .ok ((alone n).meaning fun name => [("n", Given.integer (tenTo 4300))].lookup name) := by
  intro alone k n
  have hlong : [("n", Given.integer (tenTo 4300))].all (fun g => g.2.isShort) = false := by decide +kernel
  constructor
  · rw [message_of_found rfl]
    exact nofun
  · have hfound : [("m", (alone n).source)].lookup "m" = some (alone n).source := rfl
    rw [message_of_found hfound, hlong]
    exact nofun

end Catalogue

end StoryValues
