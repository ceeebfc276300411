import StoryValues.Text.Template

/-
  THE CATALOGUE of texts about failures: an explanation for each kind of story error, and the
  templates of messages with fields in them.  A host may put its own catalogue in the place of the
  one here; what it leaves out is then missing.
-/

namespace StoryValues

/-- Explanations by kind of error, and message templates by key. -/
structure Catalogue where
  explanations : List (String × String)
  messages : List (String × String)

namespace Catalogue

/-- The explanation of a kind of error. -/
def explanation? (c : Catalogue) (kind : String) : Option String := c.explanations.lookup kind

/-- Whether a field has the name under which the key of the template is given. -/
def takesKey (given : List (String × Template.Given)) : Bool := given.any fun g => g.1 == "key"

/-- The message of a template with its fields filled in, as they are given: nothing is escaped. -/
def message (c : Catalogue) (render : Template.Renderer) (key : String)
    (given : List (String × Template.Given)) : Except Fault String :=
  if takesKey given then .error (.badOperand "got multiple values for argument 'key'")
  else match c.messages.lookup key with
  | some source => do
    let params ← given.mapM fun (name, value) => return (name, ← value.param)
    render id source params
  | none => .error (.noTemplate key)

/-- The catalogue that is used unless a host brings its own. -/
def bundled : Catalogue where
  explanations := [
    ("syntax", "The markup seems to contain a mistake."),
    ("saving", "I tried to save or load the game, but I couldn't do it."),
    ("operation", "I tried to perform an operation on some data, but the data's type was incorrect."),
    ("macrocall", "I tried to use a macro, but its call wasn't written correctly."),
    ("datatype", "I tried to use a macro, but was given the wrong type of data to it."),
    ("custommacro", "I tried to use a custom macro, but its code hook had an error in it."),
    ("infinite", "I almost ended up doing the same thing over and over, forever."),
    ("property", "I tried to access a value in a string/array/datamap, but I couldn't find it."),
    ("unimplemented", "I currently don't have this particular feature. I'm sorry."),
    ("python", "This error message was reported by the host Python runtime, not the story engine itself."),
    ("propagated", "Errors inside other errors are propagated outward."),
    ("assertion", "An (assert:) command's condition was false."),
    ("user", "This is a custom error created by (error:).")]
  messages := [
    ("unknown_macro", "I can't run the macro '\x7b\x7bname\x7d\x7d' because it doesn't exist."),
    ("unknown_macro_explanation", "Did you mean to run a macro? If you have a word written like (this:), it is regarded as a macro name."),
    ("not_custom_macro", "I can't call \x7b\x7bactual\x7d\x7d because it isn't a custom macro."),
    ("not_enough_values", "\x7b\x7blabel\x7d\x7d needs \x7b\x7bcount\x7d\x7d more value\x7b\x7bplural\x7d\x7d."),
    ("too_many_values", "\x7b\x7bcount\x7d\x7d too many values were given to \x7b\x7blabel\x7d\x7d."),
    ("wrong_type", "\x7b\x7blabel\x7d\x7d's \x7b\x7bnth\x7d\x7d value is \x7b\x7bactual\x7d\x7d, but should be \x7b\x7bexpected\x7d\x7d."),
    ("unstorable_value", "\x7b\x7blabel\x7d\x7d's \x7b\x7bnth\x7d\x7d value, \x7b\x7bactual\x7d\x7d, is not valid data for this macro."),
    ("wrong_lambda", "\x7b\x7blabel\x7d\x7d's \x7b\x7bnth\x7d\x7d value (a lambda) should have \x7b\x7bexpected\x7d\x7d, not \x7b\x7bactual\x7d\x7d."),
    ("wrong_name", "\x7b\x7bactual\x7d\x7d is not a valid name string for \x7b\x7blabel\x7d\x7d."),
    ("wrong_name_explanation", "Only the following names are recognised (capitalisation and hyphens ignored): \x7b\x7bnames\x7d\x7d."),
    ("signature_info", "\x7b\x7blabel\x7d\x7d must only be given \x7b\x7btypes\x7d\x7d\x7b\x7b#ordered\x7d\x7d, in that order\x7b\x7b/ordered\x7d\x7d\x7b\x7b^ordered\x7d\x7d.\x7b\x7b/ordered\x7d\x7d"),
    ("signature_empty", "\x7b\x7blabel\x7d\x7d must not be given any data.\x7b\x7b#invocation\x7d\x7d Just write \x7b\x7binvocation\x7d\x7d\x7b\x7b/invocation\x7d\x7d"),
    ("cannot_spread", "I can't spread out \x7b\x7bactual\x7d\x7d, because it is not a string, dataset, or array."),
    ("custom_macro_errors", "These errors occurred when running a custom macro:\n\x7b\x7berrors\x7d\x7d"),
    ("custom_macro_no_output", "This custom macro didn't output any data.")]

end Catalogue

end StoryValues
