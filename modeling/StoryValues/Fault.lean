/-
  FAULTS: what goes wrong outside the story.  A story's own failures are values (`StoryError`) that
  travel through every operation.  A **fault** is a mistake of the host (a name that was never
  registered, a value it must not pass, a number that does not fit) and stops the operation.

  Each fault is a cause.  `Fault.message` is the reason, present when the library itself states it;
  `Fault.text` is what is said when a fault has to be told to the story.
-/

namespace StoryValues

/-- Why an operation stopped without a result. -/
inductive Fault where
  /-- an integer has no double near it -/
  | integerTooLarge
  /-- an integer has more digits than are written -/
  | integerTooLong
  /-- the quotient of two integers has no double near it -/
  | quotientTooLarge
  /-- an infinity was to become an integer -/
  | infiniteToInteger
  /-- a double that is no number was to become an integer -/
  | nanToInteger
  /-- a quotient by zero; the text says of what -/
  | divisionByZero (text : String)
  /-- a sequence would have more items than can be counted -/
  | sequenceTooLong
  /-- a pattern repeats more often than a matcher can count -/
  | repetitionTooLarge
  /-- the catalogue has no template of this name -/
  | noTemplate (key : String)
  /-- a template whose section tags do not match -/
  | malformedTemplate (text : String)
  /-- a story error was made without a message -/
  | emptyErrorMessage
  /-- a story error of a kind that nothing explains -/
  | unexplainedKind (kind : String)
  /-- a datamap was given a name that is neither text nor number -/
  | badName (typeText : String)
  /-- a datamap was given a name that clashes with one of the other kind -/
  | clashingName (message : String)
  /-- something that had to be there was not -/
  | missingKey (key : String)
  /-- a position beyond the end -/
  | missingPosition (text : String)
  /-- an error value was to be written as source -/
  | printedError (debugText : String)
  /-- a lambda clause of unknown kind -/
  | unknownClause (name : String)
  /-- a lambda clause that is not expression text -/
  | clauseNotText (clause typeText : String)
  /-- a typed variable without a proper name -/
  | badVariableName (debugText : String)
  /-- a rest entry before the end of a signature -/
  | restNotLast
  /-- a registration after the registry was frozen -/
  | frozenRegistry
  /-- a second macro of one name -/
  | macroExists (name : String)
  /-- a second mutation for one changer -/
  | mutationExists (name : String)
  /-- a changer without a mutation -/
  | noMutation (name : String)
  /-- no listed name agreed with the one given -/
  | noneListed
  /-- an operation on operands it does not have -/
  | badOperand (text : String)
  /-- a value that lacks the part that was asked for -/
  | noSuchPart (text : String)
  /-- a fault of the host's own making, by the host's name for it -/
  | hosted (name message : String)
  deriving DecidableEq

namespace Fault

/-- The reason that the library states, where it states one. -/
def message : Fault → Option String
  | noTemplate key => s!"No message template named '{key}'"
  | emptyErrorMessage => "HarloweError.create() needs a non-empty message string"
  | unexplainedKind kind =>
    s!"HarloweError.create() called with unknown kind '{kind}' and no explanation"
  | badName typeText => s!"Datamap key must be a str or a number, not {typeText}"
  | clashingName message => message
  | printedError debugText => s!"to_source() can't print an error value: {debugText}"
  | unknownClause name => s!"Unknown lambda clause type '{name}'"
  | clauseNotText clause typeText =>
    s!"Lambda '{clause}' clause must be expression text, not {typeText}"
  | badVariableName debugText => s!"TypedVar name must be a non-empty str, not {debugText}"
  | restNotLast => "A rest entry must be the last entry of a macro signature"
  | frozenRegistry => "Macros can't be registered after the registry is frozen"
  | macroExists name => s!"A macro named '{name}' is already registered"
  | mutationExists name => s!"A changer mutation for '{name}' is already registered"
  | noMutation name => s!"No changer mutation registered for '{name}'"
  | hosted _ message => message
  | _ => none

/-- What is said of a fault when a story has to hear of it. -/
def text : Fault → String
  | integerTooLarge => "int too large to convert to float"
  | integerTooLong =>
    "Exceeds the limit (4300 digits) for integer string conversion; " ++
      "use sys.set_int_max_str_digits() to increase the limit"
  | quotientTooLarge => "integer division result too large for a float"
  | infiniteToInteger => "cannot convert float infinity to integer"
  | nanToInteger => "cannot convert float NaN to integer"
  | sequenceTooLong => "Python int too large to convert to C ssize_t"
  | repetitionTooLarge => "the repetition number is too large"
  | divisionByZero text | missingPosition text | badOperand text | noSuchPart text
  | malformedTemplate text => text
  | missingKey key => s!"'{key}'"
  | noneListed => "StopIteration"
  | hosted name message => if message = "" then name else message
  | f => f.message.getD ""

end Fault

end StoryValues
