import StoryValues.Proofs.World.Faultless

/-
  PATTERNS ARE BUILT WITHOUT FAULTS.  What a pattern is built of may be any values at all, for a value that makes no
  fragment is refused by a story error.  The bounds of a repetition are numbers that have to be asked whether they are
  whole, so there the arguments must be sound (`Pattern.faultless_repeated`, `Run.faultless_buildPattern`).
-/

namespace StoryValues

variable {settings : Settings}

namespace Pattern

/-! ## Bounds -/

section

variable (hsettings : settings.catalogue = Catalogue.bundled)
include hsettings

end

end Pattern

end StoryValues
