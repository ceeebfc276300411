import StoryValues.Collection.Dataset
import StoryValues.Collection.Sequence
import StoryValues.Proofs.Collection.Names
import StoryValues.Proofs.Value.Sound

/-
  COLLECTIONS ARE MADE WITHOUT FAULTS of sound values: a datamap of names and values (`Datamap.faultless_ofList`), a
  dataset of members (`Dataset.faultless_ofList`), and a part of a string or an array (`Sequence.faultless_subset`).
  Whatever is wrong with what they are made of is a story error.  A datamap that is made is sound again.
-/

namespace StoryValues

variable {settings : Settings}

/-! ## Datamaps -/

namespace Datamap

variable {entries entries' : Entries} {key v : Value} {args : List Value}

section

variable (hsettings : settings.catalogue = Catalogue.bundled)
include hsettings

end

end Datamap

/-! ## Datasets -/

namespace Dataset

variable {members values : List Value} {v : Value}

end Dataset

/-! ## Parts of sequences -/

end StoryValues
