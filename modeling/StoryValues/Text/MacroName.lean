import StoryValues.Text.Case

/-
  NAMES WITHOUT REGARD TO CASE, HYPHENS AND UNDERSCORES.  Macros and listed options are found under
  any spelling that agrees with theirs up to these differences.
-/

namespace StoryValues

/-- The form in which names are compared: lower case, without hyphens and underscores. -/
def insensitiveName (name : String) : String :=
  String.ofList ((Case.lower name).toList.filter fun c => c != '-' && c != '_')

example : insensitiveName "Text-Style" = insensitiveName "TEXT_style" := by decide +kernel

end StoryValues
