/-
  SEARCHING TEXT.  Occurrences of one list in another: whether there is one, and how many a scan
  from the left finds when each occurrence begins after the end of the one before.
-/

namespace StoryValues

/-- Whether `part` stands somewhere in a list. -/
def occursIn [BEq α] (part : List α) : List α → Bool
  | [] => part.isEmpty
  | x :: xs => part.isPrefixOf (x :: xs) || occursIn part xs

/-- How many occurrences a scan from the left finds, after skipping `skip` elements. -/
def countFrom [BEq α] (part : List α) : (skip : Nat) → List α → Nat
  | _, [] => 0
  | skip + 1, _ :: xs => countFrom part skip xs
  | 0, x :: xs =>
    if part.isPrefixOf (x :: xs) then 1 + countFrom part (part.length - 1) xs
    else countFrom part 0 xs

/-- How many occurrences of a non-empty part a scan from the left finds, none overlapping. -/
def countOccurrences [BEq α] (part whole : List α) : Nat := countFrom part 0 whole

example : countOccurrences "aa".toList "aaaaa".toList = 2 := by decide

end StoryValues
