/-
  RANGES of characters.  A property of characters is carried as a list of closed ranges of code
  points, ascending and apart, as the standard lists it (version 14).  Looking a character up walks
  the list and stops at the first range that ends at or after it.
-/

namespace StoryValues

/-- Closed ranges of code points, ascending and apart. -/
abbrev Ranges := List (Nat × Nat)

namespace Ranges

/-- Whether some range holds the code point. -/
def holds : Ranges → Nat → Bool
  | [], _ => false
  | (first, last) :: rest, n => if n < first then false else if n ≤ last then true else holds rest n

/-- The distance of a code point from the start of its range. -/
def offset? : Ranges → Nat → Option Nat
  | [], _ => none
  | (first, last) :: rest, n =>
    if n < first then none else if n ≤ last then some (n - first) else offset? rest n

/-- Whether every range is in order and ends before the next one begins. -/
def ascending : Ranges → Bool
  | [] => true
  | [(first, last)] => first ≤ last
  | (first, last) :: (next, stop) :: rest =>
    first ≤ last && last < next && ascending ((next, stop) :: rest)

end Ranges

end StoryValues
