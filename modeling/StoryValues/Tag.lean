/-
  IDENTITY.  Most story data is compared by what it holds.  A few kinds (errors, lambdas, deferred
  calls, custom macros, and a number that is no number) are compared by *which* datum they are, and
  two kinds (datamaps and datasets) can be changed in place wherever they are held.  Both need a
  name for the datum itself, apart from its contents.  That name is a **tag**.

  A datum that nobody has named yet has no tag: two such data are told apart only by contents.
  Whoever stores or hands out data names it first, so that later comparisons see its identity.
-/

namespace StoryValues

/-- The name of one datum among those that look alike, or `none` while it is unnamed. -/
abbrev Tag := Option Nat

end StoryValues
