import StoryValues.Value.Printing

/-
  WHAT CAN BE STORED.  Typed variables and spread values make sense only in a call.  A value that is
  one, or a collection that holds one directly, is refused wherever values are kept; deeper down no
  one looks.  The members of a dataset are looked at in natural order, and sorting them may fault.
-/

namespace StoryValues

namespace Value

/-- The first value, among this one and its direct members, that cannot be stored. -/
def unstorable? : Value → Except Fault (Option Value)
  | .array items => .ok (items.find? isUnstorable)
  | .dataset _ members => (sorted members).map fun ordered => ordered.find? isUnstorable
  | .datamap _ entries => .ok ((entries.map Prod.snd).find? isUnstorable)
  | v => .ok (if v.isUnstorable then some v else none)

end Value

end StoryValues
