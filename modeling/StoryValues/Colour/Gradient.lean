import StoryValues.Value.Basic

/-
  GRADIENTS keep their stops in order of position; stops at one position keep the order in which they
  were given.
-/

namespace StoryValues

namespace Gradient

/-- The gradient of an angle and its stops, in any order. -/
def ofStops (angle : Number) (stops : List (Number × Colour)) : Gradient where
  angle := angle
  stops := stops.mergeSort fun a b => !b.1.lt a.1

/-- Making a gradient moves its stops and loses none. -/
theorem perm_ofStops (angle : Number) (stops : List (Number × Colour)) :
    (ofStops angle stops).stops.Perm stops :=
  List.mergeSort_perm stops _

end Gradient

end StoryValues
