import StoryValues.Changer
import StoryValues.Colour.Gradient
import StoryValues.Proofs.Value.Copying
import StoryValues.Proofs.Value.Equality

/-
  COPIES BY KIND.  Each kind of value has a copy of its own: a collection is made again from what it holds, a chain by
  composing it with nothing, a colour from its channels, and a gradient from its stops, which are sorted once more.  All
  other values are their own copies.

  1. **One rule for all** (`copy_eq_clone`) — but for the tag of a collection, all this leaves a value as it is.  For a
     gradient this is so because its stops are in order already (`Gradient.Ordered`), as they are in any gradient that
     was made of stops at numbers (`Gradient.ordered_ofStops`).
  2. **Tags play no part** when values are compared (`equals_clone`) or printed (`print_clone`).
-/

namespace StoryValues

/-! ## Gradients in order -/

namespace Number

/-- Whether a number stands at another or in front of it, by side and units alone.  This orders what is no number
as well. -/
def upTo (a b : Number) : Bool := decide (a.side < b.side ∨ a.side = b.side ∧ a.units ≤ b.units)

/-- The order in which stops are sorted is transitive. -/
theorem upTo_trans (a b c : Number) (hab : a.upTo b = true) (hbc : b.upTo c = true) : a.upTo c = true := by
  simp only [upTo, decide_eq_true_eq] at hab hbc ⊢
  omega

/-- Of two numbers one stands up to the other.  With `upTo_trans` stops can be sorted by it, among them any at what is
no number. -/
theorem upTo_total (a b : Number) : (a.upTo b || b.upTo a) = true := by
  simp only [upTo, Bool.or_eq_true, decide_eq_true_eq]
  omega

/-- Of two numbers, the second is not less than the first iff the first stands up to it. -/
theorem not_lt_eq_upTo {a b : Number} (ha : a.isNumber = true) (hb : b.isNumber = true) : (!b.lt a) = a.upTo b := by
  rw [lt, upTo, ha, hb, Bool.eq_iff_iff]
  simp only [Bool.true_and, Bool.not_eq_true', Bool.or_eq_false_iff, Bool.and_eq_false_iff, decide_eq_false_iff_not,
    beq_eq_false_iff_ne, decide_eq_true_eq]
  omega

end Number

namespace Gradient

/-- The stops of a gradient are in order: none comes before one in front of it. -/
def Ordered (g : Gradient) : Prop := g.stops.Pairwise fun s t => t.1.lt s.1 = false

/-- **A gradient made of stops at numbers** has them in order. -/
theorem ordered_ofStops (angle : Number) {stops : List (Number × Colour)} (h : ∀ s ∈ stops, s.1.isNumber = true) :
    (ofStops angle stops).Ordered := by
  have hupTo : ∀ s ∈ stops, ∀ t ∈ stops, (!t.1.lt s.1) = s.1.upTo t.1 :=
    fun s hs t ht => Number.not_lt_eq_upTo (h s hs) (h t ht)
  have hsorted : (ofStops angle stops).stops = stops.mergeSort fun s t => s.1.upTo t.1 := by
    have hmap : (stops.mergeSort fun s t => !t.1.lt s.1).map id = (stops.map id).mergeSort fun s t => s.1.upTo t.1 :=
      List.map_mergeSort hupTo
    rwa [List.map_id, List.map_id] at hmap
  have hpairwise : (ofStops angle stops).stops.Pairwise fun s t => s.1.upTo t.1 = true :=
    hsorted ▸ List.pairwise_mergeSort (fun s t u => Number.upTo_trans s.1 t.1 u.1)
      (fun s t => Number.upTo_total s.1 t.1) stops
  refine hpairwise.imp_of_mem fun {s t} hs ht hst => ?_
  have hmem : ∀ s ∈ (ofStops angle stops).stops, s ∈ stops := fun s hs => (perm_ofStops angle stops).mem_iff.mp hs
  rw [← hupTo s (hmem s hs) t (hmem t ht), Bool.not_eq_true'] at hst
  exact hst

/-- **Stops in order stay** when the gradient is made of them again, because the sort is stable. -/
theorem Ordered.ofStops_eq {g : Gradient} (h : g.Ordered) : ofStops g.angle g.stops = g := by
  have hsame : g.stops.mergeSort (fun s t => !t.1.lt s.1) = g.stops :=
    List.mergeSort_of_pairwise (h.imp fun hst => by rw [hst]; rfl)
  rw [ofStops, hsame]

end Gradient

namespace Value

/-! ## Copies -/

/-- A colour made of the channels of another. -/
def copyColour (c : Colour) : Colour := ⟨c.red, c.green, c.blue, c.alpha⟩

/-- **The copy of a value**, as its kind makes it. -/
def copy : Value → Value
  | .array items => .array items
  | .datamap _ entries => .datamap none entries
  | .dataset _ members => .dataset none members
  | .changer nodes => .changer (Changer.compose nodes [])
  | .colour c => .colour (copyColour c)
  | .gradient g => .gradient (Gradient.ofStops g.angle (g.stops.map fun s => (s.1, copyColour s.2)))
  | v => v

/-- A value that is no gradient, or is one whose stops are in order. -/
def InOrder (v : Value) : Prop := ∀ g, v = .gradient g → g.Ordered

/-- A value that is no gradient, or is one that was made of an angle and stops. -/
def Made (v : Value) : Prop := ∀ g, v = .gradient g → ∃ angle stops, g = Gradient.ofStops angle stops

/-- Gradients that were made are in order, when their stops are at numbers. -/
theorem Made.inOrder {v : Value} (h : v.Made) (hproper : v.Proper) : v.InOrder := by
  rintro g rfl
  obtain ⟨angle, stops, rfl⟩ := h g rfl
  have hnumbers : ∀ s ∈ stops, s.1.isNumber = true :=
    fun s hs => hproper.2 s ((Gradient.perm_ofStops angle stops).mem_iff.mpr hs)
  exact Gradient.ordered_ofStops angle hnumbers

/-- **All kinds of copies are one:** a value without the tag of its own.  There is one case for each kind, and only
that of gradients needs what is asked of the value. -/
theorem copy_eq_clone {v : Value} (h : v.InOrder) : v.copy = v.clone := by
  cases v with
  | changer nodes =>
    have hcompose : Changer.compose nodes [] = nodes := by
      rw [Changer.compose, List.foldl_reverse, List.foldr_cons_nil]
    exact congrArg Value.changer hcompose
  | gradient g =>
    have hstops : (g.stops.map fun s => (s.1, copyColour s.2)) = g.stops := List.map_id g.stops
    rw [copy, hstops, (h g rfl).ofStops_eq]
    rfl
  | _ => rfl

/-- A copy is compared like the value. -/
theorem equals_clone (v w : Value) : equals v.clone w = equals v w := by
  cases v with
  | datamap tag entries => cases w <;> rw [clone, equals.eq_def, equals.eq_def (datamap tag entries)] <;> rfl
  | dataset tag members => cases w <;> rw [clone, equals.eq_def, equals.eq_def (dataset tag members)] <;> rfl
  | _ => rfl

/-- A copy is printed like the value. -/
theorem print_clone (v : Value) : v.clone.print = v.print := by
  cases v with
  | datamap tag entries => rw [clone, print, print]
  | dataset tag members => rw [clone, print, print]
  | _ => rfl

/-- So it has the same source. -/
theorem source_clone (v : Value) : v.clone.source = v.source := by
  rw [source, source, print_clone]
  cases v <;> rfl

end Value

end StoryValues
