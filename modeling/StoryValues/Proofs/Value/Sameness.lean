import Mathlib.Data.List.Forall2
import StoryValues.Value.Equality

/-
  SAMENESS of the data that values are made of.  Numbers, names, datatypes, typed variables, colours,
  gradients and sets of hook names each have a test for two of them being the same.  Each test is an
  equivalence: on everything it is symmetric and transitive, and it is reflexive on all but what holds a
  double that is no number.
-/

namespace StoryValues

/-! ## Numbers -/

namespace Number

variable {a b c : Number}

/-- Two numbers have one value iff both are numbers, on the same side of all finite ones, and of as many units.  All
laws of the comparison are read off from this. -/
theorem sameValue_iff : a.sameValue b = true ↔
    a.isNumber = true ∧ b.isNumber = true ∧ a.side = b.side ∧ a.units = b.units := by
  simp only [sameValue, Bool.and_eq_true, beq_iff_eq, and_assoc]

/-- A number has the value of itself; the double that is no number does not. -/
theorem sameValue_refl (h : a.isNumber = true) : a.sameValue a = true :=
  sameValue_iff.mpr ⟨h, h, rfl, rfl⟩

/-- Having one value does not depend on the side. -/
theorem sameValue_symm (h : a.sameValue b = true) : b.sameValue a = true := by
  obtain ⟨ha, hb, hside, hunits⟩ := sameValue_iff.mp h
  exact sameValue_iff.mpr ⟨hb, ha, hside.symm, hunits.symm⟩

/-- Having one value goes through a third number, of whichever kind each of them is, because nothing is rounded. -/
theorem sameValue_trans (hab : a.sameValue b = true) (hbc : b.sameValue c = true) :
    a.sameValue c = true := by
  obtain ⟨ha, _, hside, hunits⟩ := sameValue_iff.mp hab
  obtain ⟨_, hc, hside', hunits'⟩ := sameValue_iff.mp hbc
  exact sameValue_iff.mpr ⟨ha, hc, hside.trans hside', hunits.trans hunits'⟩

/-- Numbers are the same datum if they have one value, or are one and the same that is no number.  The second is how
an object is found where it is looked for, though it is not equal to itself. -/
theorem sameDatum_iff : a.sameDatum b = true ↔
    a.sameValue b = true ∨ a.isNumber = false ∧ a = b := by
  simp only [sameDatum, Bool.or_eq_true, Bool.and_eq_true, Bool.not_eq_true', beq_iff_eq]

/-- Being the same datum is an equivalence on all numbers, among them the one that is no number. -/
theorem sameDatum_equivalence : Equivalence fun a b : Number => a.sameDatum b = true where
  refl a := by
    rw [sameDatum_iff]
    cases h : a.isNumber with
    | true => exact Or.inl (sameValue_refl h)
    | false => exact Or.inr ⟨rfl, rfl⟩
  symm h := by
    rcases sameDatum_iff.mp h with h | ⟨ha, rfl⟩
    · exact sameDatum_iff.mpr (Or.inl (sameValue_symm h))
    · exact sameDatum_iff.mpr (Or.inr ⟨ha, rfl⟩)
  trans hab hbc := by
    rcases sameDatum_iff.mp hab with hab' | ⟨_, rfl⟩
    · rcases sameDatum_iff.mp hbc with hbc | ⟨_, rfl⟩
      · exact sameDatum_iff.mpr (Or.inl (sameValue_trans hab' hbc))
      · exact hab
    · exact hbc

end Number

/-! ## Names -/

namespace Name

/-- A name that is no double without a number. -/
def Proper : Name → Prop
  | .text _ => True
  | .number n => n.isNumber = true

variable {a b c : Name}

/-- A name is the same as itself, if it is not the double that is no number. -/
theorem same_refl (h : a.Proper) : a.same a = true := by
  cases a with
  | text s => simp [same]
  | number n => exact Number.sameValue_refl h

/-- Being the same name does not depend on the side. -/
theorem same_symm (h : a.same b = true) : b.same a = true := by
  cases a with
  | text s =>
    cases b with
    | text t =>
      simp only [same, beq_iff_eq] at h ⊢
      exact h.symm
    | number n => exact absurd h (by simp [same])
  | number m =>
    cases b with
    | text t => exact absurd h (by simp [same])
    | number n => exact Number.sameValue_symm h

/-- Being the same name goes through a third. -/
theorem same_trans (hab : a.same b = true) (hbc : b.same c = true) : a.same c = true := by
  cases b with
  | text t =>
    cases a with
    | text s =>
      simp only [same, beq_iff_eq] at hab
      exact hab ▸ hbc
    | number n => exact absurd hab (by simp [same])
  | number n =>
    cases a with
    | text s => exact absurd hab (by simp [same])
    | number m =>
      cases c with
      | text t => exact absurd hbc (by simp [same])
      | number k => exact Number.sameValue_trans hab hbc

end Name

/-! ## Datatypes -/

/-- Sameness of datatypes is an equivalence: patterns are compared by their source and by whether letter case matters,
the others by name. -/
theorem Datatype.same_equivalence : Equivalence fun d e : Datatype => d.same e = true where
  refl := Datatype.same_refl
  symm {d e} h := by
    cases d <;> cases e <;> simp only [Datatype.same, Bool.and_eq_true, beq_iff_eq] at h ⊢
    · exact ⟨h.1.symm, h.2.symm⟩
    · exact absurd h (by decide)
    · exact absurd h (by decide)
    · exact ⟨h.1.symm, h.2.symm⟩
  trans {d e f} hde hef := by
    cases d <;> cases e <;> simp only [Datatype.same, Bool.and_eq_true, beq_iff_eq] at hde
    · obtain ⟨rfl, rfl⟩ := hde
      exact hef
    · exact absurd hde (by decide)
    · exact absurd hde (by decide)
    · cases f <;> simp only [Datatype.same, Bool.and_eq_true, beq_iff_eq] at hef ⊢
      · exact absurd hef (by decide)
      · exact ⟨hde.1.trans hef.1, hde.2.trans hef.2⟩

/-- So is that of typed variables, by name, datatype and dots. -/
theorem TypedVar.same_equivalence : Equivalence fun v w : TypedVar => v.same w = true where
  refl v := by
    simp only [TypedVar.same, beq_self_eq_true, Bool.true_and]
    exact Datatype.same_equivalence.refl v.datatype
  symm h := by
    simp only [TypedVar.same, Bool.and_eq_true, beq_iff_eq] at h ⊢
    exact ⟨⟨h.1.1.symm, h.1.2.symm⟩, Datatype.same_equivalence.symm h.2⟩
  trans hvw hwx := by
    simp only [TypedVar.same, Bool.and_eq_true, beq_iff_eq] at hvw hwx ⊢
    exact ⟨⟨hwx.1.1.trans hvw.1.1, hwx.1.2.trans hvw.1.2⟩,
      Datatype.same_equivalence.trans hvw.2 hwx.2⟩

/-! ## Colours and gradients -/

/-- So is that of colours, channel by channel, where a channel that is no number is the same as itself. -/
theorem Colour.same_equivalence : Equivalence fun c d : Colour => c.same d = true where
  refl c := by
    simp only [Colour.same, Bool.and_eq_true]
    exact ⟨⟨⟨Number.sameDatum_equivalence.refl _, Number.sameDatum_equivalence.refl _⟩,
      Number.sameDatum_equivalence.refl _⟩, Number.sameDatum_equivalence.refl _⟩
  symm h := by
    simp only [Colour.same, Bool.and_eq_true] at h ⊢
    obtain ⟨⟨⟨hred, hgreen⟩, hblue⟩, halpha⟩ := h
    exact ⟨⟨⟨Number.sameDatum_equivalence.symm hred, Number.sameDatum_equivalence.symm hgreen⟩,
      Number.sameDatum_equivalence.symm hblue⟩, Number.sameDatum_equivalence.symm halpha⟩
  trans h h' := by
    simp only [Colour.same, Bool.and_eq_true] at h h' ⊢
    obtain ⟨⟨⟨hred, hgreen⟩, hblue⟩, halpha⟩ := h
    obtain ⟨⟨⟨hred', hgreen'⟩, hblue'⟩, halpha'⟩ := h'
    exact ⟨⟨⟨Number.sameDatum_equivalence.trans hred hred',
      Number.sameDatum_equivalence.trans hgreen hgreen'⟩,
      Number.sameDatum_equivalence.trans hblue hblue'⟩,
      Number.sameDatum_equivalence.trans halpha halpha'⟩

/-- Lists that agree place by place, the places of the second with those of a third.  Agreement has to be passed on
only between members of these lists. -/
theorem forall₂_trans {α β γ : Type} {R : α → β → Prop} {S : β → γ → Prop} {T : α → γ → Prop}
    {xs : List α} {ys : List β} {zs : List γ}
    (h : ∀ x ∈ xs, ∀ y ∈ ys, ∀ z ∈ zs, R x y → S y z → T x z)
    (hxy : List.Forall₂ R xs ys) (hyz : List.Forall₂ S ys zs) : List.Forall₂ T xs zs := by
  induction hxy generalizing zs with
  | nil =>
    cases hyz
    exact .nil
  | @cons x y xs ys hR _ ih =>
    cases hyz with
    | @cons _ z _ zs hS hyz =>
      refine .cons (h x List.mem_cons_self y List.mem_cons_self z List.mem_cons_self hR hS) (ih ?_ hyz)
      intro x' hx' y' hy' z' hz'
      exact h x' (List.mem_cons_of_mem x hx') y' (List.mem_cons_of_mem y hy') z'
        (List.mem_cons_of_mem z hz')

/-- Agreement place by place can be turned round, if it can be for members of these lists. -/
theorem forall₂_symm {α β : Type} {R : α → β → Prop} {S : β → α → Prop} {xs : List α} {ys : List β}
    (h : ∀ x ∈ xs, ∀ y ∈ ys, R x y → S y x) (hxy : List.Forall₂ R xs ys) : List.Forall₂ S ys xs := by
  induction hxy with
  | nil => exact .nil
  | @cons x y xs ys hR _ ih =>
    refine .cons (h x List.mem_cons_self y List.mem_cons_self hR) (ih ?_)
    intro x' hx' y' hy'
    exact h x' (List.mem_cons_of_mem x hx') y' (List.mem_cons_of_mem y hy')

namespace Gradient

/-- A gradient all of whose numbers along the line are numbers. -/
def Proper (g : Gradient) : Prop := g.angle.isNumber = true ∧ ∀ s ∈ g.stops, s.1.isNumber = true

variable {g h k : Gradient}

/-- Gradients are the same iff their angles have one value and their stops agree in place and colour, one after
another. -/
theorem same_iff : g.same h = true ↔ g.angle.sameValue h.angle = true ∧
    List.Forall₂ (fun s t => s.1.sameValue t.1 = true ∧ s.2.same t.2 = true) g.stops h.stops := by
  simp only [same, Bool.and_eq_true, beq_iff_eq, List.all_eq_true, List.forall₂_iff_zip, and_assoc,
    Prod.forall]

/-- A gradient is the same as itself, if its angle and the places of its stops are numbers. -/
theorem same_refl (hg : g.Proper) : g.same g = true := by
  refine same_iff.mpr ⟨Number.sameValue_refl hg.1, List.forall₂_same.mpr fun s hs => ?_⟩
  exact ⟨Number.sameValue_refl (hg.2 s hs), Colour.same_equivalence.refl s.2⟩

/-- Sameness of gradients does not depend on the side. -/
theorem same_symm (hgh : g.same h = true) : h.same g = true := by
  obtain ⟨hangle, hstops⟩ := same_iff.mp hgh
  refine same_iff.mpr ⟨Number.sameValue_symm hangle, forall₂_symm (fun s _ t _ hst => ?_) hstops⟩
  exact ⟨Number.sameValue_symm hst.1, Colour.same_equivalence.symm hst.2⟩

/-- And it goes through a third. -/
theorem same_trans (hgh : g.same h = true) (hhk : h.same k = true) : g.same k = true := by
  obtain ⟨hangle, hstops⟩ := same_iff.mp hgh
  obtain ⟨hangle', hstops'⟩ := same_iff.mp hhk
  refine same_iff.mpr ⟨Number.sameValue_trans hangle hangle',
    forall₂_trans (fun s _ t _ u _ hst htu => ?_) hstops hstops'⟩
  exact ⟨Number.sameValue_trans hst.1 htu.1, Colour.same_equivalence.trans hst.2 htu.2⟩

end Gradient

/-! ## Hook names -/

/-- Hook sets are the same iff they have the same names, in whatever order and however often. -/
theorem sameHooks_iff {ns ms : List String} :
    sameHooks ns ms = true ↔ ∀ name, name ∈ ns ↔ name ∈ ms := by
  simp only [sameHooks, Bool.and_eq_true, List.all_eq_true, List.contains_iff_mem]
  exact ⟨fun h name => ⟨h.1 name, h.2 name⟩, fun h => ⟨fun name => (h name).mp, fun name => (h name).mpr⟩⟩

/-- So their sameness is an equivalence. -/
theorem sameHooks_equivalence : Equivalence fun ns ms => sameHooks ns ms = true where
  refl _ := sameHooks_iff.mpr fun _ => Iff.rfl
  symm h := sameHooks_iff.mpr fun name => (sameHooks_iff.mp h name).symm
  trans h h' := sameHooks_iff.mpr fun name => (sameHooks_iff.mp h name).trans (sameHooks_iff.mp h' name)

end StoryValues
