import StoryValues.Proofs.Check
import StoryValues.Proofs.Pattern.Spans
import StoryValues.Pattern.Build

/-
  BOUNDS that a repetition was built with are bounds that a matcher can count by.

  An author writes a bound as any number: an integer, or a double such as `2.0`.  A matcher counts in
  whole turns.  Building a repetition checks that each bound is a **count**, a number with the value of
  a natural number, and that they are in order; an infinite upper bound is none.  So what the author's
  numbers admit, compared as numbers, is what the matcher's turns allow (`WellMade.countable`), and
  where the limit on bounds is one that a matcher can count up to, so are they all.
-/

namespace StoryValues

/-! ## Counts -/

/-- A number is the count `m` when its value is `m`, whichever kind of number it is. -/
structure Number.IsCount (x : Number) (m : Nat) : Prop where
  isNumber : x.isNumber = true
  side : x.side = 0
  units : x.units = m * Double.unitsPerOne
  truncate : x.truncate = m

namespace Number

/-- One is some units, so dividing by them keeps the order. -/
theorem unitsPerOne_pos : (0 : Int) < Double.unitsPerOne := Int.natCast_pos.mpr (twoTo_pos 1074)

/-- A natural number is its own count. -/
theorem isCount_ofNat (m : Nat) : (Number.int m).IsCount m := ⟨rfl, rfl, rfl, rfl⟩

variable {x y : Number} {a b : Nat}

/-- Finite numbers are in the order of their values, integers and doubles alike, for both are written in the same
units. -/
theorem lt_iff_units (hx : x.isNumber = true) (hy : y.isNumber = true) (hsx : x.side = 0)
    (hsy : y.side = 0) : x.lt y = true ↔ x.units < y.units := by
  simp only [lt, hx, hy, hsx, hsy, Bool.and_self, Bool.true_and, beq_self_eq_true, Bool.or_eq_true,
    decide_eq_true_eq, Int.lt_irrefl, false_or]

/-- An integer is below a count iff it is below it as an integer, whichever kind of number the count is. -/
theorem IsCount.int_lt_iff (hy : y.IsCount b) (z : Int) : (Number.int z).lt y = true ↔ z < b := by
  rw [lt_iff_units rfl hy.isNumber rfl hy.side, hy.units]
  exact Int.mul_lt_mul_right unitsPerOne_pos

/-- Counts are compared as natural numbers. -/
theorem IsCount.lt_iff (hx : x.IsCount a) (hy : y.IsCount b) : x.lt y = true ↔ a < b := by
  rw [lt_iff_units hx.isNumber hy.isNumber hx.side hy.side, hx.units, hy.units,
    Int.mul_lt_mul_right unitsPerOne_pos, Int.ofNat_lt]

/-- Counts have one value iff they are the same count. -/
theorem IsCount.sameValue_iff (hx : x.IsCount a) (hy : y.IsCount b) :
    x.sameValue y = true ↔ a = b := by
  have hpos := unitsPerOne_pos
  have hu : x.units = y.units ↔ a = b := by
    rw [hx.units, hy.units, Int.mul_eq_mul_right_iff (Int.ne_of_gt hpos), Int.ofNat_inj]
  simp only [sameValue, hx.isNumber, hy.isNumber, hx.side, hy.side, Bool.and_self, Bool.true_and,
    beq_self_eq_true, beq_iff_eq, hu]

/-- And they are in order iff they are so as natural numbers. -/
theorem IsCount.le_iff (hx : x.IsCount a) (hy : y.IsCount b) : x.le y = true ↔ a ≤ b := by
  rw [le, Bool.or_eq_true, hx.lt_iff hy, hx.sameValue_iff hy]
  omega

/-- No count is infinite. -/
theorem IsCount.isInfinite (hx : x.IsCount a) : x.isInfinite = false := by
  cases x with
  | int n => rfl
  | real d =>
    cases d with
    | finite => rfl
    | nan => rfl
    | infinite negative =>
      have hs := hx.side
      cases negative <;> exact absurd hs (by decide)

/-- A finite number that is not below zero has no negative value. -/
theorem units_nonneg (hnum : x.isNumber = true) (hside : x.side = 0)
    (hneg : x.lt (.int 0) = false) : 0 ≤ x.units := by
  rcases Int.lt_or_le x.units 0 with hlt | hle
  · have hzero : (Number.int 0).units = 0 := Int.zero_mul _
    have hlt' : x.lt (.int 0) = true := (lt_iff_units hnum rfl hside rfl).mpr (by rw [hzero]; exact hlt)
    rw [hneg] at hlt'
    exact absurd hlt' (by simp)
  · exact hle

/-- A number that is whole and not below zero is a count.  This is all that the check of a bound asks, so it is how
bounds become counts. -/
theorem exists_isCount (hnum : x.isNumber = true) (hneg : x.lt (.int 0) = false)
    (hwhole : x.isWhole = .ok true) : ∃ m, x.IsCount m := by
  have hpos := unitsPerOne_pos
  cases x with
  | int n =>
    have hu : 0 ≤ n * (Double.unitsPerOne : Int) := units_nonneg hnum rfl hneg
    have hn : 0 ≤ n := Int.nonneg_of_mul_nonneg_left hu hpos
    obtain ⟨m, rfl⟩ := Int.eq_ofNat_of_zero_le hn
    exact ⟨m, isCount_ofNat m⟩
  | real d =>
    have hw : d.isWhole = true := by
      have hmap : (Except.ok d.isWhole : Except Fault Bool) = .ok true := hwhole
      rwa [Except.ok.injEq] at hmap
    cases d with
    | infinite negative => exact absurd hw (by simp [Double.isWhole])
    | nan tag => exact absurd hw (by simp [Double.isWhole])
    | finite negative e f =>
      have hu : 0 ≤ (Double.finite negative e f).units := units_nonneg hnum rfl hneg
      -- a double is whole when its units are a multiple of those of one
      have hdiv : (Double.unitsPerOne : Int) ∣ (Double.finite negative e f).units :=
        Int.dvd_of_emod_eq_zero (of_decide_eq_true hw)
      obtain ⟨q, hq⟩ := hdiv
      have hq0 : 0 ≤ q := Int.nonneg_of_mul_nonneg_right (hq ▸ hu) hpos
      obtain ⟨m, rfl⟩ := Int.eq_ofNat_of_zero_le hq0
      refine ⟨m, hnum, rfl, ?_, ?_⟩
      · show (Double.finite negative e f).units = m * Double.unitsPerOne
        rw [hq, Int.mul_comm]
      · show (Double.finite negative e f).units.tdiv Double.unitsPerOne = m
        rw [hq]
        exact Int.mul_tdiv_cancel_left _ (Int.ne_of_gt hpos)

/-- An infinite number above zero is above every count. -/
theorem le_of_isInfinite (hinf : x.isInfinite = true) (hpos : Number.lt (.int 0) x = true) (n : Nat) :
    (Number.int n).le x = true := by
  cases x with
  | int m => exact absurd hinf (by simp [isInfinite])
  | real d =>
    cases d with
    | finite => exact absurd hinf (by simp [isInfinite, Double.isInfinite])
    | nan => exact absurd hinf (by simp [isInfinite, Double.isInfinite])
    | infinite negative =>
      cases negative with
      | true => exact absurd hpos (by decide)
      | false => rfl

end Number

/-! ## Bounds of counts -/

namespace Bounds

/-- Bounds of counts up to a limit and in order, the upper one perhaps without end. -/
def WellMade (limit : Int) : Bounds → Prop
  | once => True
  | atLeast min => ∃ a : Nat, min.IsCount a ∧ a ≤ limit
  | between min max =>
    ∃ a : Nat, min.IsCount a ∧ a ≤ limit ∧ ((max.isInfinite = true ∧ Number.lt (.int 0) max = true) ∨
      ∃ b : Nat, max.IsCount b ∧ b ≤ limit ∧ a ≤ b)

variable {limit : Int}

/-- A count written as any number is truncated to itself. -/
theorem least_of_isCount {min : Number} {a : Nat} (h : min.IsCount a) : min.truncate.toNat = a := by
  rw [h.truncate, Int.toNat_natCast]

/-- Where there is no most, no number of turns is too many. -/
theorem le_most_of_none {b : Bounds} (h : b.most = none) (n : Nat) : ∀ m, b.most = some m → n ≤ m := by
  intro m hm
  rw [h] at hm
  exact absurd hm (by simp)

/-- What well-made bounds admit, as numbers, is what a matcher counts.  An upper bound without end is above every
number of turns. -/
theorem WellMade.countable {b : Bounds} (h : b.WellMade limit) : b.Countable := by
  cases b with
  | once =>
    refine ⟨fun n => ?_, le_most_of_none rfl _⟩
    constructor
    · intro hn
      exact ⟨hn, le_most_of_none rfl n⟩
    · intro hn
      exact hn.1
  | atLeast min =>
    obtain ⟨a, ha, _⟩ := h
    refine ⟨fun n => ?_, le_most_of_none rfl _⟩
    rw [Admits, least, least_of_isCount ha, ha.le_iff (Number.isCount_ofNat n)]
    constructor
    · intro hn
      exact ⟨hn, le_most_of_none rfl n⟩
    · intro hn
      exact hn.1
  | between min max =>
    obtain ⟨a, ha, _, ⟨hinf, hpos⟩ | ⟨c, hc, _, hac⟩⟩ := h
    · -- an infinite upper bound is above every number, and there is no greatest number of turns
      have hmost : most (.between min max) = none := if_pos hinf
      refine ⟨fun n => ?_, le_most_of_none hmost _⟩
      rw [Admits, least, least_of_isCount ha, ha.le_iff (Number.isCount_ofNat n)]
      constructor
      · intro hn
        exact ⟨hn.1, le_most_of_none hmost n⟩
      · intro hn
        exact ⟨hn.1, Number.le_of_isInfinite hinf hpos n⟩
    · -- a finite one is a count as well, and is compared as one
      have hmost : most (.between min max) = some c := by
        rw [most, hc.isInfinite, least_of_isCount hc]
        rfl
      refine ⟨fun n => ?_, fun m hm => ?_⟩
      · rw [Admits, least, least_of_isCount ha, ha.le_iff (Number.isCount_ofNat n),
          (Number.isCount_ofNat n).le_iff hc, hmost]
        simp only [Option.some.injEq, forall_eq']
      · rw [hmost, Option.some.injEq] at hm
        rw [least, least_of_isCount ha]
        omega

/-- Well-made bounds can be counted up to, where their limit can: they are no larger. -/
theorem WellMade.overflows_eq_false {b : Bounds} (h : b.WellMade limit) (hlimit : limit < tooMany) :
    b.overflows = false := by
  have hsmall : ∀ m : Nat, (m : Int) ≤ limit → ¬ tooMany ≤ m := by
    intro m hm
    omega
  cases b with
  | once => decide
  | atLeast min =>
    obtain ⟨a, ha, hal⟩ := h
    rw [overflows, least, least_of_isCount ha, decide_eq_false (hsmall a hal)]
    rfl
  | between min max =>
    obtain ⟨a, ha, hal, ⟨hinf, _⟩ | ⟨c, hc, hcl, _⟩⟩ := h
    · rw [overflows, least, least_of_isCount ha, decide_eq_false (hsmall a hal), most, if_pos hinf]
      rfl
    · rw [overflows, least, least_of_isCount ha, decide_eq_false (hsmall a hal), most, hc.isInfinite,
        if_neg (by decide), least_of_isCount hc, Option.any_some, decide_eq_false (hsmall c hcl)]
      rfl

end Bounds

/-! ## Building a repetition -/

namespace Pattern

/-- A number is taken from the front, and it is one that can be compared. -/
theorem eq_cons_of_takeNumber? {args rest : List Value} {n : Number}
    (h : takeNumber? args = some (n, rest)) : n.isNumber = true ∧ args = .number n :: rest := by
  unfold takeNumber? at h
  split at h
  · rename_i m others
    by_cases hm : m.isNumber = true
    · rw [if_pos hm, Option.some.injEq, Prod.mk.injEq] at h
      obtain ⟨rfl, rfl⟩ := h
      exact ⟨hm, rfl⟩
    · rw [if_neg hm] at h
      exact absurd h (by simp)
  · exact absurd h (by simp)

/-- The bounds of a repetition are the numbers in front of the other arguments.  Read from right to left it gives the
arguments back. -/
theorem of_takeBounds {args rest : List Value} {b : Bounds} (h : takeBounds args = (b, rest)) :
    (∀ n ∈ b.numbers, n.isNumber = true) ∧ args = b.numbers.map .number ++ rest := by
  unfold takeBounds at h
  split at h
  · obtain ⟨rfl, rfl⟩ := Prod.mk.inj h
    exact ⟨fun n hn => absurd hn List.not_mem_nil, rfl⟩
  · rename_i min others hmin
    obtain ⟨hminNum, rfl⟩ := eq_cons_of_takeNumber? hmin
    split at h
    · obtain ⟨rfl, rfl⟩ := Prod.mk.inj h
      refine ⟨fun n hn => ?_, rfl⟩
      exact List.mem_singleton.mp hn ▸ hminNum
    · rename_i max others' hmax
      obtain ⟨hmaxNum, rfl⟩ := eq_cons_of_takeNumber? hmax
      obtain ⟨rfl, rfl⟩ := Prod.mk.inj h
      refine ⟨fun n hn => ?_, rfl⟩
      rcases List.mem_cons.mp hn with rfl | hn
      · exact hminNum
      · exact List.mem_singleton.mp hn ▸ hmaxNum

/-- A bound that has been checked is whole, not below zero and not above the limit. -/
theorem of_checkBound {limit : Int} {x : Number} {settings : Settings}
    (h : checkBound limit x settings = .ok ()) :
    x.lt (.int 0) = false ∧ x.isWhole = .ok true ∧ Number.lt (.int limit) x = false := by
  unfold checkBound at h
  by_cases hneg : x.lt (.int 0) = true
  · -- below zero it counts as not whole
    rw [if_pos hneg] at h
    obtain ⟨whole, hw, h⟩ := Check.bind_eq_ok.mp h
    rw [Check.pure_run, Except.ok.injEq] at hw
    subst hw
    exact absurd rfl (Check.of_ite_fail_naming h).1
  · rw [if_neg hneg] at h
    obtain ⟨whole, hw, h⟩ := Check.bind_eq_ok.mp h
    obtain ⟨htrue, h⟩ := Check.of_ite_fail_naming h
    refine ⟨by simpa using hneg, ?_, ?_⟩
    · rw [Check.lift_eq_ok.mp hw]
      simpa using htrue
    · by_cases hlim : Number.lt (.int limit) x = true
      · rw [if_pos hlim] at h
        exact absurd h Check.fail_naming_ne_ok
      · simpa using hlim

/-- Bounds in order: the upper one is not below the lower one. -/
theorem of_checkOrder {min max : Number} {settings : Settings}
    (h : checkOrder (.between min max) settings = .ok ()) : max.lt min = false := by
  change (if max.lt min = true then Check.fail _ _ else pure ()) settings = .ok () at h
  by_cases hlt : max.lt min = true
  · rw [if_pos hlt] at h
    exact absurd h Check.fail_ne_ok
  · simpa using hlt

/-- An upper bound without end limits nothing; all other bounds do. -/
theorem of_limiting {min max : Number} {bounds : List Number}
    (h : limiting (.between min max) = .ok bounds) :
    bounds = if (max.isInfinite && Number.lt (.int 0) max) = true then [min] else [min, max] := by
  change (discard max.toDouble >>= fun _ => pure _) = Except.ok bounds at h
  cases hd : max.toDouble with
  | error f =>
    rw [hd] at h
    exact absurd h (by simp [discard, Functor.discard, Functor.mapConst, Except.map, bind, Except.bind])
  | ok x =>
    rw [hd] at h
    exact (Except.ok.inj h).symm

/-- What `repeated` has checked when it makes a pattern, in order.  The proofs about patterns that were made start
from here and need not open the macro. -/
theorem of_repeated {args : List Value} {d : Datatype} {settings : Settings}
    (h : repeated args settings = .ok d) :
    ∃ b rest bounds, takeBounds args = (b, rest) ∧ limiting b = .ok bounds ∧
      (∀ x ∈ bounds, checkBound settings.repeatLimit x settings = .ok ()) ∧
      checkOrder b settings = .ok () ∧ make (.repeated b) rest settings = .ok d := by
  -- the checks in the order in which they are made
  unfold repeated at h
  generalize ht : takeBounds args = taken at h
  obtain ⟨b, rest⟩ := taken
  obtain ⟨read, hread, h⟩ := Check.bind_eq_ok.mp h
  obtain rfl : settings = read := Except.ok.inj hread
  obtain ⟨bounds, hbounds, h⟩ := Check.bind_eq_ok.mp h
  obtain ⟨_, hloop, h⟩ := Check.bind_eq_ok.mp h
  obtain ⟨_, horder, h⟩ := Check.bind_eq_ok.mp h
  obtain ⟨_, h⟩ := Check.of_ite_fail h
  refine ⟨b, rest, bounds, rfl, Check.lift_eq_ok.mp hbounds, Check.forIn_eq_ok.mp hloop, horder, ?_⟩
  split at h
  · obtain ⟨_, _, h⟩ := Check.bind_eq_ok.mp h
    obtain ⟨_, hbad, _⟩ := Check.bind_eq_ok.mp h
    exact absurd hbad Check.fail_ne_ok
  · obtain ⟨_, _, h⟩ := Check.bind_eq_ok.mp h
    exact h

/-- The bounds of a repetition that was built are counts up to the limit in use, in order.  An upper bound that is
infinite and above zero was not checked as a limit, and needs not be. -/
theorem wellMade_of_repeated {args rest : List Value} {b : Bounds} {bounds : List Number}
    {settings : Settings} (ht : takeBounds args = (b, rest)) (hl : limiting b = .ok bounds)
    (hc : ∀ x ∈ bounds, checkBound settings.repeatLimit x settings = .ok ())
    (ho : checkOrder b settings = .ok ()) : b.WellMade settings.repeatLimit := by
  have hnum := (of_takeBounds ht).1
  have hcount : ∀ x ∈ bounds, x.isNumber = true →
      ∃ m : Nat, x.IsCount m ∧ m ≤ settings.repeatLimit := by
    intro x hx hxn
    obtain ⟨hneg, hwhole, hlim⟩ := of_checkBound (hc x hx)
    obtain ⟨m, hm⟩ := Number.exists_isCount hxn hneg hwhole
    refine ⟨m, hm, ?_⟩
    have hnlt : ¬ settings.repeatLimit < m := by
      rw [← hm.int_lt_iff, hlim]
      simp
    omega
  cases b with
  | once => exact trivial
  | atLeast min =>
    obtain rfl : [min] = bounds := Except.ok.inj hl
    exact hcount min List.mem_cons_self (hnum min List.mem_cons_self)
  | between min max =>
    have hminNum := hnum min List.mem_cons_self
    have hmaxNum := hnum max (List.mem_cons_of_mem min List.mem_cons_self)
    have hbounds := (of_limiting hl).symm
    -- an upper bound without end has not been checked, and need not be
    by_cases hinf : (max.isInfinite && Number.lt (.int 0) max) = true
    · rw [if_pos hinf] at hbounds
      obtain ⟨a, ha, hal⟩ := hcount min (hbounds ▸ List.mem_cons_self) hminNum
      exact ⟨a, ha, hal, Or.inl (Bool.and_eq_true_iff.mp hinf)⟩
    · rw [if_neg hinf] at hbounds
      obtain ⟨a, ha, hal⟩ := hcount min (hbounds ▸ List.mem_cons_self) hminNum
      obtain ⟨c, hc', hcl⟩ := hcount max (hbounds ▸ List.mem_cons_of_mem _ List.mem_cons_self) hmaxNum
      refine ⟨a, ha, hal, Or.inr ⟨c, hc', hcl, ?_⟩⟩
      have hnlt : ¬ c < a := by
        rw [← hc'.lt_iff ha, of_checkOrder ho]
        simp
      omega

end Pattern

end StoryValues
