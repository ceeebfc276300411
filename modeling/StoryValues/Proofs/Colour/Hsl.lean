import StoryValues.Colour.Hsl
import StoryValues.Proofs.Number.Within
import StoryValues.Proofs.Value.Sound

/-
  COLOURS FROM A HUE, a saturation and a lightness: whatever the hue is, there is a colour for all fractions
  (`Colour.exists_ofHsl`), and it can be written.

  A hue is turned into a double that may be anything, and every channel takes its remainder by one: either that is no
  number and all comparisons with it fail, or it is small.  From there on every operation keeps its result within a
  power of two that is far from the last double (`exists_level`, `exists_levels`), so each channel can be rounded.
-/

namespace StoryValues

/-- A result that is used by a step which has one too. -/
theorem exists_ok_bind {α β : Type} {P : α → Prop} {Q : β → Prop} {r : Except Fault α} {f : α → Except Fault β}
    (hr : ∃ a, r = .ok a ∧ P a) (hf : ∀ a, P a → ∃ b, f a = .ok b ∧ Q b) : ∃ b, (r >>= f) = .ok b ∧ Q b := by
  obtain ⟨a, rfl, ha⟩ := hr
  exact hf a ha

namespace Number

/-! ## Operations on doubles -/

theorem combine_real (exact : Int → Int → Int) (rounded : Double → Double → Double) (x : Double) (n : Number) :
    combine exact rounded (.real x) n = n.toDouble >>= fun y => .ok (.real (rounded x y)) := by
  rw [combine.eq_2 exact rounded (.real x) n nofun]
  -- what the other operand is does not matter, only whether it has a double
  generalize n.toDouble = r
  rfl

theorem div_real {x y : Double} {n : Number} (hn : n.toDouble = .ok y) (hy : (real y).isZero = false) :
    (real x).div n = .ok (.real (x.div y)) := by
  rw [div.eq_2 (.real x) n nofun, hn]
  show (if (real y).isZero = true then _ else (.ok (.real (x.div y)) : Except Fault Number)) = _
  exact if_neg (Bool.eq_false_iff.mp hy)

/-- Two integers whose quotient is finite. -/
theorem div_int {m n : Int} {s : Bool} {e : Fin 2047} {f : Fin (twoTo 52)} (hn : n ≠ 0)
    (h : Double.ofRatio (decide (m < 0) != decide (n < 0)) m.natAbs n.natAbs = .finite s e f) :
    div (.int m) (.int n) = .ok (.real (.finite s e f)) := by
  rw [div, if_neg hn]
  generalize Double.ofRatio (decide (m < 0) != decide (n < 0)) m.natAbs n.natAbs = x at h ⊢
  rw [h]

theorem mod_eq_combine {a b : Number} (hb : b.isZero = false) : a.mod b = combine Int.fmod Double.mod a b := by
  rw [mod, hb]
  rfl

theorem mod_real {x y : Double} (hy : (real y).isZero = false) : (real x).mod (.real y) = .ok (.real (x.mod y)) :=
  (mod_eq_combine hy).trans (combine_real ..)

end Number

namespace Colour

variable {low high hue lightness saturation : Number}

/-! ## Constants -/

theorem within_ratio {num den b : Nat} (hb : b ≤ 1023) (h : num < den * twoTo b) : (ratio num den).Within b :=
  Double.within_ofRatio false hb h

theorem within_one : one.Within 1 := within_ratio (by decide) (by decide)
theorem within_two : two.Within 2 := within_ratio (by decide) (by decide)
theorem within_six : six.Within 3 := within_ratio (by decide) (by decide)
theorem within_twoThirds : twoThirds.Within 2 := within_ratio (by decide) (by decide)

theorem isZero_one : one.isZero = false := by decide +kernel

/-- The degrees of a turn, as a double to divide by. -/
theorem exists_degrees : ∃ y, (Number.int 360).toDouble = .ok y ∧ (Number.real y).isZero = false :=
  ⟨.ofRatio false 360 1, by decide +kernel, by decide +kernel⟩

/-! ## Channels -/

/-- A hue in degrees is some double when it is in turns. -/
theorem exists_turn (hue : Number) :
    ∃ t, (hue.mod (.int 360) >>= fun rest => rest.div (.int 360)) = .ok t ∧ ∃ x, t = .real x := by
  cases hue with
  | int k =>
    have hmod : (Number.int k).mod (.int 360) = .ok (.int (k.fmod 360)) := Number.mod_eq_combine rfl
    have hrest : (k.fmod 360).natAbs < 360 * twoTo 0 := by
      have hnonneg := Int.fmod_nonneg_of_pos k (b := 360) (by decide)
      have hlt := Int.fmod_lt_of_pos k (b := 360) (by decide)
      rw [show twoTo 0 = 1 from rfl]
      omega
    refine exists_ok_bind (P := fun r => r = .int (k.fmod 360)) ⟨_, hmod, rfl⟩ ?_
    rintro _ rfl
    obtain ⟨⟨s, e, f, hx⟩, -⟩ :=
      Double.within_ofRatio (decide (k.fmod 360 < 0) != decide ((360 : Int) < 0)) (by decide) hrest
    exact ⟨_, Number.div_int (by decide) hx, _, rfl⟩
  | real x =>
    obtain ⟨y, hy, hzero⟩ := exists_degrees
    have hmod : (Number.real x).mod (.int 360) = .ok (.real (x.mod y)) := by
      rw [Number.mod_eq_combine rfl, Number.combine_real, hy]
      rfl
    refine exists_ok_bind (P := fun r => r = .real (x.mod y)) ⟨_, hmod, rfl⟩ ?_
    rintro _ rfl
    exact ⟨_, Number.div_real hy hzero, _, rfl⟩

/-- A channel has a level between levels that are not too large, whatever its hue is. -/
theorem exists_level (hlow : low.Within 10) (hhigh : high.Within 10) (x : Double) :
    ∃ r, level low high (.real x) = .ok r ∧ r.Within 30 := by
  have hstep : ∀ {part : Number}, part.Within 5 → ∃ r, (do
      low.add (← (← (← high.sub low).mul part).mul six) : Except Fault Number) = .ok r ∧ r.Within 30 := by
    intro part hpart
    refine exists_ok_bind (hhigh.sub hlow (by decide)) fun span hspan => ?_
    refine exists_ok_bind (hspan.mul hpart (by decide)) fun share hshare => ?_
    refine exists_ok_bind (hshare.mul within_six (by decide)) fun rise hrise => ?_
    exact (hlow.mono (by decide)).add hrise (by decide)
  refine exists_ok_bind (P := fun r => r = .real (x.mod (.ofRatio false 1 1))) ⟨_, Number.mod_real isZero_one, rfl⟩ ?_
  rintro rest hrest
  -- a remainder that any comparison holds of is a number, and a small one
  have hsmall : ∀ {bound : Number}, rest.lt bound = true → rest.Within 2 := by
    intro bound hlt
    have hnumber : rest.isNumber = true := by
      simp only [Number.lt, Bool.and_eq_true] at hlt
      exact hlt.1.1
    subst hrest
    exact (Double.mod_one x).resolve_left (ne_false_of_eq_true hnumber)
  dsimp only
  split
  · rename_i hlt
    exact hstep ((hsmall hlt).mono (by decide))
  · split
    · exact ⟨high, rfl, hhigh.mono (by decide)⟩
    · split
      · rename_i hlt
        exact exists_ok_bind (within_twoThirds.sub (hsmall hlt) (by decide)) fun part hpart => hstep hpart
      · exact ⟨low, rfl, hlow.mono (by decide)⟩

/-- All channels have levels, for fractions of lightness and saturation. -/
theorem exists_levels (x : Double) (hlightness : lightness.Within 0) (hsaturation : saturation.Within 0) :
    ∃ r, levels (.real x) lightness saturation = .ok r ∧ r.1.Within 30 ∧ r.2.1.Within 30 ∧ r.2.2.Within 30 := by
  have hsame := hlightness.mono (Nat.zero_le 30)
  have hshift : ∀ (rounded : Double → Double → Double) (exact : Int → Int → Int),
      ∃ t, Number.combine exact rounded (.real x) third = .ok t ∧ ∃ y, t = .real y :=
    fun rounded exact => ⟨_, Number.combine_real .., _, rfl⟩
  rw [levels]
  split
  · exact ⟨_, rfl, hsame, hsame, hsame⟩
  · -- the levels, once it is known how high they go
    have hrest : ∀ {high : Number}, high.Within 7 → ∃ r, (do
        let low ← (← two.mul lightness).sub high
        let red ← level low high (← Number.add (.real x) third)
        let green ← level low high (.real x)
        let blue ← level low high (← Number.sub (.real x) third)
        return (red, green, blue) : Except Fault (Number × Number × Number)) = .ok r ∧
        r.1.Within 30 ∧ r.2.1.Within 30 ∧ r.2.2.Within 30 := by
      intro high hhigh
      refine exists_ok_bind (within_two.mul hlightness (by decide)) fun double hdouble => ?_
      refine exists_ok_bind ((hdouble.mono (by decide)).sub hhigh (by decide)) fun low hlow => ?_
      have hhigh := hhigh.mono (by decide : 7 ≤ 10)
      refine exists_ok_bind (hshift Double.add (· + ·)) ?_
      rintro _ ⟨y, rfl⟩
      refine exists_ok_bind (exists_level hlow hhigh y) fun red hred => ?_
      refine exists_ok_bind (exists_level hlow hhigh x) fun green hgreen => ?_
      refine exists_ok_bind (hshift Double.sub (· - ·)) ?_
      rintro _ ⟨z, rfl⟩
      refine exists_ok_bind (exists_level hlow hhigh z) fun blue hblue => ?_
      exact ⟨_, rfl, hred, hgreen, hblue⟩
    dsimp only
    split
    · refine exists_ok_bind (within_one.add (hsaturation.mono (by decide)) (by decide)) fun sum hsum => ?_
      exact exists_ok_bind (hlightness.mul hsum (by decide)) fun high hhigh => hrest hhigh
    · refine exists_ok_bind (hlightness.add hsaturation (by decide)) fun sum hsum => ?_
      refine exists_ok_bind (hlightness.mul hsaturation (by decide)) fun product hproduct => ?_
      refine exists_ok_bind (hsum.sub hproduct (by decide)) fun high hhigh => hrest (hhigh.mono (by decide))

/-- A whole channel is an integer in the range of doubles. -/
theorem exists_wholeChannel {fraction : Number} (h : fraction.Within 30) :
    ∃ n, wholeChannel fraction = .ok n ∧ n.isShort = true := by
  have hbyte : (Number.int 255).Within 8 := show (255 : Int).natAbs ≤ twoTo 8 by decide
  refine exists_ok_bind (h.mul hbyte (by decide)) fun scaled hscaled => ?_
  exact exists_ok_bind hscaled.exists_round fun k hk => ⟨_, rfl, hk.isShort (by decide)⟩

/-- **There is a colour of every hue,** for fractions of saturation and lightness.  Its channels can be written, so all
of it can if its opacity can. -/
theorem exists_ofHsl (hue : Number) {alpha : Number} (halpha : alpha.isShort = true) (hsaturation : saturation.Within 0)
    (hlightness : lightness.Within 0) : ∃ c, ofHsl hue saturation lightness alpha = .ok c ∧ c.Short := by
  rw [ofHsl, ← bind_assoc]
  refine exists_ok_bind (exists_turn hue) ?_
  rintro _ ⟨x, rfl⟩
  refine exists_ok_bind (exists_levels x hlightness hsaturation) fun channels hchannels => ?_
  refine exists_ok_bind (exists_wholeChannel hchannels.1) fun red hred => ?_
  refine exists_ok_bind (exists_wholeChannel hchannels.2.1) fun green hgreen => ?_
  refine exists_ok_bind (exists_wholeChannel hchannels.2.2) fun blue hblue => ?_
  refine ⟨_, rfl, ?_⟩
  simp only [Short, Colour.channels, List.forall_mem_cons]
  exact ⟨hred, hgreen, hblue, halpha, List.forall_mem_nil _⟩

end Colour

end StoryValues
