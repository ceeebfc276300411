import StoryValues.Proofs.Macro.Call
import StoryValues.Proofs.Macro.Library

/-
  MIXED COLOURS CAN BE WRITTEN, whatever the colour macros were given.

  1. **Levels** (`Entry.isLevel`) — channels and opacities are asked for between zero and a small integer, so what
     dispatch lets through as one is a number that can be written (`Signature.Fits.levels`).  A hue may be any number.
  2. **Both ways of mixing** make no channel longer: one takes the levels as they are (`short_of_rgb`), the other rounds
     channels that are small, whatever the hue is (`short_of_hsl`).
  3. **All colour macros** mix in one of these ways (`Registry.mixes_standard`), so the colours that they give can be
     written (`Paint.short`).
-/

namespace StoryValues

variable {σ : Type} {settings : Settings} {host : Host σ} {w : World σ}

/-! ## Levels -/

/-- An entry asks for an opacity, or for a channel of which this is the top. -/
def Entry.isLevel (top : Nat) : Entry → Bool
  | .range low high whole => low == .int 0 && (high == .int 1 || high == .int top) && !whole
  | _ => false

section

variable {top b : Nat} {e : Entry} {v : Value}

/-- What such an entry takes is a number that is no further from zero than the top. -/
theorem Entry.Takes.level (h : e.Takes settings v) (he : e.isLevel top = true) (htop : top ≤ twoTo b) :
    ∃ n, v = .number n ∧ n.Within b := by
  cases e with
  | range low high whole =>
    simp only [isLevel, Bool.and_eq_true, Bool.or_eq_true, beq_iff_eq, Bool.not_eq_true'] at he
    obtain ⟨⟨rfl, hhigh⟩, rfl⟩ := he
    obtain ⟨n, rfl⟩ := h.exists_inRange
    refine ⟨n, rfl, ?_⟩
    rcases hhigh with rfl | rfl
    · exact (Number.within_of_fraction h.bounds.1 h.bounds.2).mono (Nat.zero_le b)
    · exact Number.within_of_range htop h.bounds.1 h.bounds.2
  | _ => cases he

/-- **So are all values** of a signature that asks for nothing else, by induction on its entries. -/
theorem Signature.Fits.levels {es : List Entry} (htop : top ≤ twoTo b) (hes : ∀ e ∈ es, e.isLevel top = true) :
    ∀ {values : List Value}, Fits ⟨es, none⟩ settings values →
      ∃ ns : List Number, values = ns.map .number ∧ ∀ n ∈ ns, n.Within b := by
  induction es with
  | nil => exact fun h => ⟨[], fits_none.mp h, List.forall_mem_nil _⟩
  | cons e es ih =>
    obtain ⟨he, hes⟩ := List.forall_mem_cons.mp hes
    intro values h
    cases values with
    | nil => exact ⟨[], rfl, List.forall_mem_nil _⟩
    | cons v values =>
      obtain ⟨htakes, hothers⟩ := fits_cons_cons.mp h
      obtain ⟨n, rfl, hn⟩ := htakes.level he htop
      obtain ⟨ns, rfl, hns⟩ := ih hes hothers
      exact ⟨n :: ns, rfl, List.forall_mem_cons.mpr ⟨hn, hns⟩⟩

end

/-! ## Mixing -/

namespace StandardMacro

variable {ns : List Number} {c : Colour}

/-- Levels that are taken as they are. -/
theorem short_of_rgb (hns : ∀ n ∈ ns, n.Within 8) (h : compute .rgb (ns.map .number) settings = .ok (.colour c)) :
    c.Short := by
  have hshort : ∀ n ∈ ns, n.isShort = true := fun n hn => (hns n hn).isShort (by decide)
  rcases ns with _ | ⟨r, _ | ⟨g, _ | ⟨b, _ | ⟨a, _ | ⟨n, ns⟩⟩⟩⟩⟩
  case cons.cons.cons.nil =>
    obtain rfl := Value.colour.inj (Except.ok.inj h)
    simp only [List.forall_mem_cons] at hshort
    obtain ⟨hr, hg, hb, hnone⟩ := hshort
    simp only [Colour.Short, Colour.channels, List.forall_mem_cons]
    exact ⟨hr, hg, hb, Number.isShort_one, hnone⟩
  case cons.cons.cons.cons.nil =>
    obtain rfl := Value.colour.inj (Except.ok.inj h)
    exact hshort
  -- no colour comes of fewer levels, or of more
  all_goals cases h

/-- Levels from which channels are rounded. -/
theorem short_of_hsl {hue : Value} (hns : ∀ n ∈ ns, n.Within 0)
    (h : compute .hsl (hue :: ns.map .number) settings = .ok (.colour c)) : c.Short := by
  -- the colour of a hue and three levels, which is there
  have hmixed : ∀ {hue saturation lightness alpha : Number}, saturation.Within 0 → lightness.Within 0 →
      alpha.isShort = true →
      (do return .colour (← Colour.ofHsl hue saturation lightness alpha) : Check Value) settings = .ok (.colour c) →
      c.Short := by
    intro hue saturation lightness alpha hsaturation hlightness halpha h
    obtain ⟨c', hc', hshort⟩ := Colour.exists_ofHsl hue halpha hsaturation hlightness
    rw [hc'] at h
    exact Value.colour.inj (Except.ok.inj h) ▸ hshort
  cases hue with
  | number hue =>
    rcases ns with _ | ⟨s, _ | ⟨l, _ | ⟨a, _ | ⟨n, ns⟩⟩⟩⟩
    case cons.cons.nil =>
      obtain ⟨hs, hl, -⟩ := (List.forall_mem_cons.mp hns).imp_right List.forall_mem_cons.mp
      exact hmixed hs hl Number.isShort_one h
    case cons.cons.cons.nil =>
      simp only [List.forall_mem_cons] at hns
      exact hmixed hns.1 hns.2.1 (hns.2.2.1.isShort (Nat.zero_le 1023)) h
    all_goals cases h
  | _ => cases h

end StandardMacro

/-! ## The colour macros -/

namespace Registry

/-- The names of the macros that give colours. -/
def mixers : List String := ["rgb", "rgba", "hsl", "hsla"]

/-- Whether a macro mixes colours of levels, and of a hue. -/
def mixes (m : Macro) : Bool :=
  match m.body, m.signature with
  | .standard .rgb, ⟨fixed, none⟩ => fixed.all (Entry.isLevel 255)
  | .standard .hsl, ⟨_ :: fixed, none⟩ => fixed.all (Entry.isLevel 1)
  | _, _ => false

/-- **The macros of these names do.** -/
theorem mixes_standard : ∀ n ∈ mixers, (standard.get? n).map mixes = some true := by
  rw [standard_eq_listed]
  decide +kernel

/-- What such a macro gives for values that its signature admits. -/
theorem short_of_mixes {m : Macro} {values : List Value} {c : Colour} {w' : World σ} (hmixes : mixes m = true)
    (hfits : m.signature.Fits settings values)
    (hperform : m.body.perform host values settings w = (.ok (.colour c), w')) : c.Short := by
  unfold mixes at hmixes
  split at hmixes
  · rename_i fixed hbody hsignature
    rw [hsignature] at hfits
    obtain ⟨ns, rfl, hns⟩ := hfits.levels (b := 8) (by decide) (List.all_eq_true.mp hmixes)
    rw [hbody] at hperform
    exact StandardMacro.short_of_rgb hns (Run.check_eq_ok.mp hperform).2
  · rename_i e fixed hbody hsignature
    rw [hsignature] at hfits
    rw [hbody] at hperform
    cases values with
    | nil => exact absurd (Run.check_eq_ok.mp hperform).2 nofun
    | cons hue values =>
      obtain ⟨ns, rfl, hns⟩ := (Signature.fits_cons_cons.mp hfits).2.levels (b := 0) (by decide)
        (List.all_eq_true.mp hmixes)
      exact StandardMacro.short_of_hsl hns (Run.check_eq_ok.mp hperform).2
  · cases hmixes

end Registry

/-- **Colours that a changer can be given:** those that the colour macros give, and any other that can be written. -/
inductive Paint (c : Colour) : Prop
  | mixed {σ : Type} {host : Host σ} {settings : Settings} {w : World σ} {name : String} {args : List Value} :
      (∃ n ∈ Registry.mixers, insensitiveName name = insensitiveName n) →
      (Registry.standard.call host name args settings w).1 = .ok (.colour c) → Paint c
  | other : c.Short → Paint c

/-- **They can all be written.** -/
theorem Paint.short {c : Colour} (h : Paint c) : c.Short := by
  cases h with
  | other h => exact h
  | @mixed σ host settings w name args hname hcall =>
    obtain ⟨n, hn, hspelled⟩ := hname
    obtain ⟨m, hget, hmixes⟩ := Option.map_eq_some_iff.mp (Registry.mixes_standard n hn)
    rw [Registry.get?, ← hspelled] at hget
    obtain ⟨w', hcall⟩ := Run.exists_of_fst hcall
    obtain ⟨passed, w₁, answer, w₂, hpassed, hperform, hanswer⟩ := Registry.of_call hget hcall (fun _ he => by cases he)
    obtain ⟨⟨-, -, -, hfits⟩, -, -⟩ := Dispatch.arguments_ok hpassed
    -- the tags that the colour gets are no part of its text
    cases answer with
    | colour c' =>
      obtain rfl := Value.colour.inj hanswer
      exact (Registry.short_of_mixes hmixes hfits hperform).adopt w₂.fresh
    | _ => cases hanswer

end StoryValues
