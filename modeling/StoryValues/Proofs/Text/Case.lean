import StoryValues.Text.Case

/-
  UPPER AND LOWER LETTERS ARE CASED.  A pattern knows three classes of letters: those that lower case
  changes, those that upper case changes, and those that the two cases tell apart.  The third holds the
  other two, because no letter is changed to the same by both.

  1. **Where a case map leads** (`CaseMap.mapChar_cases`): by a run, by its list of characters with several
     images, or nowhere.
  2. **The runs of the two maps** that overlap move characters by different distances (`CaseRun.apart`).
     This is checked for the runs, pair by pair, and not for the characters in them.
  3. **No letter is changed to the same by both** (`Case.lowerChar_eq_of_eq_upperChar`).
-/

namespace StoryValues

/-! ## Where a case map leads -/

namespace CaseMap

/-- What is found in runs is the image by one of them. -/
theorem run_of_inRuns {runs : List CaseRun} {n k : Nat} (h : inRuns runs n = some k) :
    ∃ r ∈ runs, r.first ≤ n ∧ n ≤ r.last ∧ k = r.target + (n - r.first) := by
  induction runs with
  | nil => exact nomatch h
  | cons r rest ih =>
    unfold inRuns at h
    split at h
    · exact nomatch h
    · next hfirst =>
      split at h
      · next hin =>
        rw [Bool.and_eq_true, decide_eq_true_eq] at hin
        exact ⟨r, List.mem_cons_self, Nat.not_lt.mp hfirst, hin.1, (Option.some.inj h).symm⟩
      · obtain ⟨r', hr', hrest⟩ := ih h
        exact ⟨r', List.mem_cons_of_mem r hr', hrest⟩

/-- **Where a character goes**: along a run, to the several characters listed for it, or nowhere. -/
theorem mapChar_cases (m : CaseMap) (c : Char) :
    (∃ r ∈ m.runs, r.first ≤ c.toNat ∧ c.toNat ≤ r.last ∧
      m.mapChar c = [Char.ofNat (r.target + (c.toNat - r.first))]) ∨
    (∃ p ∈ m.several, p.1 = c.toNat ∧ m.mapChar c = p.2.map Char.ofNat) ∨ m.mapChar c = [c] := by
  unfold mapChar
  split
  · next k hk =>
    obtain ⟨r, hr, hfirst, hlast, rfl⟩ := run_of_inRuns hk
    exact Or.inl ⟨r, hr, hfirst, hlast, rfl⟩
  · split
    · next ks hks =>
      obtain ⟨before, after, hsplit, _⟩ := List.lookup_eq_some_iff.mp hks
      have hmem : (c.toNat, ks) ∈ m.several := by
        rw [hsplit]
        exact List.mem_append_right _ List.mem_cons_self
      exact Or.inr (Or.inl ⟨_, hmem, rfl, rfl⟩)
    · exact Or.inr (Or.inr rfl)

end CaseMap

/-! ## Runs -/

namespace CaseRun

/-- Whether two runs move characters by different distances, or have none in common.  Written with the
comparisons that a kernel computes fast, since it is asked of every pair of runs in two maps. -/
def apart (r q : CaseRun) : Bool :=
  !(r.target + q.first).beq (q.target + r.first) || Nat.blt r.last q.first || Nat.blt q.last r.first

/-- Two runs are apart if they move characters by different distances, or have no character in common. -/
theorem apart_iff {r q : CaseRun} :
    r.apart q = true ↔ r.target + q.first ≠ q.target + r.first ∨ r.last < q.first ∨ q.last < r.first := by
  rw [apart, Bool.or_eq_true, Bool.or_eq_true, Bool.not_eq_true', ← Nat.blt_eq, ← Nat.blt_eq, or_assoc,
    ← Bool.not_eq_true, Nat.beq_eq]

/-- All images of a run are characters. -/
def Valid (r : CaseRun) : Prop :=
  r.target + (r.last - r.first) < 0xD800 ∨
    (0xDFFF < r.target ∧ r.target + (r.last - r.first) < 0x110000)

instance (r : CaseRun) : Decidable r.Valid := inferInstanceAs (Decidable (_ ∨ _ ∧ _))

variable {r q : CaseRun} {n : Nat}

/-- The image of a character in a run keeps its number. -/
theorem Valid.toNat_ofNat (h : r.Valid) (hfirst : r.first ≤ n) (hlast : n ≤ r.last) :
    (Char.ofNat (r.target + (n - r.first))).toNat = r.target + (n - r.first) := by
  have hchar : (r.target + (n - r.first)).isValidChar := by
    rcases h with h | ⟨hlow, hhigh⟩
    · exact Or.inl (by omega)
    · exact Or.inr ⟨by omega, by omega⟩
  rw [Char.ofNat, dif_pos hchar]
  rfl

/-- Runs that are apart do not move a character to the same one. -/
theorem ofNat_ne_of_apart (h : r.apart q = true) (hr : r.Valid) (hq : q.Valid) (hrfirst : r.first ≤ n)
    (hrlast : n ≤ r.last) (hqfirst : q.first ≤ n) (hqlast : n ≤ q.last) :
    Char.ofNat (r.target + (n - r.first)) ≠ Char.ofNat (q.target + (n - q.first)) := by
  intro heq
  have hcode : r.target + (n - r.first) = q.target + (n - q.first) := by
    rw [← hr.toNat_ofNat hrfirst hrlast, heq, hq.toNat_ofNat hqfirst hqlast]
  rcases apart_iff.mp h with h | h | h <;> omega

end CaseRun

/-! ## Letters -/

namespace Case

/-- **A letter that goes to the same in both cases stays as it is.**  If it were moved by a run of each map, the two
runs would not be apart, and all pairs of runs are. -/
theorem lowerChar_eq_of_eq_upperChar {c : Char} (h : lowerChar c = upperChar c) : lowerChar c = [c] := by
  have hapart : (lowerMap.runs.all fun r => upperMap.runs.all r.apart) = true := by decide +kernel
  have hlower : ∀ r ∈ lowerMap.runs, r.Valid := by decide +kernel
  have hupper : ∀ q ∈ upperMap.runs, q.Valid := by decide +kernel
  have hseveral : ∀ p ∈ upperMap.several, p.2.length ≠ 1 := by decide
  have hlisted : ∀ p ∈ lowerMap.several,
      lowerChar (Char.ofNat p.1) ≠ upperChar (Char.ofNat p.1) := by decide
  rcases lowerMap.mapChar_cases c with ⟨r, hr, hrfirst, hrlast, hlow⟩ | ⟨p, hp, hpc, _⟩ | hlow
  · rcases upperMap.mapChar_cases c with ⟨q, hq, hqfirst, hqlast, hup⟩ | ⟨p, hp, _, hup⟩ | hup
    · -- along two runs, which are apart
      have hsame : [Char.ofNat (r.target + (c.toNat - r.first))] =
          [Char.ofNat (q.target + (c.toNat - q.first))] := by
        rw [← hlow, ← hup]
        exact h
      have hrq := List.all_eq_true.mp (List.all_eq_true.mp hapart r hr) q hq
      exact absurd (List.head_eq_of_cons_eq hsame) (CaseRun.ofNat_ne_of_apart hrq (hlower r hr) (hupper q hq)
        hrfirst hrlast hqfirst hqlast)
    · -- to one character and to several
      have hlength : (lowerChar c).length = (upperChar c).length := by rw [h]
      rw [lowerChar, upperChar, hlow, hup, List.length_singleton, List.length_map] at hlength
      exact absurd hlength.symm (hseveral p hp)
    · rw [h]
      exact hup
  · -- what has several small forms has other large ones
    rw [← Char.ofNat_toNat c, ← hpc] at h
    exact absurd h (hlisted p hp)
  · exact hlow

/-- **Upper letters are cased.** -/
theorem isCased_of_isUppercase {c : Char} (h : isUppercase c = true) : isCased c = true := by
  rw [isUppercase, Bool.and_eq_true, bne_iff_ne] at h
  rw [isCased, Bool.and_eq_true, bne_iff_ne]
  exact ⟨h.1, fun hsame => h.2 (lowerChar_eq_of_eq_upperChar hsame)⟩

/-- **Lower letters are cased.** -/
theorem isCased_of_isLowercase {c : Char} (h : isLowercase c = true) : isCased c = true := by
  rw [isLowercase, Bool.and_eq_true, bne_iff_ne] at h
  rw [isCased, Bool.and_eq_true, bne_iff_ne]
  refine ⟨h.1, fun hsame => h.2 ?_⟩
  rw [← hsame]
  exact lowerChar_eq_of_eq_upperChar hsame

end Case

end StoryValues
