import StoryValues.Proofs.Text.Case
import StoryValues.Text.MacroName

/-
  NAMES THAT ARE SPELLED ALIKE.  Two names are to be one if they have the same letters, each taken in lower
  case, whatever their hyphens and underscores.

  1. **Small letters** have no hyphens and underscores of their own (`lowerChar_of_mark`, `counts_of_mem_lowerChar`),
     so it does not matter whether these are taken away before or after.
  2. **The exception** is the capital sigma.  At the end of a word it is lowered to another letter than
     inside, and a hyphen ends a word.
  3. **Where no capital sigma ends a word** (`Case.NoFinalSigma`), names have one form iff they are spelled
     alike (`insensitiveName_eq_iff`).
  4. **A name without any sigma** has the form of no name that has one, and its letters are those of no such name
     (`insensitiveName_eq_iff_of_sigmaless`).
-/

namespace StoryValues

/-! ## Where letters go -/

namespace CaseMap

/-- The images of a character that is mapped are not below a bound that all images in the map keep to. -/
theorem le_of_mem_mapChar {m : CaseMap} {least : Nat} (hruns : ∀ r ∈ m.runs, least ≤ r.target)
    (hseveral : ∀ p ∈ m.several, ∀ k ∈ p.2, least ≤ k) {c x : Char} (h : x ∈ m.mapChar c) :
    x = c ∨ ∃ k, x = Char.ofNat k ∧ least ≤ k := by
  rcases m.mapChar_cases c with ⟨r, hr, _, _, hmap⟩ | ⟨p, hp, _, hmap⟩ | hmap
  · rw [hmap] at h
    exact Or.inr ⟨_, List.mem_singleton.mp h, Nat.le_trans (hruns r hr) (Nat.le_add_right _ _)⟩
  · rw [hmap] at h
    obtain ⟨k, hk, rfl⟩ := List.mem_map.mp h
    exact Or.inr ⟨k, rfl, hseveral p hp k hk⟩
  · rw [hmap] at h
    exact Or.inl (List.mem_singleton.mp h)

end CaseMap

/-- Whether a character of a name counts: all do but hyphens and underscores. -/
def counts (c : Char) : Bool := c != '-' && c != '_'

/-- No other character becomes a hyphen or an underscore in lower case.  The runs of the map are asked, and not the
characters in them. -/
theorem counts_of_mem_lowerChar {c x : Char} (hx : x ∈ Case.lowerChar c) (hc : counts c = true) :
    counts x = true := by
  have hruns : ∀ r ∈ lowerMap.runs, 0x60 ≤ r.target := by decide +kernel
  have hseveral : ∀ p ∈ lowerMap.several, ∀ k ∈ p.2, 0x60 ≤ k := by decide
  rcases CaseMap.le_of_mem_mapChar hruns hseveral hx with rfl | ⟨k, rfl, hk⟩
  · exact hc
  · -- what is not below the letters is no mark, and what is no character becomes none either
    have hcode : (Char.ofNat k).toNat = k ∨ (Char.ofNat k).toNat = 0 := by
      by_cases hvalid : k.isValidChar
      · exact Or.inl (by rw [Char.ofNat, dif_pos hvalid]; rfl)
      · exact Or.inr (by rw [Char.ofNat, dif_neg hvalid]; rfl)
    have hne : ∀ mark : Char, mark.toNat < 0x60 → mark.toNat ≠ 0 → Char.ofNat k ≠ mark := by
      rintro mark hlt hpos rfl
      omega
    rw [counts, Bool.and_eq_true, bne_iff_ne, bne_iff_ne]
    exact ⟨hne '-' (by decide) (by decide), hne '_' (by decide) (by decide)⟩

/-- A hyphen or an underscore stays as it is, for it is in no run of the map. -/
theorem lowerChar_of_mark {c : Char} (hc : counts c = false) : Case.lowerChar c = [c] := by
  rw [counts, Bool.and_eq_false_iff, bne_eq_false_iff_eq, bne_eq_false_iff_eq] at hc
  rcases hc with rfl | rfl
  · decide
  · decide

/-- **Marks may be taken away before or after lowering.** -/
theorem filter_flatMap_lowerChar (cs : List Char) :
    (cs.flatMap Case.lowerChar).filter counts = (cs.filter counts).flatMap Case.lowerChar := by
  induction cs with
  | nil => rfl
  | cons c cs ih =>
    rw [List.flatMap_cons, List.filter_append, ih]
    cases hc : counts c with
    | true =>
      rw [List.filter_cons_of_pos hc, List.flatMap_cons,
        List.filter_eq_self.mpr fun x hx => counts_of_mem_lowerChar hx hc]
    | false =>
      have hc' : ¬ counts c = true := by rw [hc]; exact Bool.false_ne_true
      rw [List.filter_cons_of_neg hc', lowerChar_of_mark hc, List.filter_cons_of_neg hc']
      rfl

/-! ## The capital sigma -/

namespace Case

/-- No capital sigma stands at the end of a word. -/
def NoFinalSigma (s : String) : Prop :=
  ∀ before after, s.toList = before ++ 'Σ' :: after →
    (nextHasCase before.reverse && !nextHasCase after) = false

/-- A text without a capital sigma has none that ends a word. -/
theorem noFinalSigma_of_not_mem {s : String} (h : 'Σ' ∉ s.toList) : NoFinalSigma s := by
  intro before after hs
  rw [hs] at h
  exact absurd (List.mem_append_right before List.mem_cons_self) h

/-- Without such a sigma each character is lowered by itself.  `before` is what has been passed. -/
theorem lowerAfter_eq_flatMap (cs : List Char) : ∀ before : List Char,
    (∀ front after, cs = front ++ 'Σ' :: after →
      (nextHasCase (front.reverse ++ before) && !nextHasCase after) = false) →
      lowerAfter before cs = cs.flatMap lowerChar := by
  induction cs with
  | nil => exact fun _ _ => rfl
  | cons c cs ih =>
    intro before h
    have hrest := ih (c :: before) fun front after hcs => by
      have hstep := h (c :: front) after (by rw [hcs, List.cons_append])
      rwa [List.reverse_cons, List.append_assoc] at hstep
    unfold lowerAfter
    rw [hrest, List.flatMap_cons]
    by_cases hsigma : c = 'Σ'
    · subst hsigma
      have hinside := h [] cs rfl
      rw [List.reverse_nil, List.nil_append] at hinside
      have hlower : lowerChar 'Σ' = ['σ'] := by decide
      rw [if_pos rfl, hinside, if_neg Bool.false_ne_true, hlower]
    · rw [if_neg hsigma]

/-- So a whole text without such a sigma is lowered character by character. -/
theorem lower_of_noFinalSigma {s : String} (h : NoFinalSigma s) :
    lower s = String.ofList (s.toList.flatMap lowerChar) := by
  rw [lower, lowerAfter_eq_flatMap s.toList [] fun front after hs => by
    rw [List.append_nil]
    exact h front after hs]

end Case

/-! ## Names spelled alike -/

/-- The letters of a name, each in lower case by itself; hyphens and underscores are left out. -/
def letters (name : String) : List Char := (name.toList.filter counts).flatMap Case.lowerChar

/-- The form of a name without a final sigma is its letters. -/
theorem insensitiveName_eq {name : String} (h : Case.NoFinalSigma name) :
    insensitiveName name = String.ofList (letters name) := by
  rw [insensitiveName, Case.lower_of_noFinalSigma h, String.toList_ofList]
  exact congrArg String.ofList (filter_flatMap_lowerChar name.toList)

/-- **Names without a final sigma have one form iff they are spelled alike.**  For names with one this fails in one
direction: they may be spelled alike and have two forms. -/
theorem insensitiveName_eq_iff {n m : String} (hn : Case.NoFinalSigma n) (hm : Case.NoFinalSigma m) :
    insensitiveName n = insensitiveName m ↔ letters n = letters m := by
  rw [insensitiveName_eq hn, insensitiveName_eq hm]
  exact ⟨fun h => by simpa using congrArg String.toList h, congrArg String.ofList⟩

/-! ## Names without a sigma -/

/-- A capital sigma becomes one of the two small ones, whatever is around it. -/
theorem Case.exists_sigma_of_mem {cs : List Char} (h : 'Σ' ∈ cs) :
    ∀ before, ∃ x ∈ Case.lowerAfter before cs, x = 'σ' ∨ x = 'ς' := by
  induction cs with
  | nil => exact absurd h List.not_mem_nil
  | cons c cs ih =>
    intro before
    unfold Case.lowerAfter
    rcases List.mem_cons.mp h with rfl | h
    · rw [if_pos rfl]
      cases nextHasCase before && !nextHasCase cs with
      | true => exact ⟨'ς', List.mem_append_left _ (List.mem_singleton_self _), Or.inr rfl⟩
      | false => exact ⟨'σ', List.mem_append_left _ (List.mem_singleton_self _), Or.inl rfl⟩
    · obtain ⟨x, hx, hsigma⟩ := ih h (c :: before)
      exact ⟨x, List.mem_append_right _ hx, hsigma⟩

/-- A name without a sigma of any kind, also in lower case. -/
def Sigmaless (name : String) : Prop := 'Σ' ∉ name.toList ∧ 'σ' ∉ letters name ∧ 'ς' ∉ letters name

instance (name : String) : Decidable (Sigmaless name) := inferInstanceAs (Decidable (_ ∧ _ ∧ _))

/-- **A name has one form with a name without a sigma iff it is spelled like it.**  The first name may have a sigma
anywhere; its form would show one of the small ones, and the other form has none. -/
theorem insensitiveName_eq_iff_of_sigmaless {n m : String} (hm : Sigmaless m) :
    insensitiveName n = insensitiveName m ↔ letters n = letters m := by
  obtain ⟨hcapital, hsmall, hfinal⟩ := hm
  by_cases hn : 'Σ' ∈ n.toList
  · -- then each side says that there is a sigma where there is none
    refine iff_of_false (fun h => ?_) fun h => ?_
    · obtain ⟨x, hx, hsigma⟩ := Case.exists_sigma_of_mem hn []
      have hcounts : counts x = true := by rcases hsigma with rfl | rfl <;> decide
      have hmem : x ∈ (insensitiveName n).toList := by
        rw [insensitiveName, Case.lower, String.toList_ofList, String.toList_ofList]
        exact List.mem_filter.mpr ⟨hx, hcounts⟩
      rw [h, insensitiveName_eq (Case.noFinalSigma_of_not_mem hcapital), String.toList_ofList] at hmem
      rcases hsigma with rfl | rfl
      · exact hsmall hmem
      · exact hfinal hmem
    · have hmem : 'σ' ∈ letters n :=
        List.mem_flatMap.mpr ⟨'Σ', List.mem_filter.mpr ⟨hn, by decide⟩, by decide⟩
      exact hsmall (h ▸ hmem)
  · exact insensitiveName_eq_iff (Case.noFinalSigma_of_not_mem hn) (Case.noFinalSigma_of_not_mem hcapital)

end StoryValues
