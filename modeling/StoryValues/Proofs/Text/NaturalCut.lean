import Mathlib.Data.List.Chain
import StoryValues.Proofs.Text.NaturalOrder

/-
  THE CUT OF A TEXT for the natural order.  A text is cut into numerals and the words between them.

  1. **Numerals** (`IsNumeral`) — a run of digits, or two runs with a point between them.  The scan from the front takes
     the longest numeral that stands there (`leads_takeNumeral`), and there is one longest only (`Leads.unique`).
  2. **The cut** (`Cut`) — a numeral is as long as it can be, and words go on until the next digit.  A text has exactly one
     cut, which is its key (`cut_iff`): both directions go as the scan goes.
  3. **Words and numerals take turns** (`Cut.takes_turns`): words end at a digit only, and a digit behind a numeral would
     have been part of it.  With the texts of the parts, which make up the text (`join_ofText`), nothing is lost, and two
     texts of one key are one text (`ofText_inj`).
-/

namespace StoryValues

/-- Whether a part of a key is words. -/
def KeyPart.isWords : KeyPart → Bool
  | .numeral .. => false
  | .words .. => true

namespace NaturalKey

variable {cs ds es rest : List Char} {c : Char} {key : NaturalKey}

/-! ## Numerals -/

/-- A run of digits. -/
structure IsRun (ds : List Char) : Prop where
  nonempty : ds ≠ []
  digits : ∀ c ∈ ds, isDigit c = true

/-- **A numeral:** a run of digits, or two runs with a point between them. -/
inductive IsNumeral : List Char → Prop
  | whole {ds : List Char} : IsRun ds → IsNumeral ds
  | pointed {ds es : List Char} : IsRun ds → IsRun es → IsNumeral (ds ++ '.' :: es)

theorem isDigit_point : isDigit '.' = false := by decide

/-- A run of what passes a test ends where something does not pass, or with the text. -/
theorem span_append {test : Char → Bool} (hpass : ∀ c ∈ ds, test c = true) (hstop : ∀ c ∈ rest.head?, test c = false) :
    (ds ++ rest).takeWhile test = ds ∧ (ds ++ rest).dropWhile test = rest := by
  rw [List.takeWhile_append_of_pos hpass, List.dropWhile_append_of_pos hpass]
  cases rest with
  | nil => exact ⟨List.append_nil ds, rfl⟩
  | cons c rest =>
    have hc : ¬ test c = true := Bool.eq_false_iff.mp (hstop c rfl)
    rw [List.takeWhile_cons_of_neg hc, List.dropWhile_cons_of_neg hc]
    exact ⟨List.append_nil ds, rfl⟩

theorem isRun_takeWhile (h : cs.takeWhile isDigit ≠ []) : IsRun (cs.takeWhile isDigit) :=
  ⟨h, List.all_eq_true.mp List.all_takeWhile⟩

theorem IsRun.exists_digit (h : IsRun ds) : ∃ c tail, ds = c :: tail ∧ isDigit c = true := by
  obtain ⟨c, tail, rfl⟩ := List.exists_cons_of_ne_nil h.nonempty
  exact ⟨c, tail, rfl, h.digits c List.mem_cons_self⟩

/-- A numeral begins with a digit. -/
theorem IsNumeral.exists_digit (h : IsNumeral ds) : ∃ c tail, ds = c :: tail ∧ isDigit c = true := by
  cases h with
  | whole hds => exact hds.exists_digit
  | pointed hds _ =>
    obtain ⟨c, tail, rfl, hc⟩ := hds.exists_digit
    exact ⟨c, _, rfl, hc⟩

/-- A run of digits goes on with one digit more. -/
theorem IsRun.snoc (h : IsRun ds) (hc : isDigit c = true) : IsRun (ds ++ [c]) where
  nonempty := List.append_ne_nil_of_left_ne_nil h.nonempty _
  digits := List.forall_mem_append.mpr ⟨h.digits, List.forall_mem_singleton.mpr hc⟩

/-- A numeral goes on with one digit more, in the part after the point if it has one. -/
theorem IsNumeral.snoc (h : IsNumeral ds) (hc : isDigit c = true) : IsNumeral (ds ++ [c]) := by
  cases h with
  | whole hds => exact .whole (hds.snoc hc)
  | pointed hds hes =>
    rw [List.append_assoc, List.cons_append]
    exact .pointed hds (hes.snoc hc)

/-- **The longest numeral at the front** of a text. -/
structure Leads (ds cs : List Char) : Prop where
  numeral : IsNumeral ds
  front : ds <+: cs
  longest : ∀ es, IsNumeral es → es <+: cs → es.length ≤ ds.length

theorem Leads.unique (hds : Leads ds cs) (hes : Leads es cs) : ds = es := by
  have hle := hes.longest ds hds.numeral hds.front
  have hge := hds.longest es hes.numeral hes.front
  exact (List.prefix_of_prefix_length_le hds.front hes.front hle).eq_of_length_le hge

/-- No digit stands behind the longest numeral. -/
theorem Leads.not_digit (h : Leads ds (ds ++ c :: rest)) : ¬ isDigit c = true := by
  intro hc
  have hfront : ds ++ [c] <+: ds ++ c :: rest := (List.prefix_append_right_inj ds).mpr ⟨rest, rfl⟩
  have hlonger := h.longest _ (h.numeral.snoc hc) hfront
  rw [List.length_append, List.length_singleton] at hlonger
  omega

/-! ## The scan -/

theorem numeral_takeNumeral (h : isDigit c = true) (cs : List Char) : IsNumeral (takeNumeral (c :: cs)).1 := by
  have hwhole : IsRun ((c :: cs).takeWhile isDigit) := isRun_takeWhile <| by
    rw [List.takeWhile_cons_of_pos h]
    exact List.cons_ne_nil _ _
  unfold takeNumeral
  split
  · split
    · exact .whole hwhole
    · rename_i hpart
      exact .pointed hwhole (isRun_takeWhile hpart)
  · exact .whole hwhole

/-- Digits at the front stand in front of all digits there. -/
theorem IsRun.front_takeWhile (h : IsRun ds) (hfront : ds <+: cs) : ds <+: cs.takeWhile isDigit := by
  obtain ⟨rest, rfl⟩ := hfront
  rw [List.takeWhile_append_of_pos h.digits]
  exact List.prefix_append _ _

/-- What the scan takes begins with all digits at the front. -/
theorem takeWhile_front_takeNumeral (cs : List Char) : cs.takeWhile isDigit <+: (takeNumeral cs).1 := by
  unfold takeNumeral
  split
  · split
    · exact List.prefix_rfl
    · exact List.prefix_append _ _
  · exact List.prefix_rfl

/-- Each numeral at the front is part of what the scan takes. -/
theorem IsNumeral.front_takeNumeral (h : IsNumeral ds) (hfront : ds <+: cs) : ds <+: (takeNumeral cs).1 := by
  cases h with
  | whole hds => exact (hds.front_takeWhile hfront).trans (takeWhile_front_takeNumeral cs)
  | @pointed ds es hds hes =>
    obtain ⟨rest, rfl⟩ := hfront
    -- the digits stop at the point, and the run behind it is not empty
    have hpoint : ∀ c ∈ ('.' :: (es ++ rest)).head?, isDigit c = false := by
      rintro _ ⟨⟩
      exact isDigit_point
    obtain ⟨htake, hdrop⟩ := span_append hds.digits hpoint
    have hpart : es <+: (es ++ rest).takeWhile isDigit := hes.front_takeWhile (List.prefix_append es rest)
    obtain ⟨digit, digits, hrun⟩ : ∃ digit digits, (es ++ rest).takeWhile isDigit = digit :: digits :=
      List.exists_cons_of_ne_nil fun hnil => hes.nonempty (List.prefix_nil.mp (hnil ▸ hpart))
    have hscan : (takeNumeral (ds ++ '.' :: (es ++ rest))).1 = ds ++ '.' :: (es ++ rest).takeWhile isDigit := by
      simp only [takeNumeral, htake, hdrop, hrun]
    rw [List.append_assoc, List.cons_append, hscan]
    exact (List.prefix_append_right_inj ds).mpr (List.cons_prefix_cons.mpr ⟨rfl, hpart⟩)

/-- **The scan takes the longest numeral.** -/
theorem leads_takeNumeral (h : isDigit c = true) (cs : List Char) : Leads (takeNumeral (c :: cs)).1 (c :: cs) where
  numeral := numeral_takeNumeral h cs
  front := ⟨_, takeNumeral_append (c :: cs)⟩
  longest _ hes hfront := (hes.front_takeNumeral hfront).length_le

/-- In front of any rest, the scan takes what leads there. -/
theorem takeNumeral_of_leads (h : Leads ds (ds ++ rest)) : takeNumeral (ds ++ rest) = (ds, rest) := by
  obtain ⟨c, tail, rfl, hc⟩ := h.numeral.exists_digit
  have hfirst : (takeNumeral (c :: tail ++ rest)).1 = c :: tail := (leads_takeNumeral hc (tail ++ rest)).unique h
  have happend := takeNumeral_append (c :: tail ++ rest)
  rw [hfirst] at happend
  exact Prod.ext hfirst (List.append_cancel_left happend)

/-! ## The cut -/

/-- **A cut of a text:** numerals as long as they can be, and words up to the next digit. -/
inductive Cut : List Char → NaturalKey → Prop
  | done : Cut [] []
  | numeral {ds rest : List Char} {key : NaturalKey} : Leads ds (ds ++ rest) → Cut rest key →
      Cut (ds ++ rest) (.numeral (numeralDouble ds) (String.ofList ds) :: key)
  | words {ws rest : List Char} {key : NaturalKey} : ws ≠ [] → (∀ c ∈ ws, isDigit c = false) →
      (∀ c ∈ rest.head?, isDigit c = true) → Cut rest key →
      Cut (ws ++ rest) (.words (Case.fold (String.ofList ws)) (String.ofList ws) :: key)

theorem ofChars_of_digit (h : isDigit c = true) (cs : List Char) :
    ofChars (c :: cs) = .numeral (numeralDouble (takeNumeral (c :: cs)).1) (String.ofList (takeNumeral (c :: cs)).1) ::
      ofChars (takeNumeral (c :: cs)).2 := by
  rw [ofChars, dif_pos h]

theorem ofChars_of_not_digit (h : isDigit c = false) (cs : List Char) :
    let ws := (c :: cs).takeWhile fun c => !isDigit c
    ofChars (c :: cs) = .words (Case.fold (String.ofList ws)) (String.ofList ws) ::
      ofChars ((c :: cs).dropWhile fun c => !isDigit c) := by
  intro ws
  rw [ofChars, dif_neg (by rw [h]; exact Bool.false_ne_true)]

/-- What is left behind words begins with a digit. -/
theorem digit_of_head?_dropWhile (cs : List Char) :
    ∀ c ∈ (cs.dropWhile fun c => !isDigit c).head?, isDigit c = true := by
  intro c hc
  have hhead := List.head?_dropWhile_not (fun c => !isDigit c) cs
  rw [hc] at hhead
  simpa using hhead

/-- The key of a text is a cut of it, by the recursion that makes the key. -/
theorem cut_ofChars (cs : List Char) : Cut cs (ofChars cs) := by
  fun_induction ofChars cs with
  | case1 => exact .done
  | case2 c rest h numeral hlt ih =>
    have hwhole := takeNumeral_append (c :: rest)
    have hcut : Cut ((takeNumeral (c :: rest)).1 ++ (takeNumeral (c :: rest)).2) _ :=
      .numeral (by rw [hwhole]; exact leads_takeNumeral h rest) ih
    rw [hwhole] at hcut
    exact hcut
  | case3 c rest h text hlt ih =>
    have hc : isDigit c = false := Bool.eq_false_iff.mpr h
    have hwhole : (c :: rest).takeWhile (fun c => !isDigit c) ++ (c :: rest).dropWhile (fun c => !isDigit c) =
        c :: rest := List.takeWhile_append_dropWhile
    have hnonempty : (c :: rest).takeWhile (fun c => !isDigit c) ≠ [] := by
      rw [List.takeWhile_cons_of_pos (by rw [hc]; rfl)]
      exact List.cons_ne_nil _ _
    have hwords : ∀ d ∈ (c :: rest).takeWhile (fun c => !isDigit c), isDigit d = false := fun d hd => by
      simpa using List.all_eq_true.mp List.all_takeWhile d hd
    have hcut := Cut.words hnonempty hwords (digit_of_head?_dropWhile (c :: rest)) ih
    rw [hwhole] at hcut
    exact hcut

/-- A text has no other cut than its key, by induction on the cut. -/
theorem Cut.ofChars_eq (h : Cut cs key) : ofChars cs = key := by
  induction h with
  | done => rw [ofChars]
  | @numeral ds rest key hleads hrest ih =>
    obtain ⟨c, tail, rfl, hc⟩ := hleads.numeral.exists_digit
    have hscan : takeNumeral (c :: (tail ++ rest)) = (c :: tail, rest) := takeNumeral_of_leads hleads
    rw [List.cons_append, ofChars_of_digit hc, hscan, ih]
  | @words ws rest key hnonempty hwords hhead hrest ih =>
    obtain ⟨c, tail, rfl⟩ := List.exists_cons_of_ne_nil hnonempty
    have hpass : ∀ d ∈ c :: tail, (!isDigit d) = true := fun d hd => by rw [hwords d hd]; rfl
    have hstop : ∀ d ∈ rest.head?, (!isDigit d) = false := fun d hd => by rw [hhead d hd]; rfl
    obtain ⟨htake, hdrop⟩ := span_append hpass hstop
    rw [List.cons_append] at htake hdrop
    rw [List.cons_append, ofChars_of_not_digit (hwords c List.mem_cons_self), htake, hdrop, ih]

/-- **A text has exactly one cut,** which is its key. -/
theorem cut_iff : Cut cs key ↔ ofChars cs = key :=
  ⟨Cut.ofChars_eq, fun h => h ▸ cut_ofChars cs⟩

/-! ## Turns -/

/-- A text begins with a digit iff its first part is no words. -/
theorem Cut.head (h : Cut cs key) : ∀ p ∈ key.head?, ∃ c tail, cs = c :: tail ∧ isDigit c = !p.isWords := by
  cases h with
  | done => exact nofun
  | numeral hleads _ =>
    rintro _ ⟨⟩
    obtain ⟨c, tail, rfl, hc⟩ := hleads.numeral.exists_digit
    exact ⟨c, _, rfl, hc⟩
  | words hnonempty hwords _ _ =>
    rintro _ ⟨⟩
    obtain ⟨c, tail, rfl⟩ := List.exists_cons_of_ne_nil hnonempty
    exact ⟨c, _, rfl, hwords c List.mem_cons_self⟩

/-- **Words and numerals take turns.** -/
theorem Cut.takes_turns (h : Cut cs key) : key.IsChain fun p q => q.isWords = !p.isWords := by
  induction h with
  | done => exact .nil
  | numeral hleads hrest ih =>
    refine List.isChain_cons.mpr ⟨fun q hq => ?_, ih⟩
    obtain ⟨c, tail, rfl, hc⟩ := hrest.head q hq
    have hnot := hleads.not_digit
    rw [hc] at hnot
    show q.isWords = true
    simpa using hnot
  | words _ _ hhead hrest ih =>
    refine List.isChain_cons.mpr ⟨fun q hq => ?_, ih⟩
    obtain ⟨c, tail, rfl, hc⟩ := hrest.head q hq
    rw [hhead c rfl] at hc
    show q.isWords = false
    simpa using hc.symm

example : (ofText "v1.2.3b").map KeyPart.text = ["v", "1.2", ".", "3", "b"] := by decide +kernel

/-- **Nothing is lost:** the texts of the parts, joined, are the text. -/
theorem join_ofText (s : String) : String.join ((ofText s).map KeyPart.text) = s :=
  String.toList_inj.mp (String.toList_join.trans (flatMap_ofChars s.toList))

/-- **Texts of one key are one text.** -/
theorem ofText_inj {s t : String} : ofText s = ofText t ↔ s = t := by
  constructor
  · intro h
    rw [← join_ofText s, h, join_ofText]
  · exact congrArg ofText

end NaturalKey

end StoryValues
