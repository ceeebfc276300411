import Mathlib.Data.List.Forall2
import Mathlib.Tactic.IntervalCases
import StoryValues.Colour.Hex
import StoryValues.Proofs.Number.Within
import StoryValues.Proofs.Value.Sound

/-
  HEX COLOURS.  A text names a colour if it is a `#` with three or six hexadecimal digits, and as well if one line feed
  follows them; nothing else does.

  1. **A digit** (`IsDigit`) is what the number is written as, in either case (`hexValue?_iff`).
  2. **Three pairs of digits** name a colour, and three digits the colour of their doubles (`Names`).  The parser reads
     the same (`names_iff`).
  3. **The line feed** that may end a text is no digit, so it is told apart from what names the colour (`ofHex?_iff`).
  4. **What is named can be written** (`exists_css_of_ofHex?`), and as no text that names it, since a colour is written
     with no `#` (`css_ne_of_ofHex?`).
-/

namespace StoryValues

namespace Colour

/-! ## Digits -/

/-- A character is the hexadecimal digit of a number, in either case. -/
def IsDigit (n : Nat) (c : Char) : Prop := n < 16 ∧ (c = n.digitChar ∨ c = n.digitChar.toUpper)

variable {c : Char} {n : Nat} {ds : List Char} {ns : List Nat} {colour : Colour}

/-- A character of one of the three ranges is the digit of its distance from the start. -/
theorem isDigit_of_le (h : (48 ≤ c.toNat ∧ c.toNat ≤ 57 ∧ n = c.toNat - 48) ∨
    (97 ≤ c.toNat ∧ c.toNat ≤ 102 ∧ n = c.toNat - 97 + 10) ∨
    (65 ≤ c.toNat ∧ c.toNat ≤ 70 ∧ n = c.toNat - 65 + 10)) : IsDigit n c := by
  have hc : Char.ofNat c.toNat = c := Char.ofNat_toNat c
  generalize c.toNat = code at h hc
  subst hc
  rcases h with ⟨hlow, hhigh, rfl⟩ | ⟨hlow, hhigh, rfl⟩ | ⟨hlow, hhigh, rfl⟩
  · interval_cases code <;> exact ⟨by decide, .inl rfl⟩
  · interval_cases code <;> exact ⟨by decide, .inl rfl⟩
  · interval_cases code <;> exact ⟨by decide, .inr rfl⟩

/-- **The value of a digit** is the number that is written so. -/
theorem hexValue?_iff : hexValue? c = some n ↔ IsDigit n c := by
  constructor
  · intro h
    refine isDigit_of_le ?_
    unfold hexValue? at h
    split at h
    · rename_i hrange
      exact .inl ⟨hrange.1, hrange.2, (Option.some.inj h).symm⟩
    · split at h
      · rename_i hrange
        exact .inr (.inl ⟨hrange.1, hrange.2, (Option.some.inj h).symm⟩)
      · split at h
        · rename_i hrange
          exact .inr (.inr ⟨hrange.1, hrange.2, (Option.some.inj h).symm⟩)
        · cases h
  · rintro ⟨hn, rfl | rfl⟩
    · interval_cases n <;> rfl
    · interval_cases n <;> rfl

/-- A character is the digit of one number only. -/
theorem IsDigit.unique {m : Nat} (h : IsDigit m c) (h' : IsDigit n c) : m = n :=
  Option.some.inj ((hexValue?_iff.mpr h).symm.trans (hexValue?_iff.mpr h'))

/-- No line feed is a digit. -/
theorem IsDigit.ne_lineFeed (h : IsDigit n c) : c ≠ '\n' := by
  obtain ⟨hn, rfl | rfl⟩ := h
  · interval_cases n <;> decide
  · interval_cases n <;> decide

/-! ## Three pairs -/

/-- **What digits name:** a pair for each channel, or one digit for each that is doubled.  Nothing of it is
transparent. -/
inductive Names : List Char → Colour → Prop
  | pairs {r r' g g' b b' : Nat} {c₁ c₂ c₃ c₄ c₅ c₆ : Char} : IsDigit r c₁ → IsDigit r' c₂ → IsDigit g c₃ →
      IsDigit g' c₄ → IsDigit b c₅ → IsDigit b' c₆ →
      Names [c₁, c₂, c₃, c₄, c₅, c₆] ⟨.int (16 * r + r'), .int (16 * g + g'), .int (16 * b + b'), .int 1⟩
  | doubled {c₁ c₂ c₃ : Char} {colour : Colour} : Names [c₁, c₁, c₂, c₂, c₃, c₃] colour → Names [c₁, c₂, c₃] colour

theorem mapM_hexValue?_iff : ds.mapM hexValue? = some ns ↔ List.Forall₂ IsDigit ns ds := by
  induction ds generalizing ns with
  | nil => simp [eq_comm]
  | cons c ds ih =>
    simp only [List.mapM_cons, Option.bind_eq_bind, Option.bind_eq_some_iff, hexValue?_iff, ih,
      List.forall₂_cons_right_iff, Option.pure_def, Option.some.injEq]
    constructor
    · rintro ⟨n, hn, ns, hns, rfl⟩
      exact ⟨n, ns, hn, hns, rfl⟩
    · rintro ⟨n, ns, hn, hns, rfl⟩
      exact ⟨n, hn, ns, hns, rfl⟩

/-- **The parser reads what the digits name.** -/
theorem names_iff : (ds.mapM hexValue?).bind ofDigits? = some colour ↔ Names ds colour := by
  constructor
  · intro h
    obtain ⟨ns, hns, h⟩ := Option.bind_eq_some_iff.mp h
    rw [mapM_hexValue?_iff] at hns
    unfold ofDigits? at h
    split at h
    · obtain rfl := Option.some.inj h
      -- three digits, each of which stands for two
      obtain _ | ⟨h₁, _ | ⟨h₂, _ | ⟨h₃, _ | _⟩⟩⟩ := hns
      exact .doubled (.pairs h₁ h₁ h₂ h₂ h₃ h₃)
    · obtain rfl := Option.some.inj h
      obtain _ | ⟨h₁, _ | ⟨h₂, _ | ⟨h₃, _ | ⟨h₄, _ | ⟨h₅, _ | ⟨h₆, _ | _⟩⟩⟩⟩⟩⟩ := hns
      exact .pairs h₁ h₂ h₃ h₄ h₅ h₆
    · cases h
  · intro h
    cases h with
    | pairs h₁ h₂ h₃ h₄ h₅ h₆ =>
      rw [mapM_hexValue?_iff.mpr (.cons h₁ (.cons h₂ (.cons h₃ (.cons h₄ (.cons h₅ (.cons h₆ .nil))))))]
      rfl
    | doubled h =>
      cases h with
      | pairs h₁ h₂ h₃ h₄ h₅ h₆ =>
        -- two digits of one value are read as one
        obtain rfl := h₁.unique h₂
        obtain rfl := h₃.unique h₄
        obtain rfl := h₅.unique h₆
        rw [mapM_hexValue?_iff.mpr (.cons h₁ (.cons h₃ (.cons h₅ .nil)))]
        rfl

/-- What names a colour is digits. -/
theorem Names.isDigit (h : Names ds colour) : ∀ c ∈ ds, ∃ n, IsDigit n c := by
  obtain ⟨ns, hns, -⟩ := Option.bind_eq_some_iff.mp (names_iff.mpr h)
  intro c hc
  obtain ⟨n, -, hn⟩ := exists_of_forall₂ (mapM_hexValue?_iff.mp hns).flip c hc
  exact ⟨n, hn⟩

/-- **Three digits name a colour, and so do six,** and nothing else does. -/
theorem exists_names_iff :
    (∃ colour, Names ds colour) ↔ (ds.length = 3 ∨ ds.length = 6) ∧ ∀ c ∈ ds, ∃ n, IsDigit n c := by
  constructor
  · rintro ⟨colour, h⟩
    refine ⟨?_, h.isDigit⟩
    cases h with
    | pairs _ _ _ _ _ _ => exact .inr rfl
    | doubled _ => exact .inl rfl
  · rintro ⟨hlength, hdigits⟩
    rcases hlength with hlength | hlength
    · obtain ⟨c₁, c₂, c₃, rfl⟩ := List.length_eq_three.mp hlength
      simp only [List.forall_mem_cons] at hdigits
      obtain ⟨⟨r, hr⟩, ⟨g, hg⟩, ⟨b, hb⟩, -⟩ := hdigits
      exact ⟨_, .doubled (.pairs hr hr hg hg hb hb)⟩
    · obtain ⟨c₁, c₂, c₃, c₄, c₅, c₆, rfl⟩ : ∃ c₁ c₂ c₃ c₄ c₅ c₆, ds = [c₁, c₂, c₃, c₄, c₅, c₆] :=
        match ds, hlength with
        | [c₁, c₂, c₃, c₄, c₅, c₆], _ => ⟨c₁, c₂, c₃, c₄, c₅, c₆, rfl⟩
      simp only [List.forall_mem_cons] at hdigits
      obtain ⟨⟨r, hr⟩, ⟨r', hr'⟩, ⟨g, hg⟩, ⟨g', hg'⟩, ⟨b, hb⟩, ⟨b', hb'⟩, -⟩ := hdigits
      exact ⟨_, .pairs hr hr' hg hg' hb hb'⟩

/-! ## Texts -/

/-- **The form of a text** that names a colour by digits: there may be a line feed behind them. -/
def HexForm (s : String) (ds : List Char) : Prop := s.toList = '#' :: ds ∨ s.toList = '#' :: (ds ++ ['\n'])

/-- A text has this form with three or six digits. -/
def IsHex (s : String) : Prop :=
  ∃ ds, HexForm s ds ∧ (ds.length = 3 ∨ ds.length = 6) ∧ ∀ c ∈ ds, ∃ n, IsDigit n c

theorem dropLineFeed_concat (ds : List Char) : dropLineFeed (ds ++ ['\n']) = ds := by
  rw [dropLineFeed, List.getLast?_concat, if_pos rfl, List.dropLast_concat]

/-- A line feed at the end is left out, and nothing else. -/
theorem dropLineFeed_cases (ds : List Char) : dropLineFeed ds = ds ∨ ds = dropLineFeed ds ++ ['\n'] := by
  rw [dropLineFeed]
  by_cases hlast : ds.getLast? = some '\n'
  · rw [if_pos hlast]
    exact .inr (List.dropLast_append_getLast? _ hlast).symm
  · exact .inl (if_neg hlast)

theorem dropLineFeed_of_names (h : Names ds colour) : dropLineFeed ds = ds := by
  rw [dropLineFeed, if_neg]
  intro hlast
  obtain ⟨n, hn⟩ := h.isDigit '\n' (List.mem_of_getLast? hlast)
  exact hn.ne_lineFeed rfl

/-- **A text names a colour** iff it is a `#` with digits that name it, and perhaps one line feed. -/
theorem ofHex?_iff {s : String} : ofHex? s = some colour ↔ ∃ ds, HexForm s ds ∧ Names ds colour := by
  constructor
  · intro h
    unfold ofHex? at h
    split at h
    · rename_i ds hs
      refine ⟨dropLineFeed ds, ?_, names_iff.mp h⟩
      rcases dropLineFeed_cases ds with hsame | hfeed
      · exact .inl (hs.trans (congrArg _ hsame.symm))
      · exact .inr (hs.trans (congrArg _ hfeed))
    · cases h
  · rintro ⟨ds, hform, hnames⟩
    obtain ⟨rest, hs, hrest⟩ : ∃ rest, s.toList = '#' :: rest ∧ dropLineFeed rest = ds := by
      rcases hform with hs | hs
      · exact ⟨ds, hs, dropLineFeed_of_names hnames⟩
      · exact ⟨_, hs, dropLineFeed_concat ds⟩
    unfold ofHex?
    rw [hs]
    show ((dropLineFeed rest).mapM hexValue?).bind ofDigits? = _
    rw [hrest]
    exact names_iff.mpr hnames

/-- **Some colour is named** iff there are three or six digits. -/
theorem exists_ofHex?_iff {s : String} : (∃ colour, ofHex? s = some colour) ↔ IsHex s := by
  constructor
  · rintro ⟨colour, h⟩
    obtain ⟨ds, hform, hnames⟩ := ofHex?_iff.mp h
    exact ⟨ds, hform, exists_names_iff.mp ⟨colour, hnames⟩⟩
  · rintro ⟨ds, hform, hdigits⟩
    obtain ⟨colour, hnames⟩ := exists_names_iff.mpr hdigits
    exact ⟨colour, ofHex?_iff.mpr ⟨ds, hform, hnames⟩⟩

/-! ## Style sheets -/

/-- A colour whose channels can be written is written as style sheets have it, with no `#`. -/
theorem Short.exists_css (h : colour.Short) : ∃ text, colour.css = .ok text := by
  obtain ⟨channels, hchannels⟩ := exists_mapM fun n hn => ⟨n.written, Number.format_of_isShort (h n hn)⟩
  exact ⟨_, by rw [css, hchannels]; rfl⟩

/-- The channels of a colour that digits name are below 256. -/
theorem Names.short (h : Names ds colour) : colour.Short := by
  have hpair : ∀ {m n : Nat}, m < 16 → n < 16 → (Number.int (16 * m + n)).isShort = true := by
    intro m n hm hn
    have hbyte : (Number.int (16 * m + n)).Within 8 := show (16 * m + n : Int).natAbs ≤ twoTo 8 by
      rw [show twoTo 8 = 256 from rfl]
      omega
    exact hbyte.isShort (by decide)
  induction h with
  | pairs h₁ h₂ h₃ h₄ h₅ h₆ =>
    simp only [Short, channels, List.forall_mem_cons]
    exact ⟨hpair h₁.1 h₂.1, hpair h₃.1 h₄.1, hpair h₅.1 h₆.1, Number.isShort_one, List.forall_mem_nil _⟩
  | doubled _ ih => exact ih

/-- **A colour that a text names can be written.** -/
theorem exists_css_of_ofHex? {s : String} (h : ofHex? s = some colour) : ∃ text, colour.css = .ok text := by
  obtain ⟨ds, -, hnames⟩ := ofHex?_iff.mp h
  exact hnames.short.exists_css

/-- No colour is written as a text that names it. -/
theorem css_ne_of_ofHex? {s : String} (h : ofHex? s = some colour) : colour.css ≠ .ok s := by
  obtain ⟨ds, hform, -⟩ := ofHex?_iff.mp h
  have hhash : s.toList.head? = some '#' := by
    rcases hform with hs | hs <;> rw [hs] <;> rfl
  intro hsame
  rw [css] at hsame
  cases hchannels : colour.channels.mapM Number.format with
  | error f =>
    rw [hchannels] at hsame
    cases hsame
  | ok channels =>
    rw [hchannels] at hsame
    have hletter : s.toList.head? = some 'r' := by
      rw [← Except.ok.inj hsame, String.toList_append, String.toList_append]
      rfl
    rw [hletter] at hhash
    cases hhash

end Colour

end StoryValues
