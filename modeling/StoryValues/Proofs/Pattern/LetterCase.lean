import StoryValues.Error.Limit
import StoryValues.Error.Renderer
import StoryValues.Pattern.Destructure
import StoryValues.Proofs.Datatype.Asking
import StoryValues.Proofs.Pattern.Discerning
import StoryValues.Proofs.Text.Case

/-
  LETTER CASE LEFT OUT OF ACCOUNT: of the letters A to Z.

  A pattern that leaves letter case out of account should not see whether a letter of a text is large or
  small.  Its classes do not.  A letter of its own stands for itself and its two other forms, and that is
  enough for almost all letters; but there are three that have one of the letters A to Z for another form and
  are no form of that letter (`Case.oneWay`): a small i without its dot, a long s, and the sign for kelvin.
  Each of them stands for one of two letters that differ by case alone.

  1. **Tests that are blind to case** — `CaseBlind`.  Texts that agree once they are lowered pass such a test
     alike (`CaseBlind.map_eq`).  It is enough to ask a test about the capitals (`caseBlind_of_capitals`).
  2. **The tests of a folded pattern are blind**, those of its classes by asking them, and that of a letter iff
     it is none of the three (`caseBlind_letterTest_iff`).
  3. **The whole** (`insensitive_accepts_of_lowered`): where none of the three is a letter of the pattern, it
     says the same of texts that agree once they are lowered.  Where one is, it need not
     (`oneWay_tells_case`).
-/

namespace StoryValues

namespace Case

/-! ## The letters A to Z -/

/-- The large letters from A to Z. -/
def capitals : List Char := (List.range 26).map fun k => Char.ofNat (0x41 + k)

/-- The small letters from a to z. -/
def smalls : List Char := (List.range 26).map fun k => Char.ofNat (0x61 + k)

/-- The letters with one of A to Z for another form that are no form of it: a small i without its dot, a long
s, and the sign for kelvin. -/
def oneWay : List Char := ['\u0131', '\u017f', '\u212a']

/-- A character whose code lies in a range is among the characters of the range.  With this membership of the letters
A to Z is arithmetic on codes. -/
theorem mem_letters {first k : Nat} {x : Char} (hfirst : first ≤ x.toNat) (hlast : x.toNat < first + k) :
    x ∈ (List.range k).map fun k => Char.ofNat (first + k) := by
  refine List.mem_map.mpr ⟨x.toNat - first, List.mem_range.mpr (by omega), ?_⟩
  rw [Nat.add_sub_cancel' hfirst, Char.ofNat_toNat]

/-- Lowering changes nothing but capitals, so a test needs to be asked about these alone. -/
theorem toLower_cases (x : Char) : x.toLower = x ∨ x ∈ capitals := by
  unfold Char.toLower
  split
  · next h => exact Or.inr (mem_letters h.1 (Nat.lt_succ_of_le h.2))
  · exact Or.inl rfl

end Case

/-! ## Tests that are blind to case -/

/-- A test that says the same of a capital and of its small letter. -/
def CaseBlind (test : Char → Bool) : Prop := ∀ x : Char, test x.toLower = test x

/-- A test is blind to case when it is so for the twenty-six capitals.  This makes blindness of a fixed test a finite
question. -/
theorem caseBlind_of_capitals {test : Char → Bool}
    (h : (Case.capitals.all fun x => test x.toLower == test x) = true) : CaseBlind test := by
  intro x
  rcases Case.toLower_cases x with hx | hx
  · rw [hx]
  · exact beq_iff_eq.mp (List.all_eq_true.mp h x hx)

/-- **Texts that agree once they are lowered** pass a blind test alike, place by place: a blind test can be asked of
the lowered text instead. -/
theorem CaseBlind.map_eq {test : Char → Bool} (h : CaseBlind test) {s t : List Char}
    (hlowered : s.map Char.toLower = t.map Char.toLower) : s.map test = t.map test := by
  have hthrough : ∀ u : List Char, u.map test = (u.map Char.toLower).map test := by
    intro u
    rw [List.map_map]
    exact List.map_congr_left fun x _ => (h x).symm
  rw [hthrough s, hthrough t, hlowered]

/-! ## Classes -/

/-- Classes are blind to case when letter case does not matter.  There are four different ones, and each is asked
about the capitals. -/
theorem caseBlind_of_classOf? {name : String} {test : Char → Bool} (h : classOf? true name = some test) :
    CaseBlind test := by
  have hclasses : ∀ test ∈ [isAlphanumeric, isBlank, isDigit, Case.isCased],
      (Case.capitals.all fun x => test x.toLower == test x) = true := by decide
  refine caseBlind_of_capitals (hclasses test ?_)
  unfold classOf? at h
  split at h
  all_goals first | (obtain rfl := Option.some.inj h; simp) | exact nomatch h

/-! ## Letters -/

namespace Case

/-- A letter of A to Z, large or small. -/
def isLatin (x : Char) : Bool := (capitals ++ smalls).contains x

/-- One of the letters A to Z, told from its code. -/
theorem isLatin_of_toNat {x : Char} (h : 0x41 ≤ x.toNat ∧ x.toNat ≤ 0x5A ∨ 0x61 ≤ x.toNat ∧ x.toNat ≤ 0x7A) :
    isLatin x = true := by
  rw [isLatin, List.contains_iff_mem]
  rcases h with ⟨hfirst, hlast⟩ | ⟨hfirst, hlast⟩
  · exact List.mem_append_left _ (mem_letters hfirst (Nat.lt_succ_of_le hlast))
  · exact List.mem_append_right _ (mem_letters hfirst (Nat.lt_succ_of_le hlast))

/-- The codes of the letters A to Z are small.  Characters that a case map sends far away are none of them. -/
theorem toNat_of_isLatin {x : Char} (h : isLatin x = true) : x.toNat ≤ 0x7A := by
  have hall : ((capitals ++ smalls).all (·.toNat ≤ 0x7A)) = true := by decide
  exact of_decide_eq_true (List.all_eq_true.mp hall x (List.contains_iff_mem.mp h))

/-- The variants of one of A to Z have its small form, and both of its forms are among them.  Asked of the fifty-two
letters. -/
theorem variants_latin {c : Char} (hc : isLatin c = true) : (∀ v ∈ variants c, v.toLower = c.toLower) ∧
    c.toLower ∈ variants c ∧ c.toUpper ∈ variants c ∧ c.toLower.toUpper = c.toUpper := by
  have hall : ((capitals ++ smalls).all fun c => (variants c).all (·.toLower == c.toLower) &&
      ((variants c).contains c.toLower && ((variants c).contains c.toUpper && c.toLower.toUpper == c.toUpper))) =
        true := by decide +kernel
  simpa only [Bool.and_eq_true, List.all_eq_true, List.contains_iff_mem, beq_iff_eq]
    using List.all_eq_true.mp hall c (List.contains_iff_mem.mp hc)

/-- A capital is got back from its small letter, and the small letter is lowered already. -/
theorem toLower_capitals {x : Char} (hx : x ∈ capitals) :
    x.toLower.toUpper = x ∧ x.toLower.toLower = x.toLower := by
  have hall : (capitals.all fun x => x.toLower.toUpper == x && x.toLower.toLower == x.toLower) = true := by decide
  simpa only [Bool.and_eq_true, beq_iff_eq] using List.all_eq_true.mp hall x hx

/-- Where a case map leads to one of A to Z only from there, or from a letter that goes one way, so it does for each
character.  The conditions speak of the runs of the map and not of characters, so that they can be evaluated for the
two maps; the three cases are those of a character in a run, one with several images, and one that stays. -/
theorem latin_of_mapChar {m : CaseMap} (hvalid : ∀ r ∈ m.runs, r.Valid)
    (hruns : ∀ r ∈ m.runs, 0x7A < r.target ∨ 0x41 ≤ r.first ∧ r.last ≤ 0x5A ∨ 0x61 ≤ r.first ∧ r.last ≤ 0x7A ∨
      r.first = r.last ∧ Char.ofNat r.first ∈ oneWay)
    (hseveral : ∀ p ∈ m.several, p.2.length ≠ 1) {c x : Char} (h : m.mapChar c = [x]) (hx : isLatin x = true) :
    isLatin c = true ∨ c ∈ oneWay := by
  rcases m.mapChar_cases c with ⟨r, hr, hfirst, hlast, himage⟩ | ⟨p, hp, _, himage⟩ | himage
  · obtain rfl : Char.ofNat (r.target + (c.toNat - r.first)) = x :=
      List.head_eq_of_cons_eq (himage.symm.trans h)
    have hsmall := toNat_of_isLatin hx
    rw [(hvalid r hr).toNat_ofNat hfirst hlast] at hsmall
    rcases hruns r hr with hfar | hlarge | hlow | ⟨hone, hway⟩
    · omega
    · exact Or.inl (isLatin_of_toNat (Or.inl ⟨by omega, by omega⟩))
    · exact Or.inl (isLatin_of_toNat (Or.inr ⟨by omega, by omega⟩))
    · obtain rfl : Char.ofNat r.first = c := by
        rw [show r.first = c.toNat by omega, Char.ofNat_toNat]
      exact Or.inr hway
  · -- to several characters, and not to one
    have hlength : p.2.length = 1 := by rw [← List.length_map, ← himage, h, List.length_singleton]
    exact absurd hlength (hseveral p hp)
  · obtain rfl : c = x := List.head_eq_of_cons_eq (himage.symm.trans h)
    exact Or.inl hx

/-- A variant of a letter is the letter itself or the one character of its upper or its lower form. -/
theorem mem_variants_cases {c x : Char} (h : x ∈ variants c) : x = c ∨ upperChar c = [x] ∨ lowerChar c = [x] := by
  unfold variants at h
  split at h
  · rcases List.mem_cons.mp h with h | h
    · exact Or.inl h
    · obtain ⟨form, hform, hx⟩ := List.mem_flatMap.mp h
      have hone : form = [x] := by
        split at hx
        · rw [List.mem_singleton.mp hx]
        · exact absurd hx List.not_mem_nil
      rcases List.mem_pair.mp hform with rfl | rfl
      · exact Or.inr (Or.inl hone)
      · exact Or.inr (Or.inr hone)
  · exact Or.inl (List.mem_singleton.mp h)

/-- **One of A to Z is a variant of no letter** but of A to Z, and of those that go one way.  The two case maps are
evaluated run by run for it. -/
theorem latin_of_mem_variants {c x : Char} (h : x ∈ variants c) (hx : isLatin x = true) :
    isLatin c = true ∨ c ∈ oneWay := by
  rcases mem_variants_cases h with rfl | hup | hlow
  · exact Or.inl hx
  · exact latin_of_mapChar (m := upperMap) (by decide +kernel) (by decide +kernel) (by decide +kernel) hup hx
  · exact latin_of_mapChar (m := lowerMap) (by decide +kernel) (by decide +kernel) (by decide +kernel) hlow hx

end Case

/-- The test of one of A to Z is blind to case: a capital is among the variants iff its small letter is, since both
say that its small form is that of the letter. -/
theorem caseBlind_letterTest_latin {c : Char} (hc : Case.isLatin c = true) : CaseBlind (letterTest true c) := by
  obtain ⟨hsmall, hlower, hupper, hback⟩ := Case.variants_latin hc
  refine caseBlind_of_capitals (List.all_eq_true.mpr fun x hx => beq_iff_eq.mpr (Bool.eq_iff_iff.mpr ?_))
  obtain ⟨hcapital, hstays⟩ := Case.toLower_capitals hx
  simp only [letterTest, if_true, List.contains_iff_mem]
  constructor
  · intro hmem
    have hsame : x.toLower = c.toLower := hstays.symm.trans (hsmall _ hmem)
    rwa [← hcapital, hsame, hback]
  · intro hmem
    rwa [hsmall x hmem]

/-- **The test of a letter is blind to case iff the letter does not go one way.**  The three that do have a capital
that tells.  Any other letter that is none of A to Z has no variant among them, so its test says no of both forms. -/
theorem caseBlind_letterTest_iff {c : Char} : CaseBlind (letterTest true c) ↔ c ∉ Case.oneWay := by
  constructor
  · intro hblind hway
    have htells : (Case.oneWay.all fun c =>
        Case.capitals.any fun x => letterTest true c x.toLower != letterTest true c x) = true := by decide +kernel
    obtain ⟨x, _, hx⟩ := List.any_eq_true.mp (List.all_eq_true.mp htells c hway)
    exact bne_iff_ne.mp hx (hblind x)
  · intro hway
    cases hc : Case.isLatin c with
    | true => exact caseBlind_letterTest_latin hc
    | false =>
      refine caseBlind_of_capitals (List.all_eq_true.mpr fun x hx => beq_iff_eq.mpr ?_)
      -- neither form of the letter of the text is a variant
      have hforms : (Case.capitals.all fun x => Case.isLatin x.toLower && Case.isLatin x) = true := by decide +kernel
      obtain ⟨hlow, hup⟩ := Bool.and_eq_true_iff.mp (List.all_eq_true.mp hforms x hx)
      have hnone : ∀ y, Case.isLatin y = true → letterTest true c y = false := by
        intro y hy
        rw [letterTest, if_pos rfl, ← Bool.not_eq_true, List.contains_iff_mem]
        intro hmem
        rcases Case.latin_of_mem_variants hmem hy with hlatin | hthis
        · exact Bool.false_ne_true (hc.symm.trans hlatin)
        · exact hway hthis
      rw [hnone _ hlow, hnone _ hup]

/-! ## Patterns -/

mutual

/-- The letters that are written out in a datatype, at any depth. -/
def Datatype.letters : Datatype → List Char
  | .named .. => []
  | .pattern _ parts _ _ => Fragment.lettersIn parts

/-- The letters that are written out in a fragment. -/
def Fragment.letters : Fragment → List Char
  | .text s => s.toList
  | .type d => d.letters
  | .typed d _ _ => d.letters

/-- The letters that are written out in fragments. -/
def Fragment.lettersIn : List Fragment → List Char
  | [] => []
  | f :: fs => f.letters ++ Fragment.lettersIn fs

end

/-- What a name tests is blind to case: the line ends, which are no letters, and its class. -/
theorem caseBlind_named (name : String) (spread : Bool) :
    ∀ test ∈ (Datatype.named name spread).charTests true, CaseBlind test := by
  unfold Datatype.charTests
  split
  · have hends : ∀ test ∈ [(· == '\r'), (· == '\n')],
        (Case.capitals.all fun x => test x.toLower == test x) = true := by decide +kernel
    exact fun test htest => caseBlind_of_capitals (hends test htest)
  · intro test htest
    exact caseBlind_of_classOf? (Option.mem_toList.mp htest)

mutual

/-- **The tests of a datatype in which letter case does not matter are blind to case,** if no letter in it goes one
way.  By recursion on the datatype along with its fragments; only literal letters need the condition. -/
theorem Datatype.caseBlind : (d : Datatype) → (∀ c ∈ d.letters, c ∉ Case.oneWay) →
    ∀ test ∈ d.charTests true, CaseBlind test
  | .named name spread, _ => caseBlind_named name spread
  | .pattern _ parts folded _, h => by
    rw [Datatype.charTests, Bool.true_or]
    exact Fragment.caseBlindIn parts h

/-- So are those of a fragment, for a literal text letter by letter. -/
theorem Fragment.caseBlind : (f : Fragment) → (∀ c ∈ f.letters, c ∉ Case.oneWay) →
    ∀ test ∈ f.charTests true, CaseBlind test
  | .text _, h => List.forall_mem_map.mpr fun c hc => caseBlind_letterTest_iff.mpr (h c hc)
  | .type d, h => Datatype.caseBlind d h
  | .typed d _ _, h => Datatype.caseBlind d h

/-- And those of several fragments, by recursion on the list. -/
theorem Fragment.caseBlindIn : (fs : List Fragment) → (∀ c ∈ Fragment.lettersIn fs, c ∉ Case.oneWay) →
    ∀ test ∈ Fragment.charTestsIn true fs, CaseBlind test
  | [], _ => List.forall_mem_nil _
  | f :: fs, h => by
    obtain ⟨hf, hfs⟩ := List.forall_mem_append.mp h
    exact List.forall_mem_append.mpr ⟨Fragment.caseBlind f hf, Fragment.caseBlindIn fs hfs⟩

end

namespace Pattern

/-- **With letter case left out of account a pattern does not see the case of the letters A to Z,** if no letter
written out in it goes one way: of two texts that agree once they are lowered it says the same, an answer or what
stops it. -/
theorem insensitive_accepts_of_lowered {d : Datatype} (hpattern : d.isPattern = true)
    (hletters : ∀ c ∈ d.letters, c ∉ Case.oneWay) {s t : String}
    (hlowered : s.toList.map Char.toLower = t.toList.map Char.toLower) :
    d.insensitive.accepts (.string s) = d.insensitive.accepts (.string t) := by
  cases d with
  | named name spread => exact nomatch hpattern
  | pattern shape parts folded spread =>
    show (Datatype.pattern shape parts true spread).accepts _ = (Datatype.pattern shape parts true spread).accepts _
    by_cases hahead : shape = .notBefore
    · rw [hahead]
      rfl
    · have hlength : s.toList.length = t.toList.length := by
        simpa only [List.length_map] using congrArg List.length hlowered
      have hreads : (Datatype.pattern shape parts true spread).readsAll s =
          (Datatype.pattern shape parts true spread).readsAll t :=
        Datatype.readsAll_of_charTests hlength fun test htest =>
          (Fragment.caseBlindIn parts hletters test htest).map_eq hlowered
      rw [Datatype.accepts_pattern hahead, Datatype.accepts_pattern hahead]
      exact congrArg Check.lift hreads

/-- No b to begin with, then a small a with a sharp s, once or more, and then a large letter. -/
def sharpThenLarge : Datatype :=
  .pattern .sequence
    [.type (.pattern .notBefore [.text "b"] false false),
      .type (.pattern (.repeated .once) [.text "aß"] false false), .type (.named "uppercase" false)] false false

/-- It says the same of two texts with each letter of A to Z the other way round. -/
theorem insensitive_accepts_sharpThenLarge :
    sharpThenLarge.isPattern = true ∧ (∀ c ∈ sharpThenLarge.letters, c ∉ Case.oneWay) ∧
      "aßAßx".toList.map Char.toLower = "AßaßX".toList.map Char.toLower ∧
      sharpThenLarge.insensitive.accepts (.string "aßAßx") = sharpThenLarge.insensitive.accepts (.string "AßaßX") := by
  have hall : (sharpThenLarge.letters.all (· ∉ Case.oneWay)) = true := by decide +kernel
  have hletters : ∀ c ∈ sharpThenLarge.letters, c ∉ Case.oneWay :=
    fun c hc => of_decide_eq_true (List.all_eq_true.mp hall c hc)
  have hlowered : "aßAßx".toList.map Char.toLower = "AßaßX".toList.map Char.toLower := by decide +kernel
  exact ⟨rfl, hletters, hlowered, insensitive_accepts_of_lowered rfl hletters hlowered⟩

/-- **Each letter that goes one way tells case:** the sequence of that letter, with letter case left out of account,
accepts its other form, and does not accept the letter that differs from this by case alone. -/
theorem oneWay_tells_case :
    let settings : Settings := Settings.usual
    Case.oneWay = ['\u0131', '\u017f', '\u212a'] ∧
      ∀ p ∈ [('\u0131', 'I', 'i'), ('\u017f', 'S', 's'), ('\u212a', 'k', 'K')],
        let d : Datatype := .pattern .sequence [.text (String.singleton p.1)] false false
        make .sequence [.string (String.singleton p.1)] settings = .ok d ∧ p.2.1.toLower = p.2.2.toLower ∧
          d.insensitive.accepts (.string (String.singleton p.2.1)) settings = .ok true ∧
          d.insensitive.accepts (.string (String.singleton p.2.2)) settings = .ok false := by
  intro settings
  refine ⟨rfl, ?_⟩
  decide +kernel

end Pattern

end StoryValues
