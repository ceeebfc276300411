import StoryValues.Proofs.Number.Exact
import StoryValues.Text.NaturalKey

/-
  THE NATURAL ORDER is an order: any two keys can be compared, and comparing them goes on from one pair to
  the next (`NaturalKey.le_trans`, `NaturalKey.le_total`).  Parts are ordered by their kind first, and then
  by what they have, one thing after another; keys are ordered like words, part by part.

  Two keys tie when neither comes before the other.

  1. **Texts** tie only with themselves (`NaturalKey.ties_ofText_iff`): parts that tie have one text, and the
     texts of the parts make up the text that was cut.
  2. **Numbers** tie iff the doubles nearest to them are of one value (`NaturalKey.ties_ofNumber_iff`).  So
     numbers of one value do, whichever kind they are (`NaturalKey.ties_of_sameValue`), for rounding leaves
     alone what a double can hold; integers that it cannot hold may tie with others.
  3. **A number and a text** never tie (`NaturalKey.not_ties_ofNumber_ofText`).
-/

namespace StoryValues

namespace KeyPart

/-! ## Parts -/

/-- What a part is ordered by: its kind, the side and the units of its value, its folded text, its text. -/
def rank : KeyPart → Nat × Int × Int × String × String
  | .numeral x text => (0, (Number.real x).side, x.units, "", text)
  | .words folded text => (1, 0, 0, folded, text)

/-- The order of ranks, one thing after another. -/
def compareRanks : KeyPart → KeyPart → Ordering :=
  compareLex (compareOn fun p => p.rank.1) <| compareLex (compareOn fun p => p.rank.2.1) <|
    compareLex (compareOn fun p => p.rank.2.2.1) <| compareLex (compareOn fun p => p.rank.2.2.2.1)
      (compareOn fun p => p.rank.2.2.2.2)

theorem order_eq (p q : KeyPart) : order p q = compareRanks p q := by
  cases p with
  | numeral x s =>
    cases q with
    | numeral y t =>
      simp only [order, compareValues, compareRanks, compareLex, compareOn, rank, Std.ReflCmp.compare_self,
        Ordering.eq_then, Ordering.then_assoc]
    | words g t => rfl
  | words f s =>
    cases q with
    | numeral y t => rfl
    | words g t =>
      simp only [order, compareRanks, compareLex, compareOn, rank, Std.ReflCmp.compare_self, Ordering.eq_then]

instance : Std.TransCmp KeyPart.order := by
  have heq : order = compareRanks := funext fun p => funext fun q => order_eq p q
  rw [heq, compareRanks]
  infer_instance

/-- The text of a part. -/
def text : KeyPart → String
  | .numeral _ text => text
  | .words _ text => text

/-- Parts that tie have one text. -/
theorem text_eq_of_order {p q : KeyPart} (h : order p q = .eq) : p.text = q.text := by
  cases p with
  | numeral x s =>
    cases q with
    | numeral y t => exact Std.LawfulEqCmp.eq_of_compare (Ordering.then_eq_eq.mp h).2
    | words g t => exact nomatch h
  | words f s =>
    cases q with
    | numeral y t => exact nomatch h
    | words g t => exact Std.LawfulEqCmp.eq_of_compare (Ordering.then_eq_eq.mp h).2

end KeyPart

namespace NaturalKey

/-! ## Keys -/

theorem order_eq (a b : NaturalKey) : order a b = List.compareLex KeyPart.order a b := by
  induction a generalizing b with
  | nil => cases b <;> rfl
  | cons p a ih =>
    cases b with
    | nil => rfl
    | cons q b => rw [order, List.compareLex_cons_cons, ih]

instance : Std.TransCmp NaturalKey.order := by
  have heq : order = List.compareLex KeyPart.order := funext fun a => funext fun b => order_eq a b
  rw [heq]
  infer_instance

variable {a b c : NaturalKey}

theorem le_iff : le a b = true ↔ (order a b).isLE = true := by
  unfold le
  cases order a b <;> decide

theorem le_trans (hab : le a b = true) (hbc : le b c = true) : le a c = true :=
  le_iff.mpr (Std.TransCmp.isLE_trans (le_iff.mp hab) (le_iff.mp hbc))

theorem le_total (a b : NaturalKey) : (le a b || le b a) = true := by
  have hswap : order b a = (order a b).swap := Std.OrientedCmp.eq_swap
  rw [Bool.or_eq_true, le_iff, le_iff, hswap]
  cases order a b <;> decide

/-- Keys of which neither comes before the other. -/
def Ties (a b : NaturalKey) : Prop := order a b = .eq

theorem ties_refl (a : NaturalKey) : Ties a a := Std.ReflCmp.compare_self

theorem Ties.symm (h : Ties a b) : Ties b a := Std.OrientedCmp.eq_symm h

theorem Ties.trans (hab : Ties a b) (hbc : Ties b c) : Ties a c := Std.TransCmp.eq_trans hab hbc

theorem Ties.le (h : Ties a b) : NaturalKey.le a b = true := le_iff.mpr (by rw [h]; rfl)

theorem ties_of_le (hab : le a b = true) (hba : le b a = true) : Ties a b :=
  Std.OrientedCmp.isLE_antisymm (le_iff.mp hab) (le_iff.mp hba)

/-! ## Texts -/

/-- Keys that tie have the same texts, part by part. -/
theorem Ties.texts_eq (h : Ties a b) : a.map KeyPart.text = b.map KeyPart.text := by
  induction a generalizing b with
  | nil =>
    cases b with
    | nil => rfl
    | cons q b => exact nomatch h
  | cons p a ih =>
    cases b with
    | nil => exact nomatch h
    | cons q b =>
      obtain ⟨hpart, hrest⟩ := Ordering.then_eq_eq.mp h
      rw [List.map_cons, List.map_cons, KeyPart.text_eq_of_order hpart, ih hrest]

theorem takeNumeral_append (cs : List Char) : (takeNumeral cs).1 ++ (takeNumeral cs).2 = cs := by
  have hwhole : cs.takeWhile isDigit ++ cs.dropWhile isDigit = cs := List.takeWhile_append_dropWhile
  unfold takeNumeral
  split
  · rename_i rest heq
    rw [heq] at hwhole
    have hpart : rest.takeWhile isDigit ++ rest.dropWhile isDigit = rest := List.takeWhile_append_dropWhile
    split
    · exact hwhole
    · rw [List.append_assoc, List.cons_append, hpart]
      exact hwhole
  · exact hwhole

/-- **The texts of the parts of a text, put together again, are the text.** -/
theorem flatMap_ofChars (cs : List Char) : ((ofChars cs).map KeyPart.text).flatMap String.toList = cs := by
  fun_induction ofChars cs with
  | case1 => rfl
  | case2 c rest h numeral hlt ih =>
    rw [List.map_cons, List.flatMap_cons, ih]
    show (String.ofList (takeNumeral (c :: rest)).1).toList ++ _ = _
    rw [String.toList_ofList]
    exact takeNumeral_append _
  | case3 c rest h text hlt ih =>
    rw [List.map_cons, List.flatMap_cons, ih]
    show (String.ofList _).toList ++ _ = _
    rw [String.toList_ofList]
    exact List.takeWhile_append_dropWhile

/-- **Texts tie only with themselves.** -/
theorem ties_ofText_iff {s t : String} : Ties (ofText s) (ofText t) ↔ s = t := by
  constructor
  · intro h
    have hs : ((ofText s).map KeyPart.text).flatMap String.toList = s.toList := flatMap_ofChars s.toList
    have ht : ((ofText t).map KeyPart.text).flatMap String.toList = t.toList := flatMap_ofChars t.toList
    rw [h.texts_eq, ht] at hs
    exact (String.toList_inj.mp hs).symm
  · rintro rfl
    exact ties_refl _

/-! ## Numbers -/

/-- Doubles tie iff they are of one value. -/
theorem ties_doubles_iff {x y : Double} (hx : x.isNumber = true) (hy : y.isNumber = true) :
    Ties [.numeral x ""] [.numeral y ""] ↔ (Number.real x).sameValue (.real y) = true := by
  have htext : compare "" "" = Ordering.eq := Std.ReflCmp.compare_self
  have hties : Ties [.numeral x ""] [.numeral y ""] ↔ KeyPart.compareValues x y = .eq := by
    rw [Ties, order, order, Ordering.then_eq, KeyPart.order, htext, Ordering.then_eq]
  rw [hties, KeyPart.compareValues, Ordering.then_eq_eq, compare_eq_iff_eq, compare_eq_iff_eq,
    Number.sameValue_iff]
  exact ⟨fun h => ⟨hx, hy, h⟩, fun h => h.2.2⟩

theorem of_ofNumber {n : Number} (h : ofNumber n = .ok a) : ∃ x, n.toDouble = .ok x ∧ a = [.numeral x ""] := by
  unfold ofNumber at h
  cases hx : n.toDouble with
  | ok x =>
    rw [hx] at h
    exact ⟨x, rfl, (Except.ok.inj h).symm⟩
  | error f =>
    rw [hx] at h
    exact nomatch h

/-- The double nearest to a number is one. -/
theorem isNumber_of_toDouble {n : Number} {x : Double} (hn : n.isNumber = true) (h : n.toDouble = .ok x) :
    x.isNumber = true := by
  cases n with
  | real y =>
    obtain rfl := Except.ok.inj h
    exact hn
  | int k =>
    rw [Number.toDouble] at h
    cases hnearest : Double.ofInt? k with
    | none =>
      rw [hnearest] at h
      exact nomatch h
    | some y =>
      rw [hnearest] at h
      obtain rfl := Except.ok.inj h
      exact Double.isNumber_of_ofInt? hnearest

/-- **Numbers tie iff the doubles nearest to them are of one value.** -/
theorem ties_ofNumber_iff {m n : Number} (hm : m.isNumber = true) (hn : n.isNumber = true)
    (ha : ofNumber m = .ok a) (hb : ofNumber n = .ok b) :
    Ties a b ↔ ∃ x y, m.toDouble = .ok x ∧ n.toDouble = .ok y ∧ (Number.real x).sameValue (.real y) = true := by
  obtain ⟨x, hx, rfl⟩ := of_ofNumber ha
  obtain ⟨y, hy, rfl⟩ := of_ofNumber hb
  rw [ties_doubles_iff (isNumber_of_toDouble hm hx) (isNumber_of_toDouble hn hy)]
  constructor
  · exact fun h => ⟨x, y, hx, hy, h⟩
  · rintro ⟨x', y', hx', hy', h⟩
    obtain rfl := Except.ok.inj (hx.symm.trans hx')
    obtain rfl := Except.ok.inj (hy.symm.trans hy')
    exact h

/-- An integer and a double of one value. -/
theorem ties_int_real {k : Int} {y : Double} (h : (Number.int k).sameValue (.real y) = true)
    (ha : ofNumber (.int k) = .ok a) (hb : ofNumber (.real y) = .ok b) : Ties a b := by
  obtain ⟨_, hnumber, hside, hunits⟩ := Number.sameValue_iff.mp h
  refine (ties_ofNumber_iff rfl hnumber ha hb).mpr ?_
  cases y with
  | finite negative e f =>
    obtain ⟨negative', hnearest, hunits'⟩ := Double.ofInt?_of_units hunits
    refine ⟨.finite negative' e f, .finite negative e f, ?_, rfl, ?_⟩
    · rw [Number.toDouble, hnearest]
      rfl
    · exact Number.sameValue_iff.mpr ⟨rfl, rfl, rfl, hunits'.trans hunits⟩
  | infinite negative => cases negative <;> simp [Number.side] at hside
  | nan tag => exact absurd hnumber Bool.false_ne_true

/-- **Numbers of one value tie.** -/
theorem ties_of_sameValue {m n : Number} (h : m.sameValue n = true) (ha : ofNumber m = .ok a)
    (hb : ofNumber n = .ok b) : Ties a b := by
  cases m with
  | int j =>
    cases n with
    | int k =>
      have hunits : j * Double.unitsPerOne = k * Double.unitsPerOne := (Number.sameValue_iff.mp h).2.2.2
      obtain rfl := Int.eq_of_mul_eq_mul_right Double.unitsPerOne_ne_zero hunits
      obtain rfl := Except.ok.inj (ha.symm.trans hb)
      exact ties_refl a
    | real y => exact ties_int_real h ha hb
  | real x =>
    cases n with
    | int k => exact (ties_int_real (Number.sameValue_symm h) hb ha).symm
    | real y =>
      obtain ⟨hx, hy, _⟩ := Number.sameValue_iff.mp h
      exact (ties_ofNumber_iff hx hy ha hb).mpr ⟨x, y, rfl, rfl, h⟩

/-- **A number ties with no text:** its key has one part, of no text. -/
theorem not_ties_ofNumber_ofText {n : Number} {s : String} (ha : ofNumber n = .ok a) : ¬ Ties a (ofText s) := by
  intro h
  obtain ⟨x, -, rfl⟩ := of_ofNumber ha
  have hs : ((ofText s).map KeyPart.text).flatMap String.toList = s.toList := flatMap_ofChars s.toList
  rw [← h.texts_eq] at hs
  obtain rfl : s = "" := String.toList_inj.mp hs.symm
  have hlength := congrArg List.length h.texts_eq
  rw [show ofText "" = [] by rw [ofText, String.toList_empty, ofChars]] at hlength
  exact absurd hlength Nat.one_ne_zero

end NaturalKey

end StoryValues
