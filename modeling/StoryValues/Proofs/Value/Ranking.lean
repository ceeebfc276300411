import StoryValues.Proofs.Text.NaturalCut
import StoryValues.Proofs.Value.Keys

/-
  RANKING.  Values are ranked by their keys.  A key is compared part by part, and a part by its three components: its kind,
  the value or the folded text, and the text.

  1. **Components** (`Component.compare?`) — a number can be compared with a number, and a text with a text.  Nothing else
     can be, and neither can what is no number.
  2. **Keys** (`NaturalKey.compare?`) — parts of different kinds differ in their first components, so a number never meets a
     text.  Comparing keys always gives an answer, and it is the order by which values are sorted
     (`NaturalKey.compare?_eq`), if all numbers in the keys are such; those of a value are (`valued_of_naturalKey`).
  3. **Values** — those that have a key are the texts, the numbers that have a nearest double, and whatever else can be
     printed (`rankable_iff`).  By their keys one precedes the other (`Precedes`): this is reflexive, transitive and total,
     and of two texts each of which precedes the other there is one only.
-/

namespace StoryValues

/-! ## Components -/

/-- The order of two numbers by value.  What is no number has no place in it. -/
def Number.compare? (m n : Number) : Option Ordering :=
  if m.lt n then some .lt else if m.sameValue n then some .eq else if n.lt m then some .gt else none

/-- What a part of a key is compared by. -/
inductive Component where
  | number (n : Number)
  | text (s : String)

/-- **Numbers are compared with numbers, and texts with texts.** -/
def Component.compare? : Component → Component → Option Ordering
  | .number m, .number n => m.compare? n
  | .text s, .text t => some (compare s t)
  | .number _, .text _ | .text _, .number _ => none

/-- Lists compared element by element, up to the first two that differ; a list comes before its extensions.  There is no
answer if two elements that are reached cannot be compared. -/
def lexicographic? {α : Type} (cmp? : α → α → Option Ordering) : List α → List α → Option Ordering
  | [], [] => some .eq
  | [], _ :: _ => some .lt
  | _ :: _, [] => some .gt
  | a :: as, b :: bs => (cmp? a b).bind fun o => if o = .eq then lexicographic? cmp? as bs else some o

/-- What follows two elements is compared only if they do not differ. -/
theorem lexicographic?_cons {α : Type} {cmp? : α → α → Option Ordering} {a b : α} {as bs : List α} {o r : Ordering}
    (h : cmp? a b = some o) (hrest : o = .eq → lexicographic? cmp? as bs = some r) :
    lexicographic? cmp? (a :: as) (b :: bs) = some (o.then r) := by
  rw [lexicographic?, h, Option.bind_some]
  cases o with
  | lt => rfl
  | eq => exact hrest rfl
  | gt => rfl

namespace Number

variable {m n : Number}

/-- A number is less than another iff it is on a lower side, or of fewer units on the same side. -/
theorem lt_iff (hm : m.isNumber = true) (hn : n.isNumber = true) :
    m.lt n = true ↔ m.side < n.side ∨ m.side = n.side ∧ m.units < n.units := by
  simp [lt, hm, hn]

/-- **Numbers can be compared,** by their sides, and by their units where these agree. -/
theorem compare?_eq (hm : m.isNumber = true) (hn : n.isNumber = true) :
    m.compare? n = some ((compare m.side n.side).then (compare m.units n.units)) := by
  have hlt : m.lt n = true ↔ (compare m.side n.side).then (compare m.units n.units) = .lt := by
    rw [lt_iff hm hn, Ordering.then_eq_lt, Int.compare_eq_lt, Int.compare_eq_lt, compare_eq_iff_eq]
  have heq : m.sameValue n = true ↔ (compare m.side n.side).then (compare m.units n.units) = .eq := by
    rw [sameValue_iff, Ordering.then_eq_eq, compare_eq_iff_eq, compare_eq_iff_eq]
    exact ⟨fun h => h.2.2, fun h => ⟨hm, hn, h⟩⟩
  have hgt : n.lt m = true ↔ (compare m.side n.side).then (compare m.units n.units) = .gt := by
    rw [lt_iff hn hm, Ordering.then_eq_gt, Int.compare_eq_gt, Int.compare_eq_gt, compare_eq_iff_eq,
      @eq_comm _ n.side m.side]
  unfold compare?
  simp only [hlt, heq, hgt]
  cases (compare m.side n.side).then (compare m.units n.units) <;> rfl

end Number

/-! ## Parts -/

namespace KeyPart

variable {p q : KeyPart}

/-- The kind of a part: numerals come before words. -/
def kind (p : KeyPart) : Number := .int (if p.isWords then 1 else 0)

/-- The value of a numeral, or the folded text of words. -/
def measure : KeyPart → Component
  | .numeral value _ => .number (.real value)
  | .words folded _ => .text folded

/-- **The three components of a part.** -/
def components (p : KeyPart) : List Component := [.number p.kind, p.measure, .text p.text]

/-- Parts compared by their components. -/
def compare? (p q : KeyPart) : Option Ordering := lexicographic? Component.compare? p.components q.components

/-- The value of a numeral is a number. -/
def Valued : KeyPart → Prop
  | .numeral value _ => value.isNumber = true
  | .words .. => True

/-- The kinds of two parts can always be compared, as they are numbers themselves. -/
theorem compare?_kind (p q : KeyPart) : p.kind.compare? q.kind = some (compare p.isWords q.isWords) := by
  unfold kind
  cases p.isWords with
  | false => cases q.isWords <;> decide +kernel
  | true => cases q.isWords <;> decide +kernel

/-- The measures of two parts are compared only if they are of one kind.  This is why a number never meets a text. -/
theorem compare?_of_measure {o : Ordering} (h : p.isWords = q.isWords → p.measure.compare? q.measure = some o) :
    compare? p q = some ((compare p.isWords q.isWords).then (o.then (compare p.text q.text))) := by
  have htexts : lexicographic? Component.compare? [.text p.text] [.text q.text] =
      some ((compare p.text q.text).then .eq) := lexicographic?_cons rfl fun _ => rfl
  rw [Ordering.then_eq] at htexts
  have hkinds : Component.compare? (.number p.kind) (.number q.kind) = some (compare p.isWords q.isWords) :=
    compare?_kind p q
  exact lexicographic?_cons hkinds fun hsame => lexicographic?_cons (h (compare_eq_iff_eq.mp hsame)) fun _ => htexts

/-- **Parts can be compared,** and stand in the order of parts. -/
theorem compare?_eq (hp : p.Valued) (hq : q.Valued) : compare? p q = some (order p q) := by
  cases p with
  | numeral x s =>
    cases q with
    | numeral y t => exact compare?_of_measure fun _ => Number.compare?_eq (m := .real x) (n := .real y) hp hq
    | words g t => exact compare?_of_measure (o := .eq) nofun
  | words f s =>
    cases q with
    | numeral y t => exact compare?_of_measure (o := .eq) nofun
    | words g t => exact compare?_of_measure fun _ => rfl

end KeyPart

/-! ## Keys -/

namespace NaturalKey

variable {a b : NaturalKey}

/-- Keys compared part by part. -/
def compare? (a b : NaturalKey) : Option Ordering := lexicographic? KeyPart.compare? a b

/-- **Keys can be compared,** and stand in the order of keys. -/
theorem compare?_eq (ha : ∀ p ∈ a, p.Valued) (hb : ∀ p ∈ b, p.Valued) : a.compare? b = some (a.order b) := by
  induction a generalizing b with
  | nil => cases b <;> rfl
  | cons p a ih =>
    cases b with
    | nil => rfl
    | cons q b =>
      obtain ⟨hp, ha⟩ := List.forall_mem_cons.mp ha
      obtain ⟨hq, hb⟩ := List.forall_mem_cons.mp hb
      exact lexicographic?_cons (KeyPart.compare?_eq hp hq) fun _ => ih ha hb

/-- The nearest double to a numeral is a number. -/
theorem Cut.valued {cs : List Char} (h : Cut cs a) : ∀ p ∈ a, p.Valued := by
  induction h with
  | done => exact List.forall_mem_nil _
  | numeral _ _ ih => exact List.forall_mem_cons.mpr ⟨Double.isNumber_ofIndex _ _, ih⟩
  | words _ _ _ _ ih => exact List.forall_mem_cons.mpr ⟨trivial, ih⟩

/-- **Keys of texts that do not differ** are those of one text. -/
theorem compare?_ofText_iff {s t : String} : (ofText s).compare? (ofText t) = some .eq ↔ s = t := by
  have hs : ∀ p ∈ ofText s, p.Valued := (cut_ofChars s.toList).valued
  have ht : ∀ p ∈ ofText t, p.Valued := (cut_ofChars t.toList).valued
  rw [compare?_eq hs ht, Option.some.injEq]
  exact ties_ofText_iff

end NaturalKey

/-! ## Values -/

namespace Value

variable {v u x : Value} {s t : String}

/-- **What can be ranked:** texts, numbers that have a nearest double, and whatever else can be printed. -/
inductive Rankable : Value → Prop
  | text (s : String) : Rankable (.string s)
  | number {n : Number} {d : Double} : n.isNumber = true → n.toDouble = .ok d → Rankable (.number n)
  | printed {v : Value} {s : String} : v.isNumber = false → v.source = .ok s → Rankable v

/-- **What can be ranked has a key,** and nothing else has one. -/
theorem rankable_iff : v.Rankable ↔ ∃ key, naturalKey v = .ok key := by
  constructor
  · intro h
    cases h with
    | text s => exact ⟨_, rfl⟩
    | number hn hd =>
      rw [naturalKey_number hn]
      exact exists_ofNumber_iff.mpr ⟨_, hd⟩
    | @printed v text hv hsource =>
      cases v with
      | string s => exact ⟨_, rfl⟩
      | _ =>
        rw [naturalKey_of_label hv]
        show ∃ key, (source _).map NaturalKey.ofText = .ok key
        exact ⟨NaturalKey.ofText text, by rw [hsource]; rfl⟩
  · rintro ⟨key, hkey⟩
    cases hv : v.isNumber with
    | true =>
      obtain ⟨n, hn, rfl⟩ := exists_number hv
      rw [naturalKey_number hn] at hkey
      obtain ⟨d, hd⟩ := exists_ofNumber_iff.mp ⟨key, hkey⟩
      exact .number hn hd
    | false =>
      obtain ⟨text, hsource⟩ := source_of_naturalKey hkey
      exact .printed hv hsource

/-- All numbers in the key of a value are such. -/
theorem valued_of_naturalKey {key : NaturalKey} (h : naturalKey v = .ok key) : ∀ p ∈ key, p.Valued := by
  cases hv : v.isNumber with
  | true =>
    obtain ⟨n, hn, rfl⟩ := exists_number hv
    rw [naturalKey_number hn] at h
    obtain ⟨d, hd, rfl⟩ := NaturalKey.of_ofNumber h
    exact List.forall_mem_singleton.mpr (NaturalKey.isNumber_of_toDouble hn hd)
  | false =>
    rw [naturalKey_of_label hv] at h
    obtain ⟨text, -, rfl⟩ := of_map_ok h
    exact (NaturalKey.cut_ofChars text.toList).valued

/-- **Any two values that can be ranked can be compared.** -/
theorem Rankable.exists_compare? (hv : v.Rankable) (hu : u.Rankable) :
    ∃ j k, naturalKey v = .ok j ∧ naturalKey u = .ok k ∧ j.compare? k = some (j.order k) := by
  obtain ⟨j, hj⟩ := rankable_iff.mp hv
  obtain ⟨k, hk⟩ := rankable_iff.mp hu
  exact ⟨j, k, hj, hk, NaturalKey.compare?_eq (valued_of_naturalKey hj) (valued_of_naturalKey hk)⟩

/-- **The order of values:** their keys can be compared, and the first does not stand behind the second. -/
def Precedes (v u : Value) : Prop :=
  ∃ j k o, naturalKey v = .ok j ∧ naturalKey u = .ok k ∧ j.compare? k = some o ∧ o.isLE = true

/-- It is the order in which values are sorted. -/
theorem precedes_iff : Precedes v u ↔ ∃ j k, naturalKey v = .ok j ∧ naturalKey u = .ok k ∧ j.le k = true := by
  constructor
  · rintro ⟨j, k, o, hj, hk, hcompare, hle⟩
    rw [NaturalKey.compare?_eq (valued_of_naturalKey hj) (valued_of_naturalKey hk)] at hcompare
    obtain rfl := Option.some.inj hcompare
    exact ⟨j, k, hj, hk, NaturalKey.le_iff.mpr hle⟩
  · rintro ⟨j, k, hj, hk, hle⟩
    have hcompare := NaturalKey.compare?_eq (valued_of_naturalKey hj) (valued_of_naturalKey hk)
    exact ⟨j, k, _, hj, hk, hcompare, NaturalKey.le_iff.mp hle⟩

/-- What can be ranked precedes itself. -/
theorem precedes_refl (h : v.Rankable) : Precedes v v := by
  obtain ⟨key, hkey⟩ := rankable_iff.mp h
  exact precedes_iff.mpr ⟨key, key, hkey, hkey, (NaturalKey.ties_refl key).le⟩

/-- Preceding goes through a third value. -/
theorem Precedes.trans (hvu : Precedes v u) (hux : Precedes u x) : Precedes v x := by
  obtain ⟨j, k, hj, hk, hjk⟩ := precedes_iff.mp hvu
  obtain ⟨k', l, hk', hl, hkl⟩ := precedes_iff.mp hux
  obtain rfl := Except.ok.inj (hk.symm.trans hk')
  exact precedes_iff.mpr ⟨j, l, hj, hl, NaturalKey.le_trans hjk hkl⟩

/-- Of two values that can be ranked, one precedes the other. -/
theorem precedes_total (hv : v.Rankable) (hu : u.Rankable) : Precedes v u ∨ Precedes u v := by
  obtain ⟨j, hj⟩ := rankable_iff.mp hv
  obtain ⟨k, hk⟩ := rankable_iff.mp hu
  rcases Bool.or_eq_true_iff.mp (NaturalKey.le_total j k) with hle | hle
  · exact Or.inl (precedes_iff.mpr ⟨j, k, hj, hk, hle⟩)
  · exact Or.inr (precedes_iff.mpr ⟨k, j, hk, hj, hle⟩)

/-- For texts it is the order of their keys, which they always have. -/
theorem precedes_texts_iff :
    Precedes (.string s) (.string t) ↔ (NaturalKey.ofText s).le (NaturalKey.ofText t) = true := by
  rw [precedes_iff]
  constructor
  · rintro ⟨j, k, hj, hk, hle⟩
    obtain rfl := Except.ok.inj hj
    obtain rfl := Except.ok.inj hk
    exact hle
  · exact fun hle => ⟨_, _, rfl, rfl, hle⟩

/-- **Texts that precede each other are one text.**  The last component of a part is the text itself, so nothing is
left by which they might differ. -/
theorem precedes_antisymm (hst : Precedes (.string s) (.string t)) (hts : Precedes (.string t) (.string s)) : s = t :=
  NaturalKey.ties_ofText_iff.mp (NaturalKey.ties_of_le (precedes_texts_iff.mp hst) (precedes_texts_iff.mp hts))

end Value

end StoryValues
