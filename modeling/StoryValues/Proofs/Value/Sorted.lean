import Mathlib.Data.List.Pairwise
import StoryValues.Proofs.Text.NaturalOrder
import StoryValues.Proofs.Value.Pairing
import StoryValues.Proofs.Value.Printing

/-
  SORTED LISTS and what they owe to the list that was sorted.

  What comes out of sorting is in order (`before_sortOn`), what is in order stays as it is
  (`sortOn_of_before`), and elements of which neither comes before the other keep the order they had.  So
  the order in which elements were added does not show iff no two keys tie (`sortOn_perm_iff`).

  Two lists may also be of the same length and hold equals of each other rather than the same elements.  If
  no keys tie in the one, sorting puts the equals in the same places (`forall₂_sortOn`): pair each element
  of the first off with its equal; the equals are in order then, and so is the second list, and two lists of
  the same elements that are both in order are one list.

  Values tie only if they are numbers with nearest doubles of one value, or are sorted by one text
  (`tied_iff`).  Equal values do (`tied_of_agree`), and sometimes others.
-/

namespace StoryValues

namespace Value

variable {α : Type} {key : α → Except Fault NaturalKey} {xs ys zs os ot : List α} {x y : α}

/-! ## Order and ties by key -/

/-- By their keys, the first may stand before the second. -/
def Before (key : α → Except Fault NaturalKey) (x y : α) : Prop :=
  ∀ j k, key x = .ok j → key y = .ok k → j.le k = true

/-- Neither stands before the other. -/
def Tied (key : α → Except Fault NaturalKey) (x y : α) : Prop :=
  ∃ j k, key x = .ok j ∧ key y = .ok k ∧ j.Ties k

/-- Being tied does not depend on the side. -/
theorem Tied.symm (h : Tied key x y) : Tied key y x := by
  obtain ⟨j, k, hj, hk, hties⟩ := h
  exact ⟨k, j, hk, hj, hties.symm⟩

/-- Ties go through a third element. -/
theorem Tied.trans {z : α} (hxy : Tied key x y) (hyz : Tied key y z) : Tied key x z := by
  obtain ⟨j, k, hj, hk, hties⟩ := hxy
  obtain ⟨k', l, hk', hl, hties'⟩ := hyz
  obtain rfl := Except.ok.inj (hk.symm.trans hk')
  exact ⟨j, l, hj, hl, hties.trans hties'⟩

/-- What ties may stand in front. -/
theorem Tied.before (h : Tied key x y) : Before key x y := by
  obtain ⟨j, k, hj, hk, hties⟩ := h
  intro j' k' hj' hk'
  obtain rfl := Except.ok.inj (hj.symm.trans hj')
  obtain rfl := Except.ok.inj (hk.symm.trans hk')
  exact hties.le

/-- What ties has a key. -/
theorem Tied.left_key (h : Tied key x y) : ∃ k, key x = .ok k := by
  obtain ⟨j, _, hj, _⟩ := h
  exact ⟨j, hj⟩

/-- What has a key and may stand on either side is tied. -/
theorem tied_of_before (hx : ∃ j, key x = .ok j) (hy : ∃ k, key y = .ok k) (hxy : Before key x y)
    (hyx : Before key y x) : Tied key x y := by
  obtain ⟨j, hj⟩ := hx
  obtain ⟨k, hk⟩ := hy
  exact ⟨j, k, hj, hk, NaturalKey.ties_of_le (hxy j k hj hk) (hyx k j hk hj)⟩

/-- What may stand before another may stand before whatever that one may.  The one between has to have a key, as
elements without one may stand anywhere. -/
theorem Before.trans {z : α} (hy : ∃ k, key y = .ok k) (hxy : Before key x y) (hyz : Before key y z) :
    Before key x z := by
  obtain ⟨k, hk⟩ := hy
  exact fun j l hj hl => NaturalKey.le_trans (hxy j k hj hk) (hyz k l hk hl)

/-! ## Sorting -/

/-- A sorted list comes from the elements with their keys, sorted by these. -/
theorem of_sortOn_keyed (h : sortOn key xs = .ok os) :
    ∃ keyed, (∀ p ∈ keyed, key p.2 = .ok p.1) ∧ keyed.map Prod.snd = xs ∧ os = sortByKey keyed := by
  obtain ⟨keys, hkeys, hsorted⟩ := ok_of_bind h
  have hforall := collect_map_ok.mp hkeys
  refine ⟨keys.zip xs, fun p hp => ?_, List.map_snd_zip hforall.length_eq.le, (Except.ok.inj hsorted).symm⟩
  exact (List.forall₂_iff_zip.mp hforall.flip).2 hp

/-- The order of keys, as the sort asks it of keyed elements, is transitive. -/
theorem le_trans_keyed (p q r : NaturalKey × α) : p.1.le q.1 = true → q.1.le r.1 = true → p.1.le r.1 = true :=
  NaturalKey.le_trans

/-- The order of keys is total on keyed elements.  With `le_trans_keyed` this is all that sorting relies on. -/
theorem le_total_keyed (p q : NaturalKey × α) : (p.1.le q.1 || q.1.le p.1) = true :=
  NaturalKey.le_total p.1 q.1

/-- **What was sorted is in order.**  So far nothing is said of elements that tie. -/
theorem before_sortOn (h : sortOn key xs = .ok os) : os.Pairwise (Before key) := by
  obtain ⟨keyed, hkeyed, -, rfl⟩ := of_sortOn_keyed h
  have hsorted : (keyed.mergeSort fun p q => p.1.le q.1).Pairwise fun p q => p.1.le q.1 = true :=
    List.pairwise_mergeSort le_trans_keyed le_total_keyed keyed
  refine List.Pairwise.map Prod.snd (fun p q h => h) (hsorted.imp_of_mem fun {p q} hp hq hle => ?_)
  intro j k hj hk
  rw [hkeyed p (List.mem_mergeSort.mp hp)] at hj
  rw [hkeyed q (List.mem_mergeSort.mp hq)] at hk
  obtain rfl := Except.ok.inj hj
  obtain rfl := Except.ok.inj hk
  exact hle

/-- **What is in order stays as it is.**  Elements that tie are in order either way, so they keep their places. -/
theorem sortOn_of_before (hkeys : ∀ x ∈ xs, ∃ k, key x = .ok k) (h : xs.Pairwise (Before key)) :
    sortOn key xs = .ok xs := by
  obtain ⟨os, hos, -⟩ := sortOn_perm hkeys
  obtain ⟨keyed, hkeyed, rfl, rfl⟩ := of_sortOn_keyed hos
  rw [hos, sortByKey, List.mergeSort_of_pairwise]
  refine (List.pairwise_map.mp h).imp_of_mem fun {p q} hp hq hbefore => ?_
  exact hbefore _ _ (hkeyed p hp) (hkeyed q hq)

/-- What was in order already, of two elements, is still.  This is what it means that the sort is stable. -/
theorem pair_sublist_sortOn (h : sortOn key xs = .ok os) (hxy : Before key x y) (hsub : [x, y].Sublist xs) :
    [x, y].Sublist os := by
  obtain ⟨keyed, hkeyed, rfl, rfl⟩ := of_sortOn_keyed h
  obtain ⟨pair, hpair, hmap⟩ := List.sublist_map_iff.mp hsub
  obtain ⟨p, _, rfl, rfl, hrest⟩ := List.map_eq_cons_iff.mp hmap.symm
  obtain ⟨q, _, rfl, rfl, hnil⟩ := List.map_eq_cons_iff.mp hrest
  obtain rfl := List.map_eq_nil_iff.mp hnil
  have hle := hxy p.1 q.1 (hkeyed p (hpair.subset List.mem_cons_self))
    (hkeyed q (hpair.subset (List.mem_cons_of_mem _ List.mem_cons_self)))
  exact (List.pair_sublist_mergeSort le_trans_keyed le_total_keyed hle hpair).map Prod.snd

/-! ## Two lists -/

/-- What is said of any two elements of a list can be said of their partners, place by place. -/
theorem pairwise_of_forall₂ {R S T : α → α → Prop} (hzs : List.Forall₂ R xs zs)
    (h : ∀ x ∈ xs, ∀ x' ∈ xs, ∀ z ∈ zs, ∀ z' ∈ zs, R x z → R x' z' → S x x' → T z z')
    (hxs : xs.Pairwise S) : zs.Pairwise T := by
  induction hzs with
  | nil => exact .nil
  | @cons x z xs zs hxz hrest ih =>
    obtain ⟨hx, hxs⟩ := List.pairwise_cons.mp hxs
    refine List.pairwise_cons.mpr ⟨fun z' hz' => ?_, ih (fun a ha a' ha' c hc c' hc' => ?_) hxs⟩
    · obtain ⟨x', hx', hxz'⟩ := exists_of_forall₂ hrest.flip z' hz'
      exact h x List.mem_cons_self x' (List.mem_cons_of_mem _ hx') z List.mem_cons_self z'
        (List.mem_cons_of_mem _ hz') hxz hxz' (hx x' hx')
    · exact h a (List.mem_cons_of_mem _ ha) a' (List.mem_cons_of_mem _ ha') c (List.mem_cons_of_mem _ hc) c'
        (List.mem_cons_of_mem _ hc')

/-- Lists in order that hold the same elements, of which no two tie, are one list.  So the order in which they were
added is forgotten. -/
theorem eq_of_before (hkeys : ∀ x ∈ xs, ∃ k, key x = .ok k) (hxs : xs.Pairwise (Before key))
    (hys : ys.Pairwise (Before key)) (huntied : xs.Pairwise fun x y => ¬ Tied key x y) (hperm : xs.Perm ys) :
    xs = ys := by
  refine List.Perm.eq_of_pairwise (fun x y hx hy hxy hyx => ?_) hxs hys hperm
  have hy := hperm.mem_iff.mpr hy
  by_contra hne
  have : Std.Symm fun x y => ¬ Tied key x y := ⟨fun _ _ h h' => h h'.symm⟩
  exact huntied.forall hx hy hne (tied_of_before (hkeys x hx) (hkeys y hy) hxy hyx)

/-- Two elements that stand the wrong way round are swapped. -/
theorem sortOn_swap (h : (do return (← key x).le (← key y) && !(← key y).le (← key x)) = .ok true) :
    sortOn key [y, x] = .ok [x, y] := by
  obtain ⟨j, hx, h⟩ := ok_of_bind h
  obtain ⟨k, hy, h⟩ := ok_of_bind h
  rw [hx, hy] at h
  obtain ⟨hle, hnot⟩ := Bool.and_eq_true_iff.mp (Except.ok.inj h)
  have hkeys : ∀ z ∈ [x, y], ∃ k, key z = .ok k :=
    List.forall_mem_cons.mpr ⟨⟨j, hx⟩, List.forall_mem_singleton.mpr ⟨k, hy⟩⟩
  have hbefore : Before key x y := by
    intro j' k' hj' hk'
    obtain rfl := Except.ok.inj (hx.symm.trans hj')
    obtain rfl := Except.ok.inj (hy.symm.trans hk')
    exact hle
  have huntied : ¬ Tied key x y := fun htied => by
    rw [htied.symm.before k j hy hx] at hnot
    exact Bool.false_ne_true hnot
  have hswap : [x, y].Perm [y, x] := List.Perm.swap y x []
  obtain ⟨ordered, hordered, hperm⟩ := sortOn_perm fun z hz => hkeys z (hswap.mem_iff.mpr hz)
  rw [hordered, ← eq_of_before hkeys (List.pairwise_pair.mpr hbefore) (before_sortOn hordered)
    (List.pairwise_pair.mpr huntied) (hswap.trans hperm.symm)]

/-- **Equals in the same places.**  When no keys tie in a list, and each of its elements has an equal in a
second list of its length, sorting puts the two in the same places. -/
theorem forall₂_sortOn {R : α → α → Prop} (hos : sortOn key xs = .ok os) (hot : sortOn key ys = .ok ot)
    (hlength : xs.length = ys.length) (huntied : xs.Pairwise fun x y => ¬ Tied key x y)
    (hpartner : ∀ x ∈ xs, ∃ y ∈ ys, R x y) (htied : ∀ x ∈ xs, ∀ y ∈ ys, R x y → Tied key x y) :
    List.Forall₂ R os ot := by
  obtain ⟨-, hperm⟩ := of_sortOn hos
  obtain ⟨hkeys, hperm'⟩ := of_sortOn hot
  have huntied' := (hperm.pairwise_iff fun {x y} h h' => h h'.symm).mpr huntied
  have hR : ∀ x ∈ os, ∀ y ∈ ot, R x y → Tied key x y := fun x hx y hy =>
    htied x (hperm.mem_iff.mp hx) y (hperm'.mem_iff.mp hy)
  -- each element of the first, in order, with its equal
  have hpairs : PairsInto R os ot := by
    refine pairsInto_of_partners (fun x hx => ?_) (huntied'.imp_of_mem fun {x x'} hx hx' hne y hy h h' => ?_)
    · obtain ⟨y, hy, hxy⟩ := hpartner x (hperm.mem_iff.mp hx)
      exact ⟨y, hperm'.mem_iff.mpr hy, hxy⟩
    · exact hne ((hR x hx y hy h).trans (hR x' hx' y hy h').symm)
  obtain ⟨zs, hsub, hzs⟩ := hpairs
  have hlength' : ot.length ≤ zs.length := by
    rw [hperm'.length_eq, ← hlength, ← hperm.length_eq, hzs.length_eq]
  have hzsperm := hsub.perm_of_length_le hlength'
  -- the equals are in order, and do not tie, because they tie with what is in order and does not
  have hties : ∀ x ∈ os, ∀ z ∈ zs, R x z → Tied key x z := fun x hx z hz => hR x hx z (hzsperm.mem_iff.mp hz)
  have hzsbefore : zs.Pairwise (Before key) := by
    refine pairwise_of_forall₂ hzs (fun x hx x' hx' z hz z' hz' h h' hbefore => ?_) (before_sortOn hos)
    have hxz := hties x hx z hz h
    have hxz' := hties x' hx' z' hz' h'
    exact (hxz.symm.before.trans hxz.left_key hbefore).trans hxz'.left_key hxz'.before
  have hzsuntied : zs.Pairwise fun z z' => ¬ Tied key z z' := by
    refine pairwise_of_forall₂ hzs (fun x hx x' hx' z hz z' hz' h h' hne htie => hne ?_) huntied'
    exact ((hties x hx z hz h).trans htie).trans (hties x' hx' z' hz' h').symm
  have hzskeys : ∀ z ∈ zs, ∃ k, key z = .ok k := fun z hz =>
    hkeys z (hperm'.mem_iff.mp (hzsperm.mem_iff.mp hz))
  exact eq_of_before hzskeys hzsbefore (before_sortOn hot) hzsuntied hzsperm ▸ hzs

/-- Of two elements of a list in which none is repeated, one is first. -/
theorem not_sublist_swap (h : xs.Nodup) (hxy : [x, y].Sublist xs) : ¬ [y, x].Sublist xs := by
  induction xs with
  | nil => exact absurd hxy.subset (by simp)
  | cons z xs ih =>
    obtain ⟨hz, hxs⟩ := List.nodup_cons.mp h
    intro hyx
    cases hxy with
    | cons _ hxy =>
      cases hyx with
      | cons _ hyx => exact ih hxs hxy hyx
      | cons_cons _ _ => exact hz (hxy.subset (by simp))
    | cons_cons _ hy =>
      cases hyx with
      | cons _ hyx => exact hz (hyx.subset (by simp))
      | cons_cons _ _ => exact hz (hy.subset (by simp))

/-- **The order in which elements were added does not show iff no two keys tie.**  If two tie, adding them the other
way round sorts to another list. -/
theorem sortOn_perm_iff (hkeys : ∀ x ∈ xs, ∃ k, key x = .ok k) (hnodup : xs.Nodup) :
    (∀ ys, xs.Perm ys → sortOn key ys = sortOn key xs) ↔ xs.Pairwise fun x y => ¬ Tied key x y := by
  constructor
  · intro hperm
    rw [List.pairwise_iff_forall_sublist]
    intro x y hsub htied
    -- the list backwards has the two the other way round, and so they stay
    obtain ⟨os, hos, hosperm⟩ := sortOn_perm hkeys
    have hback : sortOn key xs.reverse = .ok os := (hperm _ xs.reverse_perm.symm).trans hos
    have hxy := pair_sublist_sortOn hos htied.before hsub
    have hyx := pair_sublist_sortOn hback htied.symm.before (by simpa using hsub.reverse)
    exact not_sublist_swap (hosperm.nodup_iff.mpr hnodup) hxy hyx
  · intro huntied ys hperm
    obtain ⟨os, hos, -⟩ := sortOn_perm hkeys
    obtain ⟨ot, hot, -⟩ := sortOn_perm fun y hy => hkeys y (hperm.mem_iff.mpr hy)
    have hsame := forall₂_sortOn (R := Eq) hos hot hperm.length_eq huntied
      (fun x hx => ⟨x, hperm.mem_iff.mp hx, rfl⟩) (by
        rintro x hx _ _ rfl
        obtain ⟨k, hk⟩ := hkeys x hx
        exact ⟨k, k, hk, hk, NaturalKey.ties_refl k⟩)
    rw [hos, hot, (congrFun (congrFun List.forall₂_eq_eq_eq os) ot).mp hsame]

section

variable {x y : Value}

/-! ## What ties -/

/-- Names that are the same tie, if they have keys: a number by its value, a text by itself. -/
theorem tied_of_same {e e' : Name × Value} (hsame : e'.1.same e.1 = true) (he : ∃ j, e.1.key = .ok j)
    (he' : ∃ k, e'.1.key = .ok k) : Tied (fun e : Name × Value => e.1.key) e e' := by
  obtain ⟨j, hj⟩ := he
  obtain ⟨k, hk⟩ := he'
  refine ⟨j, k, hj, hk, ?_⟩
  obtain ⟨m, v⟩ := e
  obtain ⟨n, w⟩ := e'
  cases m with
  | text s =>
    cases n with
    | text t =>
      obtain rfl : t = s := beq_iff_eq.mp hsame
      obtain rfl : j = k := Except.ok.inj (hj.symm.trans hk)
      exact NaturalKey.ties_refl j
    | number n => exact nomatch hsame
  | number m =>
    cases n with
    | text t => exact nomatch hsame
    | number n => exact NaturalKey.ties_of_sameValue (Number.sameValue_symm hsame) hj hk

/-- What has a key ties with itself. -/
theorem tied_refl (hx : ∃ j, naturalKey x = .ok j) : Tied naturalKey x x := by
  obtain ⟨j, hj⟩ := hx
  exact ⟨j, j, hj, hj, NaturalKey.ties_refl j⟩

/-- What is a number holds one. -/
theorem exists_number (h : x.isNumber = true) : ∃ n : Number, n.isNumber = true ∧ x = .number n := by
  cases x with
  | number n => exact ⟨n, h, rfl⟩
  | _ => exact nomatch h

/-- Numbers tie iff the doubles nearest to them are of one value. -/
theorem tied_number_iff {m n : Number} (hm : m.isNumber = true) (hn : n.isNumber = true) :
    Tied naturalKey (.number m) (.number n) ↔
      ∃ d e, m.toDouble = .ok d ∧ n.toDouble = .ok e ∧ (Number.real d).sameValue (.real e) = true := by
  rw [Tied, naturalKey_number hm, naturalKey_number hn]
  constructor
  · rintro ⟨j, k, hj, hk, hties⟩
    exact (NaturalKey.ties_ofNumber_iff hm hn hj hk).mp hties
  · rintro ⟨d, e, hd, he, hsame⟩
    have hj : NaturalKey.ofNumber m = .ok [.numeral d ""] := by rw [NaturalKey.ofNumber, hd]; rfl
    have hk : NaturalKey.ofNumber n = .ok [.numeral e ""] := by rw [NaturalKey.ofNumber, he]; rfl
    exact ⟨_, _, hj, hk, (NaturalKey.ties_ofNumber_iff hm hn hj hk).mpr ⟨d, e, hd, he, hsame⟩⟩

/-- Others tie iff they are sorted by one text. -/
theorem tied_label_iff (hx : x.isNumber = false) (hy : y.isNumber = false) :
    Tied naturalKey x y ↔ ∃ s, x.label = .ok s ∧ y.label = .ok s := by
  rw [Tied, naturalKey_of_label hx, naturalKey_of_label hy]
  constructor
  · rintro ⟨j, k, hj, hk, hties⟩
    obtain ⟨s, hs, rfl⟩ := of_map_ok hj
    obtain ⟨t, ht, rfl⟩ := of_map_ok hk
    obtain rfl : s = t := NaturalKey.ties_ofText_iff.mp hties
    exact ⟨s, hs, ht⟩
  · rintro ⟨s, hs, ht⟩
    rw [hs, ht]
    exact ⟨_, _, rfl, rfl, NaturalKey.ties_refl _⟩

/-- A number ties with numbers only. -/
theorem Tied.isNumber_eq (h : Tied naturalKey x y) : x.isNumber = y.isNumber := by
  obtain ⟨j, k, hj, hk, hties⟩ := h
  cases hx : x.isNumber with
  | true =>
    cases hy : y.isNumber with
    | true => rfl
    | false =>
      obtain ⟨m, hm, rfl⟩ := exists_number hx
      rw [naturalKey_number hm] at hj
      rw [naturalKey_of_label hy] at hk
      obtain ⟨t, _, rfl⟩ := of_map_ok hk
      exact absurd hties (NaturalKey.not_ties_ofNumber_ofText hj)
  | false =>
    cases hy : y.isNumber with
    | false => rfl
    | true =>
      obtain ⟨n, hn, rfl⟩ := exists_number hy
      rw [naturalKey_number hn] at hk
      rw [naturalKey_of_label hx] at hj
      obtain ⟨s, _, rfl⟩ := of_map_ok hj
      exact absurd hties.symm (NaturalKey.not_ties_ofNumber_ofText hk)

/-- **What ties:** numbers whose nearest doubles are of one value, and other values that are sorted by one
text. -/
theorem tied_iff : Tied naturalKey x y ↔
    (∃ m n d e, x = .number m ∧ y = .number n ∧ m.isNumber = true ∧ n.isNumber = true ∧ m.toDouble = .ok d ∧
      n.toDouble = .ok e ∧ (Number.real d).sameValue (.real e) = true) ∨
    (x.isNumber = false ∧ y.isNumber = false ∧ ∃ s, x.label = .ok s ∧ y.label = .ok s) := by
  constructor
  · intro h
    cases hx : x.isNumber with
    | true =>
      obtain ⟨m, hm, rfl⟩ := exists_number hx
      obtain ⟨n, hn, rfl⟩ := exists_number (h.isNumber_eq.symm.trans hx)
      obtain ⟨d, e, hd, he, hsame⟩ := (tied_number_iff hm hn).mp h
      exact Or.inl ⟨m, n, d, e, rfl, rfl, hm, hn, hd, he, hsame⟩
    | false =>
      have hy : y.isNumber = false := h.isNumber_eq.symm.trans hx
      exact Or.inr ⟨rfl, hy, (tied_label_iff hx hy).mp h⟩
  · rintro (⟨m, n, d, e, rfl, rfl, hm, hn, hd, he, hsame⟩ | ⟨hx, hy, hlabel⟩)
    · exact (tied_number_iff hm hn).mpr ⟨d, e, hd, he, hsame⟩
    · exact (tied_label_iff hx hy).mpr hlabel

/-- **Values that agree tie,** if they are of one source.  Numbers tie by their doubles, and all others by the text
that they are sorted by. -/
theorem tied_of_agree (hagree : Agree Equal x y) (hx : ∃ j, naturalKey x = .ok j)
    (hy : ∃ k, naturalKey y = .ok k) (hsource : x.source = y.source) : Tied naturalKey x y := by
  cases hagree with
  | individual _ => exact tied_refl hx
  | @number m n hsame =>
    rcases Number.sameDatum_iff.mp hsame with hvalue | ⟨_, rfl⟩
    · obtain ⟨hm, hn, _⟩ := Number.sameValue_iff.mp hvalue
      obtain ⟨j, hj⟩ := hx
      obtain ⟨k, hk⟩ := hy
      have hjm : NaturalKey.ofNumber m = .ok j := (naturalKey_number hm).symm.trans hj
      have hkn : NaturalKey.ofNumber n = .ok k := (naturalKey_number hn).symm.trans hk
      exact ⟨j, k, hj, hk, NaturalKey.ties_of_sameValue hvalue hjm hkn⟩
    · exact tied_refl hx
  | _ =>
    obtain ⟨j, hj⟩ := hx
    obtain ⟨s, hs⟩ := source_of_naturalKey hj
    exact (tied_label_iff rfl rfl).mpr ⟨s, hs, hsource.symm.trans hs⟩

/-! ## Two members -/

/-- Whether two values have keys, and the first may stand before the second. -/
def checkBefore (x y : Value) : Except Fault Bool := do
  let j ← naturalKey x
  let k ← naturalKey y
  return j.le k

/-- What the test says of two values, as two facts about keys. -/
theorem of_checkBefore (h : checkBefore x y = .ok true) :
    (∀ v ∈ [x, y], ∃ k, naturalKey v = .ok k) ∧ Before naturalKey x y := by
  obtain ⟨j, hj, h⟩ := ok_of_bind h
  obtain ⟨k, hk, h⟩ := ok_of_bind h
  have hle : j.le k = true := Except.ok.inj h
  refine ⟨fun v hv => ?_, fun j' k' hj' hk' => ?_⟩
  · rcases List.mem_pair.mp hv with rfl | rfl
    · exact ⟨j, hj⟩
    · exact ⟨k, hk⟩
  · obtain rfl := Except.ok.inj (hj.symm.trans hj')
    obtain rfl := Except.ok.inj (hk.symm.trans hk')
    exact hle

/-- Two members that may stand in the order they have stay in it. -/
theorem sorted_pair (h : checkBefore x y = .ok true) : sorted [x, y] = .ok [x, y] := by
  obtain ⟨hkeys, hbefore⟩ := of_checkBefore h
  exact sortOn_of_before hkeys (List.pairwise_pair.mpr hbefore)

/-- Two members that stand the other way about are turned round, unless they tie. -/
theorem sorted_swap (h : checkBefore x y = .ok true) (huntied : ¬ Tied naturalKey x y) :
    sorted [y, x] = .ok [x, y] := by
  obtain ⟨hkeys, -⟩ := of_checkBefore h
  have hne : x ≠ y := by
    rintro rfl
    exact huntied (tied_refl (hkeys x List.mem_cons_self))
  have hperm : [x, y].Perm [y, x] := List.Perm.swap y x []
  have hsame := (sortOn_perm_iff hkeys (List.pairwise_pair.mpr hne)).mpr (List.pairwise_pair.mpr huntied) [y, x] hperm
  exact hsame.trans (sorted_pair h)

end

end Value

end StoryValues
