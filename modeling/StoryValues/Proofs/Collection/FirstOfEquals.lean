import Mathlib.Data.List.Pairwise
import StoryValues.Collection.Sequence
import StoryValues.Proofs.Collection.Reachable

/-
  FIRST OF EQUALS.  Two loops leave out what equals a value before it: `Sequence.unique` asks whether the new value
  equals one that was kept, `Dataset.addAll` whether one that was kept equals the new value.

  1. **The specification** (`firsts`) does not speak of what was kept: it takes each value that no value at a place
     before it equals.
  2. **The crux** (`equal_firsts_iff`) — a value is equal to one of the firsts iff it is equal to any of the values,
     since what was left out equals something that was not.  Here equality has to be symmetric and transitive.
  3. **Both loops** then take the firsts, by induction on the values to come, with those that are done in front
     (`keepNew_firsts`, `addAll_firsts`).
  4. **The firsts are representatives:** no two are equal, and the one that a value equals is the first of all values
     that equal it (`find?_firsts`).  So taking them again changes nothing (`firsts_of_differ`).
-/

namespace StoryValues

namespace Sequence

open Value

/-- Whether none of the values before it equals a value. -/
def isNew (before : List Value) (v : Value) : Bool := before.all fun y => equals y v == .ok false

/-- **First of equals:** the values, in order, that no value at a place before them equals. -/
def firsts (xs : List Value) : List Value :=
  (xs.zipIdx.filter fun (x, place) => isNew (xs.take place) x).map Prod.fst

variable {xs us : List Value} {u v x : Value}

/-! ## One value more -/

/-- A further value is taken iff it is new; it changes nothing for those before it. -/
theorem firsts_snoc (xs : List Value) (v : Value) :
    firsts (xs ++ [v]) = if isNew xs v then firsts xs ++ [v] else firsts xs := by
  have hbefore : xs.zipIdx.filter (fun (x, place) => isNew ((xs ++ [v]).take place) x) =
      xs.zipIdx.filter fun (x, place) => isNew (xs.take place) x := by
    refine List.filter_congr fun p hp => ?_
    have hplace : p.2 ≤ xs.length := (List.snd_lt_of_mem_zipIdx hp).le
    show isNew ((xs ++ [v]).take p.2) p.1 = isNew (xs.take p.2) p.1
    rw [List.take_append_of_le_length hplace]
  have hlast : (xs ++ [v]).take xs.length = xs := List.take_left
  simp only [firsts, List.zipIdx_append, List.filter_append, hbefore, List.map_append]
  cases hnew : isNew xs v <;> simp [hlast, hnew]

/-- The firsts stand in the order that they had: they are the values themselves with some left out. -/
theorem firsts_sublist (xs : List Value) : (firsts xs).Sublist xs := by
  have hsub : (firsts xs).Sublist (xs.zipIdx.map Prod.fst) := List.filter_sublist.map Prod.fst
  rwa [List.zipIdx_map_fst] at hsub

/-- Each of the firsts is one of the values. -/
theorem mem_of_mem_firsts (h : u ∈ firsts xs) : u ∈ xs := (firsts_sublist xs).subset h

/-! ## Representatives -/

/-- A value is new where none before it equals it, and this can be asked since both are proper. -/
theorem isNew_iff (hxs : ∀ x ∈ xs, x.Everywhere Proper) (hv : v.Everywhere Proper) :
    isNew xs v = true ↔ ∀ y ∈ xs, ¬ Equal y v := by
  rw [isNew, List.all_eq_true]
  constructor
  · intro h y hy
    exact (Dataset.not_equal_iff (hxs y hy) hv).mp (beq_iff_eq.mp (h y hy))
  · intro h y hy
    exact beq_iff_eq.mpr ((Dataset.not_equal_iff (hxs y hy) hv).mpr (h y hy))

/-- What is not new equals a value before it; and with `equal_firsts_iff` it equals one that was kept. -/
theorem exists_of_not_isNew (hxs : ∀ x ∈ xs, x.Everywhere Proper) (hv : v.Everywhere Proper) (h : isNew xs v = false) :
    ∃ y ∈ xs, Equal y v := by
  by_contra hnone
  have hnew : isNew xs v = true := (isNew_iff hxs hv).mpr fun y hy heq => hnone ⟨y, hy, heq⟩
  rw [h] at hnew
  exact Bool.false_ne_true hnew

/-- **Whoever looks for what equals a value finds the same** among the firsts as among all values: what was left out
would be found later than what it equals. -/
theorem find?_firsts (hxs : ∀ x ∈ xs, x.Everywhere Proper) (hv : v.Everywhere Proper) :
    (firsts xs).find? (fun y => equals y v == .ok true) = xs.find? fun y => equals y v == .ok true := by
  induction xs using List.reverseRecOn with
  | nil => rfl
  | append_singleton xs x ih =>
    obtain ⟨hxs, hx⟩ := List.forall_mem_append.mp hxs
    have hx : x.Everywhere Proper := hx x (List.mem_singleton.mpr rfl)
    rw [firsts_snoc]
    cases hnew : isNew xs x with
    | true => rw [if_pos rfl, List.find?_append, List.find?_append, ih hxs]
    | false =>
      rw [if_neg Bool.false_ne_true, ih hxs, List.find?_append]
      obtain ⟨y, hy, hyx⟩ := exists_of_not_isNew hxs hx hnew
      by_cases hxv : Equal x v
      · -- the value before `x` that `x` repeats equals `v` as well, and is found first
        have hyv : Equal y v := equal_trans (hxs y hy) hx hv hyx hxv
        have hfound : (xs.find? fun y => equals y v == .ok true).isSome = true :=
          List.find?_isSome.mpr ⟨y, hy, beq_iff_eq.mpr hyv⟩
        rw [Option.or_of_isSome hfound]
      · have hnone : [x].find? (fun y => equals y v == .ok true) = none :=
          List.find?_eq_none.mpr fun w hw => by
            obtain rfl := List.mem_singleton.mp hw
            exact fun h => hxv (beq_iff_eq.mp h)
        rw [hnone, Option.or_none]

/-- **A value is equal to one of the firsts iff it is equal to any of the values.** -/
theorem equal_firsts_iff (hxs : ∀ x ∈ xs, x.Everywhere Proper) (hv : v.Everywhere Proper) :
    (∃ u ∈ firsts xs, Equal u v) ↔ ∃ y ∈ xs, Equal y v := by
  have hsame : ((firsts xs).find? fun y => equals y v == .ok true).isSome =
      (xs.find? fun y => equals y v == .ok true).isSome := congrArg Option.isSome (find?_firsts hxs hv)
  rw [Bool.eq_iff_iff, List.find?_isSome, List.find?_isSome] at hsame
  simpa only [beq_iff_eq, Equal] using hsame

/-- No two of the firsts are equal: the later one would not have been new. -/
theorem differ_firsts (hxs : ∀ x ∈ xs, x.Everywhere Proper) : (firsts xs).Pairwise fun u w => ¬ Equal u w := by
  induction xs using List.reverseRecOn with
  | nil => exact List.Pairwise.nil
  | append_singleton xs x ih =>
    obtain ⟨hxs, hx⟩ := List.forall_mem_append.mp hxs
    have hx : x.Everywhere Proper := hx x (List.mem_singleton.mpr rfl)
    rw [firsts_snoc]
    cases hnew : isNew xs x with
    | true =>
      have hlast : ∀ u ∈ firsts xs, ¬ Equal u x := fun u hu => (isNew_iff hxs hx).mp hnew u (mem_of_mem_firsts hu)
      refine List.pairwise_append.mpr ⟨ih hxs, List.pairwise_singleton _ _, fun u hu w hw => ?_⟩
      exact List.mem_singleton.mp hw ▸ hlast u hu
    | false => exact ih hxs

/-- **Values no two of which are equal are all firsts.** -/
theorem firsts_of_differ (hus : ∀ u ∈ us, u.Everywhere Proper) (h : us.Pairwise fun u w => ¬ Equal u w) :
    firsts us = us := by
  induction us using List.reverseRecOn with
  | nil => rfl
  | append_singleton us u ih =>
    obtain ⟨hus, hu⟩ := List.forall_mem_append.mp hus
    obtain ⟨hdiffer, -, hlast⟩ := List.pairwise_append.mp h
    have hu : u.Everywhere Proper := hu u (List.mem_singleton.mpr rfl)
    have hnew : isNew us u = true := (isNew_iff hus hu).mpr fun y hy => hlast y hy u (List.mem_singleton.mpr rfl)
    rw [firsts_snoc, hnew, if_pos rfl, ih hus hdiffer]

/-! ## The two loops -/

variable {done : List Value}

/-- Of a value that equals none of the firsts, none of the values is equal to it, and it is taken next. -/
theorem firsts_snoc_of_iff {yes : Bool} (hdone : ∀ x ∈ done, x.Everywhere Proper) (hv : v.Everywhere Proper)
    (hyes : yes = true ↔ ∃ u ∈ firsts done, Equal u v) :
    firsts (done ++ [v]) = if yes then firsts done else firsts done ++ [v] := by
  rw [equal_firsts_iff hdone hv] at hyes
  rw [firsts_snoc]
  cases yes with
  | true =>
    obtain ⟨y, hy, heq⟩ := hyes.mp rfl
    have hold : ¬ isNew done v = true := fun hnew => (isNew_iff hdone hv).mp hnew y hy heq
    rw [if_neg hold, if_pos rfl]
  | false =>
    have hnew : isNew done v = true :=
      (isNew_iff hdone hv).mpr fun y hy heq => Bool.false_ne_true (hyes.mpr ⟨y, hy, heq⟩)
    rw [if_pos hnew, if_neg Bool.false_ne_true]

/-- **Keeping what is new** turns the firsts of what is done into the firsts of all. -/
theorem keepNew_firsts {todo : List Value} (hdone : ∀ x ∈ done, x.Everywhere Proper)
    (htodo : ∀ x ∈ todo, x.Everywhere Proper) : keepNew (firsts done) todo = .ok (firsts (done ++ todo)) := by
  induction todo generalizing done with
  | nil => rw [List.append_nil, keepNew]
  | cons v todo ih =>
    obtain ⟨hv, htodo⟩ := List.forall_mem_cons.mp htodo
    have hkept : ∀ u ∈ firsts done, u.Everywhere Proper := fun u hu => hdone u (mem_of_mem_firsts hu)
    -- the new value is asked, so the answer has to be turned round
    obtain ⟨yes, hasked, hyes⟩ :
        Decides ((firsts done).anyM fun seen => equals v seen) (∃ u ∈ firsts done, Equal v u) :=
      Decides.anyM fun u hu => by
        obtain ⟨r, hr⟩ := equals_answers hv (hkept u hu)
        exact Decides.of_answer hr
    have hturned : (∃ u ∈ firsts done, Equal v u) ↔ ∃ u ∈ firsts done, Equal u v := by
      refine exists_congr fun u => and_congr_right fun hu => ?_
      exact ⟨equal_symm hv (hkept u hu), equal_symm (hkept u hu) hv⟩
    have hnext := firsts_snoc_of_iff hdone hv (hyes.trans hturned)
    have hdone' : ∀ x ∈ done ++ [v], x.Everywhere Proper :=
      List.forall_mem_append.mpr ⟨hdone, List.forall_mem_singleton.mpr hv⟩
    have hrest := ih hdone' htodo
    rw [List.append_assoc, List.singleton_append, hnext] at hrest
    rw [keepNew, hasked]
    cases yes with
    | true => exact hrest
    | false => exact hrest

/-- **Adding values to a dataset** does so, too. -/
theorem addAll_firsts {todo : List Value} (hdone : ∀ x ∈ done, x.Everywhere Proper)
    (htodo : ∀ x ∈ todo, x.Everywhere Proper) :
    Dataset.addAll (firsts done) todo = .ok (firsts (done ++ todo)) := by
  induction todo generalizing done with
  | nil => rw [List.append_nil, Dataset.addAll]
  | cons v todo ih =>
    obtain ⟨hv, htodo⟩ := List.forall_mem_cons.mp htodo
    have hkept : ∀ u ∈ firsts done, u.Everywhere Proper := fun u hu => hdone u (mem_of_mem_firsts hu)
    obtain ⟨yes, hasked, hyes⟩ := Dataset.decides_has hkept hv
    have hnext := firsts_snoc_of_iff hdone hv hyes
    have hdone' : ∀ x ∈ done ++ [v], x.Everywhere Proper :=
      List.forall_mem_append.mpr ⟨hdone, List.forall_mem_singleton.mpr hv⟩
    have hrest := ih hdone' htodo
    rw [List.append_assoc, List.singleton_append, hnext] at hrest
    rw [Dataset.addAll, Dataset.add, hasked]
    cases yes with
    | true => exact hrest
    | false => exact hrest

/-! ## The whole -/

/-- **Both loops take the first of equals.**  Let all values be in good order.

* What is kept are the values that no value at a place before them equals; so they are in their order.
* They are the members of the dataset of the values, in the order in which they were added.
* Doing it again changes nothing.
* No two of them are equal, whichever is asked first.
* Each value equals one of them and no other, and that is the first of all values that equal it. -/
theorem unique_firsts (hxs : ∀ x ∈ xs, x.Everywhere Proper) :
    unique xs = .ok (firsts xs) ∧ Dataset.addAll [] xs = .ok (firsts xs) ∧ unique (firsts xs) = .ok (firsts xs) ∧
      (firsts xs).Sublist xs ∧
      ((firsts xs).Pairwise fun u w => equals u w = .ok false ∧ equals w u = .ok false) ∧
      ∀ x ∈ xs, ∃ u ∈ firsts xs, (∀ w ∈ firsts xs, equals w x = .ok true ↔ w = u) ∧
        xs.find? (fun y => equals y x == .ok true) = some u := by
  have hus : ∀ u ∈ firsts xs, u.Everywhere Proper := fun u hu => hxs u (mem_of_mem_firsts hu)
  have hdiffer := differ_firsts hxs
  have hnone : ∀ x ∈ ([] : List Value), x.Everywhere Proper := List.forall_mem_nil _
  have hkept : ∀ ys : List Value, (∀ y ∈ ys, y.Everywhere Proper) → unique ys = .ok (firsts ys) := fun ys hys =>
    keepNew_firsts hnone hys
  have hboth : (firsts xs).Pairwise fun u w => equals u w = .ok false ∧ equals w u = .ok false :=
    hdiffer.imp_of_mem fun {u w} hu hw hne =>
      ⟨(Dataset.not_equal_iff (hus u hu) (hus w hw)).mpr hne,
        (Dataset.not_equal_iff (hus w hw) (hus u hu)).mpr fun h => hne (equal_symm (hus w hw) (hus u hu) h)⟩
  refine ⟨hkept xs hxs, addAll_firsts hnone hxs, ?_, firsts_sublist xs, hboth, ?_⟩
  · rw [hkept _ hus, firsts_of_differ hus hdiffer]
  · intro x hx
    have hxp := hxs x hx
    -- the value equals itself, so one is found
    have hsome : (xs.find? fun y => equals y x == .ok true).isSome = true :=
      List.find?_isSome.mpr ⟨x, hx, beq_iff_eq.mpr (equal_refl hxp)⟩
    obtain ⟨u, hfound⟩ := Option.isSome_iff_exists.mp hsome
    have hu : u ∈ firsts xs := List.mem_of_find?_eq_some ((find?_firsts hxs hxp).trans hfound)
    have hux : Equal u x := beq_iff_eq.mp (List.find?_some (p := fun y => equals y x == .ok true) hfound)
    refine ⟨u, hu, fun w hw => ⟨fun hwx => ?_, fun h => h ▸ hux⟩, hfound⟩
    have hwu : equals w u = .ok true := equal_trans (hus w hw) hxp (hus u hu) hwx (equal_symm (hus u hu) hxp hux)
    by_contra hne
    have : Std.Symm fun u w : Value => equals u w = .ok false ∧ equals w u = .ok false := ⟨fun _ _ => And.symm⟩
    have hapart := (hboth.forall hw hu hne).1
    rw [hwu] at hapart
    exact Bool.false_ne_true (Except.ok.inj hapart).symm

/-- The number one as a double. -/
def oneAgain : Value := .number (.real (.ofRatio false 1 1))

/-- The number one, a dataset, and the number one as a double. -/
def oneTwice : List Value := [.number (.int 1), oneThenList, oneAgain]

/-- The double equals the integer before it and is left out. -/
theorem unique_oneTwice :
    (∀ x ∈ oneTwice, x.Everywhere Proper) ∧ unique oneTwice = .ok [.number (.int 1), oneThenList] ∧
      Dataset.addAll [] oneTwice = .ok [.number (.int 1), oneThenList] := by
  have hproper : ∀ x ∈ oneTwice, x.Everywhere Proper := by
    refine List.forall_mem_cons.mpr ⟨everywhere_of_parts_nil rfl trivial, List.forall_mem_cons.mpr ⟨?_, ?_⟩⟩
    · exact proper_oneThenList
    · exact List.forall_mem_singleton.mpr (everywhere_of_parts_nil rfl trivial)
  have hapart : equals (.number (.int 1)) oneThenList = .ok false := Dataset.equals_of_isPlain rfl
  have hsame : equals (.number (.int 1)) oneAgain = .ok true :=
    (Dataset.equals_of_isPlain rfl).trans (congrArg Except.ok (by decide +kernel))
  have hfirsts : firsts oneTwice = [.number (.int 1), oneThenList] := by
    show firsts (([] ++ [.number (.int 1)] ++ [oneThenList]) ++ [oneAgain]) = _
    rw [firsts_snoc, firsts_snoc, firsts_snoc]
    simp [firsts, isNew, hapart, hsame]
  obtain ⟨hunique, hadded, -⟩ := unique_firsts hproper
  exact ⟨hproper, hfirsts ▸ hunique, hfirsts ▸ hadded⟩

end Sequence

end StoryValues
