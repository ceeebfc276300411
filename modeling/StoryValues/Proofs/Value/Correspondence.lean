import Mathlib.Data.List.FinRange
import Mathlib.Data.List.NodupEquivFin
import StoryValues.Proofs.Value.Sides

/-
  CORRESPONDENCE: when two datasets match.

  `Value.PairsInto` is what the search of `matchPairs` comes to, one member after another.  Seen as a whole it
  is a one-to-one correspondence between places (`Corresponds`): every member has one partner, and is the
  partner of one.

  1. **The two are the same** (`corresponds_iff_pairsInto`).  The partners, in the order of the first list,
     are a rearrangement of the second; the same rearrangement of its places is the correspondence.
  2. **Matching datasets** (`isMatch_dataset`).  An answer says whether there is a correspondence.  Besides the
     matching of members, only putting the members in order can stop it, and it does whenever a member has
     no natural key: such a member is not found to match even itself (`large_unmatched`).
-/

namespace StoryValues

namespace Value

variable {α β : Type} {R : α → β → Prop} {xs : List α} {ys : List β} {settings : Settings}

/-! ## One-to-one correspondences -/

/-- **A one-to-one correspondence** between the places of two lists, in which partners are related. -/
def Corresponds (R : α → β → Prop) (xs : List α) (ys : List β) : Prop :=
  ∃ e : Fin xs.length ≃ Fin ys.length, ∀ i, R (xs.get i) (ys.get (e i))

/-- Every place of a list, in order, with what stands there. -/
theorem forall₂_finRange (ys : List β) : List.Forall₂ (fun y i => y = ys.get i) ys (List.finRange ys.length) := by
  refine List.forall₂_iff_get.mpr ⟨List.length_finRange.symm, fun i hi _ => ?_⟩
  rw [List.get_eq_getElem, List.get_eq_getElem, List.get_eq_getElem, List.getElem_finRange]
  rfl

/-- A correspondence rearranges the places. -/
theorem map_finRange_perm {m n : Nat} (e : Fin m ≃ Fin n) : ((List.finRange m).map e).Perm (List.finRange n) := by
  refine (List.perm_ext_iff_of_nodup ((List.nodup_finRange m).map e.injective) (List.nodup_finRange n)).mpr fun i => ?_
  exact ⟨fun _ => List.mem_finRange i, fun _ => List.mem_map.mpr ⟨e.symm i, List.mem_finRange _, e.apply_symm_apply i⟩⟩

/-- **A correspondence is a pairing that takes all members.** -/
theorem corresponds_iff_pairsInto : Corresponds R xs ys ↔ xs.length = ys.length ∧ PairsInto R xs ys := by
  constructor
  · rintro ⟨e, he⟩
    refine ⟨Fin.equiv_iff_eq.mp ⟨e⟩, (List.finRange xs.length).map fun i => ys.get (e i), ?_, ?_⟩
    · have hperm := (map_finRange_perm e).map ys.get
      rw [List.map_map, List.map_get_finRange] at hperm
      exact hperm.subperm
    · refine List.forall₂_map_right_iff.mpr ((forall₂_finRange xs).imp ?_)
      rintro x i rfl
      exact he i
  · rintro ⟨hlength, zs, hsub, hzs⟩
    have hperm : zs.Perm ys := hsub.perm_of_length_le (by rw [← hlength, hzs.length_eq])
    -- the places of the partners, in the order of the first list
    obtain ⟨js, hjs, hplaces⟩ := List.perm_comp_forall₂ hperm (forall₂_finRange ys)
    have hall : ∀ i, i ∈ js := fun i => hplaces.mem_iff.mpr (List.mem_finRange i)
    have hnodup : js.Nodup := hplaces.nodup_iff.mpr (List.nodup_finRange _)
    have hcount : xs.length = js.length := hzs.length_eq.trans hjs.length_eq
    refine ⟨(finCongr hcount).trans (hnodup.getEquivOfForallMemList js hall), fun i => ?_⟩
    have hpartner := hzs.get i.isLt (hzs.length_eq ▸ i.isLt)
    rw [hjs.get (hzs.length_eq ▸ i.isLt) (hcount ▸ i.isLt)] at hpartner
    exact hpartner

/-! ## Matching datasets -/

/-- The first result that is missing is why all are. -/
theorem exists_of_collect_error {f : α → Except Fault β} {xs : List α} {fault : Fault}
    (h : collect (xs.map f) = .error fault) : ∃ x ∈ xs, f x = .error fault := by
  induction xs with
  | nil => cases h
  | cons x xs ih =>
    rw [List.map_cons, collect] at h
    cases hx : f x with
    | error fault' =>
      rw [hx] at h
      obtain rfl := Except.error.inj h
      exact ⟨x, List.mem_cons_self, hx⟩
    | ok y =>
      rw [hx] at h
      cases hxs : collect (xs.map f) with
      | error fault' =>
        rw [hxs] at h
        obtain rfl := Except.error.inj h
        obtain ⟨x', hx', hfault⟩ := ih hxs
        exact ⟨x', List.mem_cons_of_mem x hx', hfault⟩
      | ok ys =>
        rw [hxs] at h
        cases h

/-- Putting in order stops only for want of a key. -/
theorem exists_of_sorted_error {xs : List Value} {fault : Fault} (h : sorted xs = .error fault) :
    ∃ x ∈ xs, naturalKey x = .error fault := by
  rw [sorted, sortOn] at h
  cases hkeys : collect (xs.map naturalKey) with
  | error fault' =>
    rw [hkeys] at h
    obtain rfl := Except.error.inj h
    exact exists_of_collect_error hkeys
  | ok keys =>
    rw [hkeys] at h
    cases h

/-- Datasets are no datatypes: matching them is matching their members. -/
theorem isMatch_members (s t : Tag) (xs ys : List Value) :
    isMatch (.dataset s xs) (.dataset t ys) = matchMembers xs ys := by
  rw [isMatch_eq]
  rfl

/-- What matching members says: a yes that they correspond, a no that they do not. -/
theorem corresponds_of_matchMembers {xs ys : List Value} {yes : Bool}
    (h : matchMembers xs ys settings = .ok yes) : yes = true ↔ Corresponds (Matches settings) xs ys := by
  rw [corresponds_iff_pairsInto]
  obtain ⟨os, hos, h⟩ := Check.bind_eq_ok.mp h
  obtain ⟨ot, hot, h⟩ := Check.bind_eq_ok.mp h
  have hperm := (of_sortOn (Check.lift_eq_ok.mp hos)).2
  have hperm' := (of_sortOn (Check.lift_eq_ok.mp hot)).2
  have hsearch : Check.Says settings (matchPairs isMatch os ot) (PairsInto (Matches settings) os ot)
      (PairsInto (MayMatch settings) os ot) := says_matchPairs fun x _ y _ => says_match x y
  have hmatch := Check.Says.ite_false (b := os.length = ot.length) fun _ => hsearch
  rw [hperm.length_eq, hperm'.length_eq] at hmatch h
  cases yes with
  | true => exact ⟨fun _ => (hmatch.yes h).imp_right (.perm hperm hperm'), fun _ => rfl⟩
  | false =>
    -- what says yes does not say no
    refine ⟨nofun, fun hpairs => absurd (hpairs.imp_right fun hpairs => ?_) (hmatch.no h)⟩
    refine (hpairs.perm hperm.symm hperm'.symm).imp fun x _ y _ hyes hno => ?_
    cases hyes.symm.trans hno

/-- Matching members stops for want of a key, or where matching two of them does. -/
theorem stops_of_matchMembers {xs ys : List Value} {e : Failure} (h : matchMembers xs ys settings = .error e) :
    (∃ f, e = .fault f ∧ ∃ x ∈ xs ++ ys, naturalKey x = .error f) ∨
      ∃ x ∈ xs, ∃ y ∈ ys, isMatch x y settings = .error e := by
  have hkey (zs : List Value) (hzs : ∀ z ∈ zs, z ∈ xs ++ ys) (hstop : Check.lift (sorted zs) settings = .error e) :
      ∃ f, e = .fault f ∧ ∃ x ∈ xs ++ ys, naturalKey x = .error f := by
    cases hsorted : sorted zs with
    | ok os =>
      rw [hsorted] at hstop
      cases hstop
    | error f =>
      rw [hsorted] at hstop
      obtain ⟨z, hz, hfault⟩ := exists_of_sorted_error hsorted
      exact ⟨f, (Except.error.inj hstop).symm, z, hzs z hz, hfault⟩
  rcases Check.bind_eq_error.mp h with h | ⟨os, hos, h⟩
  · exact Or.inl (hkey xs (fun z hz => List.mem_append_left ys hz) h)
  rcases Check.bind_eq_error.mp h with h | ⟨ot, hot, h⟩
  · exact Or.inl (hkey ys (fun z hz => List.mem_append_right xs hz) h)
  have hperm := (of_sortOn (Check.lift_eq_ok.mp hos)).2
  have hperm' := (of_sortOn (Check.lift_eq_ok.mp hot)).2
  have hstops : Check.StopsOnly settings (fun e => ∃ x ∈ xs, ∃ y ∈ ys, isMatch x y settings = .error e)
      (if os.length = ot.length then matchPairs isMatch os ot else pure false) := by
    refine .ite (fun _ => stopsOnly_matchPairs fun x hx y hy e he => ?_) fun _ => .of_ok rfl
    exact ⟨x, hperm.mem_iff.mp hx, y, hperm'.mem_iff.mp hy, he⟩
  exact Or.inr (hstops e h)

/-- A list with a member that has no key is not put in order. -/
theorem exists_sorted_error {xs : List Value} {x : Value} (hx : x ∈ xs) (hkey : ∀ k, naturalKey x ≠ .ok k) :
    ∃ f, sorted xs = .error f := by
  cases hsorted : sorted xs with
  | error f => exact ⟨f, rfl⟩
  | ok os =>
    obtain ⟨k, hk⟩ := (of_sortOn hsorted).1 x hx
    exact absurd hk (hkey k)

/-- Members one of which has no key are not matched. -/
theorem matchMembers_of_no_key {xs ys : List Value} {x : Value} (hx : x ∈ xs ++ ys)
    (hkey : ∀ k, naturalKey x ≠ .ok k) : ∃ f, matchMembers xs ys settings = .error (.fault f) := by
  rw [matchMembers]
  cases hxs : sorted xs with
  | error f => exact ⟨f, rfl⟩
  | ok os =>
    have hx : x ∈ ys := (List.mem_append.mp hx).resolve_left fun hx => by
      obtain ⟨f, hf⟩ := exists_sorted_error hx hkey
      cases hxs.symm.trans hf
    obtain ⟨f, hf⟩ := exists_sorted_error hx hkey
    rw [hf]
    exact ⟨f, rfl⟩

/-- **Matching datasets.** If there is an answer, it is yes iff the members correspond one to one so that
partners match.  If there is none, then a member has no natural key, or matching a member of the first with one
of the second stops; and where a member has no natural key, there is none. -/
theorem isMatch_dataset (settings : Settings) (s t : Tag) (xs ys : List Value) :
    ((∃ yes, isMatch (.dataset s xs) (.dataset t ys) settings = .ok yes ∧
        (yes = true ↔ Corresponds (Matches settings) xs ys)) ∨
      (∃ f, isMatch (.dataset s xs) (.dataset t ys) settings = .error (.fault f) ∧
        ∃ x ∈ xs ++ ys, naturalKey x = .error f) ∨
      ∃ e, isMatch (.dataset s xs) (.dataset t ys) settings = .error e ∧
        ∃ x ∈ xs, ∃ y ∈ ys, isMatch x y settings = .error e) ∧
    ∀ x ∈ xs ++ ys, (∀ k, naturalKey x ≠ .ok k) →
      ∃ f, isMatch (.dataset s xs) (.dataset t ys) settings = .error (.fault f) := by
  rw [isMatch_members]
  refine ⟨?_, fun x hx => matchMembers_of_no_key hx⟩
  cases hrun : matchMembers xs ys settings with
  | ok yes => exact Or.inl ⟨yes, rfl, corresponds_of_matchMembers hrun⟩
  | error e =>
    rcases stops_of_matchMembers hrun with ⟨f, rfl, hkey⟩ | hmember
    · exact Or.inr (Or.inl ⟨f, rfl, hkey⟩)
    · exact Or.inr (Or.inr ⟨e, rfl, hmember⟩)

/-- Two datatypes and two values: the datatype of anything takes either value, but it has to leave the string
for the datatype of strings. -/
theorem isMatch_anything_string :
    let settings : Settings := Settings.usual
    let types : List Value := [.datatype (.named "anything" false), .datatype (.named "string" false)]
    let values : List Value := [.string "a", .boolean true]
    (∀ x ∈ types ++ values, ∃ k, naturalKey x = .ok k) ∧
      (∀ x ∈ types, ∀ y ∈ values, ∃ yes, isMatch x y settings = .ok yes) ∧
      isMatch (.dataset none types) (.dataset none values) settings = .ok true := by
  intro settings types values
  have hkeys : ∀ x ∈ types ++ values, ∃ k, naturalKey x = .ok k := by
    simp only [types, values, List.cons_append, List.nil_append, List.forall_mem_cons]
    exact ⟨⟨_, rfl⟩, ⟨_, rfl⟩, ⟨_, rfl⟩, ⟨_, rfl⟩, List.forall_mem_nil _⟩
  have hanything : ∀ y ∈ values, isMatch (.datatype (.named "anything" false)) y settings = .ok true := by
    simp only [values, isMatch_eq, List.forall_mem_cons]
    exact ⟨rfl, rfl, List.forall_mem_nil _⟩
  have hstring : isMatch (.datatype (.named "string" false)) (.string "a") settings = .ok true := by
    rw [isMatch_eq]
    rfl
  have hboolean : isMatch (.datatype (.named "string" false)) (.boolean true) settings = .ok false := by
    refine isMatch_of_equals rfl rfl rfl ?_
    rw [equals.eq_def]
    rfl
  have hall : ∀ x ∈ types, ∀ y ∈ values, ∃ yes, isMatch x y settings = .ok yes := by
    refine List.forall_mem_cons.mpr ⟨fun y hy => ⟨true, hanything y hy⟩, List.forall_mem_singleton.mpr ?_⟩
    exact List.forall_mem_cons.mpr ⟨⟨true, hstring⟩, List.forall_mem_singleton.mpr ⟨false, hboolean⟩⟩
  refine ⟨hkeys, hall, ?_⟩
  rcases (isMatch_dataset settings none none types values).1 with
    ⟨yes, hrun, hyes⟩ | ⟨f, _, x, hx, hfault⟩ | ⟨e, _, x, hx, y, hy, herror⟩
  · -- the datatype of anything goes with the second value, that of strings with the first
    have hpartners : Corresponds (Matches settings) types values := by
      refine ⟨Equiv.swap (0 : Fin 2) 1, fun i => ?_⟩
      match i with
      | 0 => exact hanything _ (List.get_mem values 1)
      | 1 => exact hstring
    exact hyes.mpr hpartners ▸ hrun
  · -- no key and no match stops here
    obtain ⟨k, hk⟩ := hkeys x hx
    cases hk.symm.trans hfault
  · obtain ⟨yes, hyes⟩ := hall x hx y hy
    cases hyes.symm.trans herror

/-- **A dataset that is not found to match itself,** although its one member does: the integer has no double
near it, and no natural key. -/
theorem large_unmatched :
    let settings : Settings := Settings.usual
    let large : List Value := [.number (.int (10 ^ 400))]
    (∀ x ∈ large, ∀ y ∈ large, isMatch x y settings = .ok true) ∧ Corresponds (Matches settings) large large ∧
      isMatch (.dataset none large) (.dataset none large) settings = .error (.fault .integerTooLarge) := by
  intro settings large
  have hself : isMatch (.number (.int (10 ^ 400))) (.number (.int (10 ^ 400))) settings = .ok true := by
    refine isMatch_of_equals rfl rfl rfl ?_
    rw [equals.eq_def, if_pos (by rfl)]
    decide +kernel
  have hall : ∀ x ∈ large, ∀ y ∈ large, isMatch x y settings = .ok true :=
    List.forall_mem_singleton.mpr (List.forall_mem_singleton.mpr hself)
  refine ⟨hall, ⟨Equiv.refl _, fun i => hall _ (List.get_mem large i) _ (List.get_mem large i)⟩, ?_⟩
  rw [isMatch_members, matchMembers]
  refine Check.bind_of_error ?_
  decide +kernel

end Value

end StoryValues
