import StoryValues.Proofs.Check
import StoryValues.Proofs.Collection.Membership

/-
  DATASETS THAT CAN COME ABOUT.  A dataset is made of values, and then changed, copied and combined with
  others any number of times (`Dataset.Reachable`).  Whatever is done, its members make a set
  (`Reachable.isSet`, by induction on what was done), and so each operation does to membership and to
  size what its name says (`Reachable.laws`).

  The values that go in are to be in good order and to have a natural key.  A dataset that can come about
  is such a value itself (`IsSet.fit`), so datasets of datasets are covered.
-/

namespace StoryValues

namespace Dataset

open Value

/-- **The datasets that can come about:** made of values, and changed or combined any number of times. -/
inductive Reachable : List Value → Prop
  | ofValues {vs a : List Value} : (∀ v ∈ vs, Fit v) → addAll [] vs = .ok a → Reachable a
  | create {vs a : List Value} {tag : Tag} {settings : Settings} : (∀ v ∈ vs, Fit v) →
      ofList vs settings = .ok (.dataset tag a) → Reachable a
  | add {a c : List Value} {v : Value} : Reachable a → Fit v → add a v = .ok c → Reachable c
  | discard {a c : List Value} {v : Value} : Reachable a → Fit v → discard a v = .ok c → Reachable c
  | remove {a c : List Value} {v : Value} : Reachable a → Fit v → remove a v = .ok c → Reachable c
  | pop {a c : List Value} {v : Value} : Reachable a → pop a = .ok (v, c) → Reachable c
  | clear {a c : List Value} : Reachable a → clear a = some (.ok c) → Reachable c
  | copy {a c : List Value} {s t : Tag} : Reachable a → (Value.dataset s a).clone = .dataset t c → Reachable c
  | union {a b c : List Value} : Reachable a → Reachable b → union a b = .ok c → Reachable c
  | intersection {a b c : List Value} : Reachable a → Reachable b → intersection a b = .ok c → Reachable c
  | difference {a b c : List Value} : Reachable a → Reachable b → difference a b = .ok c → Reachable c
  | symmetric {a b c : List Value} : Reachable a → Reachable b → symmetric a b = .ok c → Reachable c

variable {a b c : List Value} {v x : Value}

/-! ## Making -/

/-- A copy is as proper as the value: it is the same but for its tag. -/
theorem everywhere_clone (hv : v.Everywhere Proper) : v.clone.Everywhere Proper := by
  cases v with
  | datamap tag entries =>
    exact .intro (show (Value.datamap tag entries).Proper from hv.here) fun x hx => hv.inside hx
  | dataset tag members =>
    exact .intro (show (Value.dataset tag members).Proper from hv.here) fun x hx => hv.inside hx
  | _ => exact hv

/-- A copy has the key of the value, since tags are not printed. -/
theorem naturalKey_clone (v : Value) : v.clone.naturalKey = v.naturalKey := by
  cases v with
  | datamap tag entries => rw [clone, naturalKey, naturalKey, print, print]; rfl
  | dataset tag members => rw [clone, naturalKey, naturalKey, print, print]; rfl
  | _ => rfl

/-- So a copy can be a member where the value can. -/
theorem Fit.clone (hv : Fit v) : Fit v.clone := by
  refine ⟨everywhere_clone hv.1, ?_⟩
  rw [naturalKey_clone]
  exact hv.2

/-- What `ofList` makes is made of copies of the values, added one after another to nothing. -/
theorem of_ofList {vs : List Value} {tag : Tag} {settings : Settings}
    (h : ofList vs settings = .ok (.dataset tag a)) : addAll [] (vs.map Value.clone) = .ok a := by
  unfold ofList at h
  obtain ⟨_, _, h⟩ := Check.bind_eq_ok.mp h
  obtain ⟨_, _, h⟩ := Check.bind_eq_ok.mp h
  obtain ⟨members, hmembers, h⟩ := Check.bind_eq_ok.mp h
  rw [Check.pure_run, Except.ok.injEq, Value.dataset.injEq] at h
  exact h.2 ▸ Check.lift_eq_ok.mp hmembers

/-! ## Every dataset is a set -/

/-- What is left when a value was removed. -/
theorem isSet_of_remove (ha : IsSet a) (hv : v.Everywhere Proper) (h : remove a v = .ok c) : IsSet c := by
  obtain ⟨yes, hhas, _⟩ := decides_has ha.proper hv
  cases yes with
  | true => exact (discard_yields ha hv).isSet (remove_of_holds hhas ▸ h)
  | false => exact nomatch (remove_of_lacks hhas).symm.trans h

/-- What is left when the first member was taken. -/
theorem isSet_of_pop (ha : IsSet a) (h : pop a = .ok (v, c)) : IsSet c := by
  by_cases hne : a = []
  · subst hne
    exact nomatch pop_nil.symm.trans h
  · obtain ⟨first, rest, hpop, _, _, hrest, _⟩ := pop_spec ha hne
    obtain ⟨rfl, rfl⟩ := Prod.mk.inj (Except.ok.inj (hpop.symm.trans h))
    exact hrest

/-- **The members of every dataset make a set,** by induction on what was done to it.  Each step is one of the
operations of `Membership`, which give sets. -/
theorem Reachable.isSet (h : Reachable a) : IsSet a := by
  induction h with
  | ofValues hvs hrun => exact (addAll_nil_yields hvs).isSet hrun
  | create hvs hrun =>
    refine (addAll_nil_yields fun w hw => ?_).isSet (of_ofList hrun)
    obtain ⟨v, hv, rfl⟩ := List.mem_map.mp hw
    exact (hvs v hv).clone
  | add _ hv hrun ih => exact (add_yields ih hv).isSet hrun
  | discard _ hv hrun ih => exact (discard_yields ih hv.1).isSet hrun
  | remove _ hv hrun ih => exact isSet_of_remove ih hv.1 hrun
  | pop _ hrun ih => exact isSet_of_pop ih hrun
  | clear _ hrun ih =>
    rw [clear_spec ih] at hrun
    obtain rfl := Except.ok.inj (Option.some.inj hrun)
    exact isSet_nil
  | copy _ hrun ih =>
    rw [Value.clone, Value.dataset.injEq] at hrun
    exact hrun.2 ▸ ih
  | union _ _ hrun iha ihb => exact (union_yields iha ihb).isSet hrun
  | intersection _ _ hrun iha ihb => exact (intersection_yields iha ihb).isSet hrun
  | difference _ _ hrun iha ihb => exact (difference_yields iha ihb).isSet hrun
  | symmetric _ _ hrun iha ihb => exact (symmetric_yields iha ihb).isSet hrun

/-! ## Sets as values -/

/-- The members of a set can be printed, so it has a text and a key.  Sorting them is possible since each has a key. -/
theorem IsSet.exists_key (ha : IsSet a) (tag : Tag) : ∃ key, (Value.dataset tag a).naturalKey = .ok key := by
  obtain ⟨ordered, hsorted, hperm⟩ := sorted_perm ha
  have hprint : ∀ m ∈ ordered, ∃ text, m.print = .ok text := by
    intro m hm
    obtain ⟨key, hkey⟩ := (ha.fit m (hperm.mem_iff.mp hm)).2
    exact print_of_naturalKey hkey
  obtain ⟨texts, htexts, _⟩ := collect_map hprint
  have htext : (Value.dataset tag a).print = .ok (callText "ds" texts) := by
    rw [print_dataset, hsorted]
    show (collect (ordered.map print) >>= _) = _
    rw [htexts]
    rfl
  refine ⟨NaturalKey.ofText (callText "ds" texts), ?_⟩
  show (Value.dataset tag a).source.map NaturalKey.ofText = _
  rw [source_eq_ok.mpr ⟨rfl, htext⟩]
  rfl

/-- **A set is a value that can be a member** of another. -/
theorem IsSet.fit_dataset (ha : IsSet a) (tag : Tag) : Fit (.dataset tag a) :=
  ⟨.intro ⟨fun m hm => (ha.fit m hm).2, ha.differ⟩ ha.proper, ha.exists_key tag⟩

/-! ## Size -/

/-- Adding makes a dataset larger by one iff the value was not there. -/
theorem length_add (ha : IsSet a) (hv : Fit v) (h : add a v = .ok c) :
    c.length = if has a v = .ok false then a.length + 1 else a.length := by
  rcases add_cases ha hv with ⟨hholds, hadd⟩ | ⟨habsent, hadd⟩
  · obtain rfl := Except.ok.inj (hadd.symm.trans h)
    rw [hholds, if_neg (by simp)]
  · obtain rfl := Except.ok.inj (hadd.symm.trans h)
    rw [habsent, if_pos rfl, List.length_append, List.length_singleton]

/-- Discarding makes a dataset smaller by one iff the value was there. -/
theorem length_discard (ha : IsSet a) (hv : v.Everywhere Proper) (h : discard a v = .ok c) :
    a.length = if has a v = .ok true then c.length + 1 else c.length := by
  rcases discard_cases ha hv with ⟨habsent, hdiscard⟩ | ⟨hholds, before, m, after, rfl, _, hdiscard⟩
  · obtain rfl := Except.ok.inj (hdiscard.symm.trans h)
    rw [habsent, if_neg (by simp)]
  · obtain rfl := Except.ok.inj (hdiscard.symm.trans h)
    rw [hholds, if_pos rfl, List.length_append, List.length_append, List.length_cons, Nat.add_assoc]

/-! ## The whole -/

/-- What holds of two datasets `a` and `b` and a value `v`. -/
structure Laws (a b : List Value) (v : Value) : Prop where
  /-- no two members are equal, whichever is asked first -/
  differ : a.Pairwise fun m m' => equals m m' = .ok false ∧ equals m' m = .ok false
  /-- asking for a value is answered, with yes iff a member equals it -/
  has : ∀ x, x.Everywhere Proper → Decides (has a x) (∃ m ∈ a, Equal m x)
  /-- the dataset is a value that can be a member -/
  fit : ∀ tag, Fit (.dataset tag a)
  add : Yields (add a v) fun x => Holds a x ∨ Equal v x
  length_add : ∀ c, Dataset.add a v = .ok c →
    c.length = if Dataset.has a v = .ok false then a.length + 1 else a.length
  discard : Yields (discard a v) fun x => Holds a x ∧ ¬ Equal v x
  length_discard : ∀ c, Dataset.discard a v = .ok c →
    a.length = if Dataset.has a v = .ok true then c.length + 1 else c.length
  /-- removing a value takes it away, and is a mistake where it is not there -/
  remove : remove a v = if Dataset.has a v = .ok true then Dataset.discard a v else .error (.missingKey "")
  /-- one member is taken, and only from an empty dataset none -/
  pop : (a = [] ∧ pop a = .error (.missingKey "")) ∨
    ∃ first rest, pop a = .ok (first, rest) ∧ first ∈ a ∧ rest.length + 1 = a.length ∧ IsSet rest ∧
      ∀ x, x.Everywhere Proper → (Holds rest x ↔ Holds a x ∧ ¬ Equal first x)
  clear : clear a = some (.ok [])
  union : Yields (union a b) fun x => Holds a x ∨ Holds b x
  intersection : Yields (intersection a b) fun x => Holds a x ∧ Holds b x
  difference : Yields (difference a b) fun x => Holds a x ∧ ¬ Holds b x
  symmetric : Yields (symmetric a b) fun x => Xor (Holds a x) (Holds b x)

/-- Comparing proper values says no where they are not equal. -/
theorem not_equal_iff (ha : v.Everywhere Proper) (hx : x.Everywhere Proper) :
    equals v x = .ok false ↔ ¬ Equal v x := by
  obtain ⟨yes, hequals⟩ := equals_answers ha hx
  rw [Equal, hequals]
  cases yes <;> decide

/-- Members of a set differ, whichever is asked first. -/
theorem IsSet.differ_both (ha : IsSet a) :
    a.Pairwise fun m m' => equals m m' = .ok false ∧ equals m' m = .ok false := by
  refine ha.differ.imp_of_mem fun {m m'} hm hm' hne => ?_
  have hp := ha.proper m hm
  have hp' := ha.proper m' hm'
  exact ⟨(not_equal_iff hp hp').mpr hne, (not_equal_iff hp' hp).mpr fun h => hne (equal_symm hp' hp h)⟩

/-- Removing is discarding what is there, and a mistake for what is not. -/
theorem remove_eq (ha : IsSet a) (hv : v.Everywhere Proper) :
    remove a v = if has a v = .ok true then discard a v else .error (.missingKey "") := by
  obtain ⟨yes, hhas, _⟩ := decides_has ha.proper hv
  cases yes with
  | true => rw [remove_of_holds hhas, if_pos hhas]
  | false => rw [remove_of_lacks hhas, hhas, if_neg (by simp)]

/-- Taking the first, for a set with members and for one without. -/
theorem pop_cases (ha : IsSet a) : (a = [] ∧ pop a = .error (.missingKey "")) ∨
    ∃ first rest, pop a = .ok (first, rest) ∧ first ∈ a ∧ rest.length + 1 = a.length ∧ IsSet rest ∧
      ∀ x, x.Everywhere Proper → (Holds rest x ↔ Holds a x ∧ ¬ Equal first x) := by
  by_cases hne : a = []
  · subst hne
    exact Or.inl ⟨rfl, pop_nil⟩
  · obtain ⟨first, rest, hpop, hfirst, hdiscard, hrest, hlength⟩ := pop_spec ha hne
    exact Or.inr ⟨first, rest, hpop, hfirst, hlength, hrest,
      fun x hx => holds_discard ha (ha.proper first hfirst) hdiscard hx⟩

/-- **Datasets are sets up to equality,** whatever was done to make them: no member is repeated, and each
operation gives a dataset that holds the values it should and has the size it should. -/
theorem Reachable.laws (ha : Reachable a) (hb : Reachable b) (hv : Fit v) : Laws a b v where
  differ := ha.isSet.differ_both
  has _ hx := decides_has ha.isSet.proper hx
  fit tag := ha.isSet.fit_dataset tag
  add := add_yields ha.isSet hv
  length_add _ h := Dataset.length_add ha.isSet hv h
  discard := discard_yields ha.isSet hv.1
  length_discard _ h := Dataset.length_discard ha.isSet hv.1 h
  remove := remove_eq ha.isSet hv.1
  pop := pop_cases ha.isSet
  clear := clear_spec ha.isSet
  union := union_yields ha.isSet hb.isSet
  intersection := intersection_yields ha.isSet hb.isSet
  difference := difference_yields ha.isSet hb.isSet
  symmetric := symmetric_yields ha.isSet hb.isSet

/-- A plain value is compared as plain values are. -/
theorem equals_of_isPlain (h : (v.isPlain || x.isPlain) = true) : equals v x = .ok (samePlain v x) := by
  rw [equals.eq_def, if_pos h]

/-- Two values, one of them plain and not the same as the other, make a dataset. -/
theorem addAll_pair (h : (v.isPlain || x.isPlain) = true) (hne : samePlain v x = false) :
    addAll [] [v, x] = .ok [v, x] := by
  have hhas : has [v] x = .ok false := by
    show (equals v x >>= fun yes => _) = _
    rw [equals_of_isPlain h, hne]
    rfl
  show (add [v] x >>= fun a => pure a) = _
  rw [add, hhas]
  rfl

/-- The number one, a list and the number two in two datasets, and the number one as a double. -/
theorem laws_oneThenList :
    Reachable [.number (.int 1), .array [.string "x"]] ∧ Reachable [.array [.string "x"], .number (.int 2)] ∧
      Laws [.number (.int 1), .array [.string "x"]] [.array [.string "x"], .number (.int 2)]
        (.number (.real (.finite false ⟨1023, by decide⟩ ⟨0, twoTo_pos 52⟩))) := by
  have hone : Fit (.number (.int 1)) :=
    ⟨everywhere_of_parts_nil rfl trivial, exists_key_of_isOk (by decide +kernel)⟩
  have htwo : Fit (.number (.int 2)) :=
    ⟨everywhere_of_parts_nil rfl trivial, exists_key_of_isOk (by decide +kernel)⟩
  have hlist : Fit (.array [.string "x"]) := ⟨everywhere_list, exists_key_of_isOk (by decide +kernel)⟩
  have ha : Reachable [.number (.int 1), .array [.string "x"]] :=
    .ofValues (List.forall_mem_cons.mpr ⟨hone, List.forall_mem_singleton.mpr hlist⟩) (addAll_pair rfl rfl)
  have hb : Reachable [.array [.string "x"], .number (.int 2)] :=
    .ofValues (List.forall_mem_cons.mpr ⟨hlist, List.forall_mem_singleton.mpr htwo⟩) (addAll_pair rfl rfl)
  exact ⟨ha, hb, Reachable.laws ha hb
    ⟨everywhere_of_parts_nil rfl trivial, exists_key_of_isOk (by decide +kernel)⟩⟩

end Dataset

end StoryValues
