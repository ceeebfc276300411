import StoryValues.Error.Limit
import StoryValues.Error.Renderer
import StoryValues.Proofs.Value.Equality
import StoryValues.Proofs.Value.Pairing

/-
  MATCHING WITHOUT DATATYPES IS EQUALITY.

  Where no datatype stands for its values, two values match iff they are equal.  The two operators go
  different ways about it: equality asks of each member of a dataset whether the other has it, one way
  only, and matching pairs the members off.

  1. **No datatype** (`Typeless`) is asked of arrays, datamaps and datasets at any depth.  Other composites
     are not looked into, because matching leaves them to equality.
  2. **One step** (`decides_match`): each kind of collection by a lemma of its own, which has the answers on
     members as a hypothesis.  For datasets the pairing comes from counting: two members with the same
     partner would be equal to each other, and the members of a dataset are all different.
  3. **All steps** (`decides_match_everywhere`), by induction on the sizes of both sides together.
-/

namespace StoryValues

namespace Value

/-! ## Values without datatypes -/

/-- A value in which no datatype occurs, however deep in arrays, datamaps and datasets.  Other composites
are not looked into. -/
inductive Typeless : Value → Prop
  | array {items : List Value} : (∀ v ∈ items, Typeless v) → Typeless (.array items)
  | datamap {tag : Tag} {entries : List (Name × Value)} :
      (∀ e ∈ entries, Typeless e.2) → Typeless (.datamap tag entries)
  | dataset {tag : Tag} {members : List Value} :
      (∀ v ∈ members, Typeless v) → Typeless (.dataset tag members)
  | other {v : Value} : (∀ items, v ≠ .array items) → (∀ tag entries, v ≠ .datamap tag entries) →
      (∀ tag members, v ≠ .dataset tag members) → (∀ d, v ≠ .datatype d) → Typeless v

namespace Typeless

/-- No datatype occurs in the items of an array without one. -/
theorem of_array {items : List Value} (h : Typeless (.array items)) : ∀ v ∈ items, Typeless v := by
  cases h with
  | array h => exact h
  | other h _ _ _ => exact absurd rfl (h items)

/-- Nor in the values of a datamap without one. -/
theorem of_datamap {tag : Tag} {entries : List (Name × Value)} (h : Typeless (.datamap tag entries)) :
    ∀ e ∈ entries, Typeless e.2 := by
  cases h with
  | datamap h => exact h
  | other _ h _ _ => exact absurd rfl (h tag entries)

/-- Nor in the members of a dataset without one. -/
theorem of_dataset {tag : Tag} {members : List Value} (h : Typeless (.dataset tag members)) :
    ∀ v ∈ members, Typeless v := by
  cases h with
  | dataset h => exact h
  | other _ _ h _ => exact absurd rfl (h tag members)

/-- What no datatype occurs in is none itself. -/
theorem ne_datatype {v : Value} (h : Typeless v) (d : Datatype) : v ≠ .datatype d := by
  cases h with
  | other _ _ _ h => exact h d
  | _ => exact nofun

end Typeless

variable {settings : Settings}

/-- What is no datatype makes no claim about other values. -/
theorem claims_of_typeless {v w : Value} (h : Typeless v) : v.claims w = pure false := by
  cases v with
  | datatype d => exact absurd rfl (h.ne_datatype d)
  | _ => rfl

/-- Nor is it spread. -/
theorem any_isSpreadType {items : List Value} (h : ∀ v ∈ items, Typeless v) :
    items.any (fun v => v.isSpreadType) = false := by
  rw [List.any_eq_false]
  intro v hv
  have hne := (h v hv).ne_datatype
  cases v with
  | datatype d => exact absurd rfl (hne d)
  | _ => exact Bool.false_ne_true

/-! ## One step -/

/-- Matching decides the equality of all members of one list with all of another. -/
def MatchingDecides (settings : Settings) (xs ys : List Value) : Prop :=
  ∀ x ∈ xs, ∀ y ∈ ys, Check.Decides settings (isMatch x y) (Equal x y)

/-- The matching of arrays place by place.  Without a spread datatype it comes to that, whatever side leads. -/
theorem decides_matchItems {xs ys : List Value} (h : MatchingDecides settings xs ys) :
    Check.Decides settings (if xs.length = ys.length then
        (xs.zip ys).attach.allM fun ⟨(x, y), _⟩ => isMatch x y
      else pure false) (List.Forall₂ Equal xs ys) := by
  have hall : Check.Decides settings ((xs.zip ys).attach.allM fun ⟨(x, y), _⟩ => isMatch x y)
      (∀ p ∈ (xs.zip ys).attach, Equal p.val.1 p.val.2) := by
    refine Check.Decides.allM fun p _ => ?_
    obtain ⟨⟨x, y⟩, hp⟩ := p
    exact h x (List.of_mem_zip hp).1 y (List.of_mem_zip hp).2
  refine (Check.Decides.ite_false fun _ => hall).congr ?_
  rw [List.forall₂_iff_zip]
  refine and_congr_right fun _ => ⟨fun hall x y hxy => ?_, fun hall p _ => hall p.property⟩
  exact hall ⟨(x, y), hxy⟩ (List.mem_attach _ _)

/-- A name is found iff an entry has it.  Matching asks for all names before it looks at a value. -/
theorem lookupName_isSome {entries : List (Name × Value)} {name : Name} :
    (lookupName entries name).isSome = true ↔ ∃ e ∈ entries, e.1.same name = true := by
  rw [lookupName, Option.isSome_map, List.find?_isSome]

/-- The matching of datamaps name by name.  That no name is there twice makes the entry found the only one in
question. -/
theorem decides_matchEntries {xs ys : List (Name × Value)}
    (hys : ys.Pairwise fun e e' => ¬ e.1.same e'.1 = true)
    (h : MatchingDecides settings (xs.map Prod.snd) (ys.map Prod.snd)) :
    Check.Decides settings
      (if xs.length = ys.length ∧ xs.all fun (name, _) => (lookupName ys name).isSome then
        xs.attach.allM fun ⟨(name, x), _⟩ =>
          match _h : ys.find? fun e => e.1.same name with
          | some e => isMatch x e.2
          | none => pure false
      else pure false)
      (xs.length = ys.length ∧ ∀ e ∈ xs, ∃ e' ∈ ys, e'.1.same e.1 = true ∧ Equal e.2 e'.2) := by
  have hall : Check.Decides settings (xs.attach.allM fun ⟨(name, x), _⟩ =>
      match _h : ys.find? fun e => e.1.same name with
      | some e => isMatch x e.2
      | none => pure false)
      (∀ e ∈ xs.attach, ∃ e' ∈ ys, e'.1.same e.val.1 = true ∧ Equal e.val.2 e'.2) := by
    refine Check.Decides.allM fun e _ => ?_
    obtain ⟨⟨name, x⟩, he⟩ := e
    show Check.Decides settings (match _h : ys.find? fun e => e.1.same name with
      | some e => isMatch x e.2
      | none => pure false) (∃ e' ∈ ys, e'.1.same name = true ∧ Equal x e'.2)
    split
    · rename_i e' hfind
      have hmem : e' ∈ ys := List.mem_of_find?_eq_some hfind
      exact (h x (List.mem_map_of_mem he) e'.2 (List.mem_map_of_mem hmem)).congr
        (partner_iff_of_find? (fun e => Equal x e.2) hys hfind).symm
    · rename_i hfind
      exact ⟨false, rfl, ⟨fun h => absurd h (by decide), fun h => absurd h (no_partner_of_find? hfind)⟩⟩
  refine (Check.Decides.ite_false fun _ => hall).congr ⟨fun h => ⟨h.1.1, fun e he => ?_⟩, fun h => ?_⟩
  · exact h.2 ⟨e, he⟩ (List.mem_attach _ _)
  · -- an entry with a partner has its name found
    refine ⟨⟨h.1, List.all_eq_true.mpr fun e he => lookupName_isSome.mpr ?_⟩, fun e _ => h.2 e.val e.property⟩
    obtain ⟨e', he', hname, _⟩ := h.2 e he
    exact ⟨e', he', hname⟩

/-- The matching of datasets, both in natural order.  A pairing is found iff the members of the first have equals
among the others, since none is there twice. -/
theorem decides_matchMembers {s t : Tag} {xs ys : List Value} (hxs : (dataset s xs).Everywhere Orderly)
    (hys : (dataset t ys).Everywhere Orderly) (h : MatchingDecides settings xs ys) :
    Check.Decides settings (do
        let xs' ← sortOn (fun x => naturalKey x.val) xs.attach
        let ys' ← sortOn (fun y => naturalKey y.val) ys.attach
        if xs'.length = ys'.length then
          matchPairs (fun ⟨x, _⟩ ⟨y, _⟩ => isMatch x y) xs' ys'
        else return false)
      (xs.length = ys.length ∧ ∀ x ∈ xs, ∃ y ∈ ys, Equal y x) := by
  have hkeysx : ∀ x ∈ xs.attach, ∃ key, naturalKey x.val = .ok key := fun x _ => hxs.here.1 x.val x.property
  have hkeysy : ∀ y ∈ ys.attach, ∃ key, naturalKey y.val = .ok key := fun y _ => hys.here.1 y.val y.property
  obtain ⟨xs', hsortx, hpermx⟩ := sortOn_perm hkeysx
  obtain ⟨ys', hsorty, hpermy⟩ := sortOn_perm hkeysy
  have hpairs : Check.Decides settings (if xs'.length = ys'.length then
      matchPairs (fun x y => isMatch x.val y.val) xs' ys' else pure false)
      (xs'.length = ys'.length ∧ PairsInto (fun x y => Equal x.val y.val) xs' ys') :=
    Check.Decides.ite_false fun _ => decides_matchPairs fun x _ y _ => h x.val x.property y.val y.property
  have hlenx : xs'.length = xs.length := hpermx.length_eq.trans List.length_attach
  have hleny : ys'.length = ys.length := hpermy.length_eq.trans List.length_attach
  rw [hlenx, hleny] at hpairs
  obtain ⟨yes, hrun, hyes⟩ := hpairs
  refine ⟨yes, ?_, hyes.trans (and_congr_right fun _ => ⟨fun hpaired x hx => ?_, fun hpartner => ?_⟩)⟩
  · refine (Check.bind_of_ok (Check.lift_eq_ok.mpr hsortx)).trans ?_
    refine (Check.bind_of_ok (Check.lift_eq_ok.mpr hsorty)).trans ?_
    rw [hlenx, hleny]
    exact hrun
  · obtain ⟨y, _, heq⟩ := partners_of_pairsInto hpaired ⟨x, hx⟩ (hpermx.mem_iff.mpr (List.mem_attach _ _))
    exact ⟨y.val, y.property, Orderly.equal_symm (hxs.inside hx) (hys.inside y.property) heq⟩
  · refine pairsInto_of_partners (fun x _ => ?_) ?_
    · obtain ⟨y, hy, heq⟩ := hpartner x.val x.property
      exact ⟨⟨y, hy⟩, hpermy.mem_iff.mpr (List.mem_attach _ _),
        Orderly.equal_symm (hys.inside hy) (hxs.inside x.property) heq⟩
    · -- two members with the same partner would be equal, and in whatever order members are all different
      have hsymm : ∀ {x x' : {x // x ∈ xs}}, ¬ Equal x.val x'.val → ¬ Equal x'.val x.val :=
        fun {x x'} hne heq => hne (Orderly.equal_symm (hxs.inside x'.property) (hxs.inside x.property) heq)
      have hattach : xs.attach.Pairwise fun x x' => ¬ Equal x.val x'.val :=
        List.pairwise_map.mp ((List.attach_map_subtype_val xs).symm ▸ hxs.here.2)
      refine ((hpermx.pairwise_iff hsymm).mpr hattach).imp fun {x x'} hne y _ hxy hxy' => hne ?_
      exact Orderly.equal_trans (hxs.inside x.property) (hys.inside y.property) (hxs.inside x'.property) hxy
        (Orderly.equal_symm (hxs.inside x'.property) (hys.inside y.property) hxy')

/-- Matching decides equality, where it decides the equality of the members of collections.  This is one step, with
one of the three lemmas before for each kind of collection. -/
theorem decides_match {l r : Value} (hl : l.Typeless) (hr : r.Typeless) (hlo : l.Everywhere Orderly)
    (hro : r.Everywhere Orderly) (h : ∀ x ∈ l.parts, ∀ y ∈ r.parts, x.Typeless → y.Typeless →
      Check.Decides settings (isMatch x y) (Equal x y)) :
    Check.Decides settings (isMatch l r) (Equal l r) := by
  have hagree := equal_iff_agree hlo.comparable hro.comparable
  unfold isMatch
  rw [claims_of_typeless hl, claims_of_typeless hr]
  simp only [pure_bind, Bool.or_self, Bool.false_eq_true, if_false]
  split
  · rename_i xs ys
    rw [any_isSpreadType hl.of_array, any_isSpreadType hr.of_array]
    refine (decides_matchItems fun x hx y hy => ?_).congr (Agree.array_iff.symm.trans hagree.symm)
    exact h x hx y hy (hl.of_array x hx) (hr.of_array y hy)
  · rename_i s xs t ys
    refine (decides_matchEntries hro.here fun x hx y hy => ?_).congr
      (Agree.datamap_iff.symm.trans hagree.symm)
    obtain ⟨e, he, rfl⟩ := List.mem_map.mp hx
    obtain ⟨e', he', rfl⟩ := List.mem_map.mp hy
    exact h e.2 hx e'.2 hy (hl.of_datamap e he) (hr.of_datamap e' he')
  · rename_i s xs t ys
    refine (decides_matchMembers hlo hro fun x hx y hy => ?_).congr
      (Agree.dataset_iff.symm.trans hagree.symm)
    exact h x hx y hy (hl.of_dataset x hx) (hr.of_dataset y hy)
  · obtain ⟨yes, hyes⟩ := answers_of_comparable hlo.comparable hro.comparable
    exact Check.Decides.of_lift (Decides.of_answer hyes)

/-! ## All steps -/

/-- Matching values without datatypes decides their equality.  By induction on the two values, one step at a time. -/
theorem decides_match_everywhere {l r : Value} (hl : l.Typeless) (hr : r.Typeless)
    (hlo : l.Everywhere Orderly) (hro : r.Everywhere Orderly) :
    Check.Decides settings (isMatch l r) (Equal l r) := by
  refine decides_match hl hr hlo hro fun x hx y hy htx hty => ?_
  have hxl := sizeOf_lt_of_mem_parts hx
  have hyr := sizeOf_lt_of_mem_parts hy
  exact decides_match_everywhere htx hty (hlo.inside hx) (hro.inside hy)
termination_by sizeOf l + sizeOf r

/-- **Without datatypes, matching is equality:** on values whose datasets can be put in order and repeat no
member, it gives an answer, and equality gives the same. -/
theorem isMatch_eq_equals {l r : Value} (hl : l.Typeless) (hr : r.Typeless) (hlo : l.Everywhere Orderly)
    (hro : r.Everywhere Orderly) (settings : Settings) :
    ∃ yes, isMatch l r settings = .ok yes ∧ equals l r = .ok yes := by
  have hdecides : Check.Decides settings (isMatch l r) (Equal l r) :=
    decides_match_everywhere hl hr hlo hro
  obtain ⟨yes, hmatch, hyes⟩ := hdecides
  obtain ⟨yes', hequals⟩ := answers_of_comparable hlo.comparable hro.comparable
  refine ⟨yes, hmatch, ?_⟩
  rw [Equal, hequals, Except.ok.injEq, ← Bool.eq_iff_iff] at hyes
  rw [hequals, hyes]

/-- A datamap under one name of which there is a dataset. -/
def underName (v : Value) : Value := .datamap none [(.text "a", v)]

/-- A value under a name has a datatype in it only if it had one before. -/
theorem typeless_underName {v : Value} (h : v.Typeless) : (underName v).Typeless := by
  refine .datamap fun e he => ?_
  obtain rfl := List.mem_singleton.mp he
  exact h

/-- And it is in order if it was. -/
theorem orderly_underName {v : Value} (h : v.Everywhere Orderly) : (underName v).Everywhere Orderly := by
  refine .intro (List.pairwise_singleton _ _) fun x hx => ?_
  obtain rfl := List.mem_singleton.mp hx
  exact h

/-- Datasets with equal members in another order, each under a name of a datamap, match. -/
theorem isMatch_underName :
    (underName oneThenList).Typeless ∧ (underName listThenOne).Typeless ∧
      (underName oneThenList).Everywhere Orderly ∧ (underName listThenOne).Everywhere Orderly ∧
      ∃ yes, isMatch (underName oneThenList) (underName listThenOne) Settings.usual = .ok yes ∧
        equals (underName oneThenList) (underName listThenOne) = .ok yes := by
  have hlist : (Value.array [.string "x"]).Typeless := by
    refine .array fun v hv => ?_
    obtain rfl := List.mem_singleton.mp hv
    exact .other nofun nofun nofun nofun
  have hone : oneThenList.Typeless := by
    refine .dataset fun v hv => ?_
    rcases List.mem_pair.mp hv with rfl | rfl
    · exact .other nofun nofun nofun nofun
    · exact hlist
  have hother : listThenOne.Typeless := by
    refine .dataset fun v hv => ?_
    rcases List.mem_pair.mp hv with rfl | rfl
    · exact hlist
    · exact .other nofun nofun nofun nofun
  have honeOrderly := orderly_underName proper_oneThenList.orderly
  have hotherOrderly := orderly_underName proper_listThenOne.orderly
  exact ⟨typeless_underName hone, typeless_underName hother, honeOrderly, hotherOrderly,
    isMatch_eq_equals (typeless_underName hone) (typeless_underName hother) honeOrderly hotherOrderly _⟩

end Value

end StoryValues
