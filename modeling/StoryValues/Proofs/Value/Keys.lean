import StoryValues.Proofs.Value.Canonical
import StoryValues.Proofs.Value.Errors

/-
  EQUAL VALUES CAN BE PUT IN ORDER.  Comparing two datasets sorts the members of the first only.  When the
  comparison says yes, the members of the second can be sorted as well, and so at every depth on both sides:
  whatever is equal to something can be compared either way round (`orderly_of_equal`).

  A member that cannot be sorted is an integer too large for a double, or a value without a source.  The second
  dataset has no such member, because each of its members is equal to one of the first, which was sorted:

  1. **A yes shows agreement** (`agree_of_equal`), whether or not the comparison could have failed.
  2. **Equals print, or do not, together** (`Alike`), and so equals have keys together (`key_iff`).
  3. **All members of the second are equals of some of the first**, by counting, as the members are all
     different; for that they have to be comparable both ways, which is known by induction.
-/

namespace StoryValues

namespace Value

variable {α β : Type} {a b : Value}

/-! ## A yes shows agreement -/

/-- Where a comparison of all members says yes, each single one did. -/
theorem of_allM_ok {test : α → Except Fault Bool} {xs : List α} (h : xs.allM test = .ok true) :
    ∀ x ∈ xs, test x = .ok true := by
  induction xs with
  | nil => exact List.forall_mem_nil _
  | cons x xs ih =>
    obtain ⟨first, hfirst, hrest⟩ := ok_of_bind h
    cases first with
    | true => exact List.forall_mem_cons.mpr ⟨hfirst, ih hrest⟩
    | false => cases hrest

/-- Where a comparison of members until one fits says yes, one of them did. -/
theorem of_anyM_ok {test : α → Except Fault Bool} {xs : List α} (h : xs.anyM test = .ok true) :
    ∃ x ∈ xs, test x = .ok true := by
  induction xs with
  | nil => cases h
  | cons x xs ih =>
    obtain ⟨first, hfirst, hrest⟩ := ok_of_bind h
    cases first with
    | true => exact ⟨x, List.mem_cons_self, hfirst⟩
    | false =>
      obtain ⟨x', hx', htest⟩ := ih hrest
      exact ⟨x', List.mem_cons_of_mem x hx', htest⟩

/-- A condition in front of a comparison that says yes: it holds, and the comparison says yes. -/
theorem of_ite_ok {p : Prop} [Decidable p] {r : Except Fault Bool} (h : (if p then r else .ok false) = .ok true) :
    p ∧ r = .ok true := by
  by_cases hp : p
  · rw [if_pos hp] at h
    exact ⟨hp, h⟩
  · rw [if_neg hp] at h
    cases h

/-- Lists whose places were compared, and all said yes: they are as long as each other and agree place by place. -/
theorem forall₂_of_places {R : α → β → Prop} {xs : List α} {ys : List β}
    {f : { p // p ∈ xs.zip ys } → Except Fault Bool} (hf : ∀ p, f p = .ok true → R p.val.1 p.val.2)
    (h : (if xs.length = ys.length then (xs.zip ys).attach.allM f else .ok false) = .ok true) :
    List.Forall₂ R xs ys := by
  obtain ⟨hlength, hall⟩ := of_ite_ok h
  exact List.forall₂_iff_zip.mpr ⟨hlength, fun {x y} hxy => hf ⟨(x, y), hxy⟩ (of_allM_ok hall _ (List.mem_attach _ _))⟩

/-- A dataset that is equal to another has its members put in order, and each has an equal in the other.  Nothing is
said of the order of the other, as comparing does not sort it. -/
theorem of_equal_dataset {s t : Tag} {xs ys : List Value} (h : Equal (.dataset s xs) (.dataset t ys)) :
    (∀ x ∈ xs, ∃ key, naturalKey x = .ok key) ∧ xs.length = ys.length ∧ ∀ x ∈ xs, ∃ y ∈ ys, Equal y x := by
  rw [Equal, equals.eq_def, if_neg (by simp [isPlain])] at h
  obtain ⟨hlength, h⟩ := of_ite_ok h
  obtain ⟨ordered, hordered, hall⟩ := ok_of_bind h
  obtain ⟨hkeys, hperm⟩ := of_sortOn hordered
  refine ⟨fun x hx => hkeys ⟨x, hx⟩ (List.mem_attach _ _), hlength, fun x hx => ?_⟩
  obtain ⟨y, _, hy⟩ := of_anyM_ok (of_allM_ok hall ⟨x, hx⟩ (hperm.mem_iff.mpr (List.mem_attach _ _)))
  exact ⟨y.val, y.property, hy⟩

/-- Entries all of which were found and compared: there are as many on either side, and each has one of its name with
an equal value. -/
theorem of_equal_datamap {s t : Tag} {xs ys : List (Name × Value)} (h : Equal (.datamap s xs) (.datamap t ys)) :
    xs.length = ys.length ∧ ∀ e ∈ xs, ∃ e' ∈ ys, e'.1.same e.1 = true ∧ Equal e.2 e'.2 := by
  rw [Equal, equals.eq_def, if_neg (by simp [isPlain])] at h
  obtain ⟨hlength, h⟩ := of_ite_ok h
  refine ⟨hlength, fun e he => ?_⟩
  obtain ⟨name, x⟩ := e
  have hentry := of_allM_ok h ⟨(name, x), he⟩ (List.mem_attach _ _)
  simp only at hentry
  split at hentry
  · rename_i e' hfind
    exact ⟨e', List.mem_of_find?_eq_some hfind,
      List.find?_some (p := fun e' : Name × Value => e'.1.same name) hfind, hentry⟩
  · cases hentry

/-- **Values that are equal agree,** up to equality of their parts.  The answer yes alone shows it, whether or not the
comparison could have failed on other values. -/
theorem agree_of_equal (h : Equal a b) : Agree Equal a b := by
  have hrun := h
  rw [Equal, equals.eq_def] at hrun
  split at hrun
  · rename_i hplain
    exact (samePlain_iff hplain).mp (Except.ok.inj hrun)
  · split at hrun
    · exact .array (forall₂_of_places (fun p hp => hp) hrun)
    · obtain ⟨hlength, hentries⟩ := of_equal_datamap h
      exact .datamap hlength hentries
    · obtain ⟨_, hlength, hmembers⟩ := of_equal_dataset h
      exact .dataset hlength hmembers
    · exact .datatype (Except.ok.inj hrun)
    · exact .typedVar (Except.ok.inj hrun)
    · exact .spread hrun
    · refine .changer (forall₂_of_places (fun p hp => ?_) hrun)
      obtain ⟨hname, hparams⟩ := of_ite_ok hp
      exact ⟨hname, forall₂_of_places (fun q hq => hq) hparams⟩
    · exact .colour (Except.ok.inj hrun)
    · exact .gradient (Except.ok.inj hrun)
    · exact .hooks (Except.ok.inj hrun)
    · -- not two values of one kind that has a rule of its own: one and the same
      rename_i harray hdatamap hdataset hdatatype htypedVar hspread hchanger hcolour hgradient hhooks
      obtain rfl : a = b := beq_iff_eq.mp (Except.ok.inj hrun)
      cases a with
      | number n => exact .number (Number.sameDatum_equivalence.refl n)
      | array => exact (harray _ _ rfl rfl).elim
      | datamap => exact (hdatamap _ _ _ _ rfl rfl).elim
      | dataset => exact (hdataset _ _ _ _ rfl rfl).elim
      | datatype => exact (hdatatype _ _ rfl rfl).elim
      | typedVar => exact (htypedVar _ _ rfl rfl).elim
      | spread => exact (hspread _ _ rfl rfl).elim
      | changer => exact (hchanger _ _ rfl rfl).elim
      | colour => exact (hcolour _ _ rfl rfl).elim
      | gradient => exact (hgradient _ _ rfl rfl).elim
      | hooks => exact (hhooks _ _ rfl rfl).elim
      | _ => exact .individual rfl

/-! ## What prints -/

/-- A value has a text. -/
def Prints (v : Value) : Prop := ∃ s, v.print = .ok s

/-- Values with one text print together, or neither does. -/
theorem prints_congr {a b : Value} (h : a.print = b.print) : Prints a ↔ Prints b := by
  rw [Prints, Prints, h]

/-- A value has a text, and neither is an error nor holds one in arrays. -/
def HasSource (v : Value) : Prop := v.ErrorFree ∧ v.Prints

/-- A value has a source iff it prints and no error stands in it: these are the two ways to have none. -/
theorem hasSource_iff {v : Value} : v.HasSource ↔ ∃ s, v.source = .ok s := by
  constructor
  · rintro ⟨hfree, s, hs⟩
    exact ⟨s, source_eq_ok.mpr ⟨firstError?_eq_none.mpr hfree, hs⟩⟩
  · rintro ⟨s, hs⟩
    obtain ⟨hnone, hprint⟩ := source_eq_ok.mp hs
    exact ⟨firstError?_eq_none.mp hnone, s, hprint⟩

/-- A list of results is collected iff there is each of them. -/
theorem exists_collect_iff {f : α → Except Fault β} {xs : List α} :
    (∃ ys, collect (xs.map f) = .ok ys) ↔ ∀ x ∈ xs, ∃ y, f x = .ok y := by
  constructor
  · rintro ⟨ys, hys⟩ x hx
    obtain ⟨y, _, hy⟩ := exists_of_forall₂ (collect_map_ok.mp hys) x hx
    exact ⟨y, hy⟩
  · intro h
    obtain ⟨ys, hys, _⟩ := collect_map h
    exact ⟨ys, hys⟩

/-- An array prints iff its items do. -/
theorem prints_array {items : List Value} : Prints (.array items) ↔ ∀ x ∈ items, Prints x := by
  constructor
  · rintro ⟨s, hs⟩ x hx
    exact print_of_mem_parts hs hx
  · intro h
    obtain ⟨texts, htexts⟩ := exists_collect_iff.mpr h
    exact ⟨callText "a" texts, by rw [print_array, htexts]; rfl⟩

/-- A dataset prints iff its members have keys.  The key of a member holds its text, so this is more than that each
member prints. -/
theorem prints_dataset {tag : Tag} {members : List Value} :
    Prints (.dataset tag members) ↔ ∀ x ∈ members, ∃ key, naturalKey x = .ok key := by
  constructor
  · rintro ⟨s, hs⟩
    exact keyed_of_print hs
  · intro h
    obtain ⟨ordered, hordered, hperm⟩ := sortOn_perm h
    have hprint : ∀ x ∈ ordered, ∃ s, print x = .ok s := by
      intro x hx
      obtain ⟨key, hkey⟩ := h x (hperm.mem_iff.mp hx)
      exact print_of_naturalKey hkey
    obtain ⟨texts, htexts⟩ := exists_collect_iff.mpr hprint
    have hsorted : sorted members = .ok ordered := hordered
    exact ⟨callText "ds" texts, by rw [print_dataset, hsorted]; show collect _ >>= _ = _; rw [htexts]; rfl⟩

/-- A datamap prints iff its names have keys and its values print. -/
theorem prints_datamap {tag : Tag} {entries : List (Name × Value)} :
    Prints (.datamap tag entries) ↔ ∀ e ∈ entries, (∃ key, e.1.key = .ok key) ∧ Prints e.2 := by
  constructor
  · rintro ⟨s, hs⟩ e he
    obtain ⟨ordered, texts, hordered, _, _⟩ := of_print_datamap hs
    exact ⟨(of_sortOn hordered).1 e he, print_of_mem_parts hs (List.mem_map_of_mem he)⟩
  · intro h
    obtain ⟨ordered, hordered, hperm⟩ := sortOn_perm fun e he => (h e he).1
    have hentry : ∀ e ∈ ordered, ∃ s, entryText e = .ok s := by
      intro e he
      obtain ⟨s, hs⟩ := (h e (hperm.mem_iff.mp he)).2
      exact ⟨e.1.source ++ "," ++ s, by rw [entryText, hs]; rfl⟩
    obtain ⟨texts, htexts⟩ := exists_collect_iff.mpr hentry
    exact ⟨callText "dm" texts, by rw [print_datamap, hordered]; show collect _ >>= _ = _; rw [htexts]; rfl⟩

/-- A spread value prints iff what is behind the dots has a source: an error there is written by nothing. -/
theorem prints_spread {v : Value} : Prints (.spread v) ↔ v.HasSource := by
  rw [hasSource_iff]
  constructor
  · rintro ⟨s, hs⟩
    obtain ⟨text, htext, _⟩ := of_print_spread hs
    exact ⟨text, htext⟩
  · rintro ⟨text, htext⟩
    refine ⟨"..." ++ text, ?_⟩
    rw [print]
    show v.source >>= _ = _
    rw [htext]
    rfl

/-- A changer prints iff all parameters of its nodes have sources. -/
theorem prints_changer {nodes : List (String × List Value)} :
    Prints (.changer nodes) ↔ ∀ n ∈ nodes, ∀ x ∈ n.2, x.HasSource := by
  constructor
  · rintro ⟨s, hs⟩ n hn x hx
    obtain ⟨texts, htexts, _⟩ := of_print_changer hs
    obtain ⟨text, _, htext⟩ := exists_of_forall₂ htexts n hn
    obtain ⟨params, hparams, _⟩ := of_nodeText htext
    obtain ⟨param, _, hparam⟩ := exists_of_forall₂ hparams x hx
    exact hasSource_iff.mpr ⟨param, hparam⟩
  · intro h
    have hnode : ∀ n ∈ nodes, ∃ s, nodeText n = .ok s := by
      intro n hn
      obtain ⟨params, hparams⟩ := exists_collect_iff.mpr fun x hx => hasSource_iff.mp (h n hn x hx)
      exact ⟨callText n.1 params, by rw [nodeText, hparams]; rfl⟩
    obtain ⟨texts, htexts⟩ := exists_collect_iff.mpr hnode
    exact ⟨String.intercalate "+" texts, by rw [print, printNodes_eq_map, htexts]; rfl⟩

/-! ## What has a key -/

/-- Numbers of one value have doubles together: an integer that equals a double is near one. -/
theorem toDouble_of_sameValue {m n : Number} (h : m.sameValue n = true) (hm : ∃ x, m.toDouble = .ok x) :
    ∃ y, n.toDouble = .ok y := by
  cases n with
  | real y => exact ⟨y, rfl⟩
  | int k =>
    obtain ⟨_, _, hside, hunits⟩ := Number.sameValue_iff.mp h
    cases m with
    | int j =>
      obtain rfl : j = k := Int.eq_of_mul_eq_mul_right Double.unitsPerOne_ne_zero hunits
      exact hm
    | real x =>
      cases x with
      | finite negative e f =>
        obtain ⟨negative', hnearest, _⟩ := Double.ofInt?_of_units hunits.symm
        exact ⟨.finite negative' e f, by rw [Number.toDouble, hnearest]; rfl⟩
      | infinite negative => cases negative <;> simp [Number.side] at hside
      | nan tag => cases h

/-- A number has a key iff it has a double, which is what the key is made of. -/
theorem exists_ofNumber_iff {n : Number} : (∃ key, NaturalKey.ofNumber n = .ok key) ↔ ∃ x, n.toDouble = .ok x := by
  rw [NaturalKey.ofNumber]
  constructor
  · rintro ⟨key, hkey⟩
    obtain ⟨x, hx, _⟩ := of_map_ok hkey
    exact ⟨x, hx⟩
  · rintro ⟨x, hx⟩
    exact ⟨_, by rw [hx]; rfl⟩

/-- Names that are the same have keys together. -/
theorem nameKey_of_same {m n : Name} (h : m.same n = true) (hm : ∃ key, m.key = .ok key) : ∃ key, n.key = .ok key := by
  cases n with
  | text t => exact ⟨_, rfl⟩
  | number n =>
    cases m with
    | text s => cases h
    | number m => exact exists_ofNumber_iff.mpr (toDouble_of_sameValue h (exists_ofNumber_iff.mp hm))

/-! ## Partners on both sides -/

/-- What partners have in common, all of the one list have iff all of the other do.  The partners need not be matched
one to one. -/
theorem forall_iff_of_partners {R : α → β → Prop} {P : α → Prop} {Q : β → Prop} {xs : List α} {ys : List β}
    (hleft : ∀ x ∈ xs, ∃ y ∈ ys, R x y) (hright : ∀ y ∈ ys, ∃ x ∈ xs, R x y)
    (h : ∀ x ∈ xs, ∀ y ∈ ys, R x y → (P x ↔ Q y)) : (∀ x ∈ xs, P x) ↔ ∀ y ∈ ys, Q y := by
  constructor
  · intro hP y hy
    obtain ⟨x, hx, hR⟩ := hright y hy
    exact (h x hx y hy hR).mp (hP x hx)
  · intro hQ x hx
    obtain ⟨y, hy, hR⟩ := hleft x hx
    exact (h x hx y hy hR).mpr (hQ y hy)

theorem forall_iff_of_forall₂ {R : α → β → Prop} {P : α → Prop} {Q : β → Prop} {xs : List α} {ys : List β}
    (hxy : List.Forall₂ R xs ys) (h : ∀ x ∈ xs, ∀ y ∈ ys, R x y → (P x ↔ Q y)) : (∀ x ∈ xs, P x) ↔ ∀ y ∈ ys, Q y :=
  forall_iff_of_partners (exists_of_forall₂ hxy) (exists_of_forall₂ hxy.flip) h

/-- Equal values are both free of errors, or neither is. -/
theorem errorFree_of_equal {a b : Value} (h : Equal a b) : ErrorFree a ↔ ErrorFree b := by
  cases agree_of_equal h with
  | individual _ => exact Iff.rfl
  | @array xs ys hitems =>
    rw [errorFree_array, errorFree_array]
    refine forall_iff_of_forall₂ hitems fun x hx y hy hxy => ?_
    have hxsize := sizeOf_lt_of_mem_parts (v := .array xs) hx
    have hysize := sizeOf_lt_of_mem_parts (v := .array ys) hy
    exact errorFree_of_equal hxy
  | _ => exact iff_of_true (.other nofun nofun) (.other nofun nofun)
termination_by sizeOf a + sizeOf b

/-- Both of two values can be compared either way round, and both print or neither does. -/
structure Alike (a b : Value) : Prop where
  left : a.Everywhere Orderly
  right : b.Everywhere Orderly
  prints : Prints a ↔ Prints b

namespace Alike

/-- Being alike does not depend on the side. -/
theorem symm (h : Alike a b) : Alike b a := ⟨h.right, h.left, h.prints.symm⟩

/-- Equals that are alike have a source together, since errors stand in both or in neither. -/
theorem hasSource (h : Alike a b) (hequal : Equal a b) : HasSource a ↔ HasSource b :=
  and_congr (errorFree_of_equal hequal) h.prints

/-- Equals have keys together: a number by its value, and anything else by its source. -/
theorem key (h : Alike a b) (hequal : Equal a b) (hkey : ∃ j, naturalKey a = .ok j) : ∃ k, naturalKey b = .ok k := by
  cases agree_of_equal hequal with
  | individual _ => exact hkey
  | @number m n hsame =>
    rcases Number.sameDatum_iff.mp hsame with hvalue | ⟨_, rfl⟩
    · obtain ⟨hm, hn, _⟩ := Number.sameValue_iff.mp hvalue
      rw [naturalKey_number hm, exists_ofNumber_iff] at hkey
      rw [naturalKey_number hn, exists_ofNumber_iff]
      exact toDouble_of_sameValue hvalue hkey
    · exact hkey
  | _ =>
    -- any other value is sorted by its source
    obtain ⟨j, hj⟩ := hkey
    obtain ⟨t, ht⟩ := hasSource_iff.mp ((h.hasSource hequal).mp (hasSource_iff.mpr (source_of_naturalKey hj)))
    rw [naturalKey_of_label rfl]
    show ∃ k, (source _).map NaturalKey.ofText = .ok k
    exact ⟨NaturalKey.ofText t, by rw [ht]; rfl⟩

/-- Values without parts: it is enough that each can be compared and that they print together. -/
theorem of_parts_nil (ha : a.parts = []) (hb : b.parts = []) (hao : a.Orderly) (hbo : b.Orderly)
    (hprints : Prints a ↔ Prints b) : Alike a b :=
  ⟨everywhere_of_parts_nil ha hao, everywhere_of_parts_nil hb hbo, hprints⟩

/-- What is equal to nothing but itself is alike itself, as it has no parts. -/
theorem of_individual (h : a.isIndividual = true) : Alike a a := by
  cases a with
  | nothing | boolean _ | string _ | error _ | command | lambda _ | custom _ | filtered =>
    exact of_parts_nil rfl rfl trivial trivial Iff.rfl
  | _ => cases h

/-- Arrays are alike if their items are, place by place. -/
theorem array {xs ys : List Value} (h : List.Forall₂ Equal xs ys)
    (hitems : ∀ x ∈ xs, ∀ y ∈ ys, Equal x y → Alike x y) : Alike (.array xs) (.array ys) where
  left := .intro trivial fun x hx => by
    obtain ⟨y, hy, hxy⟩ := exists_of_forall₂ h x hx
    exact (hitems x hx y hy hxy).left
  right := .intro trivial fun y hy => by
    obtain ⟨x, hx, hxy⟩ := exists_of_forall₂ h.flip y hy
    exact (hitems x hx y hy hxy).right
  prints := by
    rw [prints_array, prints_array]
    exact forall_iff_of_forall₂ h fun x hx y hy hxy => (hitems x hx y hy hxy).prints

/-- Datamaps are alike if the values under each name are.  Every name has a partner on either side because there are
as many names, and they differ. -/
theorem datamap {s t : Tag} {xs ys : List (Name × Value)} (hxs : xs.Pairwise fun e e' => ¬ e.1.same e'.1 = true)
    (hys : ys.Pairwise fun e e' => ¬ e.1.same e'.1 = true) (hlength : xs.length = ys.length)
    (hpartner : ∀ e ∈ xs, ∃ e' ∈ ys, e'.1.same e.1 = true ∧ Equal e.2 e'.2)
    (hvalues : ∀ e ∈ xs, ∀ e' ∈ ys, Equal e.2 e'.2 → Alike e.2 e'.2) : Alike (.datamap s xs) (.datamap t ys) := by
  have hcover := covers_of_length_eq hlength hpartner (Agree.partners_differ hxs)
  refine ⟨.intro hxs fun x hx => ?_, .intro hys fun y hy => ?_, ?_⟩
  · obtain ⟨e, he, rfl⟩ := List.mem_map.mp hx
    obtain ⟨e', he', _, hequal⟩ := hpartner e he
    exact (hvalues e he e' he' hequal).left
  · obtain ⟨e', he', rfl⟩ := List.mem_map.mp hy
    obtain ⟨e, he, _, hequal⟩ := hcover e' he'
    exact (hvalues e he e' he' hequal).right
  · rw [prints_datamap, prints_datamap]
    refine forall_iff_of_partners hpartner hcover fun e he e' he' h => and_congr ⟨?_, ?_⟩ ?_
    · exact nameKey_of_same (Name.same_symm h.1)
    · exact nameKey_of_same h.1
    · exact (hvalues e he e' he' h.2).prints

/-- Datasets are alike if partners are.  The members of the second were never sorted, but each is an equal of one of
the first, by counting, and so has a key. -/
theorem dataset {s t : Tag} {xs ys : List Value} (hxs : xs.Pairwise fun x y => ¬ Equal x y)
    (hys : ys.Pairwise fun x y => ¬ Equal x y) (hequal : Equal (.dataset s xs) (.dataset t ys))
    (hmembers : ∀ x ∈ xs, ∀ y ∈ ys, Equal y x → Alike y x) : Alike (.dataset s xs) (.dataset t ys) := by
  obtain ⟨hkeys, hlength, hpartner⟩ := of_equal_dataset hequal
  have hx : ∀ x ∈ xs, x.Everywhere Orderly := by
    intro x hx
    obtain ⟨y, hy, hyx⟩ := hpartner x hx
    exact (hmembers x hx y hy hyx).right
  -- two members of the first with one partner would be equal to each other
  have hdiffer : xs.Pairwise fun x x' => ∀ y ∈ ys, Equal y x → ¬ Equal y x' := by
    refine hxs.imp_of_mem fun {x x'} hmem hmem' hne y hy hyx hyx' => hne ?_
    have hyo := (hmembers x hmem y hy hyx).left
    exact Orderly.equal_trans (hx x hmem) hyo (hx x' hmem') (Orderly.equal_symm hyo (hx x hmem) hyx) hyx'
  have hcover := covers_of_length_eq hlength hpartner hdiffer
  have hkeys' : ∀ y ∈ ys, ∃ key, naturalKey y = .ok key := by
    intro y hy
    obtain ⟨x, hmem, hyx⟩ := hcover y hy
    have hxo := hx x hmem
    have hyo := (hmembers x hmem y hy hyx).left
    exact (hmembers x hmem y hy hyx).symm.key (Orderly.equal_symm hyo hxo hyx) (hkeys x hmem)
  refine ⟨.intro ⟨hkeys, hxs⟩ hx, .intro ⟨hkeys', hys⟩ fun y hy => ?_, ?_⟩
  · obtain ⟨x, hmem, hyx⟩ := hcover y hy
    exact (hmembers x hmem y hy hyx).left
  · exact iff_of_true (prints_dataset.mpr hkeys) (prints_dataset.mpr hkeys')

/-- Spread values are alike if what is behind the dots is. -/
theorem spread {v w : Value} (hequal : Equal v w) (h : Alike v w) : Alike (.spread v) (.spread w) where
  left := everywhere_of_parts_one rfl trivial h.left
  right := everywhere_of_parts_one rfl trivial h.right
  prints := prints_spread.trans ((h.hasSource hequal).trans prints_spread.symm)

/-- Changers are alike if the parameters of their nodes are, place by place. -/
theorem changer {xs ys : List (String × List Value)}
    (h : List.Forall₂ (fun n m => n.1 = m.1 ∧ List.Forall₂ Equal n.2 m.2) xs ys)
    (hparams : ∀ n ∈ xs, ∀ m ∈ ys, ∀ x ∈ n.2, ∀ y ∈ m.2, Equal x y → Alike x y) :
    Alike (.changer xs) (.changer ys) where
  left := .intro trivial fun x hx => by
    obtain ⟨n, hn, hx⟩ := List.mem_flatMap.mp hx
    obtain ⟨m, hm, _, hnm⟩ := exists_of_forall₂ h n hn
    obtain ⟨y, hy, hxy⟩ := exists_of_forall₂ hnm x hx
    exact (hparams n hn m hm x hx y hy hxy).left
  right := .intro trivial fun y hy => by
    obtain ⟨m, hm, hy⟩ := List.mem_flatMap.mp hy
    obtain ⟨n, hn, _, hnm⟩ := exists_of_forall₂ h.flip m hm
    obtain ⟨x, hx, hxy⟩ := exists_of_forall₂ hnm.flip y hy
    exact (hparams n hn m hm x hx y hy hxy).right
  prints := by
    rw [prints_changer, prints_changer]
    refine forall_iff_of_forall₂ h fun n hn m hm hnm => ?_
    exact forall_iff_of_forall₂ hnm.2 fun x hx y hy hxy => (hparams n hn m hm x hx y hy hxy).hasSource hxy

end Alike

/-! ## All steps -/

/-- Equal values can be compared either way round, and print together, by induction on both.  The cases are those of
agreement, and each is one of the lemmas before. -/
theorem alike_of_equal {a b : Value} (ha : a.Everywhere Distinct) (hb : b.Everywhere Distinct) (h : Equal a b) :
    Alike a b := by
  have hparts : ∀ x ∈ a.parts, ∀ y ∈ b.parts, (Equal x y → Alike x y) ∧ (Equal y x → Alike y x) := by
    intro x hx y hy
    have hxsize := sizeOf_lt_of_mem_parts hx
    have hysize := sizeOf_lt_of_mem_parts hy
    exact ⟨alike_of_equal (ha.inside hx) (hb.inside hy), alike_of_equal (hb.inside hy) (ha.inside hx)⟩
  cases agree_of_equal h with
  | individual hindividual => exact .of_individual hindividual
  | array hitems => exact .array hitems fun x hx y hy => (hparts x hx y hy).1
  | datamap hlength hpartner =>
    refine .datamap ha.here hb.here hlength hpartner fun e he e' he' => ?_
    exact (hparts e.2 (List.mem_map_of_mem he) e'.2 (List.mem_map_of_mem he')).1
  | dataset _ _ => exact .dataset ha.here hb.here h fun x hx y hy => (hparts x hx y hy).2
  | @spread v w hequal =>
    exact .spread hequal ((hparts v (List.mem_singleton.mpr rfl) w (List.mem_singleton.mpr rfl)).1 hequal)
  | changer hnodes =>
    refine .changer hnodes fun n hn m hm x hx y hy => ?_
    exact (hparts x (List.mem_flatMap.mpr ⟨n, hn, hx⟩) y (List.mem_flatMap.mpr ⟨m, hm, hy⟩)).1
  | number hsame => exact .of_parts_nil rfl rfl trivial trivial (prints_congr (Number.format_of_sameDatum hsame))
  | colour hsame => exact .of_parts_nil rfl rfl trivial trivial (prints_congr (Colour.source_of_same hsame))
  | gradient hsame => exact .of_parts_nil rfl rfl trivial trivial (prints_congr (Gradient.source_of_same hsame))
  | _ => exact .of_parts_nil rfl rfl trivial trivial (iff_of_true ⟨_, rfl⟩ ⟨_, rfl⟩)
termination_by sizeOf a + sizeOf b

/-- **What is equal to something can be compared either way round,** if names, members and hook names are all
different, as any operation leaves them. -/
theorem orderly_of_equal (ha : a.Everywhere Distinct) (hb : b.Everywhere Distinct) (h : Equal a b) :
    a.Everywhere Orderly ∧ b.Everywhere Orderly :=
  ⟨(alike_of_equal ha hb h).left, (alike_of_equal ha hb h).right⟩

end Value

end StoryValues
