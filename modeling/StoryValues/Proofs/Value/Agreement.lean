import StoryValues.Proofs.Value.Decides
import StoryValues.Proofs.Value.Sameness

/-
  AGREEMENT: one step of equality.

  Whether two values are equal comes down to whether their parts are.  What one step of the comparison
  asks of two values is written down here for any relation between parts (`Value.Agree`), and the
  comparison of two values decides it, provided that it gives an answer on their parts
  (`decides_agree`).  Everything that is said of equality later is said of this one step, and then
  follows by induction on the size of values.

  A value is asked for no more than what makes one datamap or dataset of its entries or members, and
  what makes a comparison give an answer.  An answer needs names that are all different and members that
  can be put in order (`Value.Comparable`); that the two sides may change places needs members that are
  all different as well (`Value.Orderly`); that a value is equal to itself needs names and gradients
  without a double that is no number (`Value.Proper`).
-/

namespace StoryValues

namespace Value

/-! ## Parts -/

/-- The values that a comparison looks at inside a value. -/
def parts : Value → List Value
  | .array items => items
  | .datamap _ entries => entries.map Prod.snd
  | .dataset _ members => members
  | .spread v => [v]
  | .changer nodes => nodes.flatMap Prod.snd
  | _ => []

/-- Parts are smaller than what they are parts of, so that an induction on size may go into them. -/
theorem sizeOf_lt_of_mem_parts {v x : Value} (h : x ∈ v.parts) : sizeOf x < sizeOf v := by
  cases v with
  | array items =>
    have := List.sizeOf_lt_of_mem (show x ∈ items from h)
    simp only [array.sizeOf_spec]
    omega
  | datamap tag entries =>
    obtain ⟨e, he, rfl⟩ := List.mem_map.mp h
    have := List.sizeOf_lt_of_mem he
    obtain ⟨name, v⟩ := e
    simp only [datamap.sizeOf_spec, Prod.mk.sizeOf_spec] at this ⊢
    omega
  | dataset tag members =>
    have := List.sizeOf_lt_of_mem (show x ∈ members from h)
    simp only [dataset.sizeOf_spec]
    omega
  | spread v =>
    obtain rfl := List.mem_singleton.mp h
    simp only [spread.sizeOf_spec]
    omega
  | changer nodes =>
    obtain ⟨n, hn, hx⟩ := List.mem_flatMap.mp h
    have hnode := List.sizeOf_lt_of_mem hn
    have hparam := List.sizeOf_lt_of_mem hx
    obtain ⟨name, params⟩ := n
    simp only [changer.sizeOf_spec, Prod.mk.sizeOf_spec] at hnode hparam ⊢
    omega
  | _ => exact absurd h List.not_mem_nil

/-- Something holds of a value and of all values in it, at every depth. -/
inductive Everywhere (P : Value → Prop) : Value → Prop
  | intro {v : Value} : P v → (∀ x ∈ v.parts, Everywhere P x) → Everywhere P v

/-- What holds everywhere in a value holds of the value itself. -/
theorem Everywhere.here {P : Value → Prop} {v : Value} (h : Everywhere P v) : P v := by
  cases h with
  | intro h _ => exact h

/-- And it holds everywhere in each of its parts. -/
theorem Everywhere.inside {P : Value → Prop} {v x : Value} (h : Everywhere P v) (hx : x ∈ v.parts) :
    Everywhere P x := by
  cases h with
  | intro _ h => exact h x hx

/-! ## Proper values -/

/-- The comparison of two values says yes. -/
def Equal (a b : Value) : Prop := equals a b = .ok true

/-- A value in good order: the names of a datamap are all different, the members of a dataset are all
different and can be put in order, and a gradient goes along numbers. -/
def Proper : Value → Prop
  | .datamap _ entries =>
    (∀ e ∈ entries, e.1.Proper) ∧ entries.Pairwise fun e e' => ¬ e.1.same e'.1 = true
  | .dataset _ members =>
    (∀ x ∈ members, ∃ key, naturalKey x = .ok key) ∧ members.Pairwise fun x y => ¬ Equal x y
  | .gradient g => g.Proper
  | _ => True

/-- A value that can be compared: the names of a datamap are all different, and the members of a dataset
can be put in order. -/
def Comparable : Value → Prop
  | .datamap _ entries => entries.Pairwise fun e e' => ¬ e.1.same e'.1 = true
  | .dataset _ members => ∀ x ∈ members, ∃ key, naturalKey x = .ok key
  | _ => True

/-- A value that can be compared, and is no dataset in which a member is repeated. -/
def Orderly : Value → Prop
  | .datamap _ entries => entries.Pairwise fun e e' => ¬ e.1.same e'.1 = true
  | .dataset _ members =>
    (∀ x ∈ members, ∃ key, naturalKey x = .ok key) ∧ members.Pairwise fun x y => ¬ Equal x y
  | _ => True

/-- A value in good order is orderly: it only has a law more, that numbers are numbers. -/
theorem Proper.orderly {v : Value} (h : v.Proper) : v.Orderly := by
  cases v with
  | datamap tag entries => exact h.2
  | dataset tag members => exact h
  | _ => exact trivial

/-- An orderly value can be compared: it only has its members apart besides. -/
theorem Orderly.comparable {v : Value} (h : v.Orderly) : v.Comparable := by
  cases v with
  | datamap tag entries => exact h
  | dataset tag members => exact h.1
  | _ => exact trivial

/-- What follows at each place follows everywhere, by induction on the value. -/
theorem Everywhere.mono {P Q : Value → Prop} {v : Value} (h : v.Everywhere P) (hPQ : ∀ {x}, P x → Q x) :
    v.Everywhere Q := by
  induction h with
  | intro hv _ ih => exact .intro (hPQ hv) ih

/-- Two things that hold everywhere hold together everywhere. -/
theorem Everywhere.and {P Q : Value → Prop} {v : Value} (hP : v.Everywhere P) (hQ : v.Everywhere Q) :
    v.Everywhere fun x => P x ∧ Q x := by
  induction hP with
  | intro hv _ ih => exact .intro ⟨hv, hQ.here⟩ fun x hx => ih x hx (hQ.inside hx)

/-! ## One step -/

/-- Whether a value is equal only to itself: plain data but numbers, and data that are told apart by
identity. -/
def isIndividual : Value → Bool
  | .nothing | .boolean _ | .string _ | .error _ | .command .. | .lambda _ | .custom _ | .filtered => true
  | _ => false

/-- **Agreement** of two values, up to a relation between their parts. -/
inductive Agree (R : Value → Value → Prop) : Value → Value → Prop
  | individual {v : Value} : v.isIndividual = true → Agree R v v
  | number {m n : Number} : m.sameDatum n = true → Agree R (.number m) (.number n)
  | array {xs ys : List Value} : List.Forall₂ R xs ys → Agree R (.array xs) (.array ys)
  | datamap {s t : Tag} {xs ys : List (Name × Value)} : xs.length = ys.length →
      (∀ e ∈ xs, ∃ e' ∈ ys, e'.1.same e.1 = true ∧ R e.2 e'.2) → Agree R (.datamap s xs) (.datamap t ys)
  | dataset {s t : Tag} {xs ys : List Value} : xs.length = ys.length →
      (∀ x ∈ xs, ∃ y ∈ ys, R y x) → Agree R (.dataset s xs) (.dataset t ys)
  | datatype {d e : Datatype} : d.same e = true → Agree R (.datatype d) (.datatype e)
  | typedVar {v w : TypedVar} : v.same w = true → Agree R (.typedVar v) (.typedVar w)
  | spread {v w : Value} : R v w → Agree R (.spread v) (.spread w)
  | changer {xs ys : List (String × List Value)} :
      List.Forall₂ (fun n m => n.1 = m.1 ∧ List.Forall₂ R n.2 m.2) xs ys →
        Agree R (.changer xs) (.changer ys)
  | colour {c d : Colour} : c.same d = true → Agree R (.colour c) (.colour d)
  | gradient {g h : Gradient} : g.same h = true → Agree R (.gradient g) (.gradient h)
  | hooks {ns ms : List String} : sameHooks ns ms = true → Agree R (.hooks ns) (.hooks ms)

namespace Agree

variable {R : Value → Value → Prop}

/-- Arrays agree iff their items are related place by place.  With the next lemmas this is one for each kind of value
that has parts or a test of its own: they read a case of the definition back, so that no proof has to take it apart. -/
theorem array_iff {xs ys : List Value} :
    Agree R (.array xs) (.array ys) ↔ List.Forall₂ R xs ys := by
  constructor
  · intro h
    cases h with
    | individual h => exact absurd h Bool.false_ne_true
    | array h => exact h
  · exact .array

/-- Datamaps agree iff there are as many entries and each has a partner of its name with a related value. -/
theorem datamap_iff {s t : Tag} {xs ys : List (Name × Value)} :
    Agree R (.datamap s xs) (.datamap t ys) ↔
      xs.length = ys.length ∧
      ∀ e ∈ xs, ∃ e' ∈ ys, e'.1.same e.1 = true ∧ R e.2 e'.2 := by
  constructor
  · intro h
    cases h with
    | individual h => exact absurd h Bool.false_ne_true
    | datamap hlen h => exact ⟨hlen, h⟩
  · exact fun h => .datamap h.1 h.2

/-- Datasets agree iff there are as many members and each has a related one in the other.  The relation is asked the
other way round, as the comparison asks it. -/
theorem dataset_iff {s t : Tag} {xs ys : List Value} :
    Agree R (.dataset s xs) (.dataset t ys) ↔
      xs.length = ys.length ∧ ∀ x ∈ xs, ∃ y ∈ ys, R y x := by
  constructor
  · intro h
    cases h with
    | individual h => exact absurd h Bool.false_ne_true
    | dataset hlen h => exact ⟨hlen, h⟩
  · exact fun h => .dataset h.1 h.2

/-- Datatypes agree iff they are the same. -/
theorem datatype_iff {d e : Datatype} : Agree R (.datatype d) (.datatype e) ↔ d.same e = true := by
  constructor
  · intro h
    cases h with
    | individual h => exact absurd h Bool.false_ne_true
    | datatype h => exact h
  · exact .datatype

/-- Typed variables agree iff they are the same. -/
theorem typedVar_iff {v w : TypedVar} : Agree R (.typedVar v) (.typedVar w) ↔ v.same w = true := by
  constructor
  · intro h
    cases h with
    | individual h => exact absurd h Bool.false_ne_true
    | typedVar h => exact h
  · exact .typedVar

/-- Spread values agree iff what is behind the dots is related. -/
theorem spread_iff {v w : Value} : Agree R (.spread v) (.spread w) ↔ R v w := by
  constructor
  · intro h
    cases h with
    | individual h => exact absurd h Bool.false_ne_true
    | spread h => exact h
  · exact .spread

/-- Chains agree iff their nodes have the same names and related parameters. -/
theorem changer_iff {xs ys : List (String × List Value)} :
    Agree R (.changer xs) (.changer ys) ↔
      List.Forall₂ (fun n m => n.1 = m.1 ∧ List.Forall₂ R n.2 m.2) xs ys := by
  constructor
  · intro h
    cases h with
    | individual h => exact absurd h Bool.false_ne_true
    | changer h => exact h
  · exact .changer

/-- Colours agree iff they are the same. -/
theorem colour_iff {c d : Colour} : Agree R (.colour c) (.colour d) ↔ c.same d = true := by
  constructor
  · intro h
    cases h with
    | individual h => exact absurd h Bool.false_ne_true
    | colour h => exact h
  · exact .colour

/-- Gradients agree iff they are the same. -/
theorem gradient_iff {g k : Gradient} : Agree R (.gradient g) (.gradient k) ↔ g.same k = true := by
  constructor
  · intro h
    cases h with
    | individual h => exact absurd h Bool.false_ne_true
    | gradient h => exact h
  · exact .gradient

/-- Hook sets agree iff they have the same names. -/
theorem hooks_iff {ns ms : List String} :
    Agree R (.hooks ns) (.hooks ms) ↔ sameHooks ns ms = true := by
  constructor
  · intro h
    cases h with
    | individual h => exact absurd h Bool.false_ne_true
    | hooks h => exact h
  · exact .hooks

end Agree

/-! ## Comparisons decide agreement -/

/-- Plain values agree iff they are the same, whatever the relation between parts is, since they have none. -/
theorem samePlain_iff {a b : Value} {R : Value → Value → Prop} (h : (a.isPlain || b.isPlain) = true) :
    samePlain a b = true ↔ Agree R a b := by
  constructor
  · intro hsame
    unfold samePlain at hsame
    split at hsame
    · obtain rfl := beq_iff_eq.mp hsame
      exact .individual rfl
    · exact .number (Number.sameDatum_iff.mpr (Or.inl hsame))
    · obtain rfl := beq_iff_eq.mp hsame
      exact .individual rfl
    · exact absurd hsame (by decide)
  · intro hagree
    cases hagree with
    | individual hv =>
      cases a with
      | boolean b => simp [samePlain]
      | string s => simp [samePlain]
      | _ => simp_all [isPlain, isIndividual]
    | @number m n hmn =>
      rcases Number.sameDatum_iff.mp hmn with hsame | ⟨hm, rfl⟩
      · exact hsame
      · -- what is no number is not plain
        simp [isPlain, hm] at h
    | _ => exact absurd h (by simp [isPlain])

/-- Two lists are compared place by place, once they are of one length. -/
theorem decides_places {α β : Type} {R : α → β → Prop} {xs : List α} {ys : List β}
    {f : { p // p ∈ xs.zip ys } → Except Fault Bool} (h : ∀ p, Decides (f p) (R p.val.1 p.val.2)) :
    Decides (if xs.length = ys.length then (xs.zip ys).attach.allM f else .ok false)
      (List.Forall₂ R xs ys) := by
  have hall : Decides ((xs.zip ys).attach.allM f) (∀ p ∈ (xs.zip ys).attach, R p.val.1 p.val.2) :=
    Decides.allM fun p _ => h p
  refine (Decides.ite_false fun _ => hall).congr ?_
  rw [List.forall₂_iff_zip]
  refine and_congr_right fun _ => ?_
  constructor
  · intro hall x y hxy
    exact hall ⟨(x, y), hxy⟩ (List.mem_attach _ _)
  · intro hall p _
    exact hall p.property

/-- The comparison of lists of values. -/
theorem decides_forall₂ {xs ys : List Value}
    (h : ∀ x ∈ xs, ∀ y ∈ ys, ∃ r, equals x y = .ok r) :
    Decides (if xs.length = ys.length then
        (xs.zip ys).attach.allM fun ⟨(x, y), _⟩ => equals x y
      else .ok false) (List.Forall₂ Equal xs ys) := by
  refine decides_places fun p => ?_
  obtain ⟨⟨x, y⟩, hp⟩ := p
  obtain ⟨hx, hy⟩ := List.of_mem_zip hp
  obtain ⟨r, hr⟩ := h x hx y hy
  exact Decides.of_answer hr

/-- Where all names are different, what is found under a name is the entry of that name.  So a search that stops at
the first is as good as one of all entries. -/
theorem find?_name {entries : List (Name × Value)} {name : Name} {e : Name × Value}
    (h : entries.Pairwise fun e e' => ¬ e.1.same e'.1 = true) :
    entries.find? (fun e => e.1.same name) = some e ↔ e ∈ entries ∧ e.1.same name = true := by
  constructor
  · intro hfind
    exact ⟨List.mem_of_find?_eq_some hfind,
      List.find?_some (p := fun e : Name × Value => e.1.same name) hfind⟩
  · rintro ⟨hmem, hname⟩
    induction entries with
    | nil => exact absurd hmem List.not_mem_nil
    | cons first rest ih =>
      obtain ⟨hfirst, hrest⟩ := List.pairwise_cons.mp h
      rcases List.mem_cons.mp hmem with rfl | hmem
      · exact List.find?_cons_of_pos hname
      · have hdiffer : ¬ first.1.same name = true := fun hsame =>
          hfirst e hmem (Name.same_trans hsame (Name.same_symm hname))
        rw [List.find?_cons_of_neg (p := fun e : Name × Value => e.1.same name) hdiffer]
        exact ih hrest hmem

/-- The entry that is found under a name is the only partner of that name. -/
theorem partner_iff_of_find? {entries : List (Name × Value)} {name : Name} {e : Name × Value}
    (P : Name × Value → Prop) (h : entries.Pairwise fun e e' => ¬ e.1.same e'.1 = true)
    (hfind : entries.find? (fun e => e.1.same name) = some e) :
    (∃ e' ∈ entries, e'.1.same name = true ∧ P e') ↔ P e := by
  obtain ⟨hmem, hname⟩ := (find?_name h).mp hfind
  constructor
  · rintro ⟨e', hmem', hname', hP⟩
    have hfind' := (find?_name h).mpr ⟨hmem', hname'⟩
    rw [hfind, Option.some.injEq] at hfind'
    exact hfind' ▸ hP
  · exact fun hP => ⟨e, hmem, hname, hP⟩

/-- Where nothing is found there is none. -/
theorem no_partner_of_find? {entries : List (Name × Value)} {name : Name} {P : Name × Value → Prop}
    (hfind : entries.find? (fun e => e.1.same name) = none) :
    ¬ ∃ e' ∈ entries, e'.1.same name = true ∧ P e' := by
  rintro ⟨e', hmem, hname, _⟩
  exact List.find?_eq_none.mp hfind e' hmem hname

/-- The comparison of datamaps name by name.  That the names of the second differ is what makes the first entry found
the only partner. -/
theorem decides_entries {xs ys : List (Name × Value)}
    (hys : ys.Pairwise fun e e' => ¬ e.1.same e'.1 = true)
    (h : ∀ e ∈ xs, ∀ e' ∈ ys, ∃ r, equals e.2 e'.2 = .ok r) :
    Decides (if xs.length = ys.length then
        xs.attach.allM fun ⟨(name, x), _⟩ =>
          match _h : ys.find? fun e => e.1.same name with
          | some e => equals x e.2
          | none => .ok false
      else .ok false)
      (xs.length = ys.length ∧ ∀ e ∈ xs, ∃ e' ∈ ys, e'.1.same e.1 = true ∧ Equal e.2 e'.2) := by
  refine Decides.ite_false fun _ => ?_
  refine Decides.congr (Decides.allM fun e _ => ?_)
    ⟨fun hall e he => hall ⟨e, he⟩ (List.mem_attach _ _), fun hall e _ => hall e.val e.property⟩
  obtain ⟨⟨name, x⟩, he⟩ := e
  show Decides (match _h : ys.find? fun e => e.1.same name with
    | some e => equals x e.2
    | none => .ok false) (∃ e' ∈ ys, e'.1.same name = true ∧ Equal x e'.2)
  split
  · rename_i e' hfind
    obtain ⟨r, hr⟩ := h (name, x) he e' (List.mem_of_find?_eq_some hfind)
    exact (Decides.of_answer hr).congr (partner_iff_of_find? (fun e => Equal x e.2) hys hfind).symm
  · rename_i hfind
    exact ⟨false, rfl, ⟨fun h => absurd h (by decide), fun h => absurd h (no_partner_of_find? hfind)⟩⟩

/-- The comparison of datasets, the members of the first in natural order.  Which order that is plays no part in the
answer, but it has to be there. -/
theorem decides_members {xs ys : List Value} (hkey : ∀ x ∈ xs, ∃ key, naturalKey x = .ok key)
    (h : ∀ x ∈ xs, ∀ y ∈ ys, ∃ r, equals y x = .ok r) :
    Decides (if xs.length = ys.length then do
        let ordered ← sortOn (fun x => naturalKey x.val) xs.attach
        ordered.allM fun ⟨x, _⟩ => ys.attach.anyM fun ⟨y, _⟩ => equals y x
      else .ok false)
      (xs.length = ys.length ∧ ∀ x ∈ xs, ∃ y ∈ ys, Equal y x) := by
  refine Decides.ite_false fun _ => ?_
  have hkeys : ∀ x ∈ xs.attach, ∃ key, naturalKey x.val = .ok key := fun x _ => hkey x.val x.property
  -- the order in which members are looked at does not matter to the answer
  obtain ⟨ordered, hsort, hperm⟩ := sortOn_perm hkeys
  rw [hsort]
  have hany : ∀ x ∈ ordered, Decides (ys.attach.anyM fun ⟨y, _⟩ => equals y x.val)
      (∃ y ∈ ys.attach, Equal y.val x.val) := by
    intro x _
    refine Decides.anyM fun y _ => ?_
    obtain ⟨r, hr⟩ := h x.val x.property y.val y.property
    exact Decides.of_answer hr
  refine (Decides.allM hany).congr ⟨fun hall x hx => ?_, fun hall x _ => ?_⟩
  · obtain ⟨y, _, heq⟩ := hall ⟨x, hx⟩ (hperm.mem_iff.mpr (List.mem_attach _ _))
    exact ⟨y.val, y.property, heq⟩
  · obtain ⟨y, hy, heq⟩ := hall x.val x.property
    exact ⟨⟨y, hy⟩, List.mem_attach _ _, heq⟩

/-- The comparison of chains node by node, and of parameters place by place. -/
theorem decides_nodes {xs ys : List (String × List Value)}
    (h : ∀ n ∈ xs, ∀ m ∈ ys, ∀ x ∈ n.2, ∀ y ∈ m.2, ∃ r, equals x y = .ok r) :
    Decides (if xs.length = ys.length then
        (xs.zip ys).attach.allM fun ⟨((n, ps), (m, qs)), _⟩ =>
          if n = m then
            if ps.length = qs.length then
              (ps.zip qs).attach.allM fun ⟨(p, q), _⟩ => equals p q
            else .ok false
          else .ok false
      else .ok false)
      (List.Forall₂ (fun n m => n.1 = m.1 ∧ List.Forall₂ Equal n.2 m.2) xs ys) := by
  refine decides_places fun p => ?_
  obtain ⟨⟨n, m⟩, hp⟩ := p
  obtain ⟨hn, hm⟩ := List.of_mem_zip hp
  exact Decides.ite_false fun _ => decides_forall₂ (h n hn m hm)

/-- **A comparison decides whether two values agree** that can be compared, if comparing their parts
gives answers. -/
theorem decides_agree {a b : Value} (ha : a.Comparable) (hb : b.Comparable)
    (h : ∀ x ∈ a.parts, ∀ y ∈ b.parts, (∃ r, equals x y = .ok r) ∧ ∃ r, equals y x = .ok r) :
    Decides (equals a b) (Agree Equal a b) := by
  unfold equals
  split
  · rename_i hplain
    exact (Decides.of_bool _).congr (samePlain_iff hplain)
  · rename_i hplain
    split
    · exact (decides_forall₂ fun x hx y hy => (h x hx y hy).1).congr Agree.array_iff.symm
    · refine (decides_entries hb fun e he e' he' => ?_).congr Agree.datamap_iff.symm
      exact (h e.2 (List.mem_map_of_mem he) e'.2 (List.mem_map_of_mem he')).1
    · refine (decides_members ha fun x hx y hy => ?_).congr Agree.dataset_iff.symm
      exact (h x hx y hy).2
    · exact (Decides.of_bool _).congr Agree.datatype_iff.symm
    · exact (Decides.of_bool _).congr Agree.typedVar_iff.symm
    · obtain ⟨r, hr⟩ := (h _ (List.mem_singleton.mpr rfl) _ (List.mem_singleton.mpr rfl)).1
      exact (Decides.of_answer hr).congr (Agree.spread_iff (R := Equal)).symm
    · refine (decides_nodes fun n hn m hm x hx y hy => ?_).congr Agree.changer_iff.symm
      exact (h x (List.mem_flatMap.mpr ⟨n, hn, hx⟩) y (List.mem_flatMap.mpr ⟨m, hm, hy⟩)).1
    · exact (Decides.of_bool _).congr Agree.colour_iff.symm
    · exact (Decides.of_bool _).congr Agree.gradient_iff.symm
    · exact (Decides.of_bool _).congr Agree.hooks_iff.symm
    · -- not two values of one kind that has a rule of its own
      rename_i harray hdatamap hdataset hdatatype htypedVar hspread hchanger hcolour hgradient hhooks
      refine (Decides.of_bool _).congr ⟨fun heq => ?_, fun hagree => ?_⟩
      · obtain rfl := beq_iff_eq.mp heq
        cases hindividual : a.isIndividual with
        | true => exact .individual hindividual
        | false =>
          cases a with
          | number n =>
            have hn : n.isNumber = false := by simpa [isPlain] using hplain
            exact .number (Number.sameDatum_iff.mpr (Or.inr ⟨hn, rfl⟩))
          | array => exact (harray _ _ rfl rfl).elim
          | datamap => exact (hdatamap _ _ _ _ rfl rfl).elim
          | dataset => exact (hdataset _ _ _ _ rfl rfl).elim
          | datatype => exact (hdatatype _ _ rfl rfl).elim
          | typedVar => exact (htypedVar _ _ rfl rfl).elim
          | spread => exact (hspread _ _ rfl rfl).elim
          | changer => exact (hchanger _ _ rfl rfl).elim
          | colour => exact (hcolour _ _ rfl rfl).elim
          | gradient => exact (hgradient _ _ rfl rfl).elim
          | hooks => exact (hhooks _ _ rfl rfl).elim
          | _ => exact absurd hindividual (by simp [isIndividual])
      · rw [beq_iff_eq]
        cases hagree with
        | individual _ => rfl
        | @number m n hmn =>
          have hm : m.isNumber = false := by
            have := hplain
            simp only [isPlain, Bool.or_eq_true, not_or, Bool.not_eq_true] at this
            exact this.1
          rcases Number.sameDatum_iff.mp hmn with hsame | ⟨_, rfl⟩
          · exact absurd ((Number.sameValue_iff.mp hsame).1.symm.trans hm) (by decide)
          · rfl
        | array => exact (harray _ _ rfl rfl).elim
        | datamap => exact (hdatamap _ _ _ _ rfl rfl).elim
        | dataset => exact (hdataset _ _ _ _ rfl rfl).elim
        | datatype => exact (hdatatype _ _ rfl rfl).elim
        | typedVar => exact (htypedVar _ _ rfl rfl).elim
        | spread => exact (hspread _ _ rfl rfl).elim
        | changer => exact (hchanger _ _ rfl rfl).elim
        | colour => exact (hcolour _ _ rfl rfl).elim
        | gradient => exact (hgradient _ _ rfl rfl).elim
        | hooks => exact (hhooks _ _ rfl rfl).elim

end Value

end StoryValues
