import StoryValues.Collection.Storable
import StoryValues.Proofs.Datatype.Asking
import StoryValues.Proofs.Value.Errors
import StoryValues.Proofs.Value.Fitting
import StoryValues.World.Identity

/-
  COPIES.  A variable is bound to a copy of a value: a collection of its own with the same contents, all
  data in which have tags by which they are known from then on (`Value.CopyOf`).

  A copy differs from the value in tags alone, and whatever decides about storing a value does not look at
  tags: whether it is an error or holds one (`errorFree_iff`), whether it or what it directly holds cannot be
  stored (`keepable_iff`), and what any datatype says of it (`accepts_eq`).  Each is proved of giving tags, by
  induction on the value where it looks inside, and of `clone`, which changes the outermost tag only.
-/

namespace StoryValues

namespace Value

variable {u v : Value} {settings : Settings}

/-- A copy of a value, in which every datum has a tag. -/
def CopyOf (u v : Value) : Prop := ∃ next, u = (v.clone.adopt next).1

/-- A value that a variable can hold: it is no error and holds none in arrays, and neither it nor anything
that it directly holds is unstorable. -/
def Keepable (v : Value) : Prop :=
  v.ErrorFree ∧ v.isUnstorable = false ∧ ∀ x ∈ v.contents, x.isUnstorable = false

/-! ## Giving tags -/

/-- Getting a tag makes a number of nothing that was none, and changes no number: only a double that is no number is
known by a tag. -/
theorem adopt_number (n : Number) (next : Nat) :
    (n.adopt next).1 = n ∨ n.isNumber = false ∧ (n.adopt next).1.isNumber = false := by
  cases n with
  | int k => exact Or.inl rfl
  | real x =>
    cases x with
    | nan tag => exact Or.inr ⟨rfl, rfl⟩
    | _ => exact Or.inl rfl

/-- What cannot be stored is told by the kind of value. -/
theorem isUnstorable_adopt (v : Value) (next : Nat) : (v.adopt next).1.isUnstorable = v.isUnstorable := by
  cases v <;> rfl

mutual

/-- Getting tags makes no error and takes none away.  By induction on the value, together with the next lemma for
lists. -/
theorem isNone_firstError?_adopt (next : Nat) :
    (v : Value) → (v.adopt next).1.firstError?.isNone = v.firstError?.isNone
  | .array items => isNone_firstErrorIn?_adoptAll next items
  | .error _ | .nothing | .boolean _ | .number _ | .string _ | .datamap .. | .dataset .. | .datatype _ | .typedVar _
  | .spread _ | .changer _ | .command .. | .colour _ | .gradient _ | .hooks _ | .lambda _ | .custom _
  | .filtered => rfl

/-- The same of the values of a list. -/
theorem isNone_firstErrorIn?_adoptAll (next : Nat) :
    (vs : List Value) → (firstErrorIn? (adoptAll next vs).1).isNone = (firstErrorIn? vs).isNone
  | [] => rfl
  | v :: vs => by
    have hv := isNone_firstError?_adopt next v
    have hvs := isNone_firstErrorIn?_adoptAll (v.adopt next).2 vs
    rw [adoptAll, firstErrorIn?, firstErrorIn?]
    cases hfirst : v.firstError? with
    | some e =>
      cases hadopt : (v.adopt next).1.firstError? with
      | some e' => rfl
      | none => rw [hfirst, hadopt] at hv; cases hv
    | none =>
      cases hadopt : (v.adopt next).1.firstError? with
      | some e' => rw [hfirst, hadopt] at hv; cases hv
      | none => exact hvs

end

/-- So a value is free of errors with tags iff it is without. -/
theorem errorFree_adopt (next : Nat) : (v.adopt next).1.ErrorFree ↔ v.ErrorFree := by
  rw [← firstError?_eq_none, ← firstError?_eq_none, ← Option.isNone_iff_eq_none, ← Option.isNone_iff_eq_none,
    isNone_firstError?_adopt]

/-- Which values of a list cannot be stored does not depend on tags either. -/
theorem map_isUnstorable_adoptAll (vs : List Value) :
    ∀ next, (adoptAll next vs).1.map isUnstorable = vs.map isUnstorable := by
  induction vs with
  | nil => exact fun next => rfl
  | cons v vs ih =>
    intro next
    rw [adoptAll, List.map_cons, List.map_cons, isUnstorable_adopt, ih]

/-- The values of entries get tags as those of a list do. -/
theorem map_snd_adoptEntries (entries : List (Name × Value)) :
    ∀ next, (adoptEntries next entries).1.map Prod.snd = (adoptAll next (entries.map Prod.snd)).1 := by
  induction entries with
  | nil => exact fun next => rfl
  | cons e rest ih => exact fun next => congrArg (_ :: ·) (ih _)

/-- What a value directly holds gets tags as a list of values does, from some tag on. -/
theorem contents_adopt (v : Value) (next : Nat) :
    ∃ next', (v.adopt next).1.contents = (adoptAll next' v.contents).1 := by
  cases v with
  | array items => exact ⟨next, rfl⟩
  | datamap tag entries => exact ⟨_, map_snd_adoptEntries entries _⟩
  | dataset tag members => exact ⟨_, rfl⟩
  | _ => exact ⟨next, rfl⟩

/-- Whether a value is empty does not depend on tags. -/
theorem isEmpty_adopt (v : Value) (next : Nat) : (v.adopt next).1.isEmpty = v.isEmpty := by
  cases v with
  | array items => cases items <;> rfl
  | datamap tag entries => cases entries <;> rfl
  | dataset tag members => cases members <;> rfl
  | _ => rfl

/-- A double that is no number is not whole. -/
theorem isInteger_of_not_isNumber {n : Number} (h : n.isNumber = false) : isInteger (.number n) = .ok false := by
  rw [isInteger, if_neg (by rw [h]; exact Bool.false_ne_true)]

/-- Nor does whether it is whole, though a number may be another one with a tag: then it was none. -/
theorem isInteger_adopt (v : Value) (next : Nat) : (v.adopt next).1.isInteger = v.isInteger := by
  cases v with
  | number n =>
    show isInteger (.number (n.adopt next).1) = isInteger (.number n)
    rcases adopt_number n next with h | ⟨hn, hnew⟩
    · rw [h]
    · rw [isInteger_of_not_isNumber hn, isInteger_of_not_isNumber hnew]
  | _ => rfl

/-- Nor whether it is even or odd. -/
theorem hasParity_adopt (parity : Nat) (v : Value) (next : Nat) :
    (v.adopt next).1.hasParity parity = v.hasParity parity := by
  cases v with
  | number n =>
    show hasParity parity (.number (n.adopt next).1) = hasParity parity (.number n)
    rcases adopt_number n next with h | ⟨hn, hnew⟩
    · rw [h]
    · rw [hasParity, hasParity, isInteger_of_not_isNumber hn, isInteger_of_not_isNumber hnew]
      rfl
  | _ => rfl

/-! ## Datatypes -/

/-- **No test of a datatype looks at tags.** -/
theorem test_adopt (v : Value) (next : Nat) : ∀ p ∈ Datatype.tests, p.2 (v.adopt next).1 = p.2 v := by
  refine Datatype.forall_mem_tests (fun k hk => ?_) (isInteger_adopt v next)
    (fun name parity _ => hasParity_adopt parity v next) (congrArg Except.ok (isEmpty_adopt v next)) ?_
    fun name _ => ?_
  · refine congrArg Except.ok ?_
    simp only [Datatype.kinds, List.mem_cons, List.not_mem_nil, or_false] at hk
    cases v with
    | number n =>
      show k.2 (.number (n.adopt next).1) = k.2 (.number n)
      rcases adopt_number n next with h | ⟨hn, hnew⟩
      · rw [h]
      · rcases hk with rfl | rfl | rfl | rfl | rfl | rfl | rfl | rfl | rfl | rfl | rfl | rfl
        all_goals first | rfl | exact hnew.trans hn.symm
    | _ => rcases hk with rfl | rfl | rfl | rfl | rfl | rfl | rfl | rfl | rfl | rfl | rfl | rfl <;> rfl
  · refine congrArg Except.ok ?_
    rw [isStorable, isStorable, isNone_firstError?_adopt, isUnstorable_adopt]
  · cases v <;> rfl

/-- Nor does any look at the outermost tag, which is all that a clone changes. -/
theorem test_clone (v : Value) : ∀ p ∈ Datatype.tests, p.2 v.clone = p.2 v := by
  refine Datatype.forall_mem_tests (fun k hk => ?_) ?_ (fun name parity _ => ?_) ?_ ?_ fun name _ => ?_
  · simp only [Datatype.kinds, List.mem_cons, List.not_mem_nil, or_false] at hk
    rcases hk with rfl | rfl | rfl | rfl | rfl | rfl | rfl | rfl | rfl | rfl | rfl | rfl <;> cases v <;> rfl
  all_goals cases v <;> rfl

/-- Two values of which every test says the same, and the same of which strings they are, are the same to every
datatype.  A pattern asks for the string, and a named datatype for its test. -/
theorem accepts_congr (htest : ∀ p ∈ Datatype.tests, p.2 u = p.2 v) (hstring : ∀ s, u = .string s ↔ v = .string s)
    (d : Datatype) : d.accepts u settings = d.accepts v settings := by
  cases d with
  | named name spread =>
    rw [Datatype.accepts, Datatype.accepts]
    cases hname : Datatype.tests.lookup name with
    | none => rfl
    | some test =>
      have hsame : test u = test v := htest _ (Datatype.mem_of_lookup hname)
      simp only [hsame]
  | pattern shape parts folded spread =>
    by_cases hshape : shape = .notBefore
    · subst hshape
      rfl
    · rw [Datatype.accepts_pattern hshape, Datatype.accepts_pattern hshape]
      by_cases hu : ∃ s, u = .string s
      · obtain ⟨s, hu⟩ := hu
        rw [hu, (hstring s).mp hu]
      · have hv : ∀ s, v ≠ .string s := fun s hs => hu ⟨s, (hstring s).mpr hs⟩
        cases u with
        | string s => exact absurd ⟨s, rfl⟩ hu
        | _ => cases v with
          | string s => exact absurd rfl (hv s)
          | _ => rfl

/-- **What a datatype says of a value** does not depend on the tag of the outermost collection. -/
theorem accepts_clone (v : Value) (d : Datatype) : d.accepts v.clone settings = d.accepts v settings :=
  accepts_congr (test_clone v) (fun s => by cases v <;> simp [clone]) d

/-- Giving tags makes no string and takes none away. -/
theorem adopt_eq_string (v : Value) (next : Nat) (s : String) : (v.adopt next).1 = .string s ↔ v = .string s := by
  cases v <;> simp [adopt]

/-- **What a datatype says of a copy it says of the value.** -/
theorem CopyOf.accepts_eq (h : u.CopyOf v) (d : Datatype) : d.accepts u settings = d.accepts v settings := by
  obtain ⟨next, rfl⟩ := h
  exact (accepts_congr (test_adopt v.clone next) (adopt_eq_string v.clone next) d).trans (accepts_clone v d)

/-! ## What can be kept -/

/-- A copy is no error, and holds none, iff that is so of the value. -/
theorem CopyOf.errorFree_iff (h : u.CopyOf v) : u.ErrorFree ↔ v.ErrorFree := by
  obtain ⟨next, rfl⟩ := h
  rw [errorFree_adopt]
  cases v with
  | datamap tag entries => exact iff_of_true (.other nofun nofun) (.other nofun nofun)
  | dataset tag members => exact iff_of_true (.other nofun nofun) (.other nofun nofun)
  | _ => exact Iff.rfl

/-- **A copy can be kept iff the value can.** -/
theorem CopyOf.keepable_iff (h : u.CopyOf v) : u.Keepable ↔ v.Keepable := by
  have hfree := h.errorFree_iff
  obtain ⟨next, rfl⟩ := h
  obtain ⟨next', hcontents⟩ := contents_adopt v.clone next
  have htop : v.clone.isUnstorable = v.isUnstorable := by
    cases v <;> rfl
  have hsame : v.clone.contents = v.contents := by
    cases v <;> rfl
  have hinside : (∀ x ∈ (v.clone.adopt next).1.contents, x.isUnstorable = false) ↔
      ∀ x ∈ v.contents, x.isUnstorable = false := by
    rw [hcontents, hsame, ← List.forall_mem_map (P := fun b => b = false), map_isUnstorable_adoptAll,
      List.forall_mem_map]
  rw [Keepable, Keepable, hfree, isUnstorable_adopt, htop, hinside]

/-- Nothing unstorable is found iff all can be stored. -/
theorem find?_isUnstorable_eq_none {vs : List Value} :
    vs.find? isUnstorable = none ↔ ∀ x ∈ vs, x.isUnstorable = false := by
  rw [List.find?_eq_none]
  exact forall₂_congr fun x _ => Bool.not_eq_true x.isUnstorable ▸ Iff.rfl

/-- **Where the search for something unstorable comes to an end,** a value without errors can be kept iff nothing was
found.  It may come to none, where a dataset cannot be put in order. -/
theorem keepable_iff_of_unstorable? {found : Option Value} (hfree : v.ErrorFree) (h : v.unstorable? = .ok found) :
    v.Keepable ↔ found = none := by
  have hcollection : v.isUnstorable = false → found = v.contents.find? isUnstorable →
      (v.Keepable ↔ found = none) := by
    rintro htop rfl
    rw [find?_isUnstorable_eq_none]
    exact ⟨fun hkeep => hkeep.2.2, fun hinside => ⟨hfree, htop, hinside⟩⟩
  cases v with
  | array items => exact hcollection rfl (Except.ok.inj h).symm
  | datamap tag entries => exact hcollection rfl (Except.ok.inj h).symm
  | dataset tag members =>
    obtain ⟨ordered, hsorted, rfl⟩ := of_map_ok h
    have hperm := (of_sortOn hsorted).2
    rw [find?_isUnstorable_eq_none]
    refine ⟨fun hkeep x hx => hkeep.2.2 x (hperm.mem_iff.mp hx), fun hinside => ⟨hfree, rfl, fun x hx => ?_⟩⟩
    exact hinside x (hperm.mem_iff.mpr hx)
  | typedVar w =>
    obtain rfl := Except.ok.inj h
    exact iff_of_false (fun hkeep => Bool.noConfusion hkeep.2.1) nofun
  | spread w =>
    obtain rfl := Except.ok.inj h
    exact iff_of_false (fun hkeep => Bool.noConfusion hkeep.2.1) nofun
  | _ => exact hcollection rfl (Except.ok.inj h).symm

end Value

end StoryValues
