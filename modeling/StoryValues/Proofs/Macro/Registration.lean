import Mathlib.Logic.Function.Basic
import StoryValues.Macro.Standard
import StoryValues.Proofs.Text.MacroName

/-
  REGISTERING MACROS.  Registries and the table of mutations, which they share, only ever grow.

  1. **One call** (`Registration.Effect`) closes a registry, or is refused, or enters its macro under all
     its names or under those in front of the first that is taken.  A changer's mutation goes into the
     table first (`Registration.apply_table`).
  2. **What one call keeps, a run of calls keeps** (`Registries.Keeps`), by induction on the calls.  So
     registration is write-once (`Registries.run_write_once`): what is found under a name stays there, and
     is found under all names that are spelled alike, as long as no capital sigma ends a word in them
     (`sigma_before_hyphen`).
  3. **A call that fails** may leave a mutation, or names in front of one that is taken
     (`clash_and_freeze`), and otherwise leaves everything as it was
     (`Registration.failed_unchanged_iff`).
-/

namespace StoryValues

/-! ## Calls -/

/-- A call that registers a macro, a changer or a command under names, or closes a registry. -/
inductive Registration where
  | add (names : List String) (body : MacroBody) (entries : List Entry)
  | addChanger (names : List String) (body : String → MacroBody) (mutation : Changer.Mutation)
      (entries : List Entry)
  | addCommand (names : List String) (check : Option Nat) (action : Action) (entries : List Entry)
  | freeze

namespace Registration

/-- The names that a call is to enter. -/
def names : Registration → List String
  | add names .. => names
  | addChanger names .. => names
  | addCommand names .. => names
  | freeze => []

/-- What a call makes of a registry and of the table of mutations, and whether it fails. -/
def apply (r : Registry) (table : Changer.Table) : Registration → Registry × Changer.Table × Except Fault Unit
  | add names body entries =>
    let (r, done) := r.add names body entries .any
    (r, table, done)
  | addChanger names body mutation entries => r.addChanger table names body mutation entries
  | addCommand names check action entries =>
    let (r, done) := r.addCommand names check action entries
    (r, table, done)
  | freeze => (r.freeze, table, .ok ())

/-- The mutation that a call enters: that of a changer whose first name has none. -/
def newMutation? (table : Changer.Table) : Registration → Option (String × Changer.Mutation)
  | addChanger (first :: _) _ mutation _ => if table.lookup first = none then some (first, mutation) else none
  | _ => none

end Registration

/-! ## Entering names -/

namespace Registry

variable {r : Registry} {m : Macro}

/-- A registry with a macro behind all others, under some names. -/
def withMacro (r : Registry) (m : Macro) (names : List String) : Registry :=
  { r with macros := r.macros ++ names.map fun name => (insensitiveName name, m) }

/-- Under no names a macro is not there. -/
theorem withMacro_nil (r : Registry) (m : Macro) : r.withMacro m [] = r := by
  rw [withMacro, List.map_nil, List.append_nil]

/-- Names are entered one after another. -/
theorem withMacro_cons (r : Registry) (m : Macro) (name : String) (names : List String) :
    (r.withMacro m [name]).withMacro m names = r.withMacro m (name :: names) := by
  simp [withMacro]

/-- What is found stays, for the first of two entries with one name is the one that is found. -/
theorem get?_withMacro (names : List String) {n : String} {old : Macro} (h : r.get? n = some old) :
    (r.withMacro m names).get? n = some old := by
  rw [get?] at h
  rw [get?, withMacro, List.lookup_append, h]
  rfl

/-- The first of the names that are entered is then found. -/
theorem has_withMacro (first : String) (names : List String) :
    (r.withMacro m (first :: names)).has first = true := by
  rw [has, get?, withMacro, List.lookup_append, List.map_cons, List.lookup_cons_self]
  cases r.macros.lookup (insensitiveName first) <;> rfl

/-- If it was free, what is found is the macro: no entry in front of it has its form. -/
theorem get?_withMacro_of_free {first : String} (hfree : r.has first = false) (m : Macro) (names : List String) :
    (r.withMacro m (first :: names)).get? first = some m := by
  have hnone : r.macros.lookup (insensitiveName first) = none := by
    rwa [has, get?, Option.isSome_eq_false_iff, Option.isNone_iff_eq_none] at hfree
  rw [get?, withMacro, List.lookup_append, hnone, List.map_cons, List.lookup_cons_self]
  rfl

/-- **Entering a macro** enters all its names, and it is then found under each, or those in front of one that
is taken. -/
theorem enter_cases (m : Macro) (names : List String) : ∀ r : Registry,
    ((∀ name ∈ names, (r.withMacro m names).get? name = some m) ∧
        enter m names r = (r.withMacro m names, .ok ())) ∨
      ∃ done taken rest, names = done ++ taken :: rest ∧ (∀ first, done.head? = some first → r.has first = false) ∧
        (r.withMacro m done).has taken = true ∧
        enter m names r = (r.withMacro m done, .error (.macroExists taken)) := by
  induction names with
  | nil => exact fun r => Or.inl ⟨nofun, by rw [withMacro_nil]; rfl⟩
  | cons name names ih =>
    intro r
    cases hhas : r.has name with
    | true =>
      refine Or.inr ⟨[], name, names, rfl, nofun, by rw [withMacro_nil]; exact hhas, ?_⟩
      rw [enter, if_pos hhas, withMacro_nil]
    | false =>
      -- the name is free, so entering goes on with the registry that has it
      have hgoes : enter m (name :: names) r = enter m names (r.withMacro m [name]) := by
        rw [enter, hhas, if_neg Bool.false_ne_true]
        rfl
      rw [hgoes]
      rcases ih (r.withMacro m [name]) with ⟨hfound, hall⟩ | ⟨done, taken, rest, rfl, _, htaken, hclash⟩
      · rw [withMacro_cons] at hfound hall
        exact Or.inl ⟨List.forall_mem_cons.mpr ⟨get?_withMacro_of_free hhas m names, hfound⟩, hall⟩
      · refine Or.inr ⟨name :: done, taken, rest, rfl, fun first hfirst => ?_, ?_, ?_⟩
        · exact Option.some.inj hfirst ▸ hhas
        · rw [← withMacro_cons]
          exact htaken
        · rw [hclash, withMacro_cons]

/-- What holds of the macro that is entered and of those that are there holds of all, even if a name is taken. -/
theorem forall_enter {P : Macro → Prop} (hr : ∀ entry ∈ r.macros, P entry.2) (hm : P m) (names : List String) :
    ∀ entry ∈ (enter m names r).1.macros, P entry.2 := by
  have hentered (done : List String) : ∀ entry ∈ (r.withMacro m done).macros, P entry.2 :=
    List.forall_mem_append.mpr ⟨hr, List.forall_mem_map.mpr fun _ _ => hm⟩
  rcases enter_cases m names r with ⟨-, hall⟩ | ⟨done, _, _, -, -, -, hclash⟩
  · rw [hall]
    exact hentered names
  · rw [hclash]
    exact hentered done

/-- So it is enough to look at the macros one by one as they are added.  A registry is built by adding, and this is
the induction step for any property of its macros. -/
theorem forall_including {P : Macro → Prop} {names : List String} {body : MacroBody} {entries : List Entry}
    {returns : Returns} (hr : ∀ entry ∈ r.macros, P entry.2)
    (hnew : ∀ s, Signature.ofEntries entries = .ok s → P ⟨names, body, s, returns⟩) :
    ∀ entry ∈ (r.including names body entries returns).macros, P entry.2 := by
  unfold including add
  split
  · exact hr
  · split
    · exact hr
    · next s hs => exact forall_enter hr (hnew s hs) names

end Registry

/-- A signature is refused for one reason only, by induction on its entries: an entry for the rest that is not last. -/
theorem Signature.ofEntries_error {f : Fault} {entries : List Entry} (h : ofEntries entries = .error f) :
    f = .restNotLast := by
  fun_induction ofEntries entries with
  | case1 => exact nomatch h
  | case2 => exact nomatch h
  | case3 => exact (Except.error.inj h).symm
  | case4 e es _ _ ih =>
    cases hrest : ofEntries es with
    | error f' =>
      rw [hrest] at h
      exact ih (hrest.trans h)
    | ok s =>
      rw [hrest] at h
      exact nomatch h

/-- Giving a name its mutation, in three cases: a name that has none, one that has this very one, and one that has
another. -/
theorem Changer.register_eq (table : Table) (name : String) (m : Mutation) :
    register table name m = if table.lookup name = none then .ok (table ++ [(name, m)])
      else if table.lookup name = some m then .ok table else .error (.mutationExists name) := by
  unfold register
  cases table.lookup name with
  | none => rfl
  | some old => simp

/-! ## One call -/

namespace Registration

open Registry

variable {c : Registration} {r r' : Registry} {table table' : Changer.Table} {result : Except Fault Unit} {f : Fault}

/-- **What a call does to a registry**, and how it ends: it closes the registry, is refused at once, or enters
a macro under all its names, or under those in front of one that is taken. -/
inductive Effect (c : Registration) (r : Registry) : Registry → Except Fault Unit → Prop
  | closed : c = .freeze → Effect c r r.freeze (.ok ())
  | refused {f : Fault} : (∀ taken, f ≠ .macroExists taken) → Effect c r r (.error f)
  | entered (m : Macro) : r.frozen = false → m.names = c.names →
      (∀ name ∈ c.names, (r.withMacro m c.names).get? name = some m) →
      Effect c r (r.withMacro m c.names) (.ok ())
  | clashed (m : Macro) {done rest : List String} {taken : String} : r.frozen = false →
      c.names = done ++ taken :: rest → (∀ first, done.head? = some first → r.has first = false) →
      (r.withMacro m done).has taken = true →
      Effect c r (r.withMacro m done) (.error (.macroExists taken))

/-- Adding a macro has one of the effects.  Names are entered up to the first one that is taken, and what was entered
is not taken back. -/
theorem effect_add {names : List String} (hnames : c.names = names) (body : MacroBody) (entries : List Entry)
    (returns : Returns) :
    c.Effect r (r.add names body entries returns).1 (r.add names body entries returns).2 := by
  unfold Registry.add
  cases hfrozen : r.frozen with
  | true => exact .refused nofun
  | false =>
    rw [if_neg Bool.false_ne_true]
    cases hsig : Signature.ofEntries entries with
    | error f =>
      obtain rfl := Signature.ofEntries_error hsig
      exact .refused nofun
    | ok signature =>
      subst hnames
      rcases enter_cases ⟨c.names, body, signature, returns⟩ c.names r with
        ⟨hfound, hall⟩ | ⟨done, taken, rest, hsplit, hfree, htaken, hclash⟩
      · simp only [hall]
        exact .entered _ hfrozen rfl hfound
      · simp only [hclash]
        exact .clashed _ hfrozen hsplit hfree htaken

/-- **Every call has one of these effects.**  A changer is a macro whose mutation is entered first; if that fails the
registry is not touched. -/
theorem effect_apply (c : Registration) (r : Registry) (table : Changer.Table) :
    c.Effect r (c.apply r table).1 (c.apply r table).2.2 := by
  cases c with
  | add names body entries => exact effect_add rfl body entries .any
  | addChanger names body mutation entries =>
    cases names with
    | nil => exact .refused nofun
    | cons first rest =>
      rw [apply, Registry.addChanger, firstName]
      dsimp only
      cases hregister : Changer.register table first mutation with
      | error f =>
        rw [Changer.register_eq] at hregister
        split at hregister
        · exact nomatch hregister
        · split at hregister
          · exact nomatch hregister
          · obtain rfl := Except.error.inj hregister
            exact .refused nofun
      | ok table' => exact effect_add rfl (body first) entries .changer
  | addCommand names check action entries =>
    cases names with
    | nil => exact .refused nofun
    | cons first rest => exact effect_add rfl (.command first check action) entries .command
  | freeze => exact .closed rfl

/-- **What a call does to the table of mutations**, whether it fails or not: it is put behind what is there, before
the macro is added. -/
theorem apply_table (c : Registration) (r : Registry) (table : Changer.Table) :
    (c.apply r table).2.1 = table ++ (c.newMutation? table).toList := by
  have hnone : table = table ++ (none : Option (String × Changer.Mutation)).toList := (List.append_nil table).symm
  cases c with
  | add names body entries => exact hnone
  | addChanger names body mutation entries =>
    cases names with
    | nil => exact hnone
    | cons first rest =>
      rw [apply, Registry.addChanger, firstName, newMutation?]
      dsimp only
      rw [Changer.register_eq]
      by_cases hnew : table.lookup first = none
      · rw [if_pos hnew, if_pos hnew]
        rfl
      · rw [if_neg hnew, if_neg hnew]
        -- the same mutation again is no fault, and another one is; neither changes the table
        by_cases hsame : table.lookup first = some mutation
        · rw [if_pos hsame]
          exact hnone
        · rw [if_neg hsame]
          exact hnone
  | addCommand names check action entries =>
    cases names with
    | nil => exact hnone
    | cons first rest => exact hnone
  | freeze => exact hnone

namespace Effect

/-- What is found in a registry stays, whatever is done to it, since macros are only put behind others. -/
theorem get?_kept (h : c.Effect r r' result) {n : String} {m : Macro} (hget : r.get? n = some m) :
    r'.get? n = some m := by
  cases h with
  | closed => exact hget
  | refused => exact hget
  | entered m' => exact get?_withMacro _ hget
  | clashed m' => exact get?_withMacro _ hget

/-- Nothing is done to a registry that is closed. -/
theorem of_frozen (h : c.Effect r r' result) (hfrozen : r.frozen = true) : r' = r := by
  cases h with
  | closed => rw [Registry.freeze, ← hfrozen]
  | refused => rfl
  | entered m' hopen => exact nomatch hfrozen.symm.trans hopen
  | clashed m' hopen => exact nomatch hfrozen.symm.trans hopen

/-- A call that succeeds closes the registry, or its macro is found under all its names. -/
theorem found_of_ok (h : c.Effect r r' (.ok ())) :
    c = .freeze ∨ ∃ m : Macro, m.names = c.names ∧ ∀ name ∈ c.names, r'.get? name = some m := by
  cases h with
  | closed hfreeze => exact Or.inl hfreeze
  | entered m _ hnames hfound => exact Or.inr ⟨m, hnames, hfound⟩

/-- A call that fails closes nothing. -/
theorem frozen_of_error (h : c.Effect r r' (.error f)) : r'.frozen = r.frozen := by
  cases h with
  | refused => rfl
  | clashed m => rfl

end Effect

/-- A call that fails leaves a name behind where a name is taken, but not the first. -/
def LeavesName (c : Registration) (r : Registry) (f : Fault) : Prop :=
  ∃ first taken, c.names.head? = some first ∧ r.has first = false ∧ f = .macroExists taken

/-- **What a call that fails leaves in a registry:** nothing, or its first name, which was free.  The two are told
apart by whether the name that is taken is the first. -/
theorem Effect.left_behind (h : c.Effect r r' (.error f)) :
    (¬ c.LeavesName r f ∧ r' = r) ∨ (c.LeavesName r f ∧ ∃ first, r.has first = false ∧ r'.has first = true) := by
  cases h with
  | refused hother => exact Or.inl ⟨fun ⟨_, taken, _, _, hf⟩ => hother taken hf, rfl⟩
  | @clashed m done rest taken _ hsplit hfree htaken =>
    cases done with
    | nil =>
      rw [withMacro_nil] at htaken ⊢
      refine Or.inl ⟨fun ⟨first, _, hfirst, hhas, _⟩ => ?_, rfl⟩
      -- the first name is the one that is taken
      rw [hsplit] at hfirst
      obtain rfl := Option.some.inj hfirst
      exact nomatch hhas.symm.trans htaken
    | cons first done =>
      have hfirst : r.has first = false := hfree first rfl
      exact Or.inr ⟨⟨first, taken, by rw [hsplit]; rfl, hfirst, rfl⟩, first, hfirst, has_withMacro first done⟩

/-- A changer that is entered has its mutation under its first name. -/
theorem lookup_of_ok {first : String} {rest : List String} {body : String → MacroBody}
    {mutation : Changer.Mutation} {entries : List Entry}
    (h : ((addChanger (first :: rest) body mutation entries).apply r table).2.2 = .ok ()) :
    ((addChanger (first :: rest) body mutation entries).apply r table).2.1.lookup first = some mutation := by
  rw [apply_table, newMutation?, List.lookup_append]
  by_cases hnew : table.lookup first = none
  · rw [if_pos hnew, hnew]
    exact List.lookup_cons_self
  · -- a name that has another mutation is refused
    rw [apply, Registry.addChanger, firstName] at h
    dsimp only at h
    rw [Changer.register_eq, if_neg hnew] at h
    by_cases hsame : table.lookup first = some mutation
    · rw [hsame]
      rfl
    · rw [if_neg hsame] at h
      exact nomatch h

/-- A name that has a mutation keeps it: a call that would give it another one fails. -/
theorem lookup_kept (c : Registration) (r : Registry) {name : String} {m : Changer.Mutation}
    (h : table.lookup name = some m) : (c.apply r table).2.1.lookup name = some m := by
  rw [apply_table, List.lookup_append, h]
  rfl

/-- **When a failed call changes nothing.**  Whatever it is refused for, what was found is still found, the
registry is open or closed as before, and the table of mutations has at most the call's own behind the others.
All that is found, all names and the table are as they were iff the call entered no mutation and left no name
behind. -/
theorem failed_unchanged_iff (h : c.apply r table = (r', table', .error f)) :
    (∀ n m, r.get? n = some m → r'.get? n = some m) ∧ r'.frozen = r.frozen ∧
    table' = table ++ (c.newMutation? table).toList ∧
    (((∀ n, r'.get? n = r.get? n) ∧ r'.names = r.names ∧ table' = table) ↔
      c.newMutation? table = none ∧ ¬ c.LeavesName r f) := by
  have heffect : c.Effect r r' (.error f) := by
    have heffect := c.effect_apply r table
    rwa [h] at heffect
  have htable : table' = table ++ (c.newMutation? table).toList := by
    rw [← c.apply_table r table, h]
  have hsame : table' = table ↔ c.newMutation? table = none := by
    rw [htable, List.append_right_eq_self, Option.toList_eq_nil_iff]
  refine ⟨fun n m => heffect.get?_kept, heffect.frozen_of_error, htable, ?_⟩
  rw [hsame]
  rcases heffect.left_behind with ⟨hnone, rfl⟩ | ⟨hleaves, first, hfree, htaken⟩
  · exact ⟨fun ⟨_, _, hnew⟩ => ⟨hnew, hnone⟩, fun ⟨hnew, _⟩ => ⟨fun _ => rfl, rfl, hnew⟩⟩
  · refine ⟨fun ⟨hget, _⟩ => ?_, fun ⟨_, hnone⟩ => absurd hleaves hnone⟩
    -- the first name was free and is not now
    rw [Registry.has, hget, ← Registry.has, hfree] at htaken
    exact nomatch htaken

/-- Where the first name is taken already, nothing is left behind. -/
theorem second_name_not_entered :
    let r := (Registry.empty.add ["X"] (.hosted 0) [] .any).1
    ∃ r' table', (add ["x", "y"] (.hosted 1) []).apply r [] = (r', table', .error (.macroExists "x")) ∧
      (∀ n, r'.get? n = r.get? n) ∧ r'.names = r.names ∧ table' = [] := by
  intro r
  have h : (add ["x", "y"] (.hosted 1) []).apply r [] = (r, [], .error (.macroExists "x")) := by rfl
  have hfirst : r.has "x" = true := by decide +kernel
  refine ⟨r, [], h, (failed_unchanged_iff h).2.2.2.mpr ⟨rfl, fun ⟨first, _, hhead, hfree, _⟩ => ?_⟩⟩
  obtain rfl := Option.some.inj hhead
  exact nomatch hfree.symm.trans hfirst

/-- **What failed calls may leave behind.**  A call whose second name is its first again fails, and the first
stays; a changer that a closed registry refuses leaves its mutation. -/
theorem clash_and_freeze :
    let clashed := (add ["x", "X"] (.hosted 0) []).apply Registry.empty []
    let refused := (addChanger ["glow"] .changer (.hosted 0) []).apply Registry.empty.freeze []
    (clashed.2.2 = .error (.macroExists "X") ∧ Registry.empty.has "x" = false ∧ clashed.1.has "x" = true) ∧
      refused.2.2 = .error .frozenRegistry ∧ refused.2.1 = [("glow", .hosted 0)] := by
  intro clashed refused
  have hstays : clashed.1.has "x" = true := by decide +kernel
  exact ⟨⟨rfl, rfl, hstays⟩, rfl, rfl⟩

end Registration

/-! ## Runs of calls -/

/-- Registries, as many as there may be, and the table of mutations that they share. -/
structure Registries where
  registry : Nat → Registry
  mutations : Changer.Table

namespace Registries

variable {s s' s'' : Registries}

/-- A call to one of the registries, whether it fails or not. -/
def step (s : Registries) (call : Nat × Registration) : Registries where
  registry := Function.update s.registry call.1 (call.2.apply (s.registry call.1) s.mutations).1
  mutations := (call.2.apply (s.registry call.1) s.mutations).2.1

/-- A call to a registry does to it what the call says. -/
theorem registry_step_self (s : Registries) (i : Nat) (c : Registration) :
    (s.step (i, c)).registry i = (c.apply (s.registry i) s.mutations).1 := Function.update_self ..

/-- A call to a registry does nothing to the other registries, though they share the table. -/
theorem registry_step_of_ne (s : Registries) {i j : Nat} (h : i ≠ j) (c : Registration) :
    (s.step (j, c)).registry i = s.registry i := Function.update_of_ne h ..

/-- Calls one after another. -/
def run (s : Registries) (calls : List (Nat × Registration)) : Registries := calls.foldl step s

/-- **What stays**: what is found under a name, what mutation a name has, and all of a registry that is
closed. -/
structure Keeps (s s' : Registries) : Prop where
  entries : ∀ i n m, (s.registry i).get? n = some m → (s'.registry i).get? n = some m
  mutations : ∀ name m, s.mutations.lookup name = some m → s'.mutations.lookup name = some m
  closed : ∀ i, (s.registry i).frozen = true → s'.registry i = s.registry i

/-- Where nothing is done all stays. -/
theorem Keeps.refl (s : Registries) : s.Keeps s := ⟨fun _ _ _ h => h, fun _ _ h => h, fun _ _ => rfl⟩

/-- What stays from one state to the next stays along all of them. -/
theorem Keeps.trans (h : s.Keeps s') (h' : s'.Keeps s'') : s.Keeps s'' where
  entries i n m hget := h'.entries i n m (h.entries i n m hget)
  mutations name m hlookup := h'.mutations name m (h.mutations name m hlookup)
  closed i hfrozen := by
    have hsame := h.closed i hfrozen
    rw [h'.closed i (hsame ▸ hfrozen), hsame]

/-- **One call keeps all this,** whether it fails or not: by the effects that it can have on a registry, and by what
it does to the table. -/
theorem keeps_step (s : Registries) (call : Nat × Registration) : s.Keeps (s.step call) := by
  obtain ⟨j, c⟩ := call
  have heffect := c.effect_apply (s.registry j) s.mutations
  refine ⟨fun i n m hget => ?_, fun name m => c.lookup_kept _, fun i hfrozen => ?_⟩
  · by_cases hi : i = j
    · subst hi
      rw [registry_step_self]
      exact heffect.get?_kept hget
    · rw [registry_step_of_ne s hi]
      exact hget
  · by_cases hi : i = j
    · subst hi
      rw [registry_step_self]
      exact heffect.of_frozen hfrozen
    · rw [registry_step_of_ne s hi]

/-- **And so do any number of calls,** by induction on them. -/
theorem keeps_run (calls : List (Nat × Registration)) : ∀ s : Registries, s.Keeps (s.run calls) := by
  induction calls with
  | nil => exact Keeps.refl
  | cons call calls ih => exact fun s => (s.keeps_step call).trans (ih (s.step call))

/-- **Registration is write-once.**  A call that succeeds enters one macro under all its names, or closes the
registry, and the changer that it enters has its mutation.  Whatever calls follow, in whatever registries, and
whether they fail or not: what is found under a name is still found under it, and under names that are spelled
alike, unless a capital sigma ends a word in one of them; a name that has a mutation keeps it; and a registry in
which nothing but closing was done finds what it found. -/
theorem run_write_once (s : Registries) (calls : List (Nat × Registration)) :
    (∀ i c, (c.apply (s.registry i) s.mutations).2.2 = .ok () → c = .freeze ∨
      ∃ m : Macro, m.names = c.names ∧ ∀ n ∈ c.names, ((s.step (i, c)).registry i).get? n = some m) ∧
    (∀ i first rest body mutation entries,
      ((Registration.addChanger (first :: rest) body mutation entries).apply (s.registry i) s.mutations).2.2 = .ok () →
        (s.step (i, .addChanger (first :: rest) body mutation entries)).mutations.lookup first = some mutation) ∧
    (∀ i n m, (s.registry i).get? n = some m → ((s.run calls).registry i).get? n = some m ∧
      ∀ n', letters n' = letters n → Case.NoFinalSigma n → Case.NoFinalSigma n' →
        ((s.run calls).registry i).get? n' = some m) ∧
    (∀ name m, s.mutations.lookup name = some m → (s.run calls).mutations.lookup name = some m) ∧
    ∀ i n, (((s.step (i, .freeze)).run calls).registry i).get? n = (s.registry i).get? n := by
  have hkeeps := keeps_run calls s
  refine ⟨fun i c hok => ?_, fun i first rest body mutation entries hok => Registration.lookup_of_ok hok,
    fun i n m hget => ⟨hkeeps.entries i n m hget, fun n' hletters hn hn' => ?_⟩, hkeeps.mutations, fun i n => ?_⟩
  · have heffect := c.effect_apply (s.registry i) s.mutations
    rw [hok] at heffect
    rw [registry_step_self]
    exact heffect.found_of_ok
  · -- names that are spelled alike have one form, and macros are found by it
    have hform := (insensitiveName_eq_iff hn' hn).mpr hletters
    have hget' := hkeeps.entries i n m hget
    rw [Registry.get?] at hget' ⊢
    rw [hform]
    exact hget'
  · -- nothing is entered once a registry is closed
    have hclosed : (s.step (i, .freeze)).registry i = (s.registry i).freeze := s.registry_step_self i .freeze
    rw [(keeps_run calls _).closed i (by rw [hclosed]; rfl), hclosed]
    rfl

/-- Neither a call for a name spelled alike nor closing changes what is found under any such name. -/
theorem textStyle_stays :
    let s := (⟨fun _ => .empty, []⟩ : Registries).step (0, .add ["text-style"] (.hosted 0) [])
    let s' := s.run [(0, .add ["TextStyle"] (.hosted 1) []), (0, .freeze), (0, .add ["text"] (.hosted 1) [])]
    ∃ m, (s.registry 0).get? "text-style" = some m ∧ (s'.registry 0).get? "TEXT_style" = some m := by
  intro s s'
  have hfound : (s.registry 0).get? "text-style" = some ⟨["text-style"], .hosted 0, ⟨[], none⟩, .any⟩ := rfl
  exact ⟨_, hfound, ((run_write_once s _).2.2.1 0 "text-style" _ hfound).2 "TEXT_style" (by decide +kernel)
    (Case.noFinalSigma_of_not_mem (by decide +kernel)) (Case.noFinalSigma_of_not_mem (by decide +kernel))⟩

/-- **A hyphen is not left out behind a capital sigma.**  Then the sigma ends a word and is lowered to another
letter, so a name with the hyphen finds nothing, though it is spelled like the one that was entered. -/
theorem sigma_before_hyphen :
    let s : Registries := ⟨fun _ => .empty, []⟩
    let s' := s.run [(0, .add ["ΑΣΑ"] (.hosted 0) [])]
    "ΑΣ-Α".toList.filter counts = "ΑΣΑ".toList ∧ letters "ΑΣ-Α" = letters "ΑΣΑ" ∧
      (s'.registry 0).has "ΑΣΑ" = true ∧ (s'.registry 0).has "ΑΣ-Α" = false := by
  decide +kernel

end Registries

end StoryValues
