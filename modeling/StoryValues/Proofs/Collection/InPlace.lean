import StoryValues.Macro.Standard
import StoryValues.Proofs.Collection.NamesApart
import StoryValues.Proofs.Run
import StoryValues.Proofs.Value.Printing
import StoryValues.World.InPlace

/-
  DATAMAPS CHANGED IN PLACE keep their names apart, as the operations on their entries do.

  1. **Operations in place** are those on entries (`Run.edit`): where one fails nothing happens, and else
     the datamap gets the entries, once the data in them have tags.
  2. **Several at once.**  Popping and setting a default are one operation or none, and an update is one
     for each item, as far as it comes (`Run.assignAll_error`).
  3. **Altering** a datamap by a lambda sets no name that is not there (`Datamap.names_alterEntries`).
-/

namespace StoryValues

/-! ## Operations in place -/

namespace Value

variable {entries entries' : Datamap.Entries}

/-- Getting tags changes values, and no name of the entries. -/
theorem names_adoptEntries (entries : Datamap.Entries) :
    ∀ next, Datamap.names (adoptEntries next entries).1 = Datamap.names entries := by
  induction entries with
  | nil => exact fun next => rfl
  | cons e rest ih => exact fun next => congrArg (e.1 :: ·) (ih _)

/-- Getting tags changes no name. -/
theorem adopt_datamap (tag : Tag) (entries : Datamap.Entries) (next : Nat) :
    ∃ tag' entries', ((datamap tag entries).adopt next).1 = .datamap tag' entries' ∧
      Datamap.names entries' = Datamap.names entries :=
  ⟨_, _, by rw [adopt], names_adoptEntries entries _⟩

end Value

namespace Run

variable {σ : Type} {host : Host σ} {settings : Settings} {w w' : World σ} {tag : Tag}
  {entries entries' : Datamap.Entries} {key v : Value}

/-- A collection becomes another, once the data of that have tags. -/
theorem become_run (host : Host σ) (old new : Value) (settings : Settings) (w : World σ) :
    ∃ w', become host old new settings w = (.ok (new.adopt w.fresh).1, w') := by
  unfold become
  rw [bind_of_ok (show adopt new settings w = (.ok (new.adopt w.fresh).1, _) from rfl)]
  cases old.tag? with
  | none => exact ⟨_, rfl⟩
  | some tag => exact ⟨_, rfl⟩

/-- An operation on the entries of a datamap, in place. -/
def edit (host : Host σ) (d : Value) (c : Datamap.Entries → Check Datamap.Entries) : Run σ Value := do
  putEntries host d (← c (← entriesOf d))

variable {c : Datamap.Entries → Check Datamap.Entries}

/-- **An edit that fails does nothing:** the check is made on the entries before the world is touched. -/
theorem edit_of_error {e : Failure} (h : c entries settings = .error e) :
    edit host (.datamap tag entries) c settings w = (.error e, w) := by
  have hentries : (liftM (entriesOf (.datamap tag entries)) : Run σ _) settings w = (.ok entries, w) := rfl
  have hfails : (liftM (c entries) : Run σ _) settings w = (.error e, w) := by rw [check_run, h]
  rw [edit, bind_of_ok hentries, bind_of_error hfails]

/-- An edit that does not fail gives the datamap with the entries that the operation gave. -/
theorem edit_of_ok (host : Host σ) (h : c entries settings = .ok entries') (w : World σ) :
    ∃ w', edit host (.datamap tag entries) c settings w =
      (.ok ((Value.datamap tag entries').adopt w.fresh).1, w') := by
  have hentries : (liftM (entriesOf (.datamap tag entries)) : Run σ _) settings w = (.ok entries, w) := rfl
  have hgives : (liftM (c entries) : Run σ _) settings w = (.ok entries', w) := by rw [check_run, h]
  rw [edit, bind_of_ok hentries, bind_of_ok hgives]
  exact become_run host _ _ settings w

/-- An operation in place that fails has failed on the entries. -/
theorem of_edit_error {e : Failure} (h : edit host (.datamap tag entries) c settings w = (.error e, w')) :
    w' = w ∧ c entries settings = .error e := by
  cases hc : c entries settings with
  | error e' =>
    obtain ⟨he, hw⟩ := Prod.mk.inj ((edit_of_error hc).symm.trans h)
    obtain rfl := Except.error.inj he
    exact ⟨hw.symm, rfl⟩
  | ok middle =>
    obtain ⟨w'', hrun⟩ := edit_of_ok host hc w
    exact nomatch (Prod.mk.inj (hrun.symm.trans h)).1

/-- What an operation in place has done: the names are those of the entries that it computed. -/
theorem of_edit {d : Value} (h : edit host (.datamap tag entries) c settings w = (.ok d, w')) :
    ∃ middle tag' entries', c entries settings = .ok middle ∧ d = .datamap tag' entries' ∧
      Datamap.names entries' = Datamap.names middle := by
  cases hc : c entries settings with
  | error e => exact nomatch (edit_of_error hc).symm.trans h
  | ok middle =>
    obtain ⟨w'', hrun⟩ := edit_of_ok host hc w
    obtain ⟨tag', entries', hadopt, hnames⟩ := Value.adopt_datamap tag middle w.fresh
    obtain rfl := Except.ok.inj (Prod.mk.inj (hrun.symm.trans h)).1
    exact ⟨middle, tag', entries', rfl, hadopt, hnames⟩

/-- Setting a name of a datamap in place is an edit, by the operation on its entries. -/
theorem assign_eq_edit (d : Value) :
    assign host d key v = edit host d fun entries => Datamap.assign entries key v := rfl

/-- Taking a name away in place is an edit too. -/
theorem removeName_eq_edit (d : Value) :
    removeName host d key = edit host d fun entries => Datamap.remove entries key := rfl

/-- **An update that fails** has done what is in front of the assignment that fails, and that has done
nothing, by induction on the items. -/
theorem assignAll_error {e : Failure} (items : List (Name × Value)) : ∀ {tag entries} {w : World σ},
    assignAll host (.datamap tag entries) items settings w = (.error e, w') →
      ∃ done item rest d, items = done ++ item :: rest ∧
        assignAll host (.datamap tag entries) done settings w = (.ok d, w') ∧
        assign host d (.ofName item.1) item.2 settings w' = (.error e, w') := by
  induction items with
  | nil => exact fun h => nomatch (Prod.mk.inj h).1
  | cons item rest ih =>
    intro tag entries w h
    cases hfirst : assign host (.datamap tag entries) (.ofName item.1) item.2 settings w with
    | mk result w₁ =>
      cases result with
      | error e' =>
        have hstops : assignAll host (.datamap tag entries) (item :: rest) settings w = (.error e', w₁) :=
          bind_of_error hfirst
        obtain ⟨he, rfl⟩ := Prod.mk.inj (hstops.symm.trans h)
        obtain rfl := Except.error.inj he
        obtain ⟨rfl, _⟩ := of_edit_error ((assign_eq_edit _).symm ▸ hfirst)
        exact ⟨[], item, rest, _, rfl, rfl, hfirst⟩
      | ok d₁ =>
        obtain ⟨_, tag₁, entries₁, _, rfl, _⟩ := of_edit ((assign_eq_edit _).symm ▸ hfirst)
        have hgoes : ∀ items, assignAll host (.datamap tag entries) (item :: items) settings w =
            assignAll host (.datamap tag₁ entries₁) items settings w₁ := fun items => bind_of_ok hfirst
        rw [hgoes] at h
        obtain ⟨done, item', rest', d, rfl, hdone, hfails⟩ := ih h
        exact ⟨item :: done, item', rest', d, rfl, (hgoes done).trans hdone, hfails⟩

end Run

namespace Datamap

variable {σ : Type} {host : Host σ} {settings : Settings} {w w' : World σ} {tag tag' : Tag}
  {entries entries' : Entries}

namespace NamesApart

variable {key v : Value} {d : Value}

/-- Setting a name in place keeps names apart, as the operation on the entries does. -/
theorem assignRun (h : NamesApart entries)
    (hrun : Run.assign host (.datamap tag entries) key v settings w = (.ok d, w')) :
    ∃ tag' entries', d = .datamap tag' entries' ∧ NamesApart entries' := by
  rw [Run.assign_eq_edit] at hrun
  obtain ⟨middle, tag', entries', hassign, rfl, hnames⟩ := Run.of_edit hrun
  exact ⟨tag', entries', rfl, (h.assign hassign).of_names hnames⟩

/-- Taking a name away in place keeps names apart. -/
theorem removeRun (h : NamesApart entries)
    (hrun : Run.removeName host (.datamap tag entries) key settings w = (.ok d, w')) :
    ∃ tag' entries', d = .datamap tag' entries' ∧ NamesApart entries' := by
  rw [Run.removeName_eq_edit] at hrun
  obtain ⟨middle, tag', entries', hremove, rfl, hnames⟩ := Run.of_edit hrun
  exact ⟨tag', entries', rfl, (h.remove hremove).of_names hnames⟩

/-- Taking a name out with its value keeps names apart: the entries lose one, or stay as they are. -/
theorem popRun {otherwise popped : Value} (h : NamesApart entries)
    (hrun : Run.popName host (.datamap tag entries) key otherwise settings w = (.ok (popped, d), w')) :
    ∃ tag' entries', d = .datamap tag' entries' ∧ NamesApart entries' := by
  obtain ⟨_, _, _, hrun⟩ := Run.bind_eq_ok.mp hrun
  obtain ⟨found, _, _, hrun⟩ := Run.bind_eq_ok.mp hrun
  cases found with
  | none =>
    obtain ⟨_, rfl⟩ := Prod.mk.inj (Except.ok.inj (Prod.mk.inj hrun).1)
    exact ⟨tag, entries, rfl, h⟩
  | some v =>
    obtain ⟨_, _, hremove, hrun⟩ := Run.bind_eq_ok.mp hrun
    obtain ⟨_, rfl⟩ := Prod.mk.inj (Except.ok.inj (Prod.mk.inj hrun).1)
    exact h.removeRun hremove

/-- Setting a name that is not there yet keeps names apart.  It is setting the name, or nothing at all. -/
theorem defaultRun {found : Value} (h : NamesApart entries)
    (hrun : Run.setDefault host (.datamap tag entries) key v settings w = (.ok (found, d), w')) :
    ∃ tag' entries', d = .datamap tag' entries' ∧ NamesApart entries' := by
  obtain ⟨_, _, _, hrun⟩ := Run.bind_eq_ok.mp hrun
  obtain ⟨already, _, _, hrun⟩ := Run.bind_eq_ok.mp hrun
  cases already with
  | some found =>
    obtain ⟨_, rfl⟩ := Prod.mk.inj (Except.ok.inj (Prod.mk.inj hrun).1)
    exact ⟨tag, entries, rfl, h⟩
  | none =>
    obtain ⟨_, _, hassign, hrun⟩ := Run.bind_eq_ok.mp hrun
    obtain ⟨_, rfl⟩ := Prod.mk.inj (Except.ok.inj (Prod.mk.inj hrun).1)
    exact h.assignRun hassign

/-- Setting names one after another, by induction on the names, from wherever the datamap has come to. -/
theorem assignAllRun (items : List (Name × Value)) : ∀ {tag entries w d}, NamesApart entries →
    Run.assignAll host (.datamap tag entries) items settings w = (.ok d, w') →
      ∃ tag' entries', d = .datamap tag' entries' ∧ NamesApart entries' := by
  induction items with
  | nil =>
    intro tag entries w d h hrun
    obtain rfl := Except.ok.inj (Prod.mk.inj hrun).1
    exact ⟨tag, entries, rfl, h⟩
  | cons item rest ih =>
    intro tag entries w d h hrun
    obtain ⟨_, _, hassign, hrun⟩ := Run.bind_eq_ok.mp hrun
    obtain ⟨_, _, rfl, hmiddle⟩ := h.assignRun hassign
    exact ih hmiddle hrun

end NamesApart

/-! ## Altered datamaps -/

/-- Whether a name is set is a matter of names. -/
theorem has_of_names (h : names entries' = names entries) (name : Name) :
    has entries' name = has entries name := by
  have hany : ∀ es : Entries, has es name = (names es).any fun n => n.same name := by
    intro es
    rw [has, names, List.any_map]
    rfl
  rw [hany, hany, h]

/-- **A lambda that alters entries sets no name that is not there,** by induction on those it is asked
about. -/
theorem names_alterEntries (l : Lambda) (rest : List (Name × Value)) :
    ∀ {entries entries' : Entries} {pos : Nat} {w : World σ}, (∀ e ∈ rest, has entries e.1 = true) →
      StandardMacro.alterEntries host l entries pos rest settings w = (.ok entries', w') →
        names entries' = names entries := by
  induction rest with
  | nil =>
    intro entries entries' pos w _ hrun
    obtain rfl := Except.ok.inj (Prod.mk.inj hrun).1
    rfl
  | cons e rest ih =>
    intro entries entries' pos w hall hrun
    obtain ⟨hhas, hrest⟩ := List.forall_mem_cons.mp hall
    obtain ⟨_, _, _, hrun⟩ := Run.bind_eq_ok.mp hrun
    obtain ⟨altered, _, _, hrun⟩ := Run.bind_eq_ok.mp hrun
    split at hrun
    · exact ih hrest hrun
    · -- what came out goes under a name that is there
      have hput : names (put entries e.1 altered) = names entries := names_put_of_has hhas altered
      obtain ⟨bad, _, _, hrun⟩ := Run.bind_eq_ok.mp hrun
      cases bad with
      | some bad =>
        obtain ⟨_, _, _, hrun⟩ := Run.bind_eq_ok.mp hrun
        obtain ⟨_, _, hfail, _⟩ := Run.bind_eq_ok.mp hrun
        exact absurd (Run.check_eq_ok.mp hfail).2 Check.fail_ne_ok
      | none =>
        have hall' : ∀ e' ∈ rest, has (put entries e.1 altered) e'.1 = true := fun e' he' => by
          rw [has_of_names hput]
          exact hrest e' he'
        exact (ih hall' hrun).trans hput

/-- The names of an altered datamap are those of the datamap: the loop sets only names that it has met there. -/
theorem names_altered {l : Lambda} {d : Value} (hproper : ∀ e ∈ entries, e.1.Proper)
    (hrun : StandardMacro.perform host .datamapAltered [.lambda l, .datamap tag entries] settings w = (.ok d, w')) :
    ∃ tag' entries', d = .datamap tag' entries' ∧ names entries' = names entries := by
  unfold StandardMacro.perform at hrun
  obtain ⟨ordered, _, hsort, hrun⟩ := Run.bind_eq_ok.mp hrun
  obtain ⟨result, _, halter, hrun⟩ := Run.bind_eq_ok.mp hrun
  obtain rfl := Except.ok.inj (Prod.mk.inj hrun).1
  refine ⟨none, result, rfl, names_alterEntries l ordered (fun e he => ?_) halter⟩
  -- the entries that are altered are those of the datamap, in another order
  obtain ⟨_, hperm⟩ := Value.of_sortOn (Check.lift_eq_ok.mp (Run.check_eq_ok.mp hsort).2)
  have hmem := hperm.mem_iff.mp he
  exact has_iff.mpr ⟨e, hmem, Name.same_refl (hproper e hmem)⟩

end Datamap

end StoryValues
