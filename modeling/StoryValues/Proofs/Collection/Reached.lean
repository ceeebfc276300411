import StoryValues.Error.Renderer
import StoryValues.Proofs.Collection.InPlace

/-
  DATAMAPS THAT CAN COME ABOUT.  A datamap is empty or made of names and values, and then goes through any
  number of steps (`Datamap.Step`).

  1. **A step keeps names apart** (`NamesApart.step`), and so does any number of them
     (`Reachable.namesApart`).
  2. **Assigning** either gives certain entries (`Assigns`) or is a mistake that changes nothing
     (`Refuses`).  Which of the two depends on how the name and the names that are there are written, and on
     whether the name can be written at all.
  3. **The whole** (`Reachable.names_apart`): names never collide, every name gives its value, and assigning
     sets a name in its place, or behind all others, or does nothing.
-/

namespace StoryValues

namespace Datamap

variable {σ : Type} {host : Host σ} {settings : Settings} {w w' : World σ} {tag tag' : Tag}
  {entries entries' : Entries}

/-! ## Datamaps that can come about -/

/-- **One step of a datamap**, from its entries to those it has then: a name is set, in a datamap that is being
made or in place; names are set, taken away or popped, or get a default, in any world; the datamap is copied, or
altered by a lambda; or values that are in it change where they are. -/
inductive Step (entries entries' : Entries) : Prop
  | make {settings : Settings} {key v : Value} : assign entries key v settings = .ok entries' →
      Step entries entries'
  | assign {σ : Type} {host : Host σ} {w w' : World σ} {settings : Settings} {tag tag' : Tag} {key v : Value} :
      Run.assign host (.datamap tag entries) key v settings w = (.ok (.datamap tag' entries'), w') →
      Step entries entries'
  | remove {σ : Type} {host : Host σ} {w w' : World σ} {settings : Settings} {tag tag' : Tag} {key : Value} :
      Run.removeName host (.datamap tag entries) key settings w = (.ok (.datamap tag' entries'), w') →
      Step entries entries'
  | pop {σ : Type} {host : Host σ} {w w' : World σ} {settings : Settings} {tag tag' : Tag}
      {key otherwise popped : Value} :
      Run.popName host (.datamap tag entries) key otherwise settings w =
        (.ok (popped, .datamap tag' entries'), w') →
      Step entries entries'
  | setDefault {σ : Type} {host : Host σ} {w w' : World σ} {settings : Settings} {tag tag' : Tag}
      {key v found : Value} :
      Run.setDefault host (.datamap tag entries) key v settings w =
        (.ok (found, .datamap tag' entries'), w') →
      Step entries entries'
  | update {σ : Type} {host : Host σ} {w w' : World σ} {settings : Settings} {tag tag' : Tag}
      {items : List (Name × Value)} :
      Run.assignAll host (.datamap tag entries) items settings w = (.ok (.datamap tag' entries'), w') →
      Step entries entries'
  | copy {tag tag' : Tag} : (Value.datamap tag entries).clone = .datamap tag' entries' → Step entries entries'
  | alter {σ : Type} {host : Host σ} {w w' : World σ} {settings : Settings} {tag tag' : Tag} {l : Lambda} :
      StandardMacro.perform host .datamapAltered [.lambda l, .datamap tag entries] settings w =
        (.ok (.datamap tag' entries'), w') →
      Step entries entries'
  | inside : names entries' = names entries → Step entries entries'

/-- **The entries of datamaps that can come about**: those of an empty datamap and of one made of names and
values, and what any number of steps makes of them. -/
inductive Reachable : Entries → Prop
  | empty : Reachable []
  | create {settings : Settings} {args : List Value} {tag : Tag} {entries : Entries} :
      ofList args settings = .ok (.datamap tag entries) → Reachable entries
  | step {entries entries' : Entries} : Reachable entries → Step entries entries' → Reachable entries'

/-- **A step keeps names apart.**  One case for each kind of step, by what was shown of the operation. -/
theorem NamesApart.step (h : NamesApart entries) (hstep : Step entries entries') : NamesApart entries' := by
  have hresult : ∀ {d tag'}, (∃ tag entries, d = .datamap tag entries ∧ NamesApart entries) →
      d = Value.datamap tag' entries' → NamesApart entries' := by
    rintro d tag' ⟨tag, entries, rfl, h⟩ hd
    exact (Value.datamap.inj hd).2 ▸ h
  cases hstep with
  | make hrun => exact h.assign hrun
  | assign hrun => exact hresult (h.assignRun hrun) rfl
  | remove hrun => exact hresult (h.removeRun hrun) rfl
  | pop hrun => exact hresult (h.popRun hrun) rfl
  | setDefault hrun => exact hresult (h.defaultRun hrun) rfl
  | update hrun => exact hresult (NamesApart.assignAllRun _ h hrun) rfl
  | copy hrun =>
    rw [Value.clone, Value.datamap.injEq] at hrun
    exact hrun.2 ▸ h
  | alter hrun =>
    obtain ⟨_, _, hd, hnames⟩ := names_altered h.proper hrun
    exact hresult ⟨_, _, hd, h.of_names hnames⟩ rfl
  | inside hnames => exact h.of_names hnames

/-- **Names are apart in every datamap that can come about,** by induction on the steps. -/
theorem Reachable.namesApart (h : Reachable entries) : NamesApart entries := by
  induction h with
  | empty => exact .nil
  | create hrun => exact .ofList hrun
  | step _ hstep ih => exact ih.step hstep

/-- So the names are different as well. -/
theorem Reachable.wellNamed (h : Reachable entries) : WellNamed entries := h.namesApart.wellNamed

/-! ## What holds of them -/

/-- Assigning gives the datamap these entries, by itself and in place, where the data in it get tags. -/
def Assigns (entries : Entries) (key v : Value) (result : Entries) : Prop :=
  ∀ settings, Datamap.assign entries key v settings = .ok result ∧
    ∀ (σ : Type) (host : Host σ) (tag : Tag) (w : World σ), ∃ w',
      Run.assign host (.datamap tag entries) key v settings w =
        (.ok ((Value.datamap tag result).adopt w.fresh).1, w')

/-- Assigning is a mistake, and changes nothing at all. -/
def Refuses (entries : Entries) (key v : Value) : Prop :=
  ∀ settings, ∃ f, Datamap.assign entries key v settings = .error (.fault f) ∧
    ∀ (σ : Type) (host : Host σ) (tag : Tag) (w : World σ),
      Run.assign host (.datamap tag entries) key v settings w = (.error (.fault f), w)

/-- What holds of a datamap. -/
structure Laws (entries : Entries) : Prop where
  /-- no text that is a name is written like a number that is one -/
  texts : ∀ s n, .text s ∈ names entries → .number n ∈ names entries → s ≠ n.written
  /-- the names are all different, numbers by their values -/
  differ : (names entries).Pairwise fun m n => m.same n = false
  /-- every name gives its value, whatever datum of that value or text it is asked by -/
  property : ∀ e ∈ entries, ∀ key name settings, nameOf? key = some name → e.1.same name = true →
    Datamap.property entries key settings = .ok e.2
  /-- what is neither text nor a number cannot be set -/
  unnamed : ∀ key v, nameOf? key = none → Refuses entries key v
  /-- nor can a name that is written like another -/
  clashing : ∀ key v name, nameOf? key = some name →
    (∃ e ∈ entries, e.1.shown = name.shown ∧ e.1.same name = false) → Refuses entries key v
  /-- nor can a number that is too long to be written -/
  tooLong : ∀ key v name, nameOf? key = some name → name.isShort = false → Refuses entries key v
  /-- a name that is there keeps its place and its spelling, and gets the value -/
  present : ∀ before e after key v name, entries = before ++ e :: after → nameOf? key = some name →
    e.1.same name = true → Assigns entries key v (before ++ (e.1, v) :: after)
  /-- a name that is not there, and can be written, goes behind all others -/
  absent : ∀ key v name, nameOf? key = some name → name.isShort = true →
    (∀ e ∈ entries, e.1.shown ≠ name.shown) → Assigns entries key v (entries ++ [(name, v)])
  /-- an assignment that fails changes nothing -/
  failing : ∀ (σ : Type) (host : Host σ) tag key v settings (w w' : World σ) e,
    Run.assign host (.datamap tag entries) key v settings w = (.error e, w') → w' = w
  /-- an update that fails has done what is in front of the assignment that fails -/
  update : ∀ (σ : Type) (host : Host σ) tag items settings (w w' : World σ) e,
    Run.assignAll host (.datamap tag entries) items settings w = (.error e, w') →
      ∃ done item rest d, items = done ++ item :: rest ∧
        Run.assignAll host (.datamap tag entries) done settings w = (.ok d, w') ∧
        Run.assign host d (.ofName item.1) item.2 settings w' = (.error e, w')

variable {key v : Value} {name : Name}

/-- A name that may be set and can be written is set. -/
theorem assign_of_name (hname : nameOf? key = some name) (hshort : name.isShort = true)
    (hclash : clash? entries name = none) :
    Datamap.assign entries key v settings = .ok (put entries name v) := by
  have hcheck : (checkName entries key).attempt settings = .ok (.ok name) :=
    Check.attempt_eq_ok.mpr (checkName_eq_ok.mpr ⟨hname, hshort, hclash⟩)
  unfold Datamap.assign
  rw [hname]
  exact Check.bind_of_ok hcheck

/-- Assigning gives the host no story error to handle. -/
theorem assign_ne_story (e : StoryError) : Datamap.assign entries key v settings ≠ .error (.story e) := by
  unfold Datamap.assign
  cases nameOf? key with
  | none => exact nofun
  | some name =>
    refine Check.bind_ne_story (Check.attempt_ne_story _) (fun result => ?_) e
    cases result with
    | error e' => exact fun _ => nofun
    | ok name => exact fun _ => nofun

/-- What is given for all settings is what assigning gives. -/
theorem assigns_of_eq {result : Entries}
    (h : ∀ settings, Datamap.assign entries key v settings = .ok result) : Assigns entries key v result :=
  fun settings => ⟨h settings, fun _ host _ w => Run.edit_of_ok host (h settings) w⟩

/-- And what is never given is refused. -/
theorem refuses_of_ne (h : ∀ settings result, Datamap.assign entries key v settings ≠ .ok result) :
    Refuses entries key v := by
  intro settings
  cases hassign : Datamap.assign entries key v settings with
  | ok result => exact absurd hassign (h settings result)
  | error e =>
    cases e with
    | story e => exact absurd hassign (assign_ne_story e)
    | fault f => exact ⟨f, rfl, fun _ host _ w => Run.edit_of_error hassign⟩

namespace NamesApart

/-- No text that is a name is written like a number that is one. -/
theorem text_ne_written (h : NamesApart entries) {s : String} {n : Number} (hs : .text s ∈ names entries)
    (hn : .number n ∈ names entries) : s ≠ n.written := by
  obtain ⟨e, he, hes⟩ := List.mem_map.mp hs
  obtain ⟨e', he', hen⟩ := List.mem_map.mp hn
  intro heq
  obtain rfl := h.eq_of_shown he he' (by rw [hes, hen]; exact heq)
  exact nomatch hes.symm.trans hen

/-- The names are all different. -/
theorem pairwise_differ (h : NamesApart entries) : (names entries).Pairwise fun m n => m.same n = false :=
  List.pairwise_map.mpr (h.wellNamed.2.imp Bool.eq_false_iff.mpr)

/-- **Every name gives its value,** by whatever value that makes a name which is the same. -/
theorem property_of_same (h : NamesApart entries) {e : Name × Value} (he : e ∈ entries)
    (hkey : nameOf? key = some name) (hsame : e.1.same name = true) (settings : Settings) :
    Datamap.property entries key settings = .ok e.2 := by
  have hclash := h.clash?_of_same (proper_of_nameOf? hkey) he hsame
  have hshort : name.isShort = true := Name.isShort_of_same hsame (h.short e he)
  have hcheck : (checkName entries key).attempt settings = .ok (.ok name) :=
    Check.attempt_eq_ok.mpr (checkName_eq_ok.mpr ⟨hkey, hshort, hclash⟩)
  unfold Datamap.property
  rw [Check.bind_of_ok hcheck]
  simp only [h.lookupName_of_same he hsame]
  rfl

/-- **A name that is written like another is refused** unless it is the same: it is of the other kind, and the check
finds the clash. -/
theorem refuses (h : NamesApart entries) {e : Name × Value} (he : e ∈ entries)
    (hkey : nameOf? key = some name) (hshown : e.1.shown = name.shown) (hdiffer : e.1.same name = false)
    (v : Value) : Refuses entries key v := by
  refine refuses_of_ne fun settings result hassign => ?_
  obtain ⟨name', hcheck, _⟩ := of_assign hassign
  obtain ⟨hkey', _, hclash⟩ := checkName_eq_ok.mp hcheck
  obtain rfl := Option.some.inj (hkey.symm.trans hkey')
  exact absurd ((h.same_iff (proper_of_nameOf? hkey) hclash he).mpr hshown) (Bool.eq_false_iff.mp hdiffer)

/-- **A name that is there is set in its place.** -/
theorem assigns_present (h : NamesApart entries) {before after : Entries} {e : Name × Value}
    (hentries : entries = before ++ e :: after) (hkey : nameOf? key = some name)
    (hsame : e.1.same name = true) (v : Value) : Assigns entries key v (before ++ (e.1, v) :: after) := by
  have he : e ∈ entries := hentries ▸ List.mem_append_right _ List.mem_cons_self
  have hshort : name.isShort = true := Name.isShort_of_same hsame (h.short e he)
  refine assigns_of_eq fun settings => ?_
  rw [assign_of_name hkey hshort (h.clash?_of_same (proper_of_nameOf? hkey) he hsame), h.put_of_same hentries hsame]

/-- **A name that is written like none is set behind all others.** -/
theorem assigns_absent (h : NamesApart entries) (hkey : nameOf? key = some name) (hshort : name.isShort = true)
    (hdiffer : ∀ e ∈ entries, e.1.shown ≠ name.shown) (v : Value) :
    Assigns entries key v (entries ++ [(name, v)]) := by
  have hclash : clash? entries name = none := clash?_eq_none.mpr fun e he =>
    Bool.eq_false_iff.mpr fun halike => hdiffer e he
      ((Name.shown_eq_iff (h.proper e he) (proper_of_nameOf? hkey)).mpr (Or.inr halike))
  have habsent : has entries name = false := Bool.eq_false_iff.mpr fun hhas => by
    obtain ⟨e, he, hsame⟩ := has_iff.mp hhas
    exact hdiffer e he (Name.shown_of_same hsame)
  refine assigns_of_eq fun settings => ?_
  rw [assign_of_name hkey hshort hclash, put_of_lacks habsent]

end NamesApart

/-- What is neither text nor a number is refused as a name, in any datamap. -/
theorem refuses_unnamed (hnone : nameOf? key = none) (v : Value) : Refuses entries key v := by
  refine refuses_of_ne fun settings result hassign => ?_
  obtain ⟨name, hcheck, _⟩ := of_assign hassign
  exact nomatch hnone.symm.trans (checkName_eq_ok.mp hcheck).1

/-- What is too long to be written is refused as a name, in any datamap. -/
theorem refuses_tooLong (hkey : nameOf? key = some name) (hlong : name.isShort = false) (v : Value) :
    Refuses entries key v := by
  refine refuses_of_ne fun settings result hassign => ?_
  obtain ⟨name', hcheck, _⟩ := of_assign hassign
  obtain ⟨hkey', hshort, _⟩ := checkName_eq_ok.mp hcheck
  obtain rfl := Option.some.inj (hkey.symm.trans hkey')
  exact absurd hshort (ne_true_of_eq_false hlong)

/-- **Names never collide.**  In every datamap that can come about no two names are written alike, every name
gives its value, and assigning sets the name in its place, or behind all others, or changes nothing. -/
theorem Reachable.names_apart (h : Reachable entries) : Laws entries where
  texts _ _ := h.namesApart.text_ne_written
  differ := h.namesApart.pairwise_differ
  property _ he _ _ settings hkey hsame := h.namesApart.property_of_same he hkey hsame settings
  unnamed _ v hnone := refuses_unnamed hnone v
  clashing _ v _ hkey := fun ⟨_, he, hshown, hdiffer⟩ => h.namesApart.refuses he hkey hshown hdiffer v
  present _ _ _ _ v _ hentries hkey hsame := h.namesApart.assigns_present hentries hkey hsame v
  tooLong _ v _ hkey hlong := refuses_tooLong hkey hlong v
  absent _ v _ hkey hshort hdiffer := h.namesApart.assigns_absent hkey hshort hdiffer v
  failing _ _ _ _ _ _ _ _ _ hrun := (Run.of_edit_error hrun).1
  update _ _ _ items _ _ _ _ hrun := Run.assignAll_error items hrun

/-- A text and a double as names, the double set again by the integer of its value. -/
theorem textAndDouble_apart :
    let one : Number := .real (.finite false ⟨1023, by decide⟩ ⟨0, twoTo_pos 52⟩)
    let entries : Entries := [(.text "a", .string "x"), (.number one, .boolean true)]
    Reachable entries ∧ Laws entries ∧ entries ≠ [] ∧
      Assigns entries (.number (.int 1)) .nothing [(.text "a", .string "x"), (.number one, .nothing)] ∧
      Refuses entries (.string "1") .nothing := by
  intro one entries
  have hreachable : Reachable entries := by
    refine @Reachable.create { Settings.usual with repeatLimit := 0 }
      [.string "a", .string "x", .number one, .boolean true] none entries ?_
    decide +kernel
  have hlaws := Reachable.names_apart hreachable
  exact ⟨hreachable, hlaws, List.cons_ne_nil _ _,
    hlaws.present [(.text "a", .string "x")] (.number one, .boolean true) [] _ _ (.number (.int 1)) rfl rfl
      (by decide +kernel),
    hlaws.clashing (.string "1") .nothing (.text "1") rfl ⟨(.number one, .boolean true), by simp [entries],
      by decide +kernel, rfl⟩⟩

end Datamap

end StoryValues
