import Mathlib.Data.List.Nodup
import StoryValues.Proofs.Collection.Names
import StoryValues.Proofs.Number.Format

/-
  NAMES APART.  The names of a datamap are text and numbers, and a number may be an integer or a double;
  still no two of them are written alike, so a name can be told from its text alone.

  1. **Apart** — `Datamap.NamesApart`: the texts of the names are all different.  For two numbers this says
     that they are of different value (`Number.written_eq_iff`).  All names are short enough to be written.
  2. **The same name** (`NamesApart.same_iff`): among such names, those written like a name that may be set
     are the same as it.  So a name that is set is found, and is set again in its own place.
  3. **Each operation keeps names apart**: a name is set in its own place, or behind all others, and that
     only if none is written like it.
-/

namespace StoryValues

/-! ## Names and their texts -/

namespace Name

variable {m n : Name}

/-- Names that are the same are written alike: texts are the text itself, and numbers of one value have one text. -/
theorem shown_of_same (h : m.same n = true) : m.shown = n.shown := by
  cases m with
  | text s =>
    cases n with
    | text t => exact beq_iff_eq.mp h
    | number n => exact nomatch h
  | number m =>
    cases n with
    | text t => exact nomatch h
    | number n =>
      obtain ⟨hm, hn, _⟩ := Number.sameValue_iff.mp h
      exact (Number.written_eq_iff hm hn).mpr h

/-- Of names that are the same, both can be written or neither. -/
theorem isShort_of_same (h : m.same n = true) (hm : m.isShort = true) : n.isShort = true := by
  cases m with
  | text s =>
    cases n with
    | text t => rfl
    | number n => exact nomatch h
  | number m =>
    cases n with
    | text t => exact nomatch h
    | number n => exact Number.isShort_of_sameValue h hm

/-- Whether a text and a number are written alike. -/
def alike (m n : Name) : Bool :=
  match m, n with
  | .text s, .number n => s == n.written
  | .number n, .text s => n.written == s
  | _, _ => false

/-- Names that are written alike are the same or of different kinds.  The check of a name refuses the second. -/
theorem shown_eq_iff (hm : m.Proper) (hn : n.Proper) :
    m.shown = n.shown ↔ m.same n = true ∨ m.alike n = true := by
  cases m with
  | text s =>
    cases n with
    | text t => simp [shown, same, alike]
    | number n => simp [shown, same, alike]
  | number m =>
    cases n with
    | text t => simp [shown, same, alike]
    | number n => simpa [shown, same, alike] using Number.written_eq_iff hm hn

/-- They are not both, whatever they are. -/
theorem not_alike_of_same (h : m.same n = true) : m.alike n = false := by
  cases m with
  | text s =>
    cases n with
    | text t => rfl
    | number n => exact nomatch h
  | number m =>
    cases n with
    | text t => exact nomatch h
    | number n => rfl

end Name

namespace Datamap

variable {entries entries' : Entries} {name : Name} {settings : Settings}

/-- The names of a datamap. -/
def names (entries : Entries) : List Name := entries.map Prod.fst

/-- **Names apart**: they are text or numbers, short enough to be written, and no two are written alike. -/
structure NamesApart (entries : Entries) : Prop where
  proper : ∀ e ∈ entries, e.1.Proper
  short : ∀ e ∈ entries, e.1.isShort = true
  apart : (entries.map fun e => e.1.shown).Nodup

/-- There is no clash where no name of the other kind is written alike. -/
theorem clash?_eq_none : clash? entries name = none ↔ ∀ e ∈ entries, e.1.alike name = false := by
  unfold clash?
  rw [List.find?_eq_none, List.forall_mem_map]
  refine forall₂_congr fun e _ => ?_
  rw [Bool.not_eq_true]
  rfl

/-- A name is set where one of the entries has it. -/
theorem has_iff : has entries name = true ↔ ∃ e ∈ entries, e.1.same name = true := List.any_eq_true

namespace NamesApart

/-- No names are apart. -/
theorem nil : NamesApart [] := ⟨nofun, nofun, List.nodup_nil⟩

/-- Names that are apart are different, since names that are the same are written alike. -/
theorem wellNamed (h : NamesApart entries) : WellNamed entries :=
  ⟨h.proper, (List.pairwise_map.mp h.apart).imp fun hne hsame => hne (Name.shown_of_same hsame)⟩

/-- It is a matter of names alone. -/
theorem of_names (h : NamesApart entries) (hnames : names entries' = names entries) : NamesApart entries' := by
  have hshown : (names entries').map Name.shown = (names entries).map Name.shown := by rw [hnames]
  rw [names, names, List.map_map, List.map_map] at hshown
  have hkept : ∀ e ∈ entries', ∃ e' ∈ entries, e'.1 = e.1 := fun e he =>
    List.mem_map.mp (hnames ▸ List.mem_map_of_mem he : e.1 ∈ names entries)
  refine ⟨fun e he => ?_, fun e he => ?_, hshown ▸ h.apart⟩
  · obtain ⟨e', he', hname⟩ := hkept e he
    exact hname ▸ h.proper e' he'
  · obtain ⟨e', he', hname⟩ := hkept e he
    exact hname ▸ h.short e' he'

/-- Among names that are apart, those written like one that may be set are the same.  So setting it meets at most one
of them. -/
theorem same_iff (h : NamesApart entries) (hname : name.Proper) (hclash : clash? entries name = none)
    {e : Name × Value} (he : e ∈ entries) : e.1.same name = true ↔ e.1.shown = name.shown := by
  rw [Name.shown_eq_iff (h.proper e he) hname, clash?_eq_none.mp hclash e he, or_iff_left Bool.false_ne_true]

/-- No two names are written alike, so an entry is known from how its name is written. -/
theorem eq_of_shown (h : NamesApart entries) {e e' : Name × Value} (he : e ∈ entries) (he' : e' ∈ entries)
    (hshown : e.1.shown = e'.1.shown) : e = e' := List.inj_on_of_nodup_map h.apart he he' hshown

/-- A name that is set may be set again. -/
theorem clash?_of_same (h : NamesApart entries) (hname : name.Proper) {e : Name × Value} (he : e ∈ entries)
    (hsame : e.1.same name = true) : clash? entries name = none := by
  refine clash?_eq_none.mpr fun e' he' => Bool.eq_false_iff.mpr fun halike => ?_
  have hshown : e'.1.shown = name.shown := (Name.shown_eq_iff (h.proper e' he') hname).mpr (Or.inr halike)
  obtain rfl := h.eq_of_shown he he' ((Name.shown_of_same hsame).trans hshown.symm)
  exact absurd halike (by rw [Name.not_alike_of_same hsame]; exact Bool.false_ne_true)

/-- No other name is the same as one that is set, neither in front of it nor behind it. -/
theorem others (h : NamesApart entries) {before after : Entries} {e : Name × Value}
    (hentries : entries = before ++ e :: after) (hsame : e.1.same name = true) :
    (∀ x ∈ before, x.1.same name = false) ∧ ∀ x ∈ after, x.1.same name = false := by
  have hnodup := h.apart
  rw [hentries, List.map_append, List.map_cons, List.nodup_middle, List.nodup_cons, ← List.map_append] at hnodup
  rw [← List.forall_mem_append]
  intro x hx
  refine Bool.eq_false_iff.mpr fun hxsame => hnodup.1 (List.mem_map.mpr ⟨x, hx, ?_⟩)
  rw [Name.shown_of_same hxsame, Name.shown_of_same hsame]

/-- **Setting a name that is set** changes its value and nothing else. -/
theorem put_of_same (h : NamesApart entries) {before after : Entries} {e : Name × Value}
    (hentries : entries = before ++ e :: after) (hsame : e.1.same name = true) (v : Value) :
    put entries name v = before ++ (e.1, v) :: after := by
  obtain ⟨hbefore, hafter⟩ := h.others hentries hsame
  have hhas : has entries name = true :=
    has_iff.mpr ⟨e, hentries ▸ List.mem_append_right _ List.mem_cons_self, hsame⟩
  have hkeep : ∀ xs : Entries, (∀ x ∈ xs, x.1.same name = false) →
      xs.map (fun x => if x.1.same name then (x.1, v) else x) = xs := by
    intro xs hxs
    refine (List.map_congr_left fun x hx => ?_).trans (List.map_id xs)
    rw [hxs x hx]
    rfl
  rw [put, if_pos hhas, hentries, List.map_append, List.map_cons, if_pos hsame, hkeep before hbefore,
    hkeep after hafter]

/-- Every name that is set is found. -/
theorem lookupName_of_same (h : NamesApart entries) {e : Name × Value} (he : e ∈ entries)
    (hsame : e.1.same name = true) : lookupName entries name = some e.2 := by
  have hsome : (entries.find? fun x => x.1.same name).isSome = true := List.find?_isSome.mpr ⟨e, he, hsame⟩
  obtain ⟨found, hfound⟩ := Option.isSome_iff_exists.mp hsome
  have hfoundSame : found.1.same name = true := by simpa using List.find?_some hfound
  obtain rfl := h.eq_of_shown he (List.mem_of_find?_eq_some hfound)
    ((Name.shown_of_same hsame).trans (Name.shown_of_same hfoundSame).symm)
  rw [lookupName, hfound]
  rfl

end NamesApart

/-! ## Operations keep names apart -/

/-- Setting a name that is set changes no name, not even the spelling of this one. -/
theorem names_put_of_has (hhas : has entries name = true) (v : Value) :
    names (put entries name v) = names entries := by
  rw [put, if_pos hhas, names, names, List.map_map]
  refine List.map_congr_left fun e _ => ?_
  show (if e.1.same name then (e.1, v) else e).1 = e.1
  split <;> rfl

/-- Setting a name that is not set puts it behind all others. -/
theorem put_of_lacks (hhas : has entries name = false) (v : Value) :
    put entries name v = entries ++ [(name, v)] := by
  rw [put, hhas]
  rfl

namespace NamesApart

/-- A name that may be set and is not set goes behind all others. -/
theorem append (h : NamesApart entries) (hname : name.Proper) (hshort : name.isShort = true)
    (hclash : clash? entries name = none) (habsent : has entries name = false) (v : Value) :
    NamesApart (entries ++ [(name, v)]) := by
  refine ⟨List.forall_mem_append.mpr ⟨h.proper, List.forall_mem_singleton.mpr hname⟩,
    List.forall_mem_append.mpr ⟨h.short, List.forall_mem_singleton.mpr hshort⟩, ?_⟩
  rw [List.map_append, List.nodup_append]
  refine ⟨h.apart, List.nodup_singleton _, fun shown hshown shown' hshown' heq => ?_⟩
  obtain ⟨e, he, rfl⟩ := List.mem_map.mp hshown
  obtain rfl := List.mem_singleton.mp hshown'
  exact not_same_of_has habsent e he ((h.same_iff hname hclash he).mpr heq)

/-- **Setting a name** that may be set: in its own place, or behind all others. -/
theorem put (h : NamesApart entries) (hname : name.Proper) (hshort : name.isShort = true)
    (hclash : clash? entries name = none) (v : Value) : NamesApart (put entries name v) := by
  cases hhas : has entries name with
  | true => exact h.of_names (names_put_of_has hhas v)
  | false =>
    rw [put_of_lacks hhas]
    exact h.append hname hshort hclash hhas v

/-- **Taking a name away** leaves some of the names, in order. -/
theorem erase (h : NamesApart entries) (name : Name) : NamesApart (erase entries name) :=
  ⟨fun e he => h.proper e (List.mem_of_mem_filter he), fun e he => h.short e (List.mem_of_mem_filter he),
    h.apart.sublist (List.filter_sublist.map _)⟩

/-- Assigning keeps names apart, for the check has let the name through. -/
theorem assign {key new : Value} (h : NamesApart entries)
    (hrun : assign entries key new settings = .ok entries') : NamesApart entries' := by
  obtain ⟨name, hname, rfl⟩ := of_assign hrun
  obtain ⟨_, hshort, hclash⟩ := checkName_eq_ok.mp hname
  exact h.put (proper_of_checkName hname) hshort hclash new

/-- Removing a name keeps names apart, as fewer names are left. -/
theorem remove {key : Value} (h : NamesApart entries) (hrun : remove entries key settings = .ok entries') :
    NamesApart entries' := by
  obtain ⟨name, rfl⟩ := of_remove hrun
  exact h.erase name

/-- Adding a pair to a datamap that is being made keeps names apart: the name was looked for before it was added. -/
theorem addPair {key v : Value} (h : NamesApart entries)
    (hrun : addPair entries key v settings = .ok entries') : NamesApart entries' := by
  obtain ⟨name, hname, habsent, rfl⟩ := of_addPair hrun
  obtain ⟨_, hshort, hclash⟩ := checkName_eq_ok.mp hname
  exact h.append (proper_of_checkName hname) hshort hclash habsent v.clone

/-- **A datamap made of names and values** has its names apart, by induction on the pairs. -/
theorem ofList {args : List Value} {tag : Tag} (hrun : ofList args settings = .ok (.datamap tag entries)) :
    NamesApart entries :=
  addPairs_keeps addPair args nil (of_ofList hrun)

end NamesApart

end Datamap

end StoryValues
