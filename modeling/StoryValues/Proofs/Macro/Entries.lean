import StoryValues.Proofs.Collection.Pairs
import StoryValues.Proofs.Macro.InTurn
import StoryValues.Proofs.Value.Sorted

/-
  ALTERING A DATAMAP GOES ENTRY BY ENTRY, in natural order of the names, and stops at the first that fails.

  The lambda is applied to a datamap of a name and its value, and what it makes of it goes under the name.  What
  becomes of one item of a loop is known (`Lambda.Tried`); three things are new.

  1. **The item** (`entryItem`) — each entry becomes a datamap with a `name` and a `value`, in which the data get tags.
     Where the value is a dataset that cannot be gone through, none is made.
  2. **What is kept** (`Kept`) — what a transform makes of an entry must not be unstorable, nor hold anything directly
     that is.
  3. **Setting in place** (`foldl_replaceEntry`) — the entries are visited in another order than the one in which they
     are stored.  Each goes under a name that is there, so the names stay as they are, and no entry disturbs another,
     since their names are apart.

  A step is `EntryTried`, steps are chained by `EntriesInTurn`, and the loop does as they say (`alterEntries_gives`,
  `alterEntries_stops`).
-/

namespace StoryValues

/-! ## Setting names that are there -/

namespace Datamap

variable {entries current : Entries}

/-- What becomes of entries when there is something new for one of them, or nothing. -/
def replaceEntry (current : Entries) (p : (Name × Value) × Option Value) : Entries :=
  match p.2 with
  | some v => put current p.1.1 v
  | none => current

/-- Giving an entry another value leaves the names. -/
theorem names_replaceEntry (h : NamesApart current) {p : (Name × Value) × Option Value} (hp : p.1 ∈ current) :
    names (replaceEntry current p) = names current := by
  unfold replaceEntry
  cases p.2 with
  | none => rfl
  | some v => exact names_put_of_has (has_iff.mpr ⟨p.1, hp, Name.same_refl (h.proper p.1 hp)⟩) v

/-- Once an entry has been replaced, its name has the new value, or the old one where it was passed over. -/
theorem mem_replaceEntry (h : NamesApart current) {p : (Name × Value) × Option Value} (hp : p.1 ∈ current) :
    (p.1.1, p.2.getD p.1.2) ∈ replaceEntry current p := by
  unfold replaceEntry
  cases p.2 with
  | none => exact hp
  | some v =>
    obtain ⟨before, after, hentries⟩ := List.append_of_mem hp
    dsimp only
    rw [h.put_of_same hentries (Name.same_refl (h.proper p.1 hp)) v]
    exact List.mem_append_right _ List.mem_cons_self

/-- Replacing an entry leaves the values of all other names. -/
theorem mem_replaceEntry_of_ne (h : NamesApart current) {p : (Name × Value) × Option Value} (hp : p.1 ∈ current)
    {e : Name × Value} (he : e ∈ current) (hne : p.1.1.shown ≠ e.1.shown) : e ∈ replaceEntry current p := by
  unfold replaceEntry
  cases p.2 with
  | none => exact he
  | some v =>
    obtain ⟨before, after, hentries⟩ := List.append_of_mem hp
    dsimp only
    rw [h.put_of_same hentries (Name.same_refl (h.proper p.1 hp)) v]
    rw [hentries] at he
    rcases List.mem_append.mp he with hbefore | hrest
    · exact List.mem_append_left _ hbefore
    · rcases List.mem_cons.mp hrest with rfl | hafter
      · exact absurd rfl hne
      · exact List.mem_append_right _ (List.mem_cons_of_mem _ hafter)

/-- **Entries replaced one after another**, by induction on them: the names stay as they are, each entry has what is
new for it or what it had, and what none of them is about is as it was. -/
theorem foldl_replaceEntry (ps : List ((Name × Value) × Option Value)) {current : Entries} (h : NamesApart current)
    (hmem : ∀ p ∈ ps, p.1 ∈ current) (hdiffer : ps.Pairwise fun p q => p.1.1.shown ≠ q.1.1.shown) :
    names (ps.foldl replaceEntry current) = names current ∧
    (∀ p ∈ ps, (p.1.1, p.2.getD p.1.2) ∈ ps.foldl replaceEntry current) ∧
    ∀ e ∈ current, (∀ p ∈ ps, p.1.1.shown ≠ e.1.shown) → e ∈ ps.foldl replaceEntry current := by
  induction ps generalizing current with
  | nil => exact ⟨rfl, nofun, fun e he _ => he⟩
  | cons p ps ih =>
    obtain ⟨hp, hps⟩ := List.forall_mem_cons.mp hmem
    obtain ⟨hfirst, hrest⟩ := List.pairwise_cons.mp hdiffer
    have hnames := names_replaceEntry h hp
    have hstay : ∀ q ∈ ps, q.1 ∈ replaceEntry current p :=
      fun q hq => mem_replaceEntry_of_ne h hp (hps q hq) (hfirst q hq)
    obtain ⟨ihnames, ihnew, ihkept⟩ := ih (h.of_names hnames) hstay hrest
    refine ⟨ihnames.trans hnames, List.forall_mem_cons.mpr ⟨?_, ihnew⟩, fun e he hne => ?_⟩
    · exact ihkept _ (mem_replaceEntry h hp) fun q hq => (hfirst q hq).symm
    · obtain ⟨hnep, hneps⟩ := List.forall_mem_cons.mp hne
      exact ihkept e (mem_replaceEntry_of_ne h hp he hnep) hneps

end Datamap

namespace StandardMacro

open Lambda

variable {σ : Type} {settings : Settings} {host : Host σ} {w w' w₁ w₂ : World σ} {l : Lambda} {text : String}
  {e : Name × Value} {pos : Nat} {failure : Failure} {outcome : Option Value}

/-! ## The item of an entry -/

/-- An entry as a datamap of its name and its value. -/
def entryMap (e : Name × Value) : Value :=
  .datamap none [(.text "name", .ofName e.1), (.text "value", e.2.clone)]

/-- The item that a lambda is applied to for an entry, in a world. -/
def entryItem (e : Name × Value) (w : World σ) : Value := ((entryMap e).adopt w.fresh).1

/-- The world once the data in the item of an entry have tags. -/
def numbered (e : Name × Value) (w : World σ) : World σ := { w with fresh := ((entryMap e).adopt w.fresh).2 }

/-- The item is a copy of the entry. -/
theorem entryItem_copyOf (e : Name × Value) (w : World σ) : (entryItem e w).CopyOf (entryMap e) := ⟨w.fresh, rfl⟩

/-- Making the item of an entry uses up numbers for tags, and nothing else. -/
theorem continues_numbered (e : Name × Value) (w : World σ) : w.Continues (numbered e w) :=
  ⟨⟨rfl, fun _ _ h => h⟩, rfl, rfl⟩

/-- A name goes first, as a value. -/
theorem addPair_name (name : Name) :
    Datamap.addPair [] (.string "name") (.ofName name) settings = .ok [(.text "name", .ofName name)] := by
  cases name <;> rfl

/-- A value goes behind it if it can be kept, which has to be possible to find out. -/
theorem addPair_value (settings : Settings) (hvalue : e.2.Keepable) :
    (e.2.unstorable? = .ok none ∧
      Datamap.addPair [(.text "name", .ofName e.1)] (.string "value") e.2 settings =
        .ok [(.text "name", .ofName e.1), (.text "value", e.2.clone)]) ∨
    ∃ fault, e.2.unstorable? = .error fault ∧
      Datamap.addPair [(.text "name", .ofName e.1)] (.string "value") e.2 settings = .error (.fault fault) := by
  have hfree : (Value.array [.string "value", e.2]).ErrorFree :=
    .array (List.forall_mem_cons.mpr ⟨.other nofun nofun, List.forall_mem_singleton.mpr hvalue.1⟩)
  have hguard : Value.guardErrors [.string "value", e.2] settings = .ok () := Value.guardError_of_errorFree hfree
  rw [Datamap.addPair, Check.bind_of_ok hguard]
  cases hsearch : e.2.unstorable? with
  | error fault => exact Or.inr ⟨fault, rfl, rfl⟩
  | ok found =>
    obtain rfl := (Value.keepable_iff_of_unstorable? hvalue.1 hsearch).mp hvalue
    exact Or.inl ⟨rfl, rfl⟩

/-- **The datamap of an entry** whose value can be kept is made, unless the value is a dataset that cannot be gone
through. -/
theorem ofList_entry (settings : Settings) (hvalue : e.2.Keepable) :
    (e.2.unstorable? = .ok none ∧
      Datamap.ofList [.string "name", .ofName e.1, .string "value", e.2] settings = .ok (entryMap e)) ∨
    ∃ fault, e.2.unstorable? = .error fault ∧
      Datamap.ofList [.string "name", .ofName e.1, .string "value", e.2] settings = .error (.fault fault) := by
  have hmade : Datamap.ofList [.string "name", .ofName e.1, .string "value", e.2] settings =
      (Datamap.addPair [(.text "name", .ofName e.1)] (.string "value") e.2 settings).map (.datamap none) := by
    refine (Datamap.ofList_inTurn [(.string "name", .ofName e.1), (.string "value", e.2)]).trans (congrArg _ ?_)
    refine (Check.bind_of_ok (addPair_name e.1)).trans ?_
    exact congrFun (bind_pure (Datamap.addPair [(.text "name", .ofName e.1)] (.string "value") e.2)) settings
  rw [hmade]
  rcases addPair_value settings hvalue with ⟨hsearch, hadd⟩ | ⟨fault, hsearch, hadd⟩
  · rw [hadd]
    exact Or.inl ⟨hsearch, rfl⟩
  · rw [hadd]
    exact Or.inr ⟨fault, hsearch, rfl⟩

/-- The item of an entry is made accordingly. -/
theorem entryValue_cases (settings : Settings) (hvalue : e.2.Keepable) (w : World σ) :
    (e.2.unstorable? = .ok none ∧ entryValue e.1 e.2 settings w = (.ok (entryItem e w), numbered e w)) ∨
    ∃ fault, e.2.unstorable? = .error fault ∧ entryValue e.1 e.2 settings w = (.error (.fault fault), w) := by
  rcases ofList_entry settings hvalue with ⟨hsearch, hmade⟩ | ⟨fault, hsearch, hmade⟩
  · have houtcome : Run.outcome (liftM (Datamap.ofList [.string "name", .ofName e.1, .string "value", e.2]))
        settings w = (.ok (entryMap e), w) := Run.outcome_of_ok (Run.check_eq_ok.mpr ⟨rfl, hmade⟩)
    exact Or.inl ⟨hsearch, Run.bind_of_ok houtcome⟩
  · have hrun : (liftM (Datamap.ofList [.string "name", .ofName e.1, .string "value", e.2]) : Run σ Value)
        settings w = (.error (.fault fault), w) := Prod.ext hmade rfl
    exact Or.inr ⟨fault, hsearch, Run.bind_of_error (Run.outcome_of_fault hrun)⟩

/-! ## One entry -/

/-- **What is kept** of what becomes of an item: a failure stays one, and nothing stays nothing; a value is to be one
that can be kept, which has to be possible to find out. -/
inductive Kept (settings : Settings) : Except Failure (Option Value) → Except Failure (Option Value) → Prop
  | failure {e : Failure} : Kept settings (.error e) (.error e)
  | nothing : Kept settings (.ok none) (.ok none)
  | value {v : Value} : v.unstorable? = .ok none → Kept settings (.ok (some v)) (.ok (some v))
  | unstorable {v bad : Value} {text : String} {e : Failure} : v.unstorable? = .ok (some bad) →
      bad.objectName = .ok text →
      (Check.fail "operation" s!"{text} can't be stored in a datamap." : Check Unit) settings = .error e →
      Kept settings (.ok (some v)) (.error e)
  | unsearchable {v : Value} {fault : Fault} : v.unstorable? = .error fault →
      Kept settings (.ok (some v)) (.error (.fault fault))

/-- **What becomes of an entry** at its rank, in a world that the loop has come to, and the world after it: what is
kept of what becomes of its item, if that is made. -/
inductive EntryTried (host : Host σ) (settings : Settings) (l : Lambda) (w : World σ) (e : Name × Value)
    (pos : Nat) : Except Failure (Option Value) → World σ → Prop
  | unmade {fault : Fault} : e.2.unstorable? = .error fault →
      EntryTried host settings l w e pos (.error (.fault fault)) w
  | made {outcome kept : Except Failure (Option Value)} {w' : World σ} : e.2.unstorable? = .ok none →
      Tried host settings l l.via (numbered e w) (entryItem e w) pos outcome w' → Kept settings outcome kept →
      EntryTried host settings l w e pos kept w'

/-- Something is kept of every outcome. -/
theorem exists_kept (settings : Settings) (outcome : Except Failure (Option Value)) :
    ∃ kept, Kept settings outcome kept := by
  cases outcome with
  | error e => exact ⟨_, .failure⟩
  | ok result =>
    cases result with
    | none => exact ⟨_, .nothing⟩
    | some v =>
      cases hsearch : v.unstorable? with
      | error fault => exact ⟨_, .unsearchable hsearch⟩
      | ok found =>
        cases found with
        | none => exact ⟨_, .value hsearch⟩
        | some bad =>
          obtain ⟨text, htext⟩ := Value.exists_objectName_of_unstorable? hsearch
          cases hfail : (Check.fail "operation" s!"{text} can't be stored in a datamap." : Check Unit) settings with
          | ok u => exact absurd hfail Check.fail_ne_ok
          | error e => exact ⟨_, .unstorable hsearch htext hfail⟩

/-- **Something becomes of every entry** whose value can be kept: its item is made or not, something becomes of the
item, and something is kept of that. -/
theorem exists_entryTried (host : Host σ) (settings : Settings) (l : Lambda) (w : World σ) (hvalue : e.2.Keepable)
    (pos : Nat) : ∃ kept w', EntryTried host settings l w e pos kept w' := by
  rcases entryValue_cases settings hvalue w with ⟨hsearch, _⟩ | ⟨fault, hsearch, _⟩
  · obtain ⟨outcome, w', htried⟩ := exists_tried host settings l l.via (numbered e w) (entryItem e w) pos
    obtain ⟨kept, hkept⟩ := exists_kept settings outcome
    exact ⟨kept, w', .made hsearch htried hkept⟩
  · exact ⟨_, _, .unmade hsearch⟩

/-- The next entry is visited where this one was, whatever has become of this one. -/
theorem EntryTried.continues (hhost : host.Still settings) {kept : Except Failure (Option Value)}
    (h : EntryTried host settings l w e pos kept w') : w.Continues w' := by
  cases h with
  | unmade _ => exact .refl w
  | made _ htried _ => exact (continues_numbered e w).trans (htried.continues hhost)

/-- What a transform makes of an item is free of errors. -/
theorem errorFree_of_tried {item v : Value} (hvia : l.via = some text)
    (h : Tried host settings l l.via w item pos (.ok (some v)) w') : v.ErrorFree := by
  cases h with
  | accepted _ _ htransform =>
    cases htransform with
    | absent hnone => exact nomatch hvia.symm.trans hnone
    | gives _ _ hfree _ => exact hfree

/-- **What an entry gets can be kept**: it is no error and holds none in arrays, and neither it nor anything that it
directly holds is unstorable. -/
theorem EntryTried.keepable (hvia : l.via = some text) {v : Value}
    (h : EntryTried host settings l w e pos (.ok (some v)) w') : v.Keepable := by
  cases h with
  | made _ htried hkept =>
    cases hkept with
    | value hsearch => exact (Value.keepable_iff_of_unstorable? (errorFree_of_tried hvia htried) hsearch).mpr rfl

/-! ## The loop -/

variable {current : Datamap.Entries}

/-- What the loop does with what became of the item of an entry, and with the entries behind it. -/
def goOn (host : Host σ) (l : Lambda) (current : Datamap.Entries) (name : Name) (pos : Nat)
    (rest : List (Name × Value)) : Option Value → Run σ Datamap.Entries
  | none => alterEntries host l current (pos + 1) rest
  | some v => do
    if let some bad ← v.unstorable? then
      Check.fail (α := Unit) "operation" s!"{← bad.objectName} can't be stored in a datamap."
    alterEntries host l (Datamap.put current name v) (pos + 1) rest

/-- One turn of the loop, at an item that fails: the loop ends with the same failure and leaves the rest alone. -/
theorem alterEntries_of_error {item : Value} (hmade : entryValue e.1 e.2 settings w = (.ok item, w₁)) (hl : l.Loops)
    (hvia : l.via = some text) (h : Tried host settings l l.via w₁ item pos (.error failure) w₂)
    (rest : List (Name × Value)) : alterEntries host l current pos (e :: rest) settings w = (.error failure, w₂) :=
  (Run.bind_of_ok hmade).trans (Run.bind_of_error (applyOrStop_alterCall hl hvia h))

/-- One turn of the loop, at an item that does not fail: the entry gets what was made of it, and the loop goes on
behind it. -/
theorem alterEntries_of_ok {item : Value} (hmade : entryValue e.1 e.2 settings w = (.ok item, w₁)) (hl : l.Loops)
    (hvia : l.via = some text) (h : Tried host settings l l.via w₁ item pos (.ok outcome) w₂)
    (rest : List (Name × Value)) :
    alterEntries host l current pos (e :: rest) settings w =
      goOn host l current e.1 pos rest outcome settings w₂ := by
  refine (Run.bind_of_ok hmade).trans ((Run.bind_of_ok (applyOrStop_alterCall hl hvia h)).trans ?_)
  cases houtcome : outcome with
  | none => rfl
  | some v =>
    cases v with
    | filtered => exact absurd houtcome (ne_filtered_of_tried hvia h)
    | _ => rfl

/-- **The loop stops at an entry that fails**, whatever stands behind it, and with what the entry fails with. -/
theorem alterEntries_stops (hvalue : e.2.Keepable) (hl : l.Loops) (hvia : l.via = some text)
    (h : EntryTried host settings l w e pos (.error failure) w') (rest : List (Name × Value)) :
    alterEntries host l current pos (e :: rest) settings w = (.error failure, w') := by
  rcases entryValue_cases settings hvalue w with ⟨hsearch, hmade⟩ | ⟨fault, hsearch, hmade⟩
  · cases h with
    | unmade hfault => exact nomatch hfault.symm.trans hsearch
    | made _ htried hkept =>
      cases hkept with
      | failure => exact alterEntries_of_error hmade hl hvia htried rest
      | @unstorable v bad text _ hbad htext hfail =>
        rw [alterEntries_of_ok hmade hl hvia htried, goOn, hbad]
        refine (Run.bind_of_ok (a := some bad) rfl).trans ?_
        dsimp only
        rw [htext]
        exact (Run.bind_of_ok (a := text) rfl).trans (Run.bind_of_error (Prod.ext hfail rfl))
      | unsearchable hfault =>
        rw [alterEntries_of_ok hmade hl hvia htried, goOn, hfault]
        rfl
  · cases h with
    | unmade hfault =>
      obtain rfl := Except.error.inj (hsearch.symm.trans hfault)
      exact Run.bind_of_error hmade
    | made hfound _ _ => exact nomatch hfound.symm.trans hsearch

/-- At an entry that does not fail the loop goes on behind it, with the entries that there are then. -/
theorem alterEntries_goesOn (hvalue : e.2.Keepable) (hl : l.Loops) (hvia : l.via = some text)
    (h : EntryTried host settings l w e pos (.ok outcome) w') (rest : List (Name × Value)) :
    alterEntries host l current pos (e :: rest) settings w =
      alterEntries host l (Datamap.replaceEntry current (e, outcome)) (pos + 1) rest settings w' := by
  rcases entryValue_cases settings hvalue w with ⟨_, hmade⟩ | ⟨fault, hsearch, _⟩
  · cases h with
    | made _ htried hkept =>
      cases hkept with
      | nothing => exact alterEntries_of_ok hmade hl hvia htried rest
      | value hfound =>
        rw [alterEntries_of_ok hmade hl hvia htried, goOn, hfound]
        rfl
  · cases h with
    | made hfound _ _ => exact nomatch hfound.symm.trans hsearch

/-! ## Entries in turn -/

variable {listed before : List (Name × Value)} {outcomes : List (Option Value)}

/-- **Entries in turn,** the first at a rank: none fails, and each is visited in the world that the one before has
left.  The outcomes are the values that the entries get, and nothing for those that keep theirs. -/
inductive EntriesInTurn (host : Host σ) (settings : Settings) (l : Lambda) :
    World σ → Nat → List (Name × Value) → List (Option Value) → World σ → Prop
  | nil {w : World σ} {pos : Nat} : EntriesInTurn host settings l w pos [] [] w
  | cons {w w₁ w₂ : World σ} {pos : Nat} {e : Name × Value} {listed : List (Name × Value)} {outcome : Option Value}
      {outcomes : List (Option Value)} : EntryTried host settings l w e pos (.ok outcome) w₁ →
      EntriesInTurn host settings l w₁ (pos + 1) listed outcomes w₂ →
      EntriesInTurn host settings l w pos (e :: listed) (outcome :: outcomes) w₂

/-- There is an outcome for each entry. -/
theorem EntriesInTurn.length_eq (h : EntriesInTurn host settings l w pos listed outcomes w') :
    outcomes.length = listed.length := by
  induction h with
  | nil => rfl
  | cons _ _ ih => exact congrArg (· + 1) ih

/-- All entries are visited on the frames of the first. -/
theorem EntriesInTurn.continues (hhost : host.Still settings)
    (h : EntriesInTurn host settings l w pos listed outcomes w') : w.Continues w' := by
  induction h with
  | nil => exact .refl _
  | cons htried _ ih => exact (htried.continues hhost).trans ih

/-- What entries get can be kept. -/
theorem EntriesInTurn.keepable (hvia : l.via = some text)
    (h : EntriesInTurn host settings l w pos listed outcomes w') : ∀ v, some v ∈ outcomes → v.Keepable := by
  induction h with
  | nil => exact nofun
  | cons htried _ ih =>
    intro v hv
    rcases List.mem_cons.mp hv with hfirst | hrest
    · exact (hfirst ▸ htried : EntryTried _ _ _ _ _ _ (.ok (some v)) _).keepable hvia
    · exact ih v hrest

/-- **The first entry that fails,** if there is one, stands behind entries of which none does. -/
theorem entriesInTurn_or_fails (host : Host σ) (settings : Settings) (l : Lambda) (listed : List (Name × Value))
    (hvalues : ∀ e ∈ listed, e.2.Keepable) (w : World σ) (pos : Nat) :
    (∃ outcomes w', EntriesInTurn host settings l w pos listed outcomes w') ∨
    ∃ before e later outcomes w₁ failure w₂, listed = before ++ e :: later ∧
      EntriesInTurn host settings l w pos before outcomes w₁ ∧
      EntryTried host settings l w₁ e (pos + before.length) (.error failure) w₂ := by
  induction listed generalizing w pos with
  | nil => exact Or.inl ⟨[], w, .nil⟩
  | cons e listed ih =>
    obtain ⟨hvalue, hvalues⟩ := List.forall_mem_cons.mp hvalues
    obtain ⟨kept, w₁, htried⟩ := exists_entryTried host settings l w hvalue pos
    cases kept with
    | error failure => exact Or.inr ⟨[], e, listed, [], w, failure, w₁, rfl, .nil, htried⟩
    | ok outcome =>
      rcases ih hvalues w₁ (pos + 1) with
        ⟨outcomes, w', hturn⟩ | ⟨before, bad, later, outcomes, w₂, failure, w₃, rfl, hturn, hfails⟩
      · exact Or.inl ⟨outcome :: outcomes, w', .cons htried hturn⟩
      · rw [Nat.add_assoc, Nat.add_comm 1] at hfails
        exact Or.inr ⟨e :: before, bad, later, outcome :: outcomes, w₂, failure, w₃, rfl, .cons htried hturn, hfails⟩

/-- If no entry fails, the loop replaces their values. -/
theorem alterEntries_gives (hl : l.Loops) (hvia : l.via = some text) (hvalues : ∀ e ∈ listed, e.2.Keepable)
    (hturn : EntriesInTurn host settings l w pos listed outcomes w') (current : Datamap.Entries) :
    alterEntries host l current pos listed settings w =
      (.ok ((listed.zip outcomes).foldl Datamap.replaceEntry current), w') := by
  induction hturn generalizing current with
  | nil => rfl
  | cons htried _ ih =>
    obtain ⟨hvalue, hvalues⟩ := List.forall_mem_cons.mp hvalues
    rw [alterEntries_goesOn hvalue hl hvia htried]
    exact ih hvalues _

/-- **The loop stops at the first entry that fails,** in the world in which this has failed, whatever stands behind. -/
theorem alterEntries_fails (hl : l.Loops) (hvia : l.via = some text) (hvalues : ∀ e ∈ before, e.2.Keepable)
    (hvalue : e.2.Keepable) (hturn : EntriesInTurn host settings l w pos before outcomes w₁)
    (hfails : EntryTried host settings l w₁ e (pos + before.length) (.error failure) w₂)
    (current : Datamap.Entries) (later : List (Name × Value)) :
    alterEntries host l current pos (before ++ e :: later) settings w = (.error failure, w₂) := by
  induction hturn generalizing current with
  | nil => exact alterEntries_stops hvalue hl hvia hfails later
  | cons htried _ ih =>
    obtain ⟨hfirst, hvalues⟩ := List.forall_mem_cons.mp hvalues
    rw [List.length_cons, ← Nat.add_assoc, Nat.add_right_comm] at hfails
    rw [List.cons_append, alterEntries_goesOn hfirst hl hvia htried]
    exact ih hvalues hfails _

/-! ## The macro -/

/-- **A datamap is altered entry by entry**, in a world, its entries being visited in an order.

* What is visited are copies of the entries, each with its rank for a place (`shows`).
* Either no entry fails, or one of them is the first.
* If none does, there is a new datamap with the same names in the same places; each has what the transform made of
  its entry, which can be kept, or its value, if the guard said no.
* If one is the first, its failure is what comes of the whole, whatever stands behind it.
* Where evaluating a text changes nothing, the frames are as they were, and all scopes that there were. -/
structure EntryByEntry (host : Host σ) (settings : Settings) (l : Lambda) (w : World σ) (entries : Datamap.Entries)
    (ordered : List (Name × Value)) : Prop where
  shows : ∀ (w : World σ) e pos, (entryItem e w).CopyOf (entryMap e) ∧
    Shows l (entryItem e w) pos (numbered e w) (entered l (entryItem e w) pos (numbered e w))
  either : (∃ outcomes w', EntriesInTurn host settings l w 1 ordered outcomes w') ∨
    ∃ before e later outcomes w₁ failure w₂, ordered = before ++ e :: later ∧
      EntriesInTurn host settings l w 1 before outcomes w₁ ∧
      EntryTried host settings l w₁ e (1 + before.length) (.error failure) w₂
  gives : ∀ {outcomes w'}, EntriesInTurn host settings l w 1 ordered outcomes w' → outcomes.length = ordered.length ∧
    (∀ v, some v ∈ outcomes → v.Keepable) ∧ (host.Still settings → w.Continues w') ∧
    ∃ altered, Datamap.names altered = Datamap.names entries ∧
      (∀ p ∈ ordered.zip outcomes, (p.1.1, p.2.getD p.1.2) ∈ altered) ∧
      ∀ tag, datamapAltered.perform host [.lambda l, .datamap tag entries] settings w =
        (.ok (.datamap none altered), w')
  stops : ∀ {before e later outcomes w₁ failure w₂}, ordered = before ++ e :: later →
    EntriesInTurn host settings l w 1 before outcomes w₁ →
    EntryTried host settings l w₁ e (1 + before.length) (.error failure) w₂ →
    (host.Still settings → w.Continues w₂) ∧
    ∀ tag, datamapAltered.perform host [.lambda l, .datamap tag entries] settings w = (.error failure, w₂)

variable {entries : Datamap.Entries}

/-- The macro puts the entries in order, and then goes through them. -/
theorem perform_datamapAltered {ordered : List (Name × Value)}
    (h : Value.sortOn (fun e => e.1.key) entries = .ok ordered) (tag : Tag) :
    datamapAltered.perform host [.lambda l, .datamap tag entries] settings w =
      (do return Value.datamap none (← alterEntries host l entries 1 ordered) : Run σ Value) settings w := by
  have hsort : (liftM (Value.sortOn (fun e => e.1.key) entries) : Run σ (List (Name × Value))) settings w =
      (.ok ordered, w) := by
    rw [h]
    rfl
  exact Run.bind_of_ok hsort

/-- **In natural order the datamap is altered entry by entry.**  The loop follows the entries in turn, and each is
replaced in the datamap as it stands then; since names differ, what comes of all of them is one replacement each. -/
theorem entryByEntry_of_ordered (hentries : Datamap.NamesApart entries) (hvalues : ∀ e ∈ entries, e.2.Keepable)
    (hl : l.Loops) (hvia : l.via = some text) {ordered : List (Name × Value)}
    (hordered : Value.sortOn (fun e => e.1.key) entries = .ok ordered) (w : World σ) :
    EntryByEntry host settings l w entries ordered := by
  have hperm : ordered.Perm entries := (Value.of_sortOn hordered).2
  have hkeepable : ∀ e ∈ ordered, e.2.Keepable := fun e he => hvalues e (hperm.mem_iff.mp he)
  -- names differ by their texts, so an entry is replaced for its own name only
  have hnodup : (ordered.map fun e => e.1.shown).Nodup := (hperm.map _).nodup_iff.mpr hentries.apart
  have hdiffer : ordered.Pairwise fun e e' => e.1.shown ≠ e'.1.shown := List.pairwise_map.mp hnodup
  refine ⟨fun w e pos => ⟨entryItem_copyOf e w, shows_entered _ _ _ _⟩,
    entriesInTurn_or_fails host settings l ordered hkeepable w 1, fun {outcomes w'} hturn => ?_, ?_⟩
  · have hzip : (ordered.zip outcomes).map Prod.fst = ordered := List.map_fst_zip hturn.length_eq.ge
    have hmem : ∀ p ∈ ordered.zip outcomes, p.1 ∈ entries := fun p hp => hperm.mem_iff.mp (List.of_mem_zip hp).1
    have hfirst : ((ordered.zip outcomes).map Prod.fst).Pairwise fun e e' => e.1.shown ≠ e'.1.shown :=
      hzip.symm ▸ hdiffer
    have hpairwise : (ordered.zip outcomes).Pairwise fun p q => p.1.1.shown ≠ q.1.1.shown :=
      hfirst.of_map Prod.fst fun _ _ hne => hne
    obtain ⟨hnames, hnew, _⟩ := Datamap.foldl_replaceEntry (ordered.zip outcomes) hentries hmem hpairwise
    refine ⟨hturn.length_eq, hturn.keepable hvia, hturn.continues, _, hnames, hnew, fun tag => ?_⟩
    rw [perform_datamapAltered hordered, map_run, alterEntries_gives hl hvia hkeepable hturn]
    rfl
  · rintro before e later outcomes w₁ failure w₂ rfl hturn hfails
    obtain ⟨hbefore, hrest⟩ := List.forall_mem_append.mp hkeepable
    refine ⟨fun hhost => (hturn.continues hhost).trans (hfails.continues hhost), fun tag => ?_⟩
    rw [perform_datamapAltered hordered, map_run,
      alterEntries_fails hl hvia hbefore (hrest e List.mem_cons_self) hturn hfails]
    rfl

/-- The standard library has the macro under its name. -/
theorem body_datamapAltered :
    (Registry.standard.get? "dm-altered").map Macro.body = some (.standard .datamapAltered) := by
  rw [Registry.standard_eq_listed]
  decide +kernel

/-- **A macro that alters a datamap changes values and nothing else,** and stops at the first entry that fails.  Let
the datamap be one that can come about, all values in which can be kept, and let the lambda be one that the macro
accepts.

* A call by name for which dispatch lets the lambda and the datamap through is the work of the macro on them.
* The names can be put in natural order iff each has a key.  If they cannot, that is what comes of the call, and
  nothing was done.
* In this order, entry by entry, the datamap is altered. -/
theorem datamapAltered_entry_by_entry (host : Host σ) (w : World σ) (hreachable : Datamap.Reachable entries)
    (hvalues : ∀ e ∈ entries, e.2.Keepable)
    (haccepted : Entry.accepts (.lambda l) Registry.alterer settings = .ok true) :
    (∃ entered, Registry.standard.get? "dm-altered" = some entered ∧ ∀ args tag w₁,
      Dispatch.arguments ⟨"dm-altered", entered.signature⟩ args settings w =
        (.ok [.lambda l, .datamap tag entries], w₁) →
      Registry.standard.call host "dm-altered" args settings w =
        (Run.outcome (datamapAltered.perform host [.lambda l, .datamap tag entries]) >>= Run.adopt) settings w₁) ∧
    ((∃ ordered, Value.sortOn (fun e => e.1.key) entries = .ok ordered) ↔ ∀ e ∈ entries, ∃ key, e.1.key = .ok key) ∧
    (∀ fault tag, Value.sortOn (fun e => e.1.key) entries = .error fault →
      datamapAltered.perform host [.lambda l, .datamap tag entries] settings w = (.error (.fault fault), w)) ∧
    ∀ ordered, Value.sortOn (fun e => e.1.key) entries = .ok ordered →
      ordered.Perm entries ∧ ordered.Pairwise (Value.Before fun e => e.1.key) ∧
        EntryByEntry host settings l w entries ordered := by
  obtain ⟨hl, text, hvia⟩ := loops_of_altered haccepted
  refine ⟨?_, ⟨fun ⟨_, h⟩ => (Value.of_sortOn h).1, fun h => ?_⟩, fun fault tag h => ?_, fun ordered hordered => ?_⟩
  · obtain ⟨entered, hget, hbody⟩ := Option.map_eq_some_iff.mp body_datamapAltered
    refine ⟨entered, hget, fun args tag w₁ hpassed => ?_⟩
    rw [Registry.call_of_passed hget hpassed host, hbody]
    rfl
  · obtain ⟨ordered, hordered, _⟩ := sortOn_perm h
    exact ⟨ordered, hordered⟩
  · -- the names are put in order before anything is tried
    have hsort : (liftM (Value.sortOn (fun e => e.1.key) entries) : Run σ (List (Name × Value))) settings w =
        (.error (.fault fault), w) := by
      rw [h]
      rfl
    exact Run.bind_of_error hsort
  · exact ⟨(Value.of_sortOn hordered).2, Value.before_sortOn hordered,
      entryByEntry_of_ordered hreachable.namesApart hvalues hl hvia hordered w⟩

theorem keepable_string (s : String) : (Value.string s).Keepable :=
  ⟨.other nofun nofun, rfl, fun _ hx => absurd hx List.not_mem_nil⟩

/-- A lambda without a named variable is entered with every item. -/
theorem enters_of_named?_eq_none (hnamed : l.named? = none) (item : Value) : Enters settings l item :=
  fun _ hv => nomatch hnamed.symm.trans hv

/-- A transform that asks for the rank of an item gives it. -/
theorem transformed_rank (l : Lambda) (item : Value) (n : Nat) (w : World Unit) :
    Transformed placing settings (some "pos") item (entered l item n w) (.ok (some (position n))) (entered l item n w) :=
  .gives rfl (evaluate_placing l item n w).2 (.other nofun nofun) nofun

/-- A lambda whose guard passes over the first entry, and that makes its rank of any other. -/
def toRanks : Lambda := ⟨none, none, some "pos > 1", none, some "pos", "", none⟩

/-- The names two and one, stored in this order: one, which is first in natural order, is passed over, and two gets
its rank. -/
theorem datamapAltered_twoThenOne :
    let settings : Settings := Settings.usual
    let w : World Unit := World.start [] ()
    let entries : Datamap.Entries := [(.number (.int 2), .string "b"), (.number (.int 1), .string "a")]
    Datamap.Reachable entries ∧ Entry.accepts (.lambda toRanks) Registry.alterer settings = .ok true ∧
      ∃ altered w', Datamap.names altered = [.number (.int 2), .number (.int 1)] ∧
        (.number (.int 1), .string "a") ∈ altered ∧ (.number (.int 2), .number (.int 2)) ∈ altered ∧
        w.Continues w' ∧ datamapAltered.perform placing [.lambda toRanks, .datamap none entries] settings w =
          (.ok (.datamap none altered), w') := by
  intro settings w entries
  have hreachable : Datamap.Reachable entries := by
    refine @Datamap.Reachable.create settings
      [.number (.int 2), .string "b", .number (.int 1), .string "a"] none entries ?_
    decide +kernel
  have hvalues : ∀ e ∈ entries, e.2.Keepable := by
    rintro e he
    rcases List.mem_pair.mp he with rfl | rfl
    · exact keepable_string "b"
    · exact keepable_string "a"
  have haccepted : Entry.accepts (.lambda toRanks) Registry.alterer settings = .ok true := rfl
  -- the entries are taken in natural order, and this turns them round
  have hordered : Value.sortOn (fun e => e.1.key) entries =
      .ok [(.number (.int 1), .string "a"), (.number (.int 2), .string "b")] :=
    Value.sortOn_swap (by decide +kernel)
  obtain ⟨-, -, -, halters⟩ := datamapAltered_entry_by_entry placing w hreachable hvalues haccepted
  obtain ⟨-, -, hentries⟩ := halters _ hordered
  have henters : ∀ item, Enters settings toRanks item := enters_of_named?_eq_none rfl
  -- the guard asks for a place after the first
  have hfirst : EntryTried placing settings toRanks w (.number (.int 1), .string "a") 1 (.ok none) _ :=
    .made rfl (.refused (henters _) (.answers rfl (evaluate_placing _ _ _ _).1)) .nothing
  have hsecond : ∀ w, EntryTried placing settings toRanks w (.number (.int 2), .string "b") 2
      (.ok (some (position 2))) _ := fun w =>
    .made rfl (.accepted (henters _) (.answers rfl (evaluate_placing _ _ _ _).1) (transformed_rank _ _ _ _)) (.value rfl)
  obtain ⟨-, -, hcontinues, altered, hnames, hnew, hperform⟩ := hentries.gives (.cons hfirst (.cons (hsecond _) .nil))
  exact ⟨hreachable, haccepted, altered, _, hnames, hnew _ List.mem_cons_self,
    hnew _ (List.mem_cons_of_mem _ List.mem_cons_self), hcontinues still_placing, hperform none⟩

/-- **A whole number beyond all doubles as a name stops the macro:** there is no datamap and no error of the story,
though the datamap can come about, its value can be kept, and the lambda fails for no entry. -/
theorem datamapAltered_largeName :
    let settings : Settings := Settings.usual
    let toRank : Lambda := ⟨none, none, none, none, some "pos", "", none⟩
    let large : Name × Value := (.number (.int (10 ^ 400)), .string "a")
    Datamap.Reachable [large] ∧ large.2.Keepable ∧
      Entry.accepts (.lambda toRank) Registry.alterer settings = .ok true ∧
      (∀ w : World Unit, ∃ w', EntryTried placing settings toRank w large 1 (.ok (some (position 1))) w') ∧
      ∀ w : World Unit, datamapAltered.perform placing [.lambda toRank, .datamap none [large]] settings w =
        (.error (.fault .integerTooLarge), w) := by
  intro settings toRank large
  have hreachable : Datamap.Reachable [large] := by
    refine @Datamap.Reachable.create settings [.number (.int (10 ^ 400)), .string "a"] none [large] ?_
    decide +kernel
  have hkey : large.1.key = .error .integerTooLarge := by
    decide +kernel
  have hsort : ∀ w : World Unit, (liftM (Value.sortOn (fun e => e.1.key) [large]) : Run Unit (List (Name × Value)))
      settings w = (.error (.fault .integerTooLarge), w) := by
    intro w
    rw [Value.sortOn, List.map_singleton, hkey]
    rfl
  refine ⟨hreachable, keepable_string "a", rfl, fun w => ?_, fun w => Run.bind_of_error (hsort w)⟩
  have htried : Tried placing settings toRank (some "pos") (numbered large w) (entryItem large w) 1
      (.ok (some (position 1))) _ :=
    .accepted (enters_of_named?_eq_none rfl _) (.absent rfl) (transformed_rank _ _ _ _)
  exact ⟨_, .made rfl htried (.value rfl)⟩

end StandardMacro

end StoryValues
