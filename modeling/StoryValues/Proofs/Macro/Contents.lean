import StoryValues.Error.Limit
import StoryValues.Macro.Call
import StoryValues.Proofs.Collection.Names
import StoryValues.Proofs.Collection.Reachable
import StoryValues.Proofs.Lambda.Results
import StoryValues.Proofs.Macro.Dispatch
import StoryValues.Proofs.Macro.Installed
import StoryValues.Proofs.Value.Sound

/-
  WHAT COLLECTIONS HOLD that the macros of the standard library give.

  Errors, typed variables and spread values are not to get inside arrays, datamaps and datasets
  (`Value.WellFilled`).  Values come there in three ways: from the arguments of a call, from inside an argument, and
  from the host, which evaluates the clauses of lambdas to whatever it likes.

  1. **From arguments:** dispatch lets no error through, and none of the macros that keep their arguments takes a
     value that cannot be stored (`MacroBody.takesHoldable`).
  2. **From inside an argument:** a part of a collection holds what that held.
  3. **From the host:** `altered` looks for errors only, and puts a typed variable into its array; `folded` hands on
     what its transform was evaluated to last, whatever is inside.  All other macros refuse what is not to be held, or
     hold nothing that was evaluated (`Registry.call_standard_filled`).
-/

namespace StoryValues

variable {σ : Type} {settings : Settings} {host : Host σ} {w w' : World σ}

open Run (Yields)

/-! ## What may be held -/

namespace Value

variable {v x : Value}

/-- A value that a collection may hold: no error, and nothing that cannot be stored. -/
def Holdable (v : Value) : Prop := (∀ e, v ≠ .error e) ∧ v.isUnstorable = false

/-- **A value that directly holds nothing but what may be held.** -/
def WellFilled (v : Value) : Prop := ∀ x ∈ v.contents, x.Holdable

/-- A value that is free of errors is none. -/
theorem ErrorFree.ne_error (h : v.ErrorFree) (e : StoryError) : v ≠ .error e := by
  rintro rfl
  cases h with
  | other herror _ => exact herror e rfl

/-- A value that holds nothing is well filled. -/
theorem wellFilled_of_contents (h : v.contents = []) : v.WellFilled := by
  rw [WellFilled, h]
  exact List.forall_mem_nil _

/-- A copy of what may be held may be held. -/
theorem Holdable.clone (h : v.Holdable) : v.clone.Holdable := by
  cases v with
  | error e => exact absurd rfl (h.1 e)
  | typedVar t => cases h.2
  | spread u => cases h.2
  | _ => exact ⟨nofun, rfl⟩

/-- Getting tags makes no error. -/
theorem ne_error_adopt (h : ∀ e, v ≠ .error e) (next : Nat) (e : StoryError) : (v.adopt next).1 ≠ .error e := by
  intro he
  cases v with
  | error e' => exact h e' rfl
  | _ => exact nomatch he

/-- What may be held may be so with tags. -/
theorem Holdable.adopt (h : v.Holdable) (next : Nat) : (v.adopt next).1.Holdable :=
  ⟨ne_error_adopt h.1 next, (isUnstorable_adopt v next).trans h.2⟩

/-- What holds of all that a value holds, whatever the tags, holds of it with tags.  The members get tags one after
another, each from the number where the one before stopped. -/
theorem forall_contents_adopt {P : Value → Prop} (h : ∀ x ∈ v.contents, ∀ k, P (x.adopt k).1) (next : Nat) :
    ∀ x ∈ (v.adopt next).1.contents, P x := by
  obtain ⟨next', hcontents⟩ := contents_adopt v next
  rw [hcontents]
  exact forall_mem_adoptAll h

/-- A value stays well filled when it gets tags. -/
theorem WellFilled.adopt (h : v.WellFilled) (next : Nat) : (v.adopt next).1.WellFilled :=
  forall_contents_adopt (fun x hx k => (h x hx).adopt k) next

/-- A value without errors in which nothing unstorable was found may be held.  What was searched goes deeper than what
is asked here. -/
theorem holdable_of_unstorable? (hfree : v.ErrorFree) (h : v.unstorable? = .ok none) : v.Holdable :=
  ⟨hfree.ne_error, ((keepable_iff_of_unstorable? hfree h).mpr rfl).2.1⟩

/-- A datamap holds the values of its entries. -/
theorem wellFilled_datamap {tag : Tag} {entries : Datamap.Entries} :
    WellFilled (.datamap tag entries) ↔ ∀ e ∈ entries, e.2.Holdable := by
  rw [WellFilled]
  exact List.forall_mem_map

/-- What passes the check for errors is free of them, value by value. -/
theorem yields_guardErrors (vs : List Value) :
    Check.Yields settings (guardErrors vs) fun _ => ∀ v ∈ vs, v.ErrorFree :=
  fun u h => errorFree_array.mp (yields_guardError (.array vs) u h)

end Value

open Value (Holdable WellFilled)

/-! ## Collections that are made and changed -/

namespace Datamap

variable {entries : Entries}

/-- What is added to a datamap may be held: the check for it is made before it is added. -/
theorem yields_addPair (hentries : ∀ e ∈ entries, e.2.Holdable) (key v : Value) :
    Check.Yields settings (addPair entries key v) fun entries' => ∀ e ∈ entries', e.2.Holdable := by
  refine (Value.yields_guardErrors [key, v]).bind fun _ hfree => (Check.Yields.any _).bind fun name _ => ?_
  split
  · exact .naming fun _ => .refuses .fail
  refine (Check.Yields.lift fun _ => id).bind fun found hfound => ?_
  cases found with
  | some bad => exact .naming fun _ => .fail
  | none =>
    have hv : v.Holdable := Value.holdable_of_unstorable? (hfree v (List.mem_pair.mpr (Or.inr rfl))) hfound
    exact .pure (List.forall_mem_append.mpr ⟨hentries, List.forall_mem_singleton.mpr hv.clone⟩)

/-- **A datamap is made of values that may be held.**  By induction on the pairs, each added to the entries so far. -/
theorem yields_ofList (args : List Value) : Check.Yields settings (ofList args) WellFilled := by
  have hpairs : Check.Yields settings (addPairs [] args) fun entries => ∀ e ∈ entries, e.2.Holdable := fun entries h =>
    addPairs_keeps (fun hentries => yields_addPair hentries _ _ _) args (List.forall_mem_nil _) h
  unfold ofList
  split
  · exact .naming fun _ => .refuses .failWith
  · exact hpairs.bind fun entries hentries => .pure (Value.wellFilled_datamap.mpr hentries)

/-- Setting a name to what may be held leaves the other entries as they are. -/
theorem holdable_put (hentries : ∀ e ∈ entries, e.2.Holdable) (name : Name) {v : Value} (hv : v.Holdable) :
    ∀ e ∈ put entries name v, e.2.Holdable := by
  unfold put
  split
  · intro e he
    obtain ⟨e', he', rfl⟩ := List.mem_map.mp he
    split
    · exact hv
    · exact hentries e' he'
  · exact List.forall_mem_append.mpr ⟨hentries, List.forall_mem_singleton.mpr hv⟩

end Datamap

namespace Dataset

/-- All members were there or are added.  Nothing else gets into a dataset. -/
theorem mem_of_addAll {members values result : List Value} (h : addAll members values = .ok result) :
    ∀ x ∈ result, x ∈ members ∨ x ∈ values := by
  induction values generalizing members with
  | nil =>
    obtain rfl := Except.ok.inj h
    exact fun x hx => Or.inl hx
  | cons v vs ih =>
    obtain ⟨more, hmore, h⟩ := ok_of_bind h
    obtain ⟨inside, _, hmore⟩ := ok_of_bind hmore
    have hsub : ∀ x ∈ more, x ∈ members ∨ x = v := by
      cases inside with
      | true =>
        obtain rfl := Except.ok.inj hmore
        exact fun x hx => Or.inl hx
      | false =>
        obtain rfl := Except.ok.inj hmore
        exact fun x hx => (List.mem_append.mp hx).imp_right List.mem_singleton.mp
    intro x hx
    rcases ih h x hx with hx | hx
    · exact (hsub x hx).imp_right fun (hxv : x = v) => hxv ▸ List.mem_cons_self
    · exact Or.inr (List.mem_cons_of_mem v hx)

/-- **A dataset holds copies of what it is made of.**  The code checks nothing here; that dispatch lets nothing
unstorable through is the hypothesis. -/
theorem yields_ofList {args : List Value} (hargs : ∀ x ∈ args, x.Holdable) :
    Check.Yields settings (ofList args) WellFilled := by
  refine (Check.Yields.any _).bind fun _ _ => (Check.Yields.any _).bind fun _ _ => ?_
  refine (Check.Yields.lift fun _ => mem_of_addAll).bind fun members hmembers => .pure fun x hx => ?_
  obtain ⟨y, hy, rfl⟩ := List.mem_map.mp ((hmembers x hx).resolve_left List.not_mem_nil)
  exact (hargs y hy).clone

end Dataset

/-- A part of a collection holds what that held. -/
theorem Sequence.yields_subset {v : Value} (hv : v.WellFilled) (a b : Int) :
    Check.Yields settings (subset v a b) WellFilled := by
  unfold subset
  split
  · exact .failWith
  · split
    · exact .pure (Value.wellFilled_of_contents rfl)
    · exact .pure fun x hx => hv x (List.mem_of_mem_take (List.mem_of_mem_drop hx))
    · exact .fault

/-! ## Each macro -/

namespace StandardMacro

variable {values : List Value}

/-- The macros whose collections are made of their arguments. -/
def keepsArguments : StandardMacro → Bool
  | .array | .dataset | .find | .altered | .sorted => true
  | _ => false

/-- Colours, texts and the like hold nothing, so a macro that makes one has nothing to show. -/
theorem yields_nothing {α : Type} {c : Check α} {form : α → Value} (hform : ∀ a, (form a).contents = []) :
    Check.Yields settings (do return form (← c)) WellFilled :=
  (Check.Yields.any c).bind fun a _ => .pure (Value.wellFilled_of_contents (hform a))

/-- A count is a number. -/
theorem yields_countIn (container : Value) (values : List Value) :
    Check.Yields settings (countIn container values) WellFilled := by
  unfold countIn
  split
  · split
    · exact .naming fun _ => .refuses .fail
    · exact yields_nothing fun _ => rfl
  · exact yields_nothing fun _ => rfl
  · exact .pure (Value.wellFilled_of_contents rfl)

/-- **What a macro computes** is filled with what may be held.  The macros are gone through: some keep their
arguments, some take parts of them, and most make what holds nothing. -/
theorem yields_compute (m : StandardMacro) (hfilled : ∀ x ∈ values, x.WellFilled)
    (hholdable : m.keepsArguments = true → ∀ x ∈ values, x.Holdable) :
    Check.Yields settings (compute m values) WellFilled := by
  unfold compute
  split
  · refine .pure fun x hx => ?_
    obtain ⟨y, hy, rfl⟩ := List.mem_map.mp hx
    exact (hholdable rfl y hy).clone
  · exact Datamap.yields_ofList _
  · exact Dataset.yields_ofList (hholdable rfl)
  · exact yields_nothing fun _ => rfl
  · split
    · exact .pure (Value.wellFilled_of_contents rfl)
    · exact .naming fun _ => .fail
  · -- a range holds numbers
    refine (Check.Yields.any _).bind fun ns _ => .pure fun x hx => ?_
    obtain ⟨n, _, rfl⟩ := List.mem_map.mp hx
    exact ⟨nofun, rfl⟩
  · exact Sequence.yields_subset (hfilled _ List.mem_cons_self) _ _
  · exact Sequence.yields_subset (hfilled _ List.mem_cons_self) _ _
  · exact yields_countIn _ _
  · exact .pure (Value.wellFilled_of_contents rfl)
  · exact .pure (Value.wellFilled_of_contents rfl)
  · exact yields_nothing fun _ => rfl
  · exact yields_nothing fun _ => rfl
  · exact .refusing .fail (yields_nothing fun _ => rfl)
  · unfold Hooks.ofName
    dsimp only
    split
    · exact .pure (Value.wellFilled_of_contents rfl)
    · exact .fail
  · split
    · exact .fail
    · exact .fail
  · exact .fault

/-- Sorting moves values, so what is given holds those that were sorted. -/
theorem yields_sortByKeys (hvalues : ∀ x ∈ values, x.Holdable) (keys : List Value) :
    Check.Yields settings (sortByKeys values keys) WellFilled := by
  have hsorted : Check.Yields settings (do
      let ordered ← Value.sortOn (fun pair => Value.naturalKey pair.1) (keys.zip values)
      return .array (ordered.map Prod.snd) : Check Value) WellFilled := by
    refine (Check.Yields.lift fun _ => Value.of_sortOn).bind fun ordered hordered => .pure fun x hx => ?_
    obtain ⟨pair, hpair, rfl⟩ := List.mem_map.mp hx
    exact hvalues _ (List.of_mem_zip (hordered.2.mem_iff.mp hpair)).2
  unfold sortByKeys
  split
  · exact .naming fun _ => .refuses .fail
  · exact hsorted

/-- So does sorting with a lambda, whose results are keys only. -/
theorem yields_sortValues (hvalues : ∀ x ∈ values, x.Holdable) :
    Yields settings (sortValues host values) WellFilled := by
  unfold sortValues
  split
  · rename_i l others
    have hothers := (List.forall_mem_cons.mp hvalues).2
    have hsorted : Yields settings (do sortByKeys others (← keysFrom host l 1 others) : Run σ Value) WellFilled :=
      (Yields.any _).bind fun keys _ => .check (yields_sortByKeys hothers keys)
    split
    · exact (Yields.check (P := fun _ => False) .fail).bind fun _ hfalse => hfalse.elim
    · exact hsorted
  · exact .check (yields_sortByKeys hvalues _)

section

variable {P : Value → Prop} {l : Lambda} (hvia : l.TransformsTo host settings P)
  (hadopt : ∀ v next, P v → P (v.adopt next).1) (htrue : P (.boolean true)) (hfiltered : P .filtered)
include hvia hadopt htrue hfiltered

/-- **What is altered** is left as it was, or evaluated; and it is no error.  By induction on the values.  Nothing
else is checked of what the host evaluates, which is why the property is left open. -/
theorem yields_alterFrom (hvalues : ∀ v ∈ values, P v ∧ ∀ e, v ≠ .error e) (pos : Nat) :
    Yields settings (alterFrom host l pos values) fun altered => ∀ v ∈ altered, P v ∧ ∀ e, v ≠ .error e := by
  induction values generalizing pos with
  | nil => exact .pure (List.forall_mem_nil _)
  | cons v vs ih =>
    obtain ⟨hv, hvs⟩ := List.forall_mem_cons.mp hvalues
    refine (Lambda.yields_applyOrStop hvia hadopt htrue hfiltered).bind fun altered haltered => ?_
    refine (ih hvs (pos + 1)).bind fun rest hrest => .pure ?_
    split
    · exact List.forall_mem_cons.mpr ⟨hv, hrest⟩
    · exact List.forall_mem_cons.mpr ⟨⟨haltered.1, haltered.2.ne_error⟩, hrest⟩

end

/-- **What is altered in a datamap** may be held, whatever was evaluated: here the code asks before it stores. -/
theorem yields_alterEntries (l : Lambda) (listed : List (Name × Value)) {entries : Datamap.Entries}
    (hentries : ∀ e ∈ entries, e.2.Holdable) (pos : Nat) :
    Yields settings (alterEntries host l entries pos listed) fun entries' => ∀ e ∈ entries', e.2.Holdable := by
  have hany : l.TransformsTo host settings fun _ => True := l.transformsTo_any
  induction listed generalizing entries pos with
  | nil => exact .pure hentries
  | cons e listed ih =>
    unfold alterEntries
    dsimp only
    refine (Yields.any _).bind fun entry _ => ?_
    refine (Lambda.yields_applyOrStop hany (fun _ _ h => h) trivial trivial).bind fun altered haltered => ?_
    split
    · exact ih hentries (pos + 1)
    · refine (Yields.check (Check.Yields.lift fun _ => id)).bind fun found hfound => ?_
      cases found with
      | none => exact ih (Datamap.holdable_put hentries e.1 (Value.holdable_of_unstorable? haltered.2 hfound)) (pos + 1)
      | some bad =>
        refine (Yields.any _).bind fun _ _ => ?_
        exact (Yields.check (P := fun _ => False) .fail).bind fun _ hfalse => hfalse.elim

/-- What a macro gives for arguments holds what may be held, or else the transform of its lambda was evaluated to
something else: to a value that cannot be stored, which `altered` has put into its array, or to a collection that
holds such a value or an error, which `folded` has handed on. -/
def Filled (host : Host σ) (settings : Settings) (m : StandardMacro) (args : List Value) (v : Value) : Prop :=
  v.WellFilled ∨ ∃ l values, args = .lambda l :: values ∧
    ((m = .altered ∧ (∀ x ∈ v.contents, ∀ e, x ≠ .error e) ∧
        ¬ l.TransformsTo host settings fun u => u.isUnstorable = false) ∨
      m = .folded ∧ ¬ l.TransformsTo host settings WellFilled)

/-- Altering gives an array of what was altered, or else the lambda is to blame: its transform was once evaluated to
what may not be held. -/
theorem yields_altered (l : Lambda) (hvalues : ∀ x ∈ values, x.Holdable) :
    Yields settings (do return .array (← alterFrom host l 1 values))
      (Filled host settings .altered (.lambda l :: values)) := by
  by_cases hvia : l.TransformsTo host settings fun u => u.isUnstorable = false
  · have haltered := yields_alterFrom hvia (fun v next hv => (Value.isUnstorable_adopt v next).trans hv) rfl rfl
      (fun v hv => ⟨(hvalues v hv).2, (hvalues v hv).1⟩) 1
    exact haltered.bind fun altered haltered => .pure (Or.inl fun x hx => (haltered x hx).symm)
  · have hany : l.TransformsTo host settings fun _ => True := l.transformsTo_any
    have haltered := yields_alterFrom hany (fun _ _ h => h) trivial trivial
      (fun v hv => ⟨trivial, (hvalues v hv).1⟩) 1
    refine haltered.bind fun altered haltered => .pure (Or.inr ⟨l, values, rfl, Or.inl ⟨rfl, fun x hx => ?_, hvia⟩⟩)
    exact (haltered x hx).2

/-- Folding gives an item or what was evaluated, with the same exception. -/
theorem yields_folded (l : Lambda) (hvalues : ∀ x ∈ values, x.WellFilled) :
    Yields settings (l.fold host values) (Filled host settings .folded (.lambda l :: values)) := by
  by_cases hvia : l.TransformsTo host settings WellFilled
  · refine (Lambda.yields_fold hvia (fun v next hv => hv.adopt next) ?_ ?_ hvalues).mono fun v hv => Or.inl hv
    · exact Value.wellFilled_of_contents rfl
    · exact Value.wellFilled_of_contents rfl
  · exact (Yields.any _).mono fun v _ => Or.inr ⟨l, values, rfl, Or.inr ⟨rfl, hvia⟩⟩

/-- Counting what passes gives a truth value. -/
theorem yields_passing (test : Nat → Nat → Bool) (l : Lambda) (values : List Value) :
    Yields settings (passing host test l values) WellFilled :=
  (Yields.any _).bind fun _ _ => .pure (Value.wellFilled_of_contents rfl)

/-- A pattern holds nothing. -/
theorem yields_buildPattern (name : String) (args : List Value) :
    Yields settings (Run.buildPattern name args : Run σ Value) WellFilled := by
  unfold Run.buildPattern
  split
  · exact .check .fault
  · refine (Yields.any _).bind fun made _ => ?_
    split
    · exact (Yields.any _).bind fun _ _ => .pure (Value.wellFilled_of_contents rfl)
    · exact (Yields.any _).bind fun _ _ => .check fun _ hrun => nomatch hrun

/-- **Each macro** gives a value that is filled with what may be held, up to what a transform was evaluated to. -/
theorem yields_perform (m : StandardMacro) (hfilled : ∀ x ∈ values, x.WellFilled)
    (hholdable : m.keepsArguments = true → ∀ x ∈ values, x.Holdable) :
    Yields settings (m.perform host values) (m.Filled host settings values) := by
  have hfull {m : StandardMacro} {args : List Value} {run : Run σ Value} (h : Yields settings run WellFilled) :
      Yields settings run (m.Filled host settings args) := h.mono fun v hv => Or.inl hv
  unfold perform
  split
  · have hvalues := (List.forall_mem_cons.mp (hholdable rfl)).2
    exact hfull ((Lambda.yields_filter _ none).bind fun kept hkept => .pure fun x hx => hvalues x (hkept x hx))
  · exact yields_altered _ (List.forall_mem_cons.mp (hholdable rfl)).2
  · rename_i l tag entries
    have hentries := Value.wellFilled_datamap.mp (hfilled _ (List.mem_pair.mpr (Or.inr rfl)))
    refine hfull ((Yields.any _).bind fun ordered _ => ?_)
    exact (yields_alterEntries l ordered hentries 1).bind fun entries' h => .pure (Value.wellFilled_datamap.mpr h)
  · exact hfull (yields_passing _ _ _)
  · exact hfull (yields_passing _ _ _)
  · exact hfull (yields_passing _ _ _)
  · exact yields_folded _ (List.forall_mem_cons.mp hfilled).2
  · exact hfull (yields_sortValues (hholdable rfl))
  · exact hfull (yields_buildPattern _ _)
  · exact hfull (.check (yields_compute _ hfilled hholdable))

end StandardMacro

/-! ## Calls -/

namespace Entry

/-- Entries that take lambdas. -/
def isLambda : Entry → Bool
  | .lambda _ => true
  | _ => false

/-- Entries that can be seen to take nothing unstorable. -/
def takesStorable : Entry → Bool
  | .any => true
  | .either options => options.all isLambda
  | e => e.isLambda

/-- What an entry for lambdas takes is a lambda, which can be stored. -/
theorem storable_of_isLambda {e : Entry} {v : Value} (he : e.isLambda = true) (h : e.Takes settings v) :
    v.isUnstorable = false := by
  cases h with
  | lambda hv _ => exact hv ▸ rfl
  | _ => cases he

/-- What such an entry takes can be stored.  By cases on the entry. -/
theorem storable_of_takes {e : Entry} {v : Value} (he : e.takesStorable = true) (h : e.Takes settings v) :
    v.isUnstorable = false := by
  cases h with
  | any h => exact h
  | either hmem h => exact storable_of_isLambda (List.all_eq_true.mp he _ hmem) h
  | lambda hv _ => exact hv ▸ rfl
  | _ => cases he

end Entry

namespace Signature

/-- Every value that fits a signature is taken by one of its entries, the one for its place. -/
theorem Fits.exists_takes {s : Signature} {values : List Value} (h : s.Fits settings values) :
    ∀ v ∈ values, ∃ e ∈ s.entries, e.Takes settings v := by
  intro v hv
  obtain ⟨i, hi⟩ := List.mem_iff_getElem?.mp hv
  obtain ⟨e, hasks, htakes⟩ := h.exists_asks hi
  exact ⟨e, hasks.mem_entries, htakes⟩

end Signature

namespace Dispatch

/-- An argument that holds nothing but what may be held; of a spread one this is asked of what it stands for. -/
def WellFilled (arg : Value) : Prop :=
  match arg with
  | .spread v => ∀ x ∈ v.contents, x.WellFilled
  | v => v.WellFilled

/-- What an argument stands for holds nothing else either.  Of something behind dots this is what `WellFilled` asks;
anything else stands for itself. -/
theorem yields_spreadOne {arg : Value} (h : WellFilled arg) :
    Check.Yields settings (spreadOne arg) fun values => ∀ x ∈ values, x.WellFilled := by
  have hone {x : Value} (hx : x.WellFilled) : ∀ y ∈ [x], y.WellFilled := List.forall_mem_singleton.mpr hx
  cases arg with
  | spread v =>
    dsimp only [spreadOne]
    split
    · exact .pure (hone (Value.wellFilled_of_contents rfl))
    · refine .pure fun x hx => ?_
      obtain ⟨c, _, rfl⟩ := List.mem_map.mp hx
      exact Value.wellFilled_of_contents rfl
    · exact .pure h
    · exact .lift fun ordered hordered x hx => h x ((Value.of_sortOn hordered).2.mem_iff.mp hx)
    · exact .pure (hone (Value.wellFilled_of_contents rfl))
    · refine .naming fun text => (Check.Yields.any _).bind fun text _ => (Check.Yields.any _).bind fun e _ => .pure ?_
      exact hone (Value.wellFilled_of_contents rfl)
  | _ => exact .pure (hone h)

/-- Nor does what all arguments stand for. -/
theorem yields_spreadArguments {args : List Value} (h : ∀ arg ∈ args, WellFilled arg) :
    Check.Yields settings (spreadArguments args) fun values => ∀ x ∈ values, x.WellFilled := by
  induction args with
  | nil => exact .pure (List.forall_mem_nil _)
  | cons arg args ih =>
    obtain ⟨harg, hargs⟩ := List.forall_mem_cons.mp h
    refine (yields_spreadOne harg).bind fun first hfirst => (ih hargs).bind fun others hothers => .pure ?_
    exact List.forall_mem_append.mpr ⟨hfirst, hothers⟩

/-- What dispatch lets through is free of errors and fits, and is what the arguments stand for. -/
theorem yields_arguments {c : Callee} {args : List Value} (h : ∀ arg ∈ args, WellFilled arg) :
    Yields settings (arguments c args : Run σ (List Value)) fun passed =>
      spreadArguments args settings = .ok passed ∧
        (∀ x ∈ passed, x.ErrorFree) ∧ c.signature.Fits settings passed ∧ ∀ x ∈ passed, x.WellFilled := by
  intro w passed w' hrun
  have hadmits := (arguments_ok hrun).1
  exact ⟨hadmits.spread, hadmits.passedErrorFree, hadmits.fits, yields_spreadArguments h passed hadmits.spread⟩

end Dispatch

namespace MacroBody

/-- The macros whose arguments get into collections take nothing unstorable, and none leaves its work to the host. -/
def takesHoldable (body : MacroBody) (s : Signature) : Bool :=
  match body with
  | .standard m => !m.keepsArguments || s.entries.all Entry.takesStorable
  | .hosted _ => false
  | .changer _ => true
  | .command _ check _ => check.isNone

/-- What a macro of the standard library gives, as `StandardMacro.Filled` says; the others give no collection. -/
def Filled (host : Host σ) (settings : Settings) (body : MacroBody) (args : List Value) (v : Value) : Prop :=
  v.WellFilled ∨ ∃ m, body = .standard m ∧ m.Filled host settings args v

/-- What is said of a result holds of it with tags. -/
theorem Filled.adopt {body : MacroBody} {args : List Value} {v : Value} (h : body.Filled host settings args v)
    (next : Nat) : body.Filled host settings args (v.adopt next).1 := by
  rcases h with h | ⟨m, hbody, h | ⟨l, values, hl, ⟨hm, hne, hvia⟩ | h⟩⟩
  · exact Or.inl (h.adopt next)
  · exact Or.inl (h.adopt next)
  · refine Or.inr ⟨m, hbody, Or.inr ⟨l, values, hl, Or.inl ⟨hm, ?_, hvia⟩⟩⟩
    exact Value.forall_contents_adopt (fun x hx k => Value.ne_error_adopt (hne x hx) k) next
  · exact Or.inr ⟨m, hbody, Or.inr ⟨l, values, hl, Or.inr h⟩⟩

/-- **What a macro gives for arguments that dispatch has let through.**  Those that keep their arguments have entries
which take nothing unstorable. -/
theorem yields_perform {body : MacroBody} {s : Signature} (hbody : body.takesHoldable s = true) {values : List Value}
    (hfree : ∀ x ∈ values, x.ErrorFree) (hfits : s.Fits settings values) (hfilled : ∀ x ∈ values, x.WellFilled) :
    Yields settings (body.perform host values) (body.Filled host settings values) := by
  cases body with
  | standard m =>
    refine (m.yields_perform hfilled fun hkeeps x hx => ?_).mono fun v hv => Or.inr ⟨m, rfl, hv⟩
    obtain ⟨e, he, htakes⟩ := hfits.exists_takes x hx
    have hall : s.entries.all Entry.takesStorable = true := by
      have hor : (!m.keepsArguments || s.entries.all Entry.takesStorable) = true := hbody
      rwa [hkeeps, Bool.not_true, Bool.false_or] at hor
    exact ⟨(hfree x hx).ne_error, Entry.storable_of_takes (List.all_eq_true.mp hall e he) htakes⟩
  | hosted code => cases hbody
  | changer name => exact .pure (Or.inl (Value.wellFilled_of_contents rfl))
  | command name check action =>
    cases check with
    | some code => cases hbody
    | none => exact .pure (Or.inl (Value.wellFilled_of_contents rfl))

end MacroBody

namespace Registry

/-- All macros of the standard library are so.  The list of them is evaluated. -/
theorem takesHoldable_standard : ∀ entry ∈ standard.macros, entry.2.body.takesHoldable entry.2.signature = true := by
  rw [standard_eq_listed]
  exact List.all_eq_true.mp (by decide +kernel)

/-- What a call gives: what the macro of the name gives for what the arguments stand for, or something that holds
nothing but what may be held. -/
def Filled (host : Host σ) (settings : Settings) (name : String) (args : List Value) (v : Value) : Prop :=
  v.WellFilled ∨ ∃ m passed, standard.get? name = some m ∧ Dispatch.spreadArguments args settings = .ok passed ∧
    m.body.Filled host settings passed v

/-- And what is said of the result of a call holds of it with tags. -/
theorem Filled.adopt {name : String} {args : List Value} {v : Value} (h : Filled host settings name args v)
    (next : Nat) : Filled host settings name args (v.adopt next).1 := by
  rcases h with h | ⟨m, passed, hget, hspread, hv⟩
  · exact Or.inl (h.adopt next)
  · exact Or.inr ⟨m, passed, hget, hspread, hv.adopt next⟩

/-- A call gives what its macro gives, or an error. -/
theorem yields_call {name : String} {args : List Value} (hargs : ∀ arg ∈ args, Dispatch.WellFilled arg) :
    Yields settings (standard.call host name args) (Filled host settings name args) := by
  have herror (e : StoryError) : Filled host settings name args (.error e) := Or.inl (Value.wellFilled_of_contents rfl)
  unfold call
  cases hget : standard.get? name with
  | none =>
    refine Yields.bind (.outcome ?_ herror) fun v hv => .adopt hv.adopt
    exact (Yields.any _).bind fun text _ => (Yields.any _).bind fun info _ => .check .failWith
  | some m =>
    have hbody := takesHoldable_standard (insensitiveName name, m) (mem_of_get? hget)
    refine Yields.bind (.outcome ?_ herror) fun v hv => .adopt hv.adopt
    refine (Dispatch.yields_arguments hargs).bind fun passed ⟨hspread, hfree, hfits, hfilled⟩ => ?_
    exact (MacroBody.yields_perform hbody hfree hfits hfilled).mono fun v hv => Or.inr ⟨m, passed, hget, hspread, hv⟩

/-- **What is inside the collections that the standard library gives.**  Take any call of it by name, with arguments in
which no array, datamap or dataset holds an error or a value that cannot be stored, in any world and with any host.
What it gives holds neither, with two exceptions, for want of a check on what the transform of the lambda, the first
argument, is evaluated to.  `altered` may give an array that holds values that cannot be stored, and no errors, if the
transform is evaluated to such a value in some world; and `folded` may give what holds either, if the transform is
evaluated to what does in some world. -/
theorem call_standard_filled {name : String} {args : List Value} (hargs : ∀ arg ∈ args, Dispatch.WellFilled arg)
    {v : Value} (h : standard.call host name args settings w = (.ok v, w')) :
    v.WellFilled ∨ ∃ m l values text, standard.get? name = some m ∧
      Dispatch.spreadArguments args settings = .ok (.lambda l :: values) ∧ l.via = some text ∧
      ((m.body = .standard .altered ∧ (∀ x ∈ v.contents, ∀ e, x ≠ .error e) ∧
          ∃ w₁ u w₂, host.evaluate text settings w₁ = (.ok u, w₂) ∧ u.isUnstorable = true) ∨
        m.body = .standard .folded ∧
          ∃ w₁ u w₂, host.evaluate text settings w₁ = (.ok u, w₂) ∧ ¬ u.WellFilled) := by
  rcases yields_call hargs w v w' h with h | ⟨m, passed, hget, hspread, h | ⟨s, hbody, hfilled⟩⟩
  · exact Or.inl h
  · exact Or.inl h
  · rcases hfilled with h | ⟨l, values, rfl, ⟨rfl, hne, hvia⟩ | ⟨rfl, hvia⟩⟩
    · exact Or.inl h
    · obtain ⟨text, htext, w₁, u, w₂, hrun, hu⟩ := Lambda.exists_of_not_transformsTo hvia
      exact Or.inr ⟨m, l, values, text, hget, hspread, htext,
        Or.inl ⟨hbody, hne, w₁, u, w₂, hrun, Bool.not_eq_false _ ▸ hu⟩⟩
    · obtain ⟨text, htext, hrun⟩ := Lambda.exists_of_not_transformsTo hvia
      exact Or.inr ⟨m, l, values, text, hget, hspread, htext, Or.inr ⟨hbody, hrun⟩⟩

/-! ### Some calls -/

/-- A host that evaluates every text to the same value. -/
def evaluatingTo (u : Value) : Host Unit where
  evaluate _ := pure u
  call _ _ := pure .nothing
  mutate _ := fun _ styles => (styles, pure .nothing)
  mapHeld _ u := u

/-- A lambda that evaluates a text for each value, with a total where it has a variable for one. -/
def evaluator (making : Option Variable) : Lambda := ⟨some ⟨"_item", none⟩, making, none, none, some "text", "", none⟩

/-- The arguments of the calls that follow hold nothing. -/
theorem wellFilled_args (making : Option Variable) :
    ∀ arg ∈ [Value.lambda (evaluator making), .number (.int 1), .number (.int 2)], Dispatch.WellFilled arg := by
  simp only [List.forall_mem_cons]
  exact ⟨Value.wellFilled_of_contents rfl, Value.wellFilled_of_contents rfl, Value.wellFilled_of_contents rfl,
    List.forall_mem_nil _⟩

/-- A text that is evaluated to a string is altered to something that may be held. -/
theorem altered_string :
    let settings : Settings := Settings.usual
    let args : List Value := [.lambda (evaluator none), .number (.int 1), .number (.int 2)]
    (∀ arg ∈ args, Dispatch.WellFilled arg) ∧
      ∃ w', standard.call (evaluatingTo (.string "a")) "altered" args settings (World.start [] ()) =
          (.ok (.array [.string "a", .string "a"]), w') ∧
        WellFilled (.array [.string "a", .string "a"]) := by
  intro settings args
  have hfirst : (standard.call (evaluatingTo (.string "a")) "altered" args settings (World.start [] ())).1 =
      .ok (.array [.string "a", .string "a"]) := by
    rw [standard_eq_listed]
    decide +kernel
  cases hrun : standard.call (evaluatingTo (.string "a")) "altered" args settings (World.start [] ()) with | mk r w'
  obtain rfl : r = .ok (.array [.string "a", .string "a"]) := by rw [← hfirst, hrun]
  refine ⟨wellFilled_args none, w', rfl, ?_⟩
  rcases call_standard_filled (wellFilled_args none) hrun with
    h | ⟨_, _, _, _, _, _, _, ⟨_, _, _, u, _, heval, hu⟩ | ⟨_, _, u, _, heval, hu⟩⟩
  · exact h
  · obtain rfl := Except.ok.inj (Prod.mk.inj heval).1
    cases hu
  · obtain rfl := Except.ok.inj (Prod.mk.inj heval).1
    exact absurd (Value.wellFilled_of_contents rfl) hu

/-- **Two calls whose collections hold what may not be held.** A text that is evaluated to a typed variable gets into
the array of `altered`, and an array with a typed variable is what `folded` gives. -/
theorem altered_typedVar :
    let settings : Settings := Settings.usual
    let typed : Value := .typedVar ⟨.named "number" false, "n", false⟩
    let values : List Value := [.number (.int 1), .number (.int 2)]
    ((∀ arg ∈ Value.lambda (evaluator none) :: values, Dispatch.WellFilled arg) ∧
      (standard.call (evaluatingTo typed) "altered" (.lambda (evaluator none) :: values) settings
        (World.start [] ())).1 = .ok (.array [typed, typed]) ∧
      ¬ WellFilled (.array [typed, typed])) ∧
    (∀ arg ∈ Value.lambda (evaluator (some ⟨"_total", none⟩)) :: values, Dispatch.WellFilled arg) ∧
      (standard.call (evaluatingTo (.array [typed])) "folded"
        (.lambda (evaluator (some ⟨"_total", none⟩)) :: values) settings (World.start [] ())).1 =
          .ok (.array [typed]) ∧
      ¬ WellFilled (.array [typed]) := by
  intro settings typed values
  rw [standard_eq_listed]
  refine ⟨⟨wellFilled_args _, by decide +kernel, fun h => ?_⟩, wellFilled_args _, by decide +kernel, fun h => ?_⟩
  · exact Bool.noConfusion (h typed List.mem_cons_self).2
  · exact Bool.noConfusion (h typed List.mem_cons_self).2

end Registry

end StoryValues
