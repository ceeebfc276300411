import Mathlib.Data.List.Induction
import StoryValues.Collection.Datamap
import StoryValues.Proofs.Check
import StoryValues.Proofs.Value.Sameness

/-
  NAMES of a datamap are all different, and none is a double without a number (`Datamap.WellNamed`).

  1. **What passes as a name** (`checkName_eq_ok`): a value that makes one, unless a name of the other kind is
     written alike.
  2. **What an operation has done** if it succeeds: a name is set, in its own place or behind all others
     (`of_assign`, `of_addPair`), or taken away (`of_remove`), and nothing else adds one.

  So the names stay different under every operation, in a stronger sense that has a file of its own.
-/

namespace StoryValues

namespace Datamap

/-- The names are text or numbers, and no two are the same. -/
def WellNamed (entries : Entries) : Prop :=
  (∀ e ∈ entries, e.1.Proper) ∧ entries.Pairwise fun e e' => ¬ e.1.same e'.1 = true

variable {entries entries' : Entries} {name : Name} {settings : Settings}

/-- A name that is not set is none of those that are. -/
theorem not_same_of_has (h : has entries name = false) : ∀ e ∈ entries, ¬ e.1.same name = true := by
  intro e he hsame
  have hhas : has entries name = true := List.any_eq_true.mpr ⟨e, he, hsame⟩
  rw [h] at hhas
  exact nomatch hhas

/-- What makes a name is no double without a number: such a double is refused as a name. -/
theorem proper_of_nameOf? {v : Value} (h : nameOf? v = some name) : name.Proper := by
  cases v with
  | string s =>
    obtain rfl := Option.some.inj h
    exact trivial
  | number n =>
    cases hn : n.isNumber with
    | true =>
      obtain rfl : Name.number n = name := Option.some.inj ((if_pos hn).symm.trans h)
      exact hn
    | false =>
      have hnone : nameOf? (.number n) = none := if_neg (by rw [hn]; exact Bool.false_ne_true)
      exact nomatch hnone.symm.trans h
  | _ => exact nomatch h

/-- **A value passes as a name** iff it makes one that is not too long to be written, and no name of the other kind is
written alike. -/
theorem checkName_eq_ok {v : Value} :
    checkName entries v settings = .ok name ↔
      nameOf? v = some name ∧ name.isShort = true ∧ clash? entries name = none := by
  constructor
  · intro h
    obtain ⟨_, _, h⟩ := Check.bind_eq_ok.mp h
    cases hname : nameOf? v with
    | none =>
      rw [hname] at h
      exact absurd h Check.fail_naming_ne_ok
    | some name' =>
      rw [hname] at h
      -- the name is written before it is compared
      obtain ⟨text, hwrite, h⟩ := Check.bind_eq_ok.mp h
      have hshort : name'.isShort = true := Name.isShort_of_format (Check.lift_eq_ok.mp hwrite)
      cases hclash : clash? entries name' with
      | some other =>
        simp only [hclash] at h
        obtain ⟨_, _, h⟩ := Check.bind_eq_ok.mp h
        exact absurd h Check.fail_naming_ne_ok
      | none =>
        simp only [hclash] at h
        obtain rfl := Except.ok.inj h
        exact ⟨rfl, hshort, hclash⟩
  · rintro ⟨hname, hshort, hclash⟩
    -- a name is no error, so the check comes to the comparison
    have hguard : v.guardError settings = .ok () := by
      cases v with
      | string s => rfl
      | number n => rfl
      | _ => exact nomatch hname
    have hwrite : Check.lift name.format settings = .ok name.shown := by
      rw [Name.format_eq, hshort]
      rfl
    rw [checkName, Check.bind_of_ok hguard]
    simp only [hname]
    refine (Check.bind_of_ok hwrite).trans ?_
    simp only [hclash]
    rfl

/-- What passed the check of a name is a proper one. -/
theorem proper_of_checkName {v : Value} (h : checkName entries v settings = .ok name) : name.Proper :=
  proper_of_nameOf? (checkName_eq_ok.mp h).1

/-! ## Operations -/

/-- What assigning has done: the value passed as a name, and this was set. -/
theorem of_assign {v new : Value} (h : assign entries v new settings = .ok entries') :
    ∃ name, checkName entries v settings = .ok name ∧ entries' = put entries name new := by
  unfold Datamap.assign at h
  cases hmade : nameOf? v with
  | none =>
    rw [hmade] at h
    exact nomatch h
  | some _ =>
    rw [hmade] at h
    obtain ⟨result, hresult, h⟩ := Check.bind_eq_ok.mp h
    cases result with
    | error e => exact absurd h nofun
    | ok name => exact ⟨name, Check.attempt_eq_ok.mp hresult, (Except.ok.inj h).symm⟩

/-- What removing has done: a name was taken away. -/
theorem of_remove {v : Value} (h : remove entries v settings = .ok entries') :
    ∃ name, entries' = erase entries name := by
  unfold Datamap.remove at h
  obtain ⟨key, _, h⟩ := Check.bind_eq_ok.mp h
  cases key with
  | none => exact absurd h nofun
  | some name =>
    simp only at h
    split at h
    · exact ⟨name, (Except.ok.inj h).symm⟩
    · exact absurd h nofun

/-- What adding a name and its value has done: the value for the name passed as one that is not set, and
went behind all others. -/
theorem of_addPair {key v : Value} (h : addPair entries key v settings = .ok entries') :
    ∃ name, checkName entries key settings = .ok name ∧ has entries name = false ∧
      entries' = entries ++ [(name, v.clone)] := by
  unfold Datamap.addPair at h
  obtain ⟨_, _, h⟩ := Check.bind_eq_ok.mp h
  obtain ⟨name, hname, h⟩ := Check.bind_eq_ok.mp h
  cases hhas : has entries name with
  | true =>
    rw [hhas] at h
    obtain ⟨_, _, h⟩ := Check.bind_eq_ok.mp h
    obtain ⟨_, hfail, _⟩ := Check.bind_eq_ok.mp h
    exact absurd hfail Check.fail_ne_ok
  | false =>
    rw [hhas] at h
    obtain ⟨bad, _, h⟩ := Check.bind_eq_ok.mp h
    cases bad with
    | some bad => exact absurd h Check.fail_naming_ne_ok
    | none => exact ⟨name, hname, hhas, (Except.ok.inj h).symm⟩

/-- What adding one name and its value keeps, adding names and values in turn keeps, by induction on the
pairs. -/
theorem addPairs_keeps {P : Entries → Prop}
    (hpair : ∀ {entries entries' key v}, P entries → addPair entries key v settings = .ok entries' → P entries')
    (args : List Value) :
    ∀ {entries entries' : Entries}, P entries → addPairs entries args settings = .ok entries' → P entries' := by
  induction args using List.twoStepInduction with
  | nil => exact fun h hrun => Except.ok.inj hrun ▸ h
  | singleton v => exact fun h hrun => Except.ok.inj hrun ▸ h
  | cons_cons key v rest ih _ =>
    intro entries entries' h hrun
    obtain ⟨middle, hadded, hrun⟩ := Check.bind_eq_ok.mp hrun
    exact ih (hpair h hadded) hrun

/-- What a datamap is made of. -/
theorem of_ofList {args : List Value} {tag : Tag} (h : ofList args settings = .ok (.datamap tag entries)) :
    addPairs [] args settings = .ok entries := by
  unfold ofList at h
  split at h
  · obtain ⟨_, _, h⟩ := Check.bind_eq_ok.mp h
    obtain ⟨_, hfail, _⟩ := Check.bind_eq_ok.mp h
    exact absurd hfail Check.failWith_ne_ok
  · obtain ⟨entries', hpairs, h⟩ := Check.bind_eq_ok.mp h
    exact (Value.datamap.inj (Except.ok.inj h)).2 ▸ hpairs

end Datamap

end StoryValues
