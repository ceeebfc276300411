import StoryValues.Proofs.Macro.Answered
import StoryValues.Proofs.Macro.Call

/-
  ADMITTED OR NOT: what becomes of a call whose checks all answer.

  That no check raises a fault does not mean that the call raises none.  Two things besides the checks can: spreading
  the arguments out, and putting into words what is wrong at the place where dispatch stops.

  1. **What is left unspoken** (`Callee.Unspoken`) — these two, and where no check raises a fault there is no third
     (`arguments_fault`).
  2. **When all is spoken of** (`Callee.not_unspoken`) — what stands behind dots can be spread out, no value is too long
     to be named, and the signature can be put in words.
  3. **A call** (`Registry.call_iff_admits`) reaches its macro exactly when its arguments fit.  Otherwise its answer is
     an error, or something is left unspoken (`Registry.call_chooser`).
-/

namespace StoryValues

namespace Dispatch

variable {σ : Type} {settings : Settings} {w w' : World σ} {c : Callee} {args : List Value} {f : Fault}

namespace Callee

/-- **A fault that no check raises:** the arguments cannot be spread out, or there are no words for what is wrong at the
first place that is not clear. -/
inductive Unspoken (c : Callee) (settings : Settings) (args : List Value) (f : Fault) : Prop
  | spread : (∀ v ∈ args, v.ErrorFree) → spreadArguments args settings = .error (.fault f) → Unspoken c settings args f
  | place {passed : List Value} {i : Nat} {stop : Check Unit} : (∀ v ∈ args, v.ErrorFree) →
      spreadArguments args settings = .ok passed → (∀ j < i, c.signature.ClearAt settings passed j) →
      c.StopsAt settings passed i stop → stop settings = .error (.fault f) →
      ¬ c.signature.Raises settings passed f → Unspoken c settings args f

end Callee

/-- **Whatever fault dispatch raises, something is left unspoken,** or a check raised it. -/
theorem arguments_fault (h : arguments c args settings w = (.error (.fault f), w')) :
    c.Unspoken settings args f ∨
      ∃ passed, spreadArguments args settings = .ok passed ∧ c.signature.Raises settings passed f := by
  -- an error among the arguments is an answer
  have hfree : ∀ v ∈ args, v.ErrorFree := by
    rcases Value.errorFree_or_firstError (.array args) with hfree | ⟨e, he⟩
    · exact Value.errorFree_array.mp hfree
    · rw [arguments_firstError he] at h
      cases (Prod.mk.inj h).1
  cases hspread : spreadArguments args settings with
  | error failure =>
    have hguard : (liftM (Value.guardErrors args) : Run σ Unit) settings w = (.ok (), w) :=
      Run.check_eq_ok.mpr ⟨rfl, Value.guardError_of_errorFree (Value.errorFree_array.mpr hfree)⟩
    have hstop : (liftM (spreadArguments args) : Run σ (List Value)) settings w = (.error failure, w) := by
      rw [Run.check_run, hspread]
    rw [arguments, Run.bind_of_ok hguard, Run.bind_of_error hstop] at h
    obtain rfl : failure = .fault f := Except.error.inj (Prod.mk.inj h).1
    exact .inl (.spread hfree hspread)
  | ok passed =>
    rw [arguments_of_spread hfree hspread] at h
    rcases Callee.checks_end c settings passed w with ⟨-, hcheck⟩ | ⟨i, stop, w₁, hclear, hstops, hcheck⟩
    · rw [Run.bind_of_ok hcheck] at h
      cases (Prod.mk.inj h).1
    · obtain ⟨failure, hstop⟩ := hstops.exists_failure
      rw [hstop] at hcheck
      rw [Run.bind_of_error hcheck] at h
      obtain rfl : failure = .fault f := Except.error.inj (Prod.mk.inj h).1
      by_cases hraises : c.signature.Raises settings passed f
      · exact .inr ⟨passed, rfl, hraises⟩
      · exact .inl (.place hfree hspread hclear hstops hstop hraises)

section

variable (hsettings : settings.Bundled)
include hsettings

/-- A value behind dots can be spread out, if it can be put in order where it is a dataset, and there is something to
say of it. -/
theorem exists_spreadOne {u : Value} (hsorted : ∀ unset members, u = .dataset unset members →
      ∃ ordered, Value.sorted members = .ok ordered) (hname : ¬ u.TooLong) :
    ∃ values, spreadOne (.spread u) settings = .ok values := by
  unfold spreadOne
  dsimp only
  split
  · exact ⟨_, rfl⟩
  · exact ⟨_, rfl⟩
  · exact ⟨_, rfl⟩
  · obtain ⟨ordered, hordered⟩ := hsorted _ _ rfl
    exact ⟨ordered, Check.lift_eq_ok.mpr hordered⟩
  · exact ⟨_, rfl⟩
  · obtain ⟨values, hrun, -⟩ := gives_cannotSpread hsettings (Value.exists_objectName hname)
    exact ⟨values, hrun⟩

/-- With all of them, so can the arguments. -/
theorem exists_spreadArguments (hsorted : ∀ unset members, .spread (.dataset unset members) ∈ args →
      ∃ ordered, Value.sorted members = .ok ordered) (hnames : ∀ u, .spread u ∈ args → ¬ u.TooLong) :
    ∃ passed, spreadArguments args settings = .ok passed := by
  induction args with
  | nil => exact ⟨[], rfl⟩
  | cons arg args ih =>
    obtain ⟨first, hfirst⟩ : ∃ first, spreadOne arg settings = .ok first := by
      cases arg with
      | spread u =>
        refine exists_spreadOne hsettings (fun unset members heq => ?_) (hnames u List.mem_cons_self)
        exact hsorted unset members (heq ▸ List.mem_cons_self)
      | _ => exact ⟨_, rfl⟩
    obtain ⟨others, hothers⟩ := ih (fun unset members h => hsorted unset members (List.mem_cons_of_mem _ h))
      fun u h => hnames u (List.mem_cons_of_mem _ h)
    exact ⟨first ++ others, by rw [spreadArguments, Check.bind_of_ok hfirst, Check.bind_of_ok hothers]; rfl⟩

/-- **All is spoken of,** with the messages of the library, where the signature can be put in words, datasets behind
dots can be put in order, and neither there nor among the values that are passed there is one too long to be named. -/
theorem Callee.not_unspoken (hc : c.signature.Worded)
    (hsorted : ∀ unset members, .spread (.dataset unset members) ∈ args →
      ∃ ordered, Value.sorted members = .ok ordered)
    (hnames : ∀ u, .spread u ∈ args → ¬ u.TooLong)
    (hpassed : ∀ passed, spreadArguments args settings = .ok passed → ∀ v ∈ passed, ¬ v.TooLong)
    (hquiet : ∀ passed f, spreadArguments args settings = .ok passed → ¬ c.signature.Raises settings passed f) :
    ¬ c.Unspoken settings args f := by
  rintro (⟨-, hspread⟩ | ⟨-, hspread, hclear, hstops, hfault, -⟩)
  · obtain ⟨passed, hpass⟩ := exists_spreadArguments hsettings hsorted hnames
    exact nomatch hspread.symm.trans hpass
  · have hstory : Check.Faultless settings _ := hstops.faultless hsettings hc hclear
      (fun v hv => Value.exists_objectName (hpassed _ hspread v hv)) fun f => hquiet _ f hspread
    obtain ⟨e, he⟩ := hstory _ hfault
    exact nomatch he

end

end Dispatch

namespace Registry

open Dispatch (Callee spreadArguments passedLine)

variable {σ : Type} {settings : Settings} {w : World σ} {r : Registry} {name : String} {m : Macro} {args : List Value}

/-- **A call reaches its macro exactly when its arguments fit.**  Let no check of the call raise a fault, and let the
rest entry of the macro, if it has one, ask for one value at most.

* If the signature admits the arguments as `passed`, with enough values for the rest entry, the answer is that of the
  macro, called with `passed`.
* If it does not, the answer is an error, or a fault is raised for what is left unspoken; and that is the same for any
  macro of that signature and any host, so none was called.
* If there is an error among the arguments, the answer is the first of them.  It is the same datum, for it keeps its
  tag; and nothing has happened.
* With the messages of the library, nothing is left unspoken where the signature can be put in words, datasets behind
  dots can be put in order, and no value is too long to be named. -/
theorem call_iff_admits (hget : r.get? name = some m)
    (hmin : ∀ inner min, m.signature.rest = some (inner, min) → min = 0 ∨ min = 1)
    (hquiet : ∀ passed f, spreadArguments args settings = .ok passed → ¬ m.signature.Raises settings passed f) :
    (∀ passed, m.signature.Admits settings args passed → m.signature.Enough passed → ∀ host,
      r.call host name args settings w =
        (Run.outcome (m.body.perform host passed) >>= Run.adopt) settings
          (w.noted (passedLine ⟨name, m.signature⟩ passed))) ∧
    ((¬ ∃ passed, m.signature.Admits settings args passed ∧ m.signature.Enough passed) →
      ∃ result w', (∀ (r' : Registry) (m' : Macro) host, r'.get? name = some m' → m'.signature = m.signature →
          r'.call host name args settings w = (result, w')) ∧
        ((∃ e, result = .ok (.error e)) ∨
          ∃ f, result = .error (.fault f) ∧ Callee.Unspoken ⟨name, m.signature⟩ settings args f)) ∧
    (∀ e, Value.FirstError (.array args) e → ∃ tag next, (e.tag ≠ none → tag = e.tag ∧ next = w.fresh) ∧
      ∀ host, r.call host name args settings w =
        (.ok (.error { e with tag := tag }), { w with fresh := next })) ∧
    (settings.Bundled → m.signature.Worded →
      (∀ unset members, .spread (.dataset unset members) ∈ args → ∃ ordered, Value.sorted members = .ok ordered) →
      (∀ u, .spread u ∈ args → ¬ u.TooLong) →
      (∀ passed, spreadArguments args settings = .ok passed → ∀ v ∈ passed, ¬ v.TooLong) →
      ∀ f, ¬ Callee.Unspoken ⟨name, m.signature⟩ settings args f) := by
  refine ⟨fun passed hadmits henough host => ?_, fun hnot => ?_, fun e he => ?_,
    fun hsettings hworded hsorted hnames hpassed f =>
      Callee.not_unspoken hsettings hworded hsorted hnames hpassed hquiet⟩
  · have hsome := (Signature.someIfAny_iff_enough hmin).mpr henough
    rcases Dispatch.arguments_pass (c := ⟨name, m.signature⟩) (w := w) hadmits hsome with
      hpass | ⟨f, w', hraises, -⟩
    · exact call_of_passed hget hpass host
    · exact absurd hraises (hquiet passed f hadmits.spread)
  · -- what does not fit does not go through, and what is left is a story error or a fault
    cases hrun : Dispatch.arguments ⟨name, m.signature⟩ args settings w with
    | mk result w₁ =>
      cases result with
      | ok passed =>
        obtain ⟨hadmits, hsome, _⟩ := Dispatch.arguments_ok hrun
        exact absurd ⟨passed, hadmits, (Signature.someIfAny_iff_enough hmin).mp hsome⟩ hnot
      | error failure =>
        cases failure with
        | fault f =>
          have hunspoken := (Dispatch.arguments_fault hrun).resolve_right fun ⟨passed, hspread, hraises⟩ =>
            hquiet passed f hspread hraises
          refine ⟨.error (.fault f), w₁, fun r' m' host hget' hsig => ?_, .inr ⟨f, rfl, hunspoken⟩⟩
          rw [← hsig] at hrun
          exact call_of_fault hget' hrun host
        | story e =>
          refine ⟨.ok (.error { e with tag := (Tag.adopt w₁.fresh e.tag).1 }),
            { w₁ with fresh := (Tag.adopt w₁.fresh e.tag).2 }, fun r' m' host hget' hsig => ?_, .inl ⟨_, rfl⟩⟩
          rw [← hsig] at hrun
          rw [call_of_story hget' hrun host, adopt_error]
  · refine ⟨(Tag.adopt w.fresh e.tag).1, (Tag.adopt w.fresh e.tag).2, fun htag => ?_, fun host => ?_⟩
    · -- an error that a program has got hold of before has a tag, and keeps it
      cases htag' : e.tag with
      | none => exact absurd htag' htag
      | some t => exact ⟨rfl, rfl⟩
    · rw [call_of_story hget (Dispatch.arguments_firstError he) host, adopt_error]

/-- A macro that makes a changer of a number and any number of strings. -/
def labelled : Macro := ⟨["label"], .changer "label", ⟨[.number], some (.string, 0)⟩, .changer⟩

/-- Two strings that are spread out of an array reach the macro one by one. -/
theorem call_labelled :
    (⟨[("label", labelled)], false⟩ : Registry).get? "Label" = some labelled ∧
      ∀ host : Host Unit, (⟨[("label", labelled)], false⟩ : Registry).call host "Label"
        [.number (.int 1), .spread (.array [.string "a", .string "b"])]
        Settings.usual (World.start [] ()) =
          (.ok (.changer [("label", [.number (.int 1), .string "a", .string "b"])]),
            (World.start [] ()).noted "DISPATCH Label argc 3") := by
  have hname : insensitiveName "Label" = "label" := by decide +kernel
  have hget : (⟨[("label", labelled)], false⟩ : Registry).get? "Label" = some labelled := by
    rw [get?, hname]
    rfl
  have hmin : ∀ inner min, labelled.signature.rest = some (inner, min) → min = 0 ∨ min = 1 := by
    intro inner min h
    exact Or.inl (Prod.mk.inj (Option.some.inj h)).2.symm
  refine ⟨hget, fun host => ?_⟩
  have hspread : spreadArguments [.number (.int 1), .spread (.array [.string "a", .string "b"])] Settings.usual =
      .ok [.number (.int 1), .string "a", .string "b"] := rfl
  have hquiet : ∀ passed f, spreadArguments [.number (.int 1), .spread (.array [.string "a", .string "b"])]
      Settings.usual = .ok passed → ¬ labelled.signature.Raises Settings.usual passed f := by
    rintro passed f hpassed
    obtain rfl := Except.ok.inj (hspread.symm.trans hpassed)
    -- the entries are ones that never raise a fault for such values
    have hsound : labelled.signature.Sound := Signature.sound_of_areSound (by decide)
    refine hsound.not_raises Settings.bundled_usual ?_ f
    exact List.forall_mem_cons.mpr ⟨.number ⟨.ofRatio false 1 1, by decide +kernel⟩,
      List.forall_mem_cons.mpr ⟨.string _, List.forall_mem_singleton.mpr (.string _)⟩⟩
  have hrun : Dispatch.arguments ⟨"Label", labelled.signature⟩
      [.number (.int 1), .spread (.array [.string "a", .string "b"])]
      Settings.usual (World.start [] ()) =
        (.ok [.number (.int 1), .string "a", .string "b"],
          (World.start [] ()).noted "DISPATCH Label argc 3") := rfl
  obtain ⟨hadmits, hsome, _⟩ := Dispatch.arguments_ok hrun
  have henough := (Signature.someIfAny_iff_enough hmin).mp hsome
  rw [(call_iff_admits hget hmin hquiet).1 _ hadmits henough host]
  rfl

/-- A macro that takes one of no names. -/
def chooser : Macro := ⟨["choose"], .changer "choose", ⟨[.oneOf []], none⟩, .changer⟩

/-- **Refused, but not in words.**  No check of the macro ever raises a fault, and there is nothing that it takes.  But a
string that is refused is refused with a list of names, and there are none; an integer is refused by its digits, and
those may be too many. -/
theorem call_chooser :
    (⟨[("choose", chooser)], false⟩ : Registry).get? "choose" = some chooser ∧
      (∀ passed f, ¬ chooser.signature.Raises Settings.usual passed f) ∧
      (∀ args passed, ¬ chooser.signature.Admits Settings.usual args passed) ∧
      ∀ host : Host Unit,
        ((⟨[("choose", chooser)], false⟩ : Registry).call host "choose" [.string "a"]
          Settings.usual (World.start [] ())).1 = .error (.fault (.missingPosition "list index out of range")) ∧
        ((⟨[("choose", chooser)], false⟩ : Registry).call host "choose" [.number (.int (10 ^ 4300))]
          Settings.usual (World.start [] ())).1 = .error (.fault .integerTooLong) := by
  have hname : insensitiveName "choose" = "choose" := by decide +kernel
  have hget : (⟨[("choose", chooser)], false⟩ : Registry).get? "choose" = some chooser := by
    rw [get?, hname]
    rfl
  -- the call raises what its dispatch raises
  have hcall : ∀ {v : Value} {f : Fault} {host : Host Unit},
      (Dispatch.arguments ⟨"choose", chooser.signature⟩ [v] Settings.usual (World.start [] ())).1 = .error (.fault f) →
      ((⟨[("choose", chooser)], false⟩ : Registry).call host "choose" [v] Settings.usual (World.start [] ())).1 =
        .error (.fault f) := by
    intro v f host hfault
    rcases hrun : Dispatch.arguments ⟨"choose", chooser.signature⟩ [v] Settings.usual (World.start [] ()) with
      ⟨result, w'⟩
    rw [hrun] at hfault
    obtain rfl : result = .error (.fault f) := hfault
    rw [call_of_fault hget hrun host]
  refine ⟨hget, ?_, fun args passed hadmits => ?_, fun host => ⟨?_, ?_⟩⟩
  · rintro passed f ⟨i, v, e, -, -, -, hasks, hraises⟩
    obtain rfl : e = .oneOf [] := List.mem_singleton.mp hasks.mem_entries
    cases v <;> exact nomatch hraises
  · -- the one place wants a value with a name that is listed
    cases passed with
    | nil => exact nomatch hadmits.fits.absent 0 _ rfl rfl
    | cons v values =>
      cases hadmits.fits.present 0 _ v rfl rfl with
      | oneOf _ hmem _ => exact absurd hmem List.not_mem_nil
  · exact hcall (by decide +kernel)
  · exact hcall (by decide +kernel)

end Registry

end StoryValues
