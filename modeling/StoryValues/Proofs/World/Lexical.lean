import StoryValues.Error.Limit
import StoryValues.Proofs.World.Binding

/-
  SCOPES AS LEXICAL ENVIRONMENTS: what is found under a name after any number of attempts to restrict and to
  set names, anywhere in a tree of scopes.

  1. **Data** — the calls that were made, the latest first (`ScopeCall`), and the world that they leave
     (`World.after`).
  2. **Specification** — `World.lastSet?` looks through the calls for the last one that set a name in a scope,
     refused ones left out; `Scope.outward` lists the scopes from one outward.
  3. **One call** (`binding?_call`, `restriction?_call`) binds or restricts the one name in the one scope, or
     does nothing.
  4. **All calls** — in each scope a name is bound to a copy of what it was last set to (`binding?_after`), by
     induction on the calls; every such value can be kept (`keepable_after`), and is accepted by the restriction
     if that was declared while there was nothing to be restricted (`accepted_after`).
-/

namespace StoryValues

variable {σ : Type} {settings : Settings} {w : World σ}

/-! ## Calls -/

/-- Something done to a scope: a name is restricted, or an attempt is made to set it. -/
inductive ScopeCall where
  | restrict (id : Nat) (key : String) (d : Datatype)
  | set (id : Nat) (key : String) (v : Value)

def ScopeCall.run : ScopeCall → Run σ Unit
  | restrict id key d => Run.defineType id key d
  | set id key v => Run.setVar id key v

namespace World

/-- The world after calls, the latest of which comes first.  One that is refused does not keep the others from
being made. -/
def after (settings : Settings) (w : World σ) : List ScopeCall → World σ
  | [] => w
  | call :: earlier => (call.run settings (w.after settings earlier)).2

/-- The value that a name was last set to in a scope, refused attempts left out. -/
def lastSet? (settings : Settings) (w : World σ) (id : Nat) (key : String) : List ScopeCall → Option Value
  | [] => none
  | .restrict .. :: earlier => w.lastSet? settings id key earlier
  | .set i k v :: earlier =>
    if i = id ∧ k = key ∧ (Run.setVar i k v settings (w.after settings earlier)).1.isOk = true then some v
    else w.lastSet? settings id key earlier

/-- Whenever a name of a scope was restricted, it was not bound there. -/
def DeclaredUnbound (settings : Settings) (w : World σ) (id : Nat) (key : String) : List ScopeCall → Prop
  | [] => True
  | .restrict i k _ :: earlier =>
    (i = id → k = key → (w.after settings earlier).binding? id key = none) ∧
      w.DeclaredUnbound settings id key earlier
  | .set .. :: earlier => w.DeclaredUnbound settings id key earlier

end World

/-! ## Outward -/

namespace Scope

/-- The scopes from one outward.  The parent of a scope is older than the scope. -/
def outward (scopes : List Scope) (id : Nat) : List Nat :=
  match scopes[id]? with
  | none => []
  | some s =>
    id :: match s.parent with
      | some p => if p < id then outward scopes p else []
      | none => []
termination_by id

/-- Which scopes lie outward is a matter of parents only.  By induction along the parents, which are older. -/
theorem outward_congr {scopes scopes' : List Scope}
    (h : ∀ i : Nat, scopes[i]?.map Scope.parent = scopes'[i]?.map Scope.parent) (id : Nat) :
    outward scopes id = outward scopes' id := by
  induction id using Nat.strong_induction_on with
  | _ id ih =>
    have hid := h id
    rw [outward, outward]
    cases hs : scopes[id]? with
    | none =>
      rw [hs, Option.map_none, eq_comm, Option.map_eq_none_iff] at hid
      rw [hid]
    | some s =>
      rw [hs, Option.map_some, eq_comm, Option.map_eq_some_iff] at hid
      obtain ⟨s', hs', hparent⟩ := hid
      rw [hs']
      simp only [hparent]
      cases s.parent with
      | none => rfl
      | some p =>
        by_cases hp : p < id
        · simp only [if_pos hp, ih p hp]
        · simp only [if_neg hp]

/-- All scopes that lie outward are there, by the same induction. -/
theorem exists_of_mem_outward {scopes : List Scope} {id i : Nat} (h : i ∈ outward scopes id) :
    ∃ s, scopes[i]? = some s := by
  induction id using Nat.strong_induction_on with
  | _ id ih =>
    rw [outward] at h
    cases hs : scopes[id]? with
    | none =>
      rw [hs] at h
      exact absurd h List.not_mem_nil
    | some s =>
      rw [hs] at h
      rcases List.mem_cons.mp h with rfl | h
      · exact ⟨s, hs⟩
      · cases hparent : s.parent with
        | none =>
          rw [hparent] at h
          exact absurd h List.not_mem_nil
        | some p =>
          simp only [hparent] at h
          by_cases hp : p < id
          · rw [if_pos hp] at h
            exact ih p hp h
          · rw [if_neg hp] at h
            exact absurd h List.not_mem_nil

end Scope

namespace World

/-- **A name is looked for outward,** and the first scope in which it is bound has its value.  The lookup goes from
scope to parent, and so does the list. -/
theorem value?_eq (w : World σ) (id : Nat) (key : String) :
    w.value? id key = (Scope.outward w.scopes id).findSome? fun i => w.binding? i key := by
  induction id using Nat.strong_induction_on with
  | _ id ih =>
    have hhere : w.scope? id = w.scopes[id]? := rfl
    rw [value?, Scope.owner?, Scope.outward]
    cases hs : w.scopes[id]? with
    | none => rfl
    | some s =>
      have hbinding : w.binding? id key = s.bindings.lookup key := by
        rw [binding?, hhere, hs, Option.bind_some]
      simp only [List.findSome?_cons, hbinding]
      cases hlookup : s.bindings.lookup key with
      | some v =>
        simp [hhere, hs, hlookup]
      | none =>
        simp only [Option.isSome_none, Bool.false_eq_true, ↓reduceIte]
        cases s.parent with
        | none => rfl
        | some p =>
          -- scopes are made after the ones that they are in, so the search ends
          by_cases hp : p < id
          · simp only [if_pos hp]
            exact ih p hp
          · simp only [if_neg hp]
            rfl

/-- From a scope that is in no other, only what is bound there can be seen: nothing lies outward of it but itself. -/
theorem value?_of_outermost {id : Nat} {s : Scope} (hs : w.scope? id = some s) (hparent : s.parent = none)
    (key : String) : w.value? id key = w.binding? id key := by
  have houtward : Scope.outward w.scopes id = [id] := by
    have hscope : w.scopes[id]? = some s := hs
    rw [Scope.outward, hscope]
    simp only [hparent]
  rw [value?_eq, houtward, List.findSome?_cons, List.findSome?_nil]
  cases w.binding? id key <;> rfl

/-! ## One call -/

variable {i : Nat} {k : String} {earlier calls : List ScopeCall}

/-- **After an attempt to set a name** the world is as before, or the value was found fit and the name is bound
to a copy. -/
theorem after_set_cases (settings : Settings) (w : World σ) (id : Nat) (key : String) (v : Value)
    (earlier : List ScopeCall) :
    (w.after settings (.set id key v :: earlier) = (w.after settings earlier).bind id key v ∧
      Run.checkBinding key ((w.after settings earlier).restriction? id key) v settings = .ok () ∧
      ∀ j l, w.lastSet? settings j l (.set id key v :: earlier) =
        if id = j ∧ key = l then some v else w.lastSet? settings j l earlier) ∨
    (w.after settings (.set id key v :: earlier) = w.after settings earlier ∧
      ∀ j l, w.lastSet? settings j l (.set id key v :: earlier) = w.lastSet? settings j l earlier) := by
  rcases Run.setVar_cases settings (w.after settings earlier) id key v with ⟨hcheck, hrun⟩ | ⟨e, -, hrun⟩
  · refine Or.inl ⟨?_, hcheck, fun j l => ?_⟩
    · rw [after, ScopeCall.run, hrun]
    · rw [lastSet?, hrun]
      simp only [Except.isOk, Except.toBool, and_true]
  · refine Or.inr ⟨?_, fun j l => ?_⟩
    · rw [after, ScopeCall.run, hrun]
    · rw [lastSet?, hrun]
      simp only [Except.isOk, Except.toBool, Bool.false_eq_true, and_false, if_false]

/-- A restriction changes what a name may be bound to from then on, and nothing else: what is bound to it stays. -/
theorem after_restrict (id : Nat) (key : String) (d : Datatype) (earlier : List ScopeCall) :
    w.after settings (.restrict id key d :: earlier) = (w.after settings earlier).restrict id key d := rfl

/-! ## All calls -/

/-- The tree of scopes stays as it is, by induction on the calls. -/
theorem outline_after (settings : Settings) (w : World σ) (calls : List ScopeCall) (i : Nat) :
    ((w.after settings calls).scope? i).map (fun s => (s.name, s.parent)) =
      (w.scope? i).map fun s => (s.name, s.parent) := by
  induction calls with
  | nil => rfl
  | cons call earlier ih =>
    cases call with
    | restrict id key d => rw [after_restrict, outline_restrict, ih]
    | set id key v =>
      rcases after_set_cases settings w id key v earlier with ⟨hafter, -, -⟩ | ⟨hafter, -⟩
      · rw [hafter, outline_bind, ih]
      · rw [hafter, ih]

/-- What a scope is called, or what one without a name is called if there is no such scope. -/
def placeName (w : World σ) (id : Nat) : String := (w.scope? id).elim Scope.usualName Scope.name

/-- So do the names of places. -/
theorem placeName_after (calls : List ScopeCall) (id : Nat) : (w.after settings calls).placeName id = w.placeName id := by
  have houtline := congrArg (Option.map Prod.fst) (outline_after settings w calls id)
  rw [Option.map_map, Option.map_map] at houtline
  have hnames : ((w.after settings calls).scope? id).map Scope.name = (w.scope? id).map Scope.name := houtline
  have helim : ∀ o : Option Scope, o.elim Scope.usualName Scope.name = (o.map Scope.name).getD Scope.usualName := by
    rintro (- | s) <;> rfl
  rw [placeName, placeName, helim, helim, hnames]

/-- **In each scope a name is bound to a copy of what it was last set to,** by induction on the calls. -/
theorem binding?_after (hbare : ∀ i k, w.binding? i k = none) (hi : (w.scope? i).isSome = true) (k : String)
    (calls : List ScopeCall) :
    Option.Rel Value.CopyOf ((w.after settings calls).binding? i k) (w.lastSet? settings i k calls) := by
  induction calls with
  | nil =>
    rw [after, hbare, lastSet?]
    exact .none
  | cons call earlier ih =>
    cases call with
    | restrict id key d =>
      rw [after_restrict, binding?_restrict, lastSet?]
      exact ih
    | set id key v =>
      -- an attempt that is refused changes neither the binding nor what the name was last set to
      rcases after_set_cases settings w id key v earlier with ⟨hafter, -, hlast⟩ | ⟨hafter, hlast⟩
      · rw [hafter, binding?_bind, hlast]
        by_cases hname : id = i ∧ k = key
        · have houtline := outline_after settings w earlier i
          obtain ⟨s, hs⟩ := Option.isSome_iff_exists.mp hi
          rw [hs, Option.map_some, Option.map_eq_some_iff] at houtline
          obtain ⟨s', hs', -⟩ := houtline
          rw [if_pos hname, if_pos ⟨hname.1, hname.2.symm⟩, hs', Option.map_some]
          exact .some ⟨_, rfl⟩
        · rw [if_neg hname, if_neg fun h => hname ⟨h.1, h.2.symm⟩]
          exact ih
      · rw [hafter, hlast]
        exact ih

/-- **Whatever is bound can be kept:** it is no error and holds none in arrays, and neither it nor anything that
it directly holds is unstorable. -/
theorem keepable_after (hbare : ∀ i k, w.binding? i k = none) {u : Value} (calls : List ScopeCall)
    (h : (w.after settings calls).binding? i k = some u) : u.Keepable := by
  induction calls with
  | nil =>
    rw [after, hbare] at h
    exact nomatch h
  | cons call earlier ih =>
    cases call with
    | restrict id key d =>
      rw [after_restrict, binding?_restrict] at h
      exact ih h
    | set id key v =>
      rcases after_set_cases settings w id key v earlier with ⟨hafter, hcheck, -⟩ | ⟨hafter, -⟩
      · rw [hafter, binding?_bind] at h
        split at h
        · obtain ⟨hfree, hsearch, -⟩ := Run.checkBinding_eq_ok.mp hcheck
          obtain ⟨s, -, rfl⟩ := Option.map_eq_some_iff.mp h
          have hcopy : Value.CopyOf (v.clone.adopt (w.after settings earlier).fresh).1 v := ⟨_, rfl⟩
          exact hcopy.keepable_iff.mpr ((Value.keepable_iff_of_unstorable? hfree hsearch).mpr rfl)
        · exact ih h
      · rw [hafter] at h
        exact ih h

/-- **Whatever is bound is accepted** by the restriction of the name, if that was declared while the name was not
bound. -/
theorem accepted_after (hbare : ∀ i k, w.binding? i k = none) {u : Value} {d : Datatype} (calls : List ScopeCall)
    (hunbound : w.DeclaredUnbound settings i k calls) (h : (w.after settings calls).binding? i k = some u)
    (hd : (w.after settings calls).restriction? i k = some d) : d.accepts u settings = .ok true := by
  induction calls with
  | nil =>
    rw [after, hbare] at h
    exact nomatch h
  | cons call earlier ih =>
    cases call with
    | restrict id key e =>
      obtain ⟨hnone, hearlier⟩ := hunbound
      rw [after_restrict, binding?_restrict] at h
      rw [after_restrict, restriction?_restrict] at hd
      split at hd
      · -- the name was bound, so this is no restriction of it
        rename_i hname
        rw [hnone hname.1 hname.2.symm] at h
        exact nomatch h
      · exact ih hearlier h hd
    | set id key v =>
      rcases after_set_cases settings w id key v earlier with ⟨hafter, hcheck, -⟩ | ⟨hafter, -⟩
      · rw [hafter, binding?_bind] at h
        rw [hafter, restriction?_bind] at hd
        split at h
        · rename_i hname
          obtain ⟨s, -, rfl⟩ := Option.map_eq_some_iff.mp h
          have hcopy : Value.CopyOf (v.clone.adopt (w.after settings earlier).fresh).1 v := ⟨_, rfl⟩
          rw [hcopy.accepts_eq]
          obtain ⟨-, -, haccepts⟩ := Run.checkBinding_eq_ok.mp hcheck
          obtain ⟨rfl, rfl⟩ := hname
          exact haccepts d hd
        · exact ih hunbound h hd
      · rw [hafter] at h hd
        exact ih hunbound h hd

/-! ## Lookups -/

/-- Two searches through one list that find related things in every place find related things.  It relates the world
after all calls to the specification of lookups, place by place. -/
theorem findSome?_rel {α β γ : Type} {R : α → β → Prop} {f : γ → Option α} {g : γ → Option β} {xs : List γ}
    (h : ∀ x ∈ xs, Option.Rel R (f x) (g x)) : Option.Rel R (xs.findSome? f) (xs.findSome? g) := by
  induction xs with
  | nil => exact .none
  | cons x xs ih =>
    obtain ⟨hx, hxs⟩ := List.forall_mem_cons.mp h
    rw [List.findSome?_cons, List.findSome?_cons]
    cases hf : f x with
    | none =>
      rw [hf] at hx
      cases hg : g x with
      | none => exact ih hxs
      | some b => rw [hg] at hx; cases hx
    | some a =>
      rw [hf] at hx
      cases hg : g x with
      | none => rw [hg] at hx; cases hx
      | some b => rw [hg] at hx; exact hx

/-- What is found from a scope is a copy of what the name was last set to in the nearest scope outward where it
was ever set. -/
theorem value?_after (settings : Settings) (hbare : ∀ i k, w.binding? i k = none) (id : Nat) (key : String)
    (calls : List ScopeCall) :
    Option.Rel Value.CopyOf ((w.after settings calls).value? id key)
      ((Scope.outward w.scopes id).findSome? fun i => w.lastSet? settings i key calls) := by
  have hscopes : Scope.outward (w.after settings calls).scopes id = Scope.outward w.scopes id := by
    refine Scope.outward_congr (fun i => ?_) id
    have houtline := congrArg (Option.map Prod.snd) (outline_after settings w calls i)
    rw [Option.map_map, Option.map_map] at houtline
    exact houtline
  rw [value?_eq, hscopes]
  refine findSome?_rel fun i hi => ?_
  obtain ⟨s, hs⟩ := Scope.exists_of_mem_outward hi
  exact binding?_after hbare (Option.isSome_iff_exists.mpr ⟨s, hs⟩) key calls

end World

/-- Looking up a name that is bound somewhere outward gives its value, and changes nothing. -/
theorem Run.getVar_of_some {w : World σ} {id : Nat} {key : String} {v : Value} (h : w.value? id key = some v) :
    Run.getVar id key settings w = (.ok v, w) := by
  rw [Run.getVar, Run.bind_of_ok rfl, h]
  rfl

/-- Looking up one that is not is refused. -/
theorem Run.getVar_of_none {w : World σ} {id : Nat} {key : String} (h : w.value? id key = none) :
    Run.getVar id key settings w = ((Run.noVariable key (w.placeName id) : Check Value) settings, w) := by
  rw [Run.getVar, Run.bind_of_ok rfl, h]
  rfl

/-- The error that there is no such variable says what was looked for, and from where. -/
theorem Run.exists_noVariable (hkind : (settings.catalogue.explanation? "property").isSome = true)
    (key place : String) : ∃ e, (Run.noVariable key place : Check Value) settings = .error (.story e) ∧
      e.kind = "property" ∧ e.message = s!"There isn't a temp variable named {key} in {place}." := by
  have hhead : ∃ cs, (s!"There isn't a temp variable named {key} in {place}.").toList = 'T' :: cs := by
    simp only [String.toList_append]
    exact ⟨_, rfl⟩
  obtain ⟨cs, hcs⟩ := hhead
  have hmessage : s!"There isn't a temp variable named {key} in {place}." ≠ "" := by
    intro h
    rw [h] at hcs
    exact nomatch hcs
  obtain ⟨e, he, hproperty, htext⟩ := @Check.exists_create settings _ _ none hmessage hkind
  refine ⟨e, Check.bind_of_ok he, hproperty, ?_⟩
  have hupper : Case.upperChar 'T' = ['T'] := by decide
  have hcapital : Case.capitalise s!"There isn't a temp variable named {key} in {place}." =
      s!"There isn't a temp variable named {key} in {place}." := by
    rw [Case.capitalise, hcs]
    simp only [hupper, List.cons_append, List.nil_append]
    rw [← hcs, String.ofList_toList]
  rw [htext, if_neg (by decide), hcapital]

namespace World

/-- **Scopes are lexical environments.**  Whatever is done to a tree of scopes in which nothing is bound, a name
seen from a scope has a copy of the value that it was last set to, without being refused, in the nearest scope
outward where that ever happened; if there is none, the answer is an error of the kind `property`.  An attempt
that is refused changes nothing, and one that is not changes the one binding.  Nothing is ever bound that is an
error, holds one in arrays, is unstorable or directly holds something unstorable; and if a name is only
restricted while it is not bound, whatever it is bound to is accepted by its restriction. -/
theorem lexical_environments (settings : Settings) (w : World σ) (hbare : ∀ i k, w.binding? i k = none)
    (calls : List ScopeCall) :
    (∀ id key,
      (∀ v, ((Scope.outward w.scopes id).findSome? fun i => w.lastSet? settings i key calls) = some v →
        ∃ u, u.CopyOf v ∧
          Run.getVar id key settings (w.after settings calls) = (.ok u, w.after settings calls)) ∧
      (((Scope.outward w.scopes id).findSome? fun i => w.lastSet? settings i key calls) = none →
        (settings.catalogue.explanation? "property").isSome = true → ∃ e,
          Run.getVar id key settings (w.after settings calls) = (.error (.story e), w.after settings calls) ∧
            e.kind = "property" ∧ e.message = s!"There isn't a temp variable named {key} in {w.placeName id}.")) ∧
    (∀ id key v,
      (∀ e, (Run.setVar id key v settings (w.after settings calls)).1 = .error e →
        (Run.setVar id key v settings (w.after settings calls)).2 = w.after settings calls) ∧
      ((Run.setVar id key v settings (w.after settings calls)).1 = .ok () → ∀ i k,
        (Run.setVar id key v settings (w.after settings calls)).2.restriction? i k =
          (w.after settings calls).restriction? i k ∧
        (¬ (id = i ∧ k = key) →
          (Run.setVar id key v settings (w.after settings calls)).2.binding? i k =
            (w.after settings calls).binding? i k))) ∧
    ∀ i k u, (w.after settings calls).binding? i k = some u →
      u.Keepable ∧
      (w.DeclaredUnbound settings i k calls → ∀ d, (w.after settings calls).restriction? i k = some d →
        d.accepts u settings = .ok true) := by
  refine ⟨fun id key => ?_, fun id key v => ?_, fun i k u h => ?_⟩
  · -- a search through the scopes and one through the calls find copies of each other
    have hfound := value?_after settings hbare id key calls
    constructor
    · intro v hv
      rw [hv] at hfound
      cases hvalue : (w.after settings calls).value? id key with
      | none => rw [hvalue] at hfound; cases hfound
      | some u =>
        rw [hvalue] at hfound
        cases hfound with
        | some hcopy => exact ⟨u, hcopy, Run.getVar_of_some hvalue⟩
    · intro hnone hkind
      rw [hnone] at hfound
      cases hvalue : (w.after settings calls).value? id key with
      | some u => rw [hvalue] at hfound; cases hfound
      | none =>
        obtain ⟨e, he, hproperty, htext⟩ := Run.exists_noVariable hkind key ((w.after settings calls).placeName id)
        refine ⟨e, ?_, hproperty, placeName_after calls id ▸ htext⟩
        rw [Run.getVar_of_none hvalue, he]
  · -- one more attempt binds the name and nothing else, or is refused and leaves the world
    rcases Run.setVar_cases settings (w.after settings calls) id key v with ⟨-, hrun⟩ | ⟨e, -, hrun⟩
    · rw [hrun]
      refine ⟨fun e he => (nomatch he), fun _ i k => ⟨restriction?_bind .., fun hname => ?_⟩⟩
      rw [binding?_bind, if_neg hname]
    · rw [hrun]
      exact ⟨fun _ _ => rfl, fun hok => (nomatch hok)⟩
  · exact ⟨keepable_after hbare calls h, fun hunbound d hd => accepted_after hbare calls hunbound h hd⟩

/-- A scope inside another one. -/
def nestedScopes : World Unit :=
  { World.start [] () with scopes := [⟨"outside", none, [], []⟩, ⟨"inside", some 0, [], []⟩] }

/-- The name is restricted inside and set outside; setting it inside to something else is refused. -/
def refusedInside : List ScopeCall :=
  [.set 1 "x" (.string "no"), .set 0 "x" (.string "yes"), .restrict 1 "x" (.named "number" false)]

/-- So it is seen from inside as it was set outside: the attempt that was refused left nothing behind. -/
theorem lexical_refusedInside :
    ∃ u, u.CopyOf (.string "yes") ∧
      Run.getVar 1 "x" Settings.usual
          (nestedScopes.after Settings.usual refusedInside) =
        (.ok u, nestedScopes.after Settings.usual refusedInside) := by
  have hbare : ∀ i k, nestedScopes.binding? i k = none := by
    rintro (_ | _ | i) k
    · rfl
    · rfl
    · rfl
  have houtward : Scope.outward nestedScopes.scopes 1 = [1, 0] := by
    simp [Scope.outward, nestedScopes]
  obtain ⟨hget, -, -⟩ := lexical_environments Settings.usual nestedScopes hbare refusedInside
  refine (hget 1 "x").1 (.string "yes") ?_
  rw [houtward]
  rfl

end World

end StoryValues
