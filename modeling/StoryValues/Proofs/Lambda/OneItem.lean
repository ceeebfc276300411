import StoryValues.Proofs.Lambda.Folding
import StoryValues.Proofs.World.Binding
import StoryValues.Proofs.World.Confined

/-
  ONE ITEM OF A LOOP, and what becomes of it.

  A loop applies its lambda to one item after another.  The lambda binds its variable to the item, asks its
  guard, and runs its transform, each as far as there is one; any of the three may fail.  Here this is said of
  one item alone, in whatever world the loop has come to, and for any host.

  1. **Binding** (`Takes`) — what a variable can be bound to.  Binding in a new scope succeeds for exactly these
     values (`bindVariable_cases`).
  2. **Entering** (`entered`) — the world in which the clauses are evaluated: on top of the frames of the caller
     there is one with the item and its place, and its scope binds the variable to a copy (`shows_entered`).
  3. **The clauses** (`Guarded`, `Transformed`) — one rule for each thing that may come of a guard and of a
     transform.
  4. **The item** (`Tried`) — it fails, or it is passed over, or something is made of it.  One of these is always
     so (`exists_tried`), and the application does accordingly (`applyOrStop_of_tried`).
  5. **The next item** (`World.Continues`) — where evaluating a text changes nothing, the next item is visited on the
     same frames, and no scope that there was has changed (`Tried.continues`).
-/

namespace StoryValues

variable {σ : Type} {settings : Settings} {host : Host σ} {w w' w₁ w₂ : World σ}

/-- The world with a new scope, inside the one of the latest frame. -/
def World.scoped (w : World σ) : World σ :=
  { w with scopes := w.scopes ++ [⟨Scope.usualName, w.topScope?, [], []⟩] }

/-- **One world goes on from another:** on the same frames, with no scope changed that there was, and with the same
mutations and the same host. -/
structure World.Continues (w w' : World σ) : Prop where
  undisturbed : w.Undisturbed w'
  mutations : w'.mutations = w.mutations
  host : w'.host = w.host

/-- A world goes on from itself. -/
theorem World.Continues.refl (w : World σ) : w.Continues w := ⟨⟨rfl, fun _ _ h => h⟩, rfl, rfl⟩

/-- A loop goes on from item to item, and its last world from its first. -/
theorem World.Continues.trans (h : w.Continues w₁) (h' : w₁.Continues w₂) : w.Continues w₂ where
  undisturbed := ⟨h'.undisturbed.1.trans h.undisturbed.1, fun id s hs => h'.undisturbed.2 id s (h.undisturbed.2 id s hs)⟩
  mutations := h'.mutations.trans h.mutations
  host := h'.host.trans h.host

/-- A world goes on with one more scope, which is what an application leaves behind. -/
theorem World.Continues.of_scope {s : Scope} (hframes : w'.frames = w.frames) (hscopes : w'.scopes = w.scopes ++ [s])
    (hmutations : w'.mutations = w.mutations) (hhost : w'.host = w.host) : w.Continues w' where
  undisturbed := by
    refine ⟨hframes, fun id s hs => ?_⟩
    have hid : id < w.scopes.length := (List.getElem?_eq_some_iff.mp hs).1
    rw [World.scope?, hscopes, List.getElem?_append_left hid]
    exact hs
  mutations := hmutations
  host := hhost

namespace Lambda

variable {l : Lambda} {call : Call} {v : Variable} {item : Value} {pos : Nat}

/-! ## Binding -/

/-- The variable of a lambda for the items of a loop.  One without a name is none. -/
def named? (l : Lambda) : Option Variable := l.loop.filter fun v => v.name != ""

/-- **What a variable takes:** a value that can be kept, of the type that the variable asks for.  Whether it
directly holds something unstorable must be possible to find out. -/
structure Takes (settings : Settings) (v : Variable) (item : Value) : Prop where
  keepable : item.Keepable
  searched : ∃ found, item.unstorable? = .ok found
  typed : ∀ d, v.datatype = some d → d.accepts item settings = .ok true

/-- What the check lets through is what the variable takes.  Without a type it is only asked whether the value can be
kept. -/
theorem checkBinding_iff_takes :
    Run.checkBinding v.name v.datatype item settings = .ok () ↔ Takes settings v item := by
  rw [Run.checkBinding_eq_ok]
  constructor
  · rintro ⟨hfree, hsearched, htyped⟩
    exact ⟨(Value.keepable_iff_of_unstorable? hfree hsearched).mpr rfl, ⟨none, hsearched⟩, htyped⟩
  · rintro ⟨hkeep, ⟨found, hsearched⟩, htyped⟩
    obtain rfl := (Value.keepable_iff_of_unstorable? hkeep.1 hsearched).mp hkeep
    exact ⟨hkeep.1, hsearched, htyped⟩

/-- The world with a variable restricted in a scope, if the variable asks for a type. -/
def restricted (v : Variable) (id : Nat) (w : World σ) : World σ :=
  match v.datatype with
  | some d => w.restrict id v.name d
  | none => w

/-- The world with a new scope in which the variable of a lambda is bound to an item. -/
def bound (l : Lambda) (item : Value) (w : World σ) : World σ :=
  match l.named? with
  | some v => (restricted v w.scopes.length w.scoped).bind w.scopes.length v.name item
  | none => w.scoped

/-- Without a variable nothing is bound. -/
theorem bindVariable_of_none (h : l.named? = none) (id : Nat) (value : Option Value) :
    (bindVariable id l.loop value : Run σ Unit) = pure () := by
  unfold named? at h
  cases hloop : l.loop with
  | none => rfl
  | some v =>
    rw [hloop, Option.filter_eq_none_iff] at h
    have hname : v.name = "" := by simpa using h v rfl
    cases value with
    | none => rfl
    | some value =>
      dsimp only [bindVariable]
      rw [if_pos hname]

/-- In a new scope nothing is restricted but what the variable itself asks for.  The scope is new because the
application was given none. -/
theorem restriction?_restricted (v : Variable) (w : World σ) :
    (restricted v w.scopes.length w.scoped).restriction? w.scopes.length v.name = v.datatype := by
  have hnew : w.scoped.scope? w.scopes.length = some ⟨Scope.usualName, w.topScope?, [], []⟩ :=
    List.getElem?_concat_length
  unfold restricted
  cases v.datatype with
  | none =>
    show w.scoped.restriction? _ _ = none
    rw [World.restriction?, hnew]
    rfl
  | some d =>
    show (w.scoped.restrict _ _ _).restriction? _ _ = some d
    rw [World.restriction?_restrict, if_pos ⟨rfl, rfl⟩, hnew]
    rfl

/-- With a variable the name is restricted first, if it is to be, and then set. -/
theorem bindVariable_of_some (h : l.named? = some v) (w : World σ) :
    bindVariable w.scopes.length l.loop (some item) settings w.scoped =
      Run.setVar w.scopes.length v.name item settings (restricted v w.scopes.length w.scoped) := by
  obtain ⟨hloop, hname⟩ := Option.filter_eq_some_iff.mp h
  rw [hloop]
  dsimp only [bindVariable]
  rw [if_neg (by simpa using hname)]
  unfold restricted
  cases v.datatype with
  | none => rfl
  | some d => exact Run.bind_of_ok (Run.defineType_run d)

/-- **Binding a variable in a new scope** succeeds for what the variable takes and for nothing else. -/
theorem bindVariable_cases (settings : Settings) (h : l.named? = some v) (item : Value) (w : World σ) :
    (Takes settings v item ∧
      bindVariable w.scopes.length l.loop (some item) settings w.scoped = (.ok (), bound l item w)) ∨
    (¬ Takes settings v item ∧ ∃ e, Run.checkBinding v.name v.datatype item settings = .error e ∧
      bindVariable w.scopes.length l.loop (some item) settings w.scoped =
        (.error e, restricted v w.scopes.length w.scoped)) := by
  rw [bindVariable_of_some h, ← checkBinding_iff_takes, bound, h]
  rcases Run.setVar_cases settings (restricted v w.scopes.length w.scoped) w.scopes.length v.name item with
    ⟨hcheck, hset⟩ | ⟨e, hcheck, hset⟩
  · rw [restriction?_restricted] at hcheck
    exact Or.inl ⟨hcheck, hset⟩
  · rw [restriction?_restricted] at hcheck
    exact Or.inr ⟨by rw [hcheck]; exact nofun, e, hcheck, hset⟩

/-! ## Entering -/

/-- The world in which a lambda evaluates its clauses for an item at its place in a loop. -/
def entered (l : Lambda) (item : Value) (pos : Nat) (w : World σ) : World σ :=
  let bound := bound l item w
  let (it, next) := item.adopt bound.fresh
  let ambient := (w.frames.head?.map Frame.ambient).getD []
  (({ bound with fresh := next }).noted s!"LAMBDA {l.shownShape} pos {toString (pos : Int)}").inside
    ⟨w.scopes.length, position pos, it, ambient⟩

/-- A lambda without a variable can be entered with any item, and one with a variable with those that it takes. -/
def Enters (settings : Settings) (l : Lambda) (item : Value) : Prop :=
  ∀ v, l.named? = some v → Takes settings v item

/-- **What can be seen when the clauses are evaluated:** the frames of the caller, and on top of them one with the
place of the item and with the item for `it`; the scopes of the caller, and a new one, inside that of the caller,
in which nothing is bound but the variable, to a copy of the item.  The host is as it was. -/
structure Shows (l : Lambda) (item : Value) (pos : Nat) (w w₁ : World σ) : Prop where
  frame : ∃ f, w₁.frames = f :: w.frames ∧ f.scope = w.scopes.length ∧ f.pos = position pos ∧
    ∃ next, f.it = (item.adopt next).1
  scope : ∃ s, w₁.scopes = w.scopes ++ [s] ∧ s.parent = w.topScope? ∧
    (l.named? = none → s.bindings = []) ∧
    ∀ v, l.named? = some v → ∃ copy, copy.CopyOf item ∧ s.bindings = [(v.name, copy)]
  mutations : w₁.mutations = w.mutations
  host : w₁.host = w.host

/-- The last of a list is changed.  New scopes stand last. -/
theorem modify_concat {α : Type} (as : List α) (a : α) (f : α → α) :
    (as ++ [a]).modify as.length f = as ++ [f a] := by
  rw [List.modify_eq_take_cons_drop (by simp)]
  simp

/-- The new scope stands behind the others, restricted or not, and nothing is bound in it yet. -/
theorem scope_restricted (v : Variable) (w : World σ) :
    ∃ s, (restricted v w.scopes.length w.scoped).scopes = w.scopes ++ [s] ∧ s.parent = w.topScope? ∧
      s.bindings = [] := by
  unfold restricted
  cases v.datatype with
  | none => exact ⟨_, rfl, rfl, rfl⟩
  | some d => exact ⟨_, modify_concat w.scopes _ _, rfl, rfl⟩

/-- A scope that is bound to nothing but the variable of a lambda, if it has one, and there to a copy of the item. -/
theorem scope_bound (l : Lambda) (item : Value) (w : World σ) :
    ∃ s, (bound l item w).scopes = w.scopes ++ [s] ∧ s.parent = w.topScope? ∧
      (l.named? = none → s.bindings = []) ∧
      ∀ v, l.named? = some v → ∃ copy, copy.CopyOf item ∧ s.bindings = [(v.name, copy)] := by
  unfold bound
  cases hnamed : l.named? with
  | none => exact ⟨_, rfl, rfl, fun _ => rfl, nofun⟩
  | some v =>
    obtain ⟨s, hscopes, hparent, hbindings⟩ := scope_restricted v w
    let next := (restricted v w.scopes.length w.scoped).fresh
    refine ⟨s.bind v.name (item.clone.adopt next).1, ?_, hparent, nofun, ?_⟩
    · show ((restricted v w.scopes.length w.scoped).scopes.modify _ _) = _
      rw [hscopes, modify_concat]
    · rintro _ ⟨⟩
      refine ⟨(item.clone.adopt next).1, ⟨next, rfl⟩, ?_⟩
      rw [Scope.bind, hbindings]
      rfl

/-- Restricting a name keeps frames, mutations and the host. -/
theorem restricted_keeps (v : Variable) (id : Nat) (w : World σ) :
    (restricted v id w).frames = w.frames ∧ (restricted v id w).mutations = w.mutations ∧
      (restricted v id w).host = w.host := by
  unfold restricted
  cases v.datatype <;> exact ⟨rfl, rfl, rfl⟩

/-- Binding an item to the name of a lambda keeps frames, mutations and the host. -/
theorem bound_keeps (l : Lambda) (item : Value) (w : World σ) :
    (bound l item w).frames = w.frames ∧ (bound l item w).mutations = w.mutations ∧
      (bound l item w).host = w.host := by
  unfold bound
  cases l.named? with
  | none => exact ⟨rfl, rfl, rfl⟩
  | some v => exact restricted_keeps v _ w.scoped

/-- **The clauses are evaluated for the item at its place.**  The item, or a copy of it, is what the variable shows,
and the frame has the place. -/
theorem shows_entered (l : Lambda) (item : Value) (pos : Nat) (w : World σ) :
    Shows l item pos w (entered l item pos w) := by
  obtain ⟨hframes, hmutations, hhost⟩ := bound_keeps l item w
  exact ⟨⟨_, congrArg (_ :: ·) hframes, rfl, rfl, _, rfl⟩, scope_bound l item w, hmutations, hhost⟩

/-! ## One application -/

/-- A lambda with no clauses but a guard and a transform. -/
structure Loops (l : Lambda) : Prop where
  making : l.making = none
  whenTrue : l.whenTrue = none

/-- A call for an item at its place, in a scope of its own. -/
structure Call.ForItem (call : Call) (item : Value) (pos : Nat) : Prop where
  loop : call.loop = some item
  pos : call.pos = position pos
  scope : call.scope = none

/-- An application that is given no scope makes one. -/
theorem callScope_run (hscope : call.scope = none) (w : World σ) :
    callScope call settings w = (.ok w.scopes.length, w.scoped) := by
  rw [callScope, hscope]
  rfl

/-- The fields that a new frame inherits, once the variable is bound.  They are those of the frame before, since
binding touches no frame. -/
theorem inherited_bound (l : Lambda) (item : Value) (next : Nat) (w : World σ) :
    (Run.inherited : Run σ (List (String × Value))) settings { bound l item w with fresh := next } =
      (.ok ((w.frames.head?.map Frame.ambient).getD []), { bound l item w with fresh := next }) := by
  have htop : (Run.topFrame? : Run σ (Option Frame)) settings { bound l item w with fresh := next } =
      (.ok w.frames.head?, { bound l item w with fresh := next }) := by
    rw [← (bound_keeps l item w).1]
    rfl
  rw [Run.inherited, Run.bind_of_ok htop]
  cases w.frames.head? <;> rfl

/-- Once the variable is bound, the frame of an application is ready.  Everything that the frame has is computed from
the call. -/
theorem frameFor_of_bound (hl : l.Loops) (hcall : call.ForItem item pos)
    (hbound : bindVariable w.scopes.length l.loop (some item) settings w.scoped = (.ok (), bound l item w)) :
    ∃ f w₁, frameFor l call settings w = (.ok f, w₁) ∧ w₁.inside f = entered l item pos w := by
  unfold frameFor
  rw [Run.bind_of_ok (callScope_run hcall.scope w), hcall.loop, Run.bind_of_ok hbound, hl.making]
  have hit : (implicitIt l call : Run σ Value) = pure item := by
    rw [implicitIt, hl.making, hl.whenTrue, hcall.loop]
  have hshown : call.shownPos = .ok (toString (pos : Int)) := by
    rw [Call.shownPos, hcall.pos]
    rfl
  rw [hit, hl.whenTrue, hshown, hcall.pos, pure_bind]
  have hadopt : Run.adopt item settings (bound l item w) =
      (.ok (item.adopt (bound l item w).fresh).1,
        { bound l item w with fresh := (item.adopt (bound l item w).fresh).2 }) := rfl
  have hnothing : (bindVariable w.scopes.length none call.making : Run σ Unit) = pure () := rfl
  rw [hnothing, pure_bind, Run.bind_of_ok hadopt, Run.bind_of_ok (inherited_bound l item _ w)]
  exact ⟨_, _, rfl, rfl⟩

/-- **An application is entered** with what the variable takes, and else stops before any clause is evaluated. -/
theorem frameFor_cases (settings : Settings) (hl : l.Loops) (hcall : call.ForItem item pos) (w : World σ) :
    (Enters settings l item ∧ ∃ f w₁, frameFor l call settings w = (.ok f, w₁) ∧
      w₁.inside f = entered l item pos w) ∨
    ∃ v e, l.named? = some v ∧ ¬ Takes settings v item ∧
      Run.checkBinding v.name v.datatype item settings = .error e ∧
      frameFor l call settings w = (.error e, restricted v w.scopes.length w.scoped) := by
  cases hnamed : l.named? with
  | none =>
    refine Or.inl ⟨fun v hv => (nomatch hnamed.symm.trans hv), frameFor_of_bound hl hcall ?_⟩
    rw [bindVariable_of_none hnamed, bound, hnamed]
    rfl
  | some v =>
    rcases bindVariable_cases settings hnamed item w with ⟨htakes, hbound⟩ | ⟨hnot, e, hcheck, hstops⟩
    · refine Or.inl ⟨fun u hu => ?_, frameFor_of_bound hl hcall hbound⟩
      obtain rfl := Option.some.inj (hnamed.symm.trans hu)
      exact htakes
    · refine Or.inr ⟨v, e, rfl, hnot, hcheck, ?_⟩
      unfold frameFor
      rw [Run.bind_of_ok (callScope_run hcall.scope w), hcall.loop, Run.bind_of_error hstops]

/-! ## The clauses -/

/-- A run for a value stops, or its value is or holds an error, or that is free of errors.  The three ways in which a
clause can end. -/
theorem run_cases (x : Run σ Value) (settings : Settings) (w : World σ) :
    (∃ e w', x settings w = (.error e, w')) ∨
    (∃ v e w', x settings w = (.ok v, w') ∧ v.FirstError e) ∨
    ∃ v w', x settings w = (.ok v, w') ∧ v.ErrorFree := by
  rcases Run.stops_or_gives x settings w with ⟨e, w', hstop⟩ | ⟨v, w', hgive⟩
  · exact Or.inl ⟨e, w', hstop⟩
  · rcases v.errorFree_or_firstError with hfree | ⟨e, herror⟩
    · exact Or.inr (Or.inr ⟨v, w', hgive, hfree⟩)
    · exact Or.inr (Or.inl ⟨v, e, w', hgive, herror⟩)

variable {guard via : Option String} {text : String} {e : Failure} {outcome : Except Failure (Option Value)}

/-- A guard that is neither true nor false is refused, by an error that speaks of what it is. -/
def refuseNeither (v : Value) : Check Bool := do
  Check.fail "operation" (s!"This lambda's '{Clause.whereTrue.word}' clause must evaluate to true or false, not "
    ++ (← v.objectName) ++ ".")

/-- A refusal gives no truth value. -/
theorem refuseNeither_ne_ok {v : Value} {b : Bool} : refuseNeither v settings ≠ .ok b := Check.fail_naming_ne_ok

/-- **What a guard comes to** in a world, and the world after it: true if there is none, and else what its text
says there, which has to be a truth value. -/
inductive Guarded (host : Host σ) (settings : Settings) (guard : Option String) (w : World σ) :
    Except Failure Bool → World σ → Prop
  | absent : guard = none → Guarded host settings guard w (.ok true) w
  | stops {text : String} {e : Failure} {w' : World σ} : guard = some text →
      evaluate host text settings w = (.error e, w') → Guarded host settings guard w (.error e) w'
  | error {text : String} {v : Value} {e : StoryError} {w' : World σ} : guard = some text →
      evaluate host text settings w = (.ok v, w') → v.FirstError e →
      Guarded host settings guard w (.error (.story e)) w'
  | neither {text : String} {v : Value} {e : Failure} {w' : World σ} : guard = some text →
      evaluate host text settings w = (.ok v, w') → v.ErrorFree → (∀ b, v ≠ .boolean b) →
      refuseNeither v settings = .error e → Guarded host settings guard w (.error e) w'
  | answers {text : String} {b : Bool} {w' : World σ} : guard = some text →
      evaluate host text settings w = (.ok (.boolean b), w') → Guarded host settings guard w (.ok b) w'

/-- What a guard comes to is what asking it gives. -/
theorem passes_of_guarded (hl : l.Loops) {said : Except Failure Bool}
    (h : Guarded host settings l.whereTrue w said w') : passes host l settings w = (said, w') := by
  have hguard : ∀ {text}, l.whereTrue = some text → l.guard? = some (.whereTrue, text) := by
    intro text htext
    rw [guard?, htext]
  cases h with
  | absent hnone =>
    have hguard : l.guard? = none := by rw [guard?, hnone, hl.whenTrue]
    rw [passes, hguard]
    rfl
  | stops htext heval =>
    rw [passes, hguard htext]
    exact Run.bind_of_error heval
  | @error text v e w' htext heval herror =>
    have hstops : (liftM v.guardError : Run σ Unit) settings w' = (.error (.story e), w') :=
      Prod.ext (Value.guardError_of_firstError herror) rfl
    rw [passes, hguard htext]
    exact (Run.bind_of_ok heval).trans (Run.bind_of_error hstops)
  | @neither text v e w' htext heval hfree hneither hfail =>
    have hpasses : (liftM v.guardError : Run σ Unit) settings w' = (.ok (), w') :=
      Prod.ext (Value.guardError_of_errorFree hfree) rfl
    rw [passes, hguard htext]
    refine (Run.bind_of_ok heval).trans ((Run.bind_of_ok hpasses).trans ?_)
    -- a run and a check name the value alike, and refuse it alike
    have hrefuse : (do
        Check.fail (α := Bool) "operation"
          (s!"This lambda's '{Clause.whereTrue.word}' clause must evaluate to true or false, not "
            ++ (← v.objectName) ++ ".") : Run σ Bool) settings w' = (refuseNeither v settings, w') := by
      unfold refuseNeither
      cases v.objectName <;> rfl
    rw [hfail] at hrefuse
    cases v with
    | boolean b => exact absurd rfl (hneither b)
    | _ => exact hrefuse
  | answers htext heval =>
    rw [passes, hguard htext]
    exact Run.bind_of_ok heval

/-- A guard always comes to something, by the three ways in which its text can be evaluated, and the two truth values.
-/
theorem exists_guarded (host : Host σ) (settings : Settings) (guard : Option String) (w : World σ) :
    ∃ said w', Guarded host settings guard w said w' := by
  cases hguard : guard with
  | none => exact ⟨_, _, .absent rfl⟩
  | some text =>
    rcases run_cases (evaluate host text) settings w with
      ⟨e, w', heval⟩ | ⟨v, e, w', heval, herror⟩ | ⟨v, w', heval, hfree⟩
    · exact ⟨_, _, .stops rfl heval⟩
    · exact ⟨_, _, .error rfl heval herror⟩
    · by_cases hboolean : ∃ b, v = .boolean b
      · obtain ⟨b, rfl⟩ := hboolean
        exact ⟨_, _, .answers rfl heval⟩
      · cases hfail : refuseNeither v settings with
        | ok b => exact absurd hfail refuseNeither_ne_ok
        | error e => exact ⟨_, _, .neither rfl heval hfree (fun b hb => hboolean ⟨b, hb⟩) hfail⟩

/-- **What is made of an item** in a world, and the world after it: the item itself if there is no transform, and
else what the text of this says there, if it has no errors.  A mark for an item that was passed over passes it
over. -/
inductive Transformed (host : Host σ) (settings : Settings) (via : Option String) (item : Value) (w : World σ) :
    Except Failure (Option Value) → World σ → Prop
  | absent : via = none → Transformed host settings via item w (.ok (some item)) w
  | stops {text : String} {e : Failure} {w' : World σ} : via = some text →
      evaluate host text settings w = (.error e, w') → Transformed host settings via item w (.error e) w'
  | error {text : String} {v : Value} {e : StoryError} {w' : World σ} : via = some text →
      evaluate host text settings w = (.ok v, w') → v.FirstError e →
      Transformed host settings via item w (.error (.story e)) w'
  | passedOver {text : String} {w' : World σ} : via = some text →
      evaluate host text settings w = (.ok .filtered, w') → Transformed host settings via item w (.ok none) w'
  | gives {text : String} {v : Value} {w' : World σ} : via = some text →
      evaluate host text settings w = (.ok v, w') → v.ErrorFree → v ≠ .filtered →
      Transformed host settings via item w (.ok (some v)) w'

/-- Something is always made of an item. -/
theorem exists_transformed (host : Host σ) (settings : Settings) (via : Option String) (item : Value) (w : World σ) :
    ∃ outcome w', Transformed host settings via item w outcome w' := by
  cases hvia : via with
  | none => exact ⟨_, _, .absent rfl⟩
  | some text =>
    rcases run_cases (evaluate host text) settings w with
      ⟨e, w', heval⟩ | ⟨v, e, w', heval, herror⟩ | ⟨v, w', heval, hfree⟩
    · exact ⟨_, _, .stops rfl heval⟩
    · exact ⟨_, _, .error rfl heval herror⟩
    · by_cases hfiltered : v = .filtered
      · exact ⟨_, _, .passedOver rfl (hfiltered ▸ heval)⟩
      · exact ⟨_, _, .gives rfl heval hfree hfiltered⟩

/-! ## The item -/

/-- **What becomes of an item** at its place, in a world that a loop has come to, and the world after it.  It fails
if the variable does not take it, or if the guard fails, or the transform; it is passed over if the guard says no;
and else it is what the transform makes of it. -/
inductive Tried (host : Host σ) (settings : Settings) (l : Lambda) (via : Option String) (w : World σ) (item : Value)
    (pos : Nat) : Except Failure (Option Value) → World σ → Prop
  | unbindable {v : Variable} {e : Failure} : l.named? = some v → ¬ Takes settings v item →
      Run.checkBinding v.name v.datatype item settings = .error e →
      Tried host settings l via w item pos (.error e) (restricted v w.scopes.length w.scoped)
  | guardFails {e : Failure} {w' : World σ} : Enters settings l item →
      Guarded host settings l.whereTrue (entered l item pos w) (.error e) w' →
      Tried host settings l via w item pos (.error e) w'.outside
  | refused {w' : World σ} : Enters settings l item →
      Guarded host settings l.whereTrue (entered l item pos w) (.ok false) w' →
      Tried host settings l via w item pos (.ok none) w'.outside
  | accepted {w₁ w₂ : World σ} {outcome : Except Failure (Option Value)} : Enters settings l item →
      Guarded host settings l.whereTrue (entered l item pos w) (.ok true) w₁ →
      Transformed host settings via item w₁ outcome w₂ →
      Tried host settings l via w item pos outcome w₂.outside

/-- **Something becomes of every item.**  It can be bound or not, its guard comes to something, and so does its
transform.  So a loop is known when it is known what it does with an item of which this or that has become. -/
theorem exists_tried (host : Host σ) (settings : Settings) (l : Lambda) (via : Option String) (w : World σ)
    (item : Value) (pos : Nat) : ∃ outcome w', Tried host settings l via w item pos outcome w' := by
  by_cases henters : Enters settings l item
  · obtain ⟨said, w₁, hguard⟩ := exists_guarded host settings l.whereTrue (entered l item pos w)
    cases said with
    | error e => exact ⟨_, _, .guardFails henters hguard⟩
    | ok yes =>
      cases yes with
      | false => exact ⟨_, _, .refused henters hguard⟩
      | true =>
        obtain ⟨outcome, w₂, htransform⟩ := exists_transformed host settings via item w₁
        exact ⟨_, _, .accepted henters hguard htransform⟩
  · obtain ⟨v, hv⟩ := not_forall.mp henters
    obtain ⟨hnamed, hnot⟩ := Classical.not_imp.mp hv
    cases hcheck : Run.checkBinding v.name v.datatype item settings with
    | ok u => exact absurd (checkBinding_iff_takes.mp hcheck) hnot
    | error e => exact ⟨_, _, .unbindable hnamed hnot hcheck⟩

/-- A run that stops where its result is or holds an error. -/
def stopping (x : Run σ Value) : Run σ Value := do
  let v ← x
  v.guardError
  return v

/-- A run that stops does so. -/
theorem stopping_of_error {x : Run σ Value} (h : x settings w = (.error e, w')) :
    stopping x settings w = (.error e, w') :=
  Run.bind_of_error h

/-- A run whose result is or holds an error stops with the first one. -/
theorem stopping_of_firstError {x : Run σ Value} {v : Value} {e : StoryError} (h : x settings w = (.ok v, w'))
    (herror : v.FirstError e) : stopping x settings w = (.error (.story e), w') := by
  have hstops : (liftM v.guardError : Run σ Unit) settings w' = (.error (.story e), w') :=
    Prod.ext (Value.guardError_of_firstError herror) rfl
  exact (Run.bind_of_ok h).trans (Run.bind_of_error hstops)

/-- A run whose result is free of errors gives it. -/
theorem stopping_of_errorFree {x : Run σ Value} {v : Value} (h : x settings w = (.ok v, w')) (hfree : v.ErrorFree) :
    stopping x settings w = (.ok v, w') := by
  have hpasses : (liftM v.guardError : Run σ Unit) settings w' = (.ok (), w') :=
    Prod.ext (Value.guardError_of_errorFree hfree) rfl
  exact (Run.bind_of_ok h).trans (Run.bind_of_ok hpasses)

/-- What an application gives once its guard has said yes. -/
def finish (host : Host σ) (l : Lambda) (call : Call) : Run σ Value :=
  match l.via with
  | some text => if call.ignoreVia then return call.passValue else evaluate host text
  | none => return call.passValue

/-- An application that is entered runs its clauses there, and leaves the frame, however they end. -/
theorem applyOrStop_of_frame {f : Frame} (hframe : frameFor l call settings w = (.ok f, w₁)) :
    applyOrStop host l call settings w =
      ((stopping (answer host l call) settings (w₁.inside f)).1,
        (stopping (answer host l call) settings (w₁.inside f)).2.outside) := by
  have happly : apply host l call settings w = ((answer host l call settings (w₁.inside f)).1,
      (answer host l call settings (w₁.inside f)).2.outside) := (apply_eq_within host l call) ▸ within_of_ok hframe
  rcases run_cases (answer host l call) settings (w₁.inside f) with
    ⟨e, w₂, hanswer⟩ | ⟨v, e, w₂, hanswer, herror⟩ | ⟨v, w₂, hanswer, hfree⟩
  all_goals rw [hanswer] at happly
  · rw [stopping_of_error hanswer]
    exact stopping_of_error happly
  · rw [stopping_of_firstError hanswer herror]
    exact stopping_of_firstError happly herror
  · rw [stopping_of_errorFree hanswer hfree]
    exact stopping_of_errorFree happly hfree

/-- **An application does with an item as becomes of it.**  `mark` says what the application gives for what is made of
the item, and for an item that is passed over. -/
theorem applyOrStop_of_tried {mark : Option Value → Value} (hl : l.Loops) (hcall : call.ForItem item pos)
    (hfail : mark none = call.failValue) (hfree : call.failValue.ErrorFree)
    (hfinish : ∀ {w₁ w₂ : World σ} {outcome}, Transformed host settings via item w₁ outcome w₂ →
      stopping (finish host l call) settings w₁ = (outcome.map mark, w₂))
    (h : Tried host settings l via w item pos outcome w') :
    applyOrStop host l call settings w = (outcome.map mark, w') := by
  rcases frameFor_cases settings hl hcall w with ⟨henters, f, w₁, hframe, hentered⟩ | ⟨v, e, hnamed, hnot, hcheck, hframe⟩
  · -- where the item enters, the guard and what follows it run in a scope of their own
    have hanswer : ∀ {said w₁}, Guarded host settings l.whereTrue (entered l item pos w) said w₁ →
        passes host l settings (entered l item pos w) = (said, w₁) := passes_of_guarded hl
    rw [applyOrStop_of_frame hframe, hentered]
    cases h with
    | unbindable hnamed hnot _ => exact absurd (henters _ hnamed) hnot
    | guardFails _ hguard =>
      have hstop : answer host l call settings (entered l item pos w) = (.error _, _) :=
        Run.bind_of_error (hanswer hguard)
      rw [stopping_of_error hstop]
      rfl
    | refused _ hguard =>
      have hgive : answer host l call settings (entered l item pos w) = (.ok call.failValue, _) :=
        Run.bind_of_ok (hanswer hguard)
      rw [stopping_of_errorFree hgive hfree, ← hfail]
      rfl
    | accepted _ hguard htransform =>
      have hgo : answer host l call settings (entered l item pos w) = finish host l call settings _ :=
        Run.bind_of_ok (hanswer hguard)
      have hstopping : stopping (answer host l call) settings (entered l item pos w) =
          stopping (finish host l call) settings _ := Run.bind_congr _ hgo
      rw [hstopping, hfinish htransform]
  · -- where it does not, the check of the binding stops the application before the guard
    have hstop : applyOrStop host l call settings w = (.error e, restricted v w.scopes.length w.scoped) := by
      have happly : apply host l call settings w = (.error e, restricted v w.scopes.length w.scoped) :=
        (apply_eq_within host l call) ▸ within_of_error hframe
      exact stopping_of_error happly
    cases h with
    | unbindable hnamed' _ hcheck' =>
      obtain rfl := Option.some.inj (hnamed.symm.trans hnamed')
      obtain rfl := Except.error.inj (hcheck.symm.trans hcheck')
      exact hstop
    | guardFails henters _ => exact absurd (henters v hnamed) hnot
    | refused henters _ => exact absurd (henters v hnamed) hnot
    | accepted henters _ _ => exact absurd (henters v hnamed) hnot

/-! ## The next item -/

/-- Evaluating a text makes no difference but to the numbers of new values, for a host that keeps still. -/
theorem evaluate_fresh (hhost : host.Still settings) {result : Except Failure Value}
    (h : evaluate host text settings w = (result, w')) : ∃ next, w' = { w with fresh := next } := by
  rcases Run.stops_or_gives (host.evaluate text) settings w with ⟨e, w₁, hrun⟩ | ⟨v, w₁, hrun⟩
  all_goals obtain rfl : w₁ = w := (congrArg Prod.snd hrun).symm.trans (hhost text w)
  · have hstop : evaluate host text settings w₁ = (.error e, w₁) := Run.bind_of_error hrun
    exact ⟨w₁.fresh, (Prod.mk.inj (h.symm.trans hstop)).2⟩
  · have hgive : evaluate host text settings w₁ = Run.adopt v settings w₁ := Run.bind_of_ok hrun
    exact ⟨(v.adopt w₁.fresh).2, (Prod.mk.inj (h.symm.trans hgive)).2⟩

/-- With a host that changes nothing, asking a guard only uses up numbers for tags. -/
theorem Guarded.fresh (hhost : host.Still settings) {said : Except Failure Bool}
    (h : Guarded host settings guard w said w') : ∃ next, w' = { w with fresh := next } := by
  cases h with
  | absent _ => exact ⟨w.fresh, rfl⟩
  | stops _ heval => exact evaluate_fresh hhost heval
  | error _ heval _ => exact evaluate_fresh hhost heval
  | neither _ heval _ _ _ => exact evaluate_fresh hhost heval
  | answers _ heval => exact evaluate_fresh hhost heval

/-- With a host that changes nothing, a transform only uses up numbers for tags. -/
theorem Transformed.fresh (hhost : host.Still settings) (h : Transformed host settings via item w outcome w') :
    ∃ next, w' = { w with fresh := next } := by
  cases h with
  | absent _ => exact ⟨w.fresh, rfl⟩
  | stops _ heval => exact evaluate_fresh hhost heval
  | error _ heval _ => exact evaluate_fresh hhost heval
  | passedOver _ heval => exact evaluate_fresh hhost heval
  | gives _ heval _ _ => exact evaluate_fresh hhost heval

/-- An item leaves one more scope behind, and nothing else. -/
theorem continues_entered (l : Lambda) (item : Value) (pos : Nat) (w : World σ) (next : Nat) :
    w.Continues ({ entered l item pos w with fresh := next } : World σ).outside := by
  obtain ⟨⟨f, hframes, -⟩, ⟨s, hscopes, -⟩, hmutations, hhost⟩ := shows_entered l item pos w
  exact .of_scope (congrArg List.tail hframes) hscopes hmutations hhost

/-- **The next item is visited where this one was,** whatever has become of this one.  It is what makes the items of a
loop independent of one another for a host that keeps still. -/
theorem Tried.continues (hhost : host.Still settings) (h : Tried host settings l via w item pos outcome w') :
    w.Continues w' := by
  cases h with
  | @unbindable v =>
    obtain ⟨s, hscopes, -⟩ := scope_restricted v w
    obtain ⟨hframes, hmutations, hhost⟩ := restricted_keeps v w.scopes.length w.scoped
    exact .of_scope hframes hscopes hmutations hhost
  | guardFails _ hguard =>
    obtain ⟨next, rfl⟩ := hguard.fresh hhost
    exact continues_entered l item pos w next
  | refused _ hguard =>
    obtain ⟨next, rfl⟩ := hguard.fresh hhost
    exact continues_entered l item pos w next
  | accepted _ hguard htransform =>
    obtain ⟨_, rfl⟩ := hguard.fresh hhost
    obtain ⟨next, rfl⟩ := htransform.fresh hhost
    exact continues_entered l item pos w next

end Lambda

end StoryValues
