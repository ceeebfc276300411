import StoryValues.Error.Limit
import StoryValues.Lambda.Apply
import StoryValues.Proofs.Error.Faultless
import StoryValues.Proofs.Run

/-
  FOLDING: a filter, and then a fold of what it keeps.

  `fold` asks the guard twice.  The filter asks about every item, at its place among all items and with nothing
  bound to the accumulating variable.  The fold then applies the whole lambda, so the guard is asked once more about
  each item that was kept but the first, now at its place among those that were kept and with the total bound.

  1. **One application** (`within`): all that comes before the clauses are evaluated, with any code in their place.
     Asking the guard and running the transform are two such codes.
  2. **The plain fold** (`foldStep`) runs the transform for every item that was kept and never asks.
  3. **What a fold does** (`reconsider`, `foldFrom_eq`): where the guard says yes again it takes the step of the plain
     fold, where it says no it passes the item over, and where it is an error it stops.
  4. **When that is the plain fold** (`foldlM_reconsider`): as long as the guard does not change its mind at any total
     that the plain fold comes to.  A guard that looks at its place may (`fold_passes_over`).

  Evaluation is taken to leave the world as it is (`Host.Still`), as it does where what a text gives is a function of
  the text and of the latest frame.
-/

namespace StoryValues

variable {σ α : Type} {settings : Settings} {host : Host σ} {w w' : World σ}

/-- Evaluating a text changes nothing. -/
def Host.Still (host : Host σ) (settings : Settings) : Prop :=
  ∀ text w, (host.evaluate text settings w).2 = w

/-- The world with a frame on top of the others. -/
def World.inside (w : World σ) (f : Frame) : World σ := { w with frames := f :: w.frames }

/-- The world without its latest frame. -/
def World.outside (w : World σ) : World σ := { w with frames := w.frames.tail }

namespace Lambda

variable {l : Lambda} {call : Call} {via : String} {total : Value} {p : Value × Nat} {ps : List (Value × Nat)}

/-! ## One application -/

/-- The frame of an application: the variables of the lambda are bound in a scope of it. -/
def frameFor (l : Lambda) (call : Call) : Run σ Frame := do
  let scope ← callScope call
  bindVariable scope l.loop call.loop
  bindVariable scope l.making call.making
  let it ← Run.adopt (← implicitIt l call)
  let ambient ← Run.inherited
  Run.notice s!"LAMBDA {l.shownShape} pos {← call.shownPos}"
  return { scope, pos := if l.whenTrue.isSome then Value.nothing else call.pos, it, ambient }

/-- An application with other code in place of the clauses. -/
def within (l : Lambda) (call : Call) (body : Run σ α) : Run σ α := do
  let frame ← frameFor l call
  Run.withFrame frame body

/-- **An application runs its clauses in its frame.** -/
theorem apply_eq_within (host : Host σ) (l : Lambda) (call : Call) :
    apply host l call = within l call (answer host l call) := by
  simp only [apply, within, frameFor, bind_assoc, pure_bind]

/-- Either an application stops before its clauses, whatever they are, or it runs them in a frame. -/
theorem within_of_error {body : Run σ α} {e : Failure} (h : frameFor l call settings w = (.error e, w')) :
    within l call body settings w = (.error e, w') :=
  Run.bind_of_error h

theorem within_of_ok {body : Run σ α} {f : Frame} (h : frameFor l call settings w = (.ok f, w')) :
    within l call body settings w =
      ((body settings (w'.inside f)).1, (body settings (w'.inside f)).2.outside) :=
  Run.bind_of_ok h

/-! ## The guard and the transform -/

/-- A truth value has no tag to be made. -/
theorem adopt_eq_boolean {v : Value} {yes : Bool} {next next' : Nat} (h : v.adopt next = (.boolean yes, next')) :
    next' = next := by
  cases v with
  | boolean b => exact (Prod.mk.inj h).2.symm
  | _ => exact nomatch (Prod.mk.inj h).1

/-- A text that gives a truth value leaves the world as it is. -/
theorem evaluate_still (hhost : host.Still settings) {text : String} {yes : Bool}
    (h : evaluate host text settings w = (.ok (.boolean yes), w')) : w' = w := by
  obtain ⟨v, w₁, hv, hadopt⟩ := Run.bind_eq_ok.mp h
  obtain rfl : w₁ = w := (congrArg Prod.snd hv).symm.trans (hhost text w)
  obtain ⟨hboolean, hworld⟩ := Prod.mk.inj hadopt
  have hnext : (v.adopt w₁.fresh).2 = w₁.fresh := adopt_eq_boolean (Prod.ext (Except.ok.inj hboolean) rfl)
  have hworld : { w₁ with fresh := (v.adopt w₁.fresh).2 } = w' := hworld
  rw [hnext] at hworld
  exact hworld.symm

/-- **A guard that gives an answer leaves the world as it is.** -/
theorem passes_still (hhost : host.Still settings) {yes : Bool} (h : passes host l settings w = (.ok yes, w')) :
    w' = w := by
  rw [passes] at h
  cases hguard : l.guard? with
  | none =>
    rw [hguard] at h
    exact (Prod.mk.inj h).2.symm
  | some guard =>
    rw [hguard] at h
    obtain ⟨condition, w₁, hcondition, hrest⟩ := Run.bind_eq_ok.mp h
    obtain ⟨u, w₂, hfree, hanswer⟩ := Run.bind_eq_ok.mp hrest
    obtain ⟨rfl, -⟩ := Run.check_eq_ok.mp hfree
    cases condition with
    | boolean b => exact (Prod.mk.inj hanswer).2.symm.trans (evaluate_still hhost hcondition)
    | _ =>
      obtain ⟨_, _, _, hfail⟩ := Run.bind_eq_ok.mp hanswer
      exact absurd (Run.check_eq_ok.mp hfail).2 Check.fail_ne_ok

theorem passes_of_yes (hhost : host.Still settings) (h : (passes host l settings w).1 = .ok true) :
    passes host l settings w = (.ok true, w) :=
  Prod.ext h (passes_still hhost (Prod.ext h rfl))

/-! ## The plain fold -/

/-- The application of a fold to an item at its place, with the total so far. -/
def foldCall (total : Value) (p : Value × Nat) : Call :=
  { Call.usual with loop := some p.1, pos := position p.2, making := some total }

/-- The total after a step that gave a value.  The mark of an item that was passed over is no value of a story, and
leaves the total. -/
def totalAfter (total result : Value) : Value :=
  match result with
  | .filtered => total
  | v => v

/-- **A step of the plain fold:** the transform alone, applied to an item with the total so far. -/
def foldStep (host : Host σ) (l : Lambda) (via : String) (total : Value) (p : Value × Nat) : Run σ Value := do
  let result ← within l (foldCall total p) (evaluate host via)
  result.guardError
  return totalAfter total result

/-- What the guard says about an item at its place, with the total so far. -/
def asked (host : Host σ) (l : Lambda) (total : Value) (p : Value × Nat) : Run σ Bool :=
  within l (foldCall total p) (passes host l)

/-- **A step of a fold:** the guard is asked once more.  An item that it accepts is folded in, and one that it refuses
is passed over. -/
def reconsider (host : Host σ) (l : Lambda) (via : String) (total : Value) (p : Value × Nat) : Run σ Value :=
  fun settings w =>
    match asked host l total p settings w with
    | (.ok true, _) => foldStep host l via total p settings w
    | (.ok false, w') => (.ok total, w')
    | (.error e, w') => (.error e, w')

/-- One step of the loop of a fold. -/
theorem foldFrom_cons (host : Host σ) (l : Lambda) (total item : Value) (pos : Nat) (items : List Value) :
    foldFrom host l total pos (item :: items) = (do
      let result ← within l (foldCall total (item, pos)) (answer host l (foldCall total (item, pos)))
      result.guardError
      foldFrom host l (totalAfter total result) (pos + 1) items) := by
  rw [foldFrom, applyOrStop, apply_eq_within]
  simp only [bind_assoc, pure_bind]
  rfl

/-- What a lambda with a transform answers, by what its guard says. -/
theorem answer_eq (hvia : l.via = some via) (hcall : call.ignoreVia = false) :
    answer host l call = (do if ← passes host l then evaluate host via else return call.failValue) := by
  rw [answer, hvia, hcall]
  rfl

/-- A guard that says no, in an application. -/
theorem within_answer_of_no (hvia : l.via = some via) (hcall : call.ignoreVia = false)
    (h : within l call (passes host l) settings w = (.ok false, w')) :
    within l call (answer host l call) settings w = (.ok call.failValue, w') := by
  rcases Run.stops_or_gives (frameFor l call) settings w with ⟨e, w₁, hframe⟩ | ⟨f, w₁, hframe⟩
  · cases h.symm.trans (within_of_error hframe)
  · obtain ⟨hno, hworld⟩ := Prod.mk.inj ((within_of_ok hframe).symm.trans h)
    rw [within_of_ok hframe, answer_eq hvia hcall, Run.bind_of_ok (Prod.ext hno rfl)]
    exact Prod.ext rfl hworld

/-- A guard that stops, in an application. -/
theorem within_answer_of_error {e : Failure} (h : within l call (passes host l) settings w = (.error e, w')) :
    within l call (answer host l call) settings w = (.error e, w') := by
  rcases Run.stops_or_gives (frameFor l call) settings w with ⟨e', w₁, hframe⟩ | ⟨f, w₁, hframe⟩
  · obtain ⟨herror, rfl⟩ := Prod.mk.inj ((within_of_error hframe).symm.trans h)
    obtain rfl := Except.error.inj herror
    exact within_of_error hframe
  · obtain ⟨herror, hworld⟩ := Prod.mk.inj ((within_of_ok hframe).symm.trans h)
    rw [within_of_ok hframe, answer, Run.bind_of_error (Prod.ext herror rfl)]
    exact Prod.ext rfl hworld

/-- A guard that says yes, in an application: the transform is all that is left to see. -/
theorem within_answer_of_yes (hhost : host.Still settings) (hvia : l.via = some via) (hcall : call.ignoreVia = false)
    (h : within l call (passes host l) settings w = (.ok true, w')) :
    within l call (answer host l call) settings w = within l call (evaluate host via) settings w := by
  rcases Run.stops_or_gives (frameFor l call) settings w with ⟨e, w₁, hframe⟩ | ⟨f, w₁, hframe⟩
  · exact (within_of_error hframe).trans (within_of_error hframe).symm
  · have hpasses := passes_of_yes hhost (Prod.mk.inj ((within_of_ok hframe).symm.trans h)).1
    rw [within_of_ok hframe, within_of_ok hframe, answer_eq hvia hcall, Run.bind_of_ok hpasses]
    rfl

/-- A fold goes on from one step to the next. -/
theorem foldFrom_cons_eq (hhost : host.Still settings) (hvia : l.via = some via) (total item : Value) (pos : Nat)
    (items : List Value) (w : World σ) :
    foldFrom host l total pos (item :: items) settings w =
      (reconsider host l via total (item, pos) >>= fun total => foldFrom host l total (pos + 1) items) settings w := by
  rw [foldFrom_cons]
  rcases Run.stops_or_gives (asked host l total (item, pos)) settings w with ⟨e, w', hasked⟩ | ⟨yes, w', hasked⟩
  · have hstep : reconsider host l via total (item, pos) settings w = (.error e, w') := by
      rw [reconsider, hasked]
    rw [Run.bind_of_error hstep, Run.bind_of_error (within_answer_of_error hasked)]
  · cases yes with
    | true =>
      have hstep : reconsider host l via total (item, pos) settings w =
          foldStep host l via total (item, pos) settings w := by
        rw [reconsider, hasked]
      rw [Run.bind_congr _ hstep, Run.bind_congr _ (within_answer_of_yes hhost hvia rfl hasked), foldStep]
      simp only [bind_assoc, pure_bind]
    | false =>
      have hstep : reconsider host l via total (item, pos) settings w = (.ok total, w') := by
        rw [reconsider, hasked]
      rw [Run.bind_of_ok hstep, Run.bind_of_ok (within_answer_of_no hvia rfl hasked)]
      rfl

/-- **A fold reconsiders its items,** one after another. -/
theorem foldFrom_eq (hhost : host.Still settings) (hvia : l.via = some via) (items : List Value) (total : Value)
    (pos : Nat) (w : World σ) :
    foldFrom host l total pos items settings w =
      (items.zipIdx pos).foldlM (reconsider host l via) total settings w := by
  induction items generalizing total pos w with
  | nil => rfl
  | cons item items ih =>
    rw [foldFrom_cons_eq hhost hvia, List.zipIdx_cons, List.foldlM_cons]
    rcases Run.stops_or_gives (reconsider host l via total (item, pos)) settings w with
      ⟨e, w', hstep⟩ | ⟨total', w', hstep⟩
    · rw [Run.bind_of_error hstep, Run.bind_of_error hstep]
    · rw [Run.bind_of_ok hstep, Run.bind_of_ok hstep]
      exact ih total' (pos + 1) w'

/-! ## When a fold is the plain fold -/

/-- Wherever the plain fold comes to, asking the guard about the next item comes to no more than a guard that is always
true: it does not change its mind about an item. -/
def AcceptsAgain (host : Host σ) (l : Lambda) (via : String) (settings : Settings) (first : Value)
    (ps : List (Value × Nat)) (w : World σ) : Prop :=
  ∀ before p after, ps = before ++ p :: after → ∀ total w',
    before.foldlM (foldStep host l via) first settings w = (.ok total, w') →
      asked host l total p settings w' = within l (foldCall total p) (pure true) settings w'

/-- A lambda without a guard accepts everything. -/
theorem acceptsAgain_of_unguarded (hguard : l.guard? = none) : AcceptsAgain host l via settings total ps w := by
  intro before p after _ total w' _
  rw [asked, passes, hguard]

/-- The guard judges the item alone: neither its place nor the total nor anything else in the world makes a
difference. -/
def JudgesItem (host : Host σ) (l : Lambda) (settings : Settings) : Prop :=
  ∃ verdict : Value → Bool, ∀ (call : Call) (item : Value) (w w' : World σ) (f : Frame), call.loop = some item →
    frameFor l call settings w = (.ok f, w') → (passes host l settings (w'.inside f)).1 = .ok (verdict item)

/-- An application that marks refusals as false is true only where the guard says yes. -/
theorem passes_of_within_answer (hfail : call.failValue = .boolean false)
    (h : within l call (answer host l call) settings w = (.ok (.boolean true), w')) :
    ∃ f w₁, frameFor l call settings w = (.ok f, w₁) ∧ (passes host l settings (w₁.inside f)).1 = .ok true := by
  rcases Run.stops_or_gives (frameFor l call) settings w with ⟨e, w₁, hframe⟩ | ⟨f, w₁, hframe⟩
  · cases h.symm.trans (within_of_error hframe)
  · refine ⟨f, w₁, hframe, ?_⟩
    have hanswer := (Prod.mk.inj ((within_of_ok hframe).symm.trans h)).1
    obtain ⟨yes, w₂, hpasses, hyes⟩ := Run.bind_eq_ok.mp (Prod.ext hanswer rfl)
    cases yes with
    | true => exact congrArg Prod.fst hpasses
    | false =>
      have hno := Except.ok.inj (Prod.mk.inj hyes).1
      rw [hfail] at hno
      cases hno

/-- What is kept by a guard that judges items is what it accepts. -/
theorem verdict_of_filterFrom {verdict : Value → Bool}
    (hjudges : ∀ (call : Call) (item : Value) (w w' : World σ) (f : Frame), call.loop = some item →
      frameFor l call settings w = (.ok f, w') → (passes host l settings (w'.inside f)).1 = .ok (verdict item))
    {items ks : List Value} {pos : Nat} (h : filterFrom host l none pos items settings w = (.ok ks, w')) :
    ∀ k ∈ ks, verdict k = true := by
  induction items generalizing ks pos w w' with
  | nil =>
    obtain rfl := Except.ok.inj (Prod.mk.inj h).1
    exact List.forall_mem_nil _
  | cons item items ih =>
    obtain ⟨passed, w₁, hpassed, h⟩ := Run.bind_eq_ok.mp h
    obtain ⟨rest, w₂, hrest, h⟩ := Run.bind_eq_ok.mp h
    have hks := Except.ok.inj (Prod.mk.inj h).1
    split at hks
    · obtain ⟨v, w₃, happly, h⟩ := Run.bind_eq_ok.mp hpassed
      obtain ⟨u, w₄, -, hv⟩ := Run.bind_eq_ok.mp h
      obtain rfl := Except.ok.inj (Prod.mk.inj hv).1
      rw [apply_eq_within] at happly
      obtain ⟨f, w₅, hframe, hyes⟩ := passes_of_within_answer rfl happly
      have hverdict := Except.ok.inj ((hjudges _ item w w₅ f rfl hframe).symm.trans hyes)
      exact hks ▸ List.forall_mem_cons.mpr ⟨hverdict, ih hrest⟩
    · exact hks ▸ ih hrest

theorem AcceptsAgain.tail (h : AcceptsAgain host l via settings total (p :: ps) w) {total' : Value}
    (hstep : foldStep host l via total p settings w = (.ok total', w')) :
    AcceptsAgain host l via settings total' ps w' := by
  rintro before p' after rfl total'' w'' hbefore
  refine h (p :: before) p' after rfl total'' w'' ?_
  rw [List.foldlM_cons, Run.bind_of_ok hstep, hbefore]

/-- **A guard that judges items does not change its mind** about those that it has kept. -/
theorem acceptsAgain_of_judgesItem (hhost : host.Still settings) (hjudges : JudgesItem host l settings)
    {items rest : List Value} {first : Value} {w₀ : World σ} {pos : Nat}
    (h : filter host l items none settings w₀ = (.ok (first :: rest), w)) :
    AcceptsAgain host l via settings first (rest.zipIdx pos) w := by
  obtain ⟨verdict, hjudges⟩ := hjudges
  intro before p after hps total w' _
  have hmem : p.1 ∈ rest := by
    have hp : p ∈ rest.zipIdx pos := hps ▸ List.mem_append_right before List.mem_cons_self
    exact List.fst_mem_of_mem_zipIdx hp
  have hverdict := verdict_of_filterFrom hjudges h p.1 (List.mem_cons_of_mem first hmem)
  rw [asked]
  rcases Run.stops_or_gives (frameFor l (foldCall total p)) settings w' with ⟨e, w₁, hframe⟩ | ⟨f, w₁, hframe⟩
  · rw [within_of_error hframe, within_of_error hframe]
  · have hpasses := passes_of_yes hhost (hverdict ▸ hjudges (foldCall total p) p.1 w' w₁ f rfl hframe)
    rw [within_of_ok hframe, within_of_ok hframe, hpasses]
    rfl

/-- An item that the guard accepts again is folded in. -/
theorem reconsider_eq_foldStep
    (h : asked host l total p settings w = within l (foldCall total p) (pure true) settings w) :
    reconsider host l via total p settings w = foldStep host l via total p settings w := by
  rw [reconsider, h]
  rcases Run.stops_or_gives (frameFor l (foldCall total p)) settings w with ⟨e, w₁, hframe⟩ | ⟨f, w₁, hframe⟩
  · rw [within_of_error hframe, foldStep, Run.bind_of_error (within_of_error hframe)]
  · rw [within_of_ok hframe]
    rfl

/-- **A guard that does not change its mind leaves the plain fold.** -/
theorem foldlM_reconsider (h : AcceptsAgain host l via settings total ps w) :
    ps.foldlM (reconsider host l via) total settings w = ps.foldlM (foldStep host l via) total settings w := by
  induction ps generalizing total w with
  | nil => rfl
  | cons p ps ih =>
    have hstep : reconsider host l via total p settings w = foldStep host l via total p settings w :=
      reconsider_eq_foldStep (h [] p ps rfl total w rfl)
    rw [List.foldlM_cons, List.foldlM_cons]
    rcases Run.stops_or_gives (foldStep host l via total p) settings w with ⟨e, w', hplain⟩ | ⟨total', w', hplain⟩
    · rw [Run.bind_of_error (hstep.trans hplain), Run.bind_of_error hplain]
    · rw [Run.bind_of_ok (hstep.trans hplain), Run.bind_of_ok hplain]
      exact ih (h.tail hplain)

/-! ## Folding -/

/-- What is folded: the items that the filter keeps, and all of them where there is no `where` clause. -/
def kept (host : Host σ) (l : Lambda) (items : List Value) : Run σ (List Value) :=
  if l.whereTrue.isSome then filter host l items none else pure items

/-- A fold goes on with what is kept. -/
theorem fold_eq_kept {items : List Value} :
    fold host l items = (kept host l items >>= fun items => match items with
      | [] => Check.fail (α := Value) "operation"
          s!"There were no values left for {l.objectName} to fold after filtering."
      | first :: rest => foldFrom host l first 2 rest) := by
  rw [fold, kept]
  split <;> rfl

/-- **A fold is a filter and then a fold of what it keeps,** in which the guard is asked again.

* An error of the filter is the answer.
* If nothing is kept, the answer is an operation error.
* Otherwise the items that were kept are reconsidered one after another, from the first of them, each at its place
  among them and once.  That is the plain fold, to its end or its first error, if the guard does not change its
  mind; and without a guard it never does. -/
theorem fold_eq_filter_reconsider (hhost : host.Still settings) (hvia : l.via = some via) (items : List Value)
    (w : World σ) :
    match kept host l items settings w with
    | (.error e, w') => fold host l items settings w = (.error e, w')
    | (.ok [], w') => (settings.catalogue.explanation? "operation").isSome = true →
        ∃ e, fold host l items settings w = (.error (.story e), w') ∧ e.kind = "operation"
    | (.ok (first :: rest), w') =>
        fold host l items settings w = (rest.zipIdx 2).foldlM (reconsider host l via) first settings w' ∧
        (AcceptsAgain host l via settings first (rest.zipIdx 2) w' →
          fold host l items settings w = (rest.zipIdx 2).foldlM (foldStep host l via) first settings w') ∧
        (l.guard? = none ∨ l.whereTrue.isSome = true ∧ JudgesItem host l settings →
          AcceptsAgain host l via settings first (rest.zipIdx 2) w') := by
  -- what filtering stops with, the fold stops with
  rcases Run.stops_or_gives (kept host l items) settings w with ⟨e, w', hkept⟩ | ⟨items', w', hkept⟩
  · rw [hkept]
    exact fold_eq_kept ▸ Run.bind_of_error hkept
  · rw [hkept, fold_eq_kept, Run.bind_of_ok hkept]
    cases items' with
    | nil =>
      intro hkind
      have hmessage : s!"There were no values left for {l.objectName} to fold after filtering." ≠ "" :=
        append_ne_empty_right _ (by decide)
      obtain ⟨e, he, hoperation, -⟩ := @Check.exists_create settings _ _ none hmessage hkind
      exact ⟨e, Prod.ext (Check.bind_of_ok he) rfl, hoperation⟩
    | cons first rest =>
      have hreconsider := foldFrom_eq hhost hvia rest first 2 w'
      refine ⟨hreconsider, fun haccepts => hreconsider.trans (foldlM_reconsider haccepts), ?_⟩
      rintro (hguard | ⟨hwhere, hjudges⟩)
      · exact acceptsAgain_of_unguarded hguard
      · rw [kept, if_pos hwhere] at hkept
        exact acceptsAgain_of_judgesItem hhost hjudges hkept

/-! ### Some folds -/

/-- What two texts say: whether the place is not the second one, and the sum of the item and the total. -/
def placeText (text : String) (w : World Unit) : Value :=
  match w.frames with
  | [] => .nothing
  | f :: _ =>
    if text = "place" then .boolean (f.pos ≠ position 2)
    else match w.value? f.scope "_item", w.value? f.scope "_total" with
      | some (.number (.int m)), some (.number (.int n)) => .number (.int (m + n))
      | _, _ => .nothing

/-- A host that evaluates these texts and does nothing else. -/
def placeHost : Host Unit where
  evaluate text := fun _ w => (.ok (placeText text w), w)
  call _ _ := pure .nothing
  mutate _ := fun _ styles => (styles, pure .nothing)
  mapHeld _ u := u

/-- The lambda that sums all items, with or without a guard. -/
def summing (guard : Option String) : Lambda where
  loop := some ⟨"_item", none⟩
  making := some ⟨"_total", none⟩
  whereTrue := guard
  whenTrue := none
  via := some "sum"
  source := ""
  tag := none

/-- Without a guard, the sum of 1, 2 and 3 is 6. -/
theorem fold_summing :
    let settings : Settings := Settings.usual
    let w : World Unit := World.start [] ()
    let items : List Value := [.number (.int 1), .number (.int 2), .number (.int 3)]
    placeHost.Still settings ∧ (summing none).via = some "sum" ∧
      fold placeHost (summing none) items settings w =
        [(Value.number (.int 2), 2), (.number (.int 3), 3)].foldlM (foldStep placeHost (summing none) "sum")
          (.number (.int 1)) settings w ∧
      (fold placeHost (summing none) items settings w).1 = .ok (.number (.int 6)) := by
  intro settings w items
  have hstill : placeHost.Still settings := fun _ _ => rfl
  obtain ⟨_, hplain, hunguarded⟩ := fold_eq_filter_reconsider (l := summing none) hstill rfl items w
  exact ⟨hstill, rfl, hplain (hunguarded (Or.inl rfl)), by decide +kernel⟩

/-- **An item that was kept is passed over.** Of 1, 2 and 3 the guard keeps the first and the third.  The third is the
second of these, so the guard refuses it when it is asked again, and the fold is 1, where the plain fold is 4. -/
theorem fold_passes_over :
    let settings : Settings := Settings.usual
    let w : World Unit := World.start [] ()
    let items : List Value := [.number (.int 1), .number (.int 2), .number (.int 3)]
    let l := summing (some "place")
    placeHost.Still settings ∧
      (filter placeHost l items none settings w).1 = .ok [.number (.int 1), .number (.int 3)] ∧
      ([(Value.number (.int 3), 2)].foldlM (foldStep placeHost l "sum") (.number (.int 1)) settings
        (filter placeHost l items none settings w).2).1 = .ok (.number (.int 4)) ∧
      (fold placeHost l items settings w).1 = .ok (.number (.int 1)) := by
  refine ⟨fun _ _ => rfl, ?_, ?_, ?_⟩ <;> decide +kernel

end Lambda

end StoryValues
