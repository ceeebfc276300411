import StoryValues.Proofs.Run
import StoryValues.World.Patterns
import StoryValues.World.Variables

/-
  WHAT A RUN LEAVES ALONE.

  Scopes are numbered as they are made, so whoever calls has only scopes that are older than all that
  the call makes: a run that writes to none but scopes of its own is one that writes to scopes from the
  first free number on.

  1. **Between two worlds** (`World.Spares`): the frames are the same, no scope has gone, and the scopes
     that may be touched are known.  It is carried along a run by `World.Spares.trans`.
  2. **Of a run** (`Run.Confined`): on these frames it spares all scopes below a number, however it ends.
     Each step has a lemma, and a sequence is confined if its steps are (`Confined.bind`).
  3. **Code of a host** (`Run.Tidy`) may write to the scope of the latest frame as well.  Inside a frame
     with a scope of its own it is confined (`Confined.withFrame`, `Tidy.confined`).
-/

namespace StoryValues

variable {σ α β : Type}

/-! ## Worlds -/

/-- The scope of the latest frame. -/
def World.topScope? (w : World σ) : Option Nat := w.frames.head?.map Frame.scope

/-- From one world to another the frames are the same, no scope has gone, and every scope is as it was
but for those that may be touched. -/
structure World.Spares (touched : Nat → Prop) (w w' : World σ) : Prop where
  frames : w'.frames = w.frames
  scopes : w.scopes.length ≤ w'.scopes.length
  others : ∀ id < w.scopes.length, ¬ touched id → w'.scopes[id]? = w.scopes[id]?

/-- The frames are the same, and so are all scopes that there were. -/
def World.Undisturbed (w w' : World σ) : Prop :=
  w'.frames = w.frames ∧ ∀ id s, w.scope? id = some s → w'.scope? id = some s

namespace World.Spares

variable {touched touched' : Nat → Prop} {w w' w'' : World σ}

/-- A world spares itself. -/
theorem refl (w : World σ) : w.Spares touched w := ⟨rfl, Nat.le_refl _, fun _ _ _ => rfl⟩

/-- From world to world, as a run goes on: what is spared on the way is spared in the end. -/
theorem trans (h : w.Spares touched w') (h' : w'.Spares touched w'') : w.Spares touched w'' where
  frames := h'.frames.trans h.frames
  scopes := Nat.le_trans h.scopes h'.scopes
  others id hid hnot :=
    (h'.others id (Nat.lt_of_lt_of_le hid h.scopes) hnot).trans (h.others id hid hnot)

/-- A run that may touch less touches nothing else, as far as there are scopes.  It is used to forget the scopes that
a run has made itself. -/
theorem mono (h : w.Spares touched w') (hsub : ∀ id < w.scopes.length, touched id → touched' id) :
    w.Spares touched' w' where
  frames := h.frames
  scopes := h.scopes
  others id hid hnot := h.others id hid fun ht => hnot (hsub id hid ht)

/-- What keeps frames and scopes spares everything. -/
theorem of_eq (hframes : w'.frames = w.frames) (hscopes : w'.scopes = w.scopes) :
    w.Spares touched w' :=
  ⟨hframes, Nat.le_of_eq (by rw [hscopes]), fun id _ _ => by rw [hscopes]⟩

/-- A scope of an allowed number is changed, and all others are as they were. -/
theorem modifyScope (w : World σ) {id : Nat} (f : Scope → Scope) (h : touched id) :
    w.Spares touched (w.modifyScope id f) where
  frames := rfl
  scopes := by simp [World.modifyScope]
  others other _ hnot := by
    have hne : id ≠ other := fun heq => hnot (heq ▸ h)
    simp [World.modifyScope, hne]

/-- Sparing all scopes that there were is to disturb nothing: those that are touched are new. -/
theorem undisturbed (h : w.Spares (fun id => w.scopes.length ≤ id) w') : w.Undisturbed w' := by
  refine ⟨h.frames, fun id s hs => ?_⟩
  have hid : id < w.scopes.length := by
    by_contra hge
    simp [World.scope?, hge] at hs
  rw [World.scope?, h.others id hid (Nat.not_le.mpr hid)]
  exact hs

end World.Spares

/-! ## Runs -/

namespace Run

/-- On these frames, with at least so many scopes already, the run spares the scopes below the number,
whether it gives a result, a story error or a fault. -/
def Confined (n : Nat) (fs : List Frame) (x : Run σ α) : Prop :=
  ∀ (settings : Settings) (w : World σ), n ≤ w.scopes.length → w.frames = fs →
    w.Spares (n ≤ ·) (x settings w).2

/-- The run leaves the frames as it finds them and writes to no scope but that of the latest frame,
whether it gives a result, a story error or a fault. -/
def Tidy (x : Run σ α) : Prop :=
  ∀ (settings : Settings) (w : World σ),
    w.Spares (fun id => w.topScope? = some id) (x settings w).2

variable {n : Nat} {fs : List Frame}

/-- A tidy run is confined where the latest frame, if there is one, has a scope that may be touched. -/
theorem Tidy.confined {x : Run σ α} (hx : x.Tidy) (htop : ∀ f, fs.head? = some f → n ≤ f.scope) :
    Confined n fs x := by
  intro settings w _ hfs
  refine (hx settings w).mono fun id _ htouched => ?_
  rw [World.topScope?, hfs, Option.map_eq_some_iff] at htouched
  obtain ⟨f, hf, rfl⟩ := htouched
  exact htop f hf

/-- What is confined wherever it starts disturbs nothing.  The number is then that of the scopes which there are at
the start. -/
theorem undisturbed_of_confined {x : Run σ α} (hx : ∀ n fs, Confined n fs x) (settings : Settings)
    (w : World σ) : w.Undisturbed (x settings w).2 :=
  (hx _ _ settings w (Nat.le_refl _) rfl).undisturbed

/-- What is confined wherever it starts is tidy: a run that touches only scopes of its own touches at most the scope
of the latest frame besides. -/
theorem tidy_of_confined {x : Run σ α} (hx : ∀ n fs, Confined n fs x) : x.Tidy := fun settings w =>
  (hx _ _ settings w (Nat.le_refl _) rfl).mono fun _ hlt hle => absurd hlt (Nat.not_lt.mpr hle)

namespace Confined

/-! ## Steps -/

/-- A step that keeps frames and scopes.  Notices, tags and mutations are none of both. -/
theorem of_eq {x : Run σ α}
    (h : ∀ settings w, (x settings w).2.frames = w.frames ∧ (x settings w).2.scopes = w.scopes) :
    Confined n fs x :=
  fun settings w _ _ => .of_eq (h settings w).1 (h settings w).2

/-- A step that does not change the world: a result, a question, a check. -/
theorem still {x : Run σ α} (h : ∀ settings w, (x settings w).2 = w) : Confined n fs x :=
  of_eq fun settings w => by rw [h settings w]; exact ⟨rfl, rfl⟩

theorem pure (a : α) : Confined n fs (Pure.pure a : Run σ α) := still fun _ _ => rfl

/-- A check looks at settings only. -/
theorem check (c : Check α) : Confined n fs (liftM c : Run σ α) := still fun _ _ => rfl

/-- A sequence is confined if its steps are: the first step leaves the frames and the scopes that the
others start from. -/
theorem bind {x : Run σ α} {f : α → Run σ β} (hx : Confined n fs x) (hf : ∀ a, Confined n fs (f a)) :
    Confined n fs (x >>= f) := by
  intro settings w hn hfs
  have hfirst := hx settings w hn hfs
  cases hrun : x settings w with
  | mk result w' =>
    rw [hrun] at hfirst
    cases result with
    | error e => rw [bind_of_error hrun]; exact hfirst
    | ok a =>
      rw [bind_of_ok hrun]
      exact hfirst.trans
        (hf a settings w' (Nat.le_trans hn hfirst.scopes) (hfirst.frames.trans hfs))

/-- Looking at the world changes nothing. -/
theorem world : Confined n fs (Run.world : Run σ (World σ)) := still fun _ _ => rfl

/-- Asking for the latest frame changes nothing. -/
theorem topFrame? : Confined n fs (Run.topFrame? : Run σ (Option Frame)) := still fun _ _ => rfl

/-- Asking for the fields that a new frame inherits changes nothing. -/
theorem inherited : Confined n fs (Run.inherited : Run σ (List (String × Value))) :=
  topFrame?.bind fun top => by cases top <;> exact pure _

/-- A notice is a line and no scope. -/
theorem notice (line : String) : Confined n fs (Run.notice line : Run σ Unit) :=
  of_eq fun _ _ => ⟨rfl, rfl⟩

/-- Giving tags uses up numbers, and touches no scope: what is bound there has its tags already. -/
theorem adopt (v : Value) : Confined n fs (Run.adopt v : Run σ Value) := of_eq fun _ _ => ⟨rfl, rfl⟩

/-- Setting a story error aside leaves the world as the run left it, since a run that stops keeps what it has done. -/
theorem attempt {x : Run σ α} (hx : Confined n fs x) : Confined n fs x.attempt := by
  intro settings w hn hfs
  have hrun := hx settings w hn hfs
  have hworld : (x.attempt settings w).2 = (x settings w).2 := by
    unfold Run.attempt
    split <;> simp [*]
  rw [hworld]
  exact hrun

/-- Making a value of an error does so, too. -/
theorem outcome {x : Run σ Value} (hx : Confined n fs x) : Confined n fs x.outcome :=
  hx.attempt.bind fun result => by cases result <;> exact pure _

/-- One step for each of a list, by recursion on it. -/
theorem forM {γ : Type} {f : γ → Run σ Unit} (hf : ∀ c, Confined n fs (f c)) :
    ∀ cs : List γ, Confined n fs (cs.forM f)
  | [] => pure ()
  | c :: cs => (hf c).bind fun _ => forM hf cs

/-! ## Scopes and frames -/

/-- A new scope has a number that may be touched: it is that of the scopes so far, and these are at least as many as
are to be spared. -/
theorem newScope {parent : Option Nat} {name : String} {f : Nat → Run σ α}
    (hf : ∀ id, n ≤ id → Confined n fs (f id)) : Confined n fs (Run.newScope parent name >>= f) := by
  intro settings w hn hfs
  have hmade : w.Spares (n ≤ ·) ((Run.newScope parent name : Run σ Nat) settings w).2 := by
    refine ⟨rfl, by simp [Run.newScope], fun id hid _ => ?_⟩
    simp only [Run.newScope]
    exact List.getElem?_append_left hid
  have hrun : (Run.newScope parent name : Run σ Nat) settings w =
      (.ok w.scopes.length, ((Run.newScope parent name : Run σ Nat) settings w).2) := rfl
  rw [bind_of_ok hrun]
  exact hmade.trans
    (hf _ hn settings _ (Nat.le_trans hn hmade.scopes) (hmade.frames.trans hfs))

/-- Restricting a name in a scope that may be touched. -/
theorem defineType {id : Nat} (hid : n ≤ id) (key : String) (d : Datatype) :
    Confined n fs (Run.defineType id key d : Run σ Unit) :=
  fun _ w _ _ => .modifyScope w _ hid

/-- Setting a name there.  The check comes first, and then the value gets tags; only then the scope is changed. -/
theorem setVar {id : Nat} (hid : n ≤ id) (key : String) (v : Value) :
    Confined n fs (Run.setVar id key v : Run σ Unit) :=
  world.bind fun _ => (check _).bind fun _ => (adopt _).bind fun _ =>
    fun _ w _ _ => .modifyScope w _ hid

/-- What is confined inside a frame is confined without it: the frame is taken away again, however the
run inside it ends. -/
theorem withFrame {f : Frame} {body : Run σ α} (hbody : Confined n (f :: fs) body) :
    Confined n fs (Run.withFrame f body) := by
  intro settings w hn hfs
  have hinside := hbody settings { w with frames := f :: w.frames } hn (by rw [hfs])
  exact ⟨congrArg List.tail hinside.frames, hinside.scopes, hinside.others⟩

/-! ## Patterns -/

/-- Notices about patterns that are built are notices. -/
theorem patternNotices (names : List String) :
    Confined n fs (Run.patternNotices names : Run σ Unit) :=
  forM (fun _ => notice _) names

/-- Building a pattern writes notices and checks. -/
theorem buildPattern (name : String) (args : List Value) :
    Confined n fs (Run.buildPattern name args : Run σ Value) := by
  unfold Run.buildPattern
  split
  · exact check _
  · next build _ =>
    refine (attempt (check (build args))).bind fun result => ?_
    cases result with
    | ok d => exact (patternNotices _).bind fun _ => pure _
    | error e => exact (patternNotices _).bind fun _ => check _

end Confined

end Run

end StoryValues
