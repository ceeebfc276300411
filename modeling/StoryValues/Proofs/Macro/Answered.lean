import StoryValues.Proofs.Macro.Dispatch
import StoryValues.Proofs.World.Faultless

/-
  DISPATCH RAISES NO FAULTS.  Given sound arguments it lets them through or stops with a story error, for every
  signature whose entries can be asked and named (`Entry.Sound`): plain kinds that there are, choices of at least one
  name or clause, and sound datatypes.

  1. **Asking** — an entry says yes or no of every sound value (`Entry.Sound.faultless_accepts`).
  2. **Refusing** — there is a message for every way in which arguments do not fit, if all entries can be put in words
     (`Signature.Worded`) and there is something to say of every value.  So wherever dispatch stops, and no check has
     raised a fault, it stops with a story error (`Callee.StopsAt.faultless`).
  3. **Dispatch as a whole** (`faultless_arguments`), which also keeps values sound when it spreads them.
-/

namespace StoryValues

variable {σ : Type} {settings : Settings}

open Run (Faultless)

/-! ## Entries -/

/-- There is text for a list with something in it.  Of an empty list the code reads the last item, which is a fault. -/
theorem exists_andList {items : List String} (h : items ≠ []) : ∃ text, andList items = .ok text := by
  unfold andList
  split
  · rename_i heq
    exact absurd (List.reverse_eq_nil_iff.mp heq) h
  · exact ⟨_, rfl⟩
  · exact ⟨_, rfl⟩

namespace Entry

/-- An entry that can be asked about every sound value and can be named in a message. -/
inductive Sound : Entry → Prop
  | plain {name : String} : (plainKinds.lookup name).isSome = true → Sound (.plain name)
  | kind (k : Kind) : Sound (.kind k)
  | optional {inner : Entry} : Sound inner → Sound (.optional inner)
  | rest {inner : Entry} {min : Int} : Sound inner → Sound (.rest inner min)
  | either {options : List Entry} : (∀ e ∈ options, Sound e) → Sound (.either options)
  | wrapped {inner : Entry} {message : String} : Sound inner → Sound (.wrapped inner message)
  | range {low high : Number} {whole : Bool} : high.isShort = true → Sound (.range low high whole)
  | positive : Sound .positive
  | conforming {d : Datatype} : d.Sound → Sound (.conforming d)
  | oneOf {names : List String} : names ≠ [] → Sound (.oneOf names)
  | lambda {clauses : List Clause} : clauses ≠ [] → Sound (.lambda clauses)
  | any : Sound .any

mutual

/-- Whether an entry is sound. -/
def isSound : Entry → Bool
  | plain name => (plainKinds.lookup name).isSome
  | optional inner => isSound inner
  | rest inner _ => isSound inner
  | either options => areSound options
  | wrapped inner _ => isSound inner
  | conforming d => decide d.Sound
  | oneOf names => !names.isEmpty
  | lambda clauses => !clauses.isEmpty
  | range _ high _ => high.isShort
  | kind _ | positive | any => true

/-- Whether all entries are sound. -/
def areSound : List Entry → Bool
  | [] => true
  | e :: es => isSound e && areSound es

end

mutual

/-- Soundness of an entry can be evaluated.  By recursion on the entry along with lists of entries. -/
theorem sound_of_isSound : (e : Entry) → e.isSound = true → e.Sound
  | .plain _, h => .plain h
  | .kind k, _ => .kind k
  | .optional inner, h => .optional (sound_of_isSound inner h)
  | .rest inner _, h => .rest (sound_of_isSound inner h)
  | .either options, h => .either (sound_of_areSound options h)
  | .wrapped inner _, h => .wrapped (sound_of_isSound inner h)
  | .range _ _ _, h => .range h
  | .positive, _ => .positive
  | .conforming _, h => .conforming (of_decide_eq_true h)
  | .oneOf (_ :: _), _ => .oneOf (List.cons_ne_nil _ _)
  | .lambda (_ :: _), _ => .lambda (List.cons_ne_nil _ _)
  | .any, _ => .any

/-- So can that of several entries, as signatures have them. -/
theorem sound_of_areSound : (es : List Entry) → areSound es = true → ∀ e ∈ es, e.Sound
  | [], _ => List.forall_mem_nil _
  | e :: es, h =>
    have h := (Bool.and_eq_true _ _).mp h
    List.forall_mem_cons.mpr ⟨sound_of_isSound e h.1, sound_of_areSound es h.2⟩

end

/-- Where each entry has a name, there are names for all of them, as many as entries. -/
theorem exists_typeNames {es : List Entry} (h : ∀ e ∈ es, ∃ text, e.typeName = .ok text) :
    ∃ texts, typeNames es = .ok texts ∧ texts.length = es.length := by
  induction es with
  | nil => exact ⟨[], rfl, rfl⟩
  | cons e es ih =>
    obtain ⟨⟨first, hfirst⟩, hothers⟩ := List.forall_mem_cons.mp h
    obtain ⟨others, hrun, hlength⟩ := ih hothers
    refine ⟨first :: others, ?_, congrArg Nat.succ hlength⟩
    rw [typeNames, hfirst, hrun]
    rfl

/-- A range is named by its upper bound, so this has to be short enough to be written. -/
theorem exists_rangeName {low high : Number} {whole : Bool} (h : high.isShort = true) :
    ∃ text, rangeName low high whole = .ok text := by
  have hhigh : ∃ text, high.text = .ok text := by
    cases high with
    | int n => exact ⟨_, Number.format_of_isShort h⟩
    | real x => exact ⟨_, rfl⟩
  obtain ⟨text, htext⟩ := hhigh
  unfold rangeName
  dsimp only
  rw [htext]
  split
  · exact ⟨_, rfl⟩
  · split
    · exact ⟨_, rfl⟩
    · split <;> exact ⟨_, rfl⟩

/-- A sound entry has a name: by induction on the entry, since a choice is named by its options. -/
theorem Sound.exists_typeName {e : Entry} (h : e.Sound) : ∃ text, e.typeName = .ok text := by
  induction h with
  | plain hlisted =>
    obtain ⟨⟨test, word⟩, hlookup⟩ := Option.isSome_iff_exists.mp hlisted
    exact ⟨word, by rw [typeName, hlookup]⟩
  | optional _ ih =>
    obtain ⟨text, htext⟩ := ih
    exact ⟨_, by rw [typeName, htext]; rfl⟩
  | rest _ ih => exact ih
  | wrapped _ ih => exact ih
  | either _ ih =>
    obtain ⟨texts, htexts, _⟩ := exists_typeNames ih
    exact ⟨_, by rw [typeName, htexts]; rfl⟩
  | range hhigh => exact exists_rangeName hhigh
  | _ => exact ⟨_, rfl⟩

/-- An entry can be put in words: it has a name, and where it is a list of names or of clauses, there is one. -/
structure Worded (e : Entry) : Prop where
  named : ∃ text, e.typeName = .ok text
  names : e ≠ .oneOf []
  clauses : e ≠ .lambda []

/-- A sound entry can be put in words. -/
theorem Sound.worded {e : Entry} (h : e.Sound) : e.Worded where
  named := h.exists_typeName
  names := by
    rintro rfl
    cases h with
    | oneOf h => exact h rfl
  clauses := by
    rintro rfl
    cases h with
    | lambda h => exact h rfl

/-! ### Asking -/

variable {v : Value}

/-- Whether a number is in a range can be asked of every sound value.  That it be whole asks for a double near it,
which a sound number has. -/
theorem exists_inRange (low high : Number) (whole : Bool) (hv : v.Sound) :
    ∃ yes, inRange low high whole v = .ok yes := by
  unfold inRange
  split
  · split
    · split
      · exact Number.exists_isWhole hv.of_number
      · exact ⟨true, rfl⟩
    · exact ⟨false, rfl⟩
  · exact ⟨false, rfl⟩

/-- All plain kinds can be asked about sound values.  The table is gone through. -/
theorem forall_mem_plainKinds (hv : v.Sound) : ∀ k ∈ plainKinds, ∃ yes, k.2.1 v = .ok yes := by
  simp only [plainKinds, List.forall_mem_cons, List.not_mem_nil, false_implies, implies_true, and_true]
  exact ⟨⟨_, rfl⟩, ⟨_, rfl⟩, Datatype.exists_isInteger hv.measured, ⟨_, rfl⟩, ⟨_, rfl⟩, ⟨_, rfl⟩, ⟨_, rfl⟩⟩

/-- A choice can be asked if each of its options can, by induction on them. -/
theorem faultless_acceptsOne {es : List Entry} (h : ∀ e ∈ es, Check.Faultless settings (accepts v e)) :
    Check.Faultless settings (acceptsOne v es) := by
  induction es with
  | nil => exact Check.faultless_pure _
  | cons e es ih =>
    obtain ⟨he, hes⟩ := List.forall_mem_cons.mp h
    rw [acceptsOne]
    exact .bind_ite he (Check.faultless_pure _) (ih hes)

/-- **An entry can be asked about every sound value.**  By induction on the entry; the only cases with anything to ask
are plain kinds, ranges and datatypes. -/
theorem Sound.faultless_accepts (hsettings : settings.Bundled) {e : Entry} (h : e.Sound)
    (hv : v.Sound) : Check.Faultless settings (accepts v e) := by
  induction h with
  | plain hlisted =>
    obtain ⟨⟨test, word⟩, hlookup⟩ := Option.isSome_iff_exists.mp hlisted
    unfold accepts
    rw [hlookup]
    exact Check.faultless_lift (forall_mem_plainKinds hv _ (Datatype.mem_of_lookup hlookup))
  | optional _ ih => exact ih
  | rest _ ih => exact ih
  | wrapped _ ih => exact ih
  | either _ ih => exact faultless_acceptsOne ih
  | range _ => exact Check.faultless_lift (exists_inRange _ _ _ hv)
  | positive => exact Check.faultless_lift (exists_inRange _ _ _ hv)
  | conforming hd =>
    have hasked := Check.answers_attempt (hd.faultless_accepts hv.measured hsettings.catalogue)
    refine Check.StopsOnly.bind hasked.faultless fun answer _ => ?_
    cases answer <;> exact Check.faultless_pure _
  | oneOf _ =>
    unfold accepts
    cases v <;> exact Check.faultless_pure _
  | lambda _ =>
    unfold accepts
    cases v <;> exact Check.faultless_pure _
  | _ => exact Check.faultless_pure _

end Entry

/-! ## Refusals -/

/-- All entries of a signature can be asked and named. -/
def Signature.Sound (s : Signature) : Prop := ∀ e ∈ s.entries, e.Sound

/-- Soundness of a signature can be evaluated, as that of its entries. -/
theorem Signature.sound_of_areSound {s : Signature} (h : Entry.areSound s.entries = true) : s.Sound :=
  Entry.sound_of_areSound s.entries h

/-- All entries of a signature can be put in words. -/
def Signature.Worded (s : Signature) : Prop := ∀ e ∈ s.entries, e.Worded

/-- A sound signature can be put in words. -/
theorem Signature.Sound.worded {s : Signature} (h : s.Sound) : s.Worded := fun e he => (h e he).worded

/-- A sound signature raises no fault when it is asked about sound values, be it by an entry of its own or by that for
the rest. -/
theorem Signature.Sound.not_raises {s : Signature} (h : s.Sound) (hsettings : settings.Bundled) {values : List Value}
    (hvalues : ∀ v ∈ values, v.Sound) (f : Fault) : ¬ s.Raises settings values f := by
  rintro ⟨i, v, e, -, hv, -, hasks, hraises⟩
  have hasked := (h e hasks.mem_entries).faultless_accepts hsettings (hvalues v (List.mem_of_getElem? hv))
  obtain ⟨err, herr⟩ := hasked _ hraises
  cases herr

namespace Dispatch

namespace Callee

variable {c : Callee} {index : Nat} {e : Entry} {arg : Value} (hsettings : settings.Bundled)
  (hc : c.signature.Worded)

section

open Check (Gives gives_message)

/-- The clauses that a lambda has or should have can be listed, if there are any. -/
theorem exists_clausesText {has : Clause → Bool} {clause : Clause} (h : has clause = true) :
    ∃ text, clausesText has = .ok text := by
  refine exists_andList fun hnil => ?_
  have hmem : clause ∈ clauseOrder.filter has := List.mem_filter.mpr ⟨by cases clause <;> decide, h⟩
  rw [List.map_eq_nil_iff.mp hnil] at hmem
  exact absurd hmem List.not_mem_nil

include hsettings hc

/-- The explanation of a signature has all its entries in it by name, so they must have names. -/
theorem gives_signatureInfo : Gives settings c.signatureInfo fun _ => True := by
  have hmessage : ∀ {key given}, Catalogue.canGive key given = true →
      Gives settings (Check.message key given) fun _ => True := by
    intro key given h
    obtain ⟨text, hrun, _⟩ := gives_message hsettings h
    exact ⟨text, hrun, trivial⟩
  unfold signatureInfo
  dsimp only
  split
  · exact hmessage rfl
  · rename_i hsome
    obtain ⟨texts, htexts, hlength⟩ := Entry.exists_typeNames fun e he => (hc e he).named
    refine (Gives.lift ⟨texts, htexts⟩).bind fun texts' htexts' => ?_
    obtain rfl := Except.ok.inj (htexts.symm.trans htexts')
    have hne : texts ≠ [] := by
      rintro rfl
      exact hsome (List.isEmpty_iff.mpr (List.eq_nil_of_length_eq_zero hlength.symm))
    exact (Gives.lift (exists_andList hne)).bind fun types _ => hmessage rfl

/-- The explanation of one entry is that of its kind, or that of the whole signature. -/
theorem gives_info (e : Entry) : Gives settings (c.info e) fun _ => True := by
  cases e with
  | wrapped inner message => exact .pure trivial
  | _ => exact gives_signatureInfo hsettings hc

/-- Every argument that its entry refuses is spoken of, if there is anything to say of it.  The cases are those of the
messages, which differ by entry and by argument. -/
theorem gives_refusal (he : e.Worded) (harg : ∃ text, arg.objectName = .ok text) :
    Gives settings (c.refusal index e arg) fun r => r.1 ≠ "" := by
  unfold refusal
  refine (gives_info hsettings hc e).bind fun info _ => ?_
  have hactual : Gives settings (Check.lift arg.objectName) fun text => arg.objectName = .ok text :=
    .lift harg
  -- the message for a wrong type, which most entries share
  have husual : ∀ {label nth}, Gives settings (do
      let actual ← arg.objectName
      let expected ← e.typeName
      let text ← Check.message "wrong_type"
        [("label", .string label), ("nth", .string nth), ("actual", .string actual), ("expected", .string expected)]
      return (text, info) : Check (String × String)) fun r => r.1 ≠ "" := by
    intro label nth
    refine hactual.bind fun actual _ => (Gives.lift he.named).bind fun expected _ => ?_
    exact (gives_message hsettings rfl).bind fun text htext => .pure htext
  dsimp only
  split
  · split
    · exact hactual.bind fun actual _ => (gives_message hsettings rfl).bind fun text htext => .pure htext
    · exact husual
  · -- a lambda is refused by its clauses; an entry without any has no words for that
    rename_i clauses l
    have hclauses : clauses ≠ [] := fun hnil => he.clauses (congrArg Entry.lambda hnil)
    obtain ⟨clause, rest, rfl⟩ := List.exists_cons_of_ne_nil hclauses
    have hfirst : (clause :: rest).contains clause = true := by simp
    refine (Gives.lift (exists_clausesText hfirst)).bind fun expected _ => ?_
    split
    · refine Gives.bind (P := fun _ => True) (.pure trivial) fun actual _ => ?_
      exact (gives_message hsettings rfl).bind fun text htext => .pure htext
    · rename_i hshape
      obtain ⟨given, hmem⟩ := List.exists_mem_of_ne_nil _ fun hnil => hshape (List.isEmpty_iff.mpr hnil)
      refine (Gives.lift (exists_clausesText (List.mem_filter.mp hmem).2)).bind fun actual _ => ?_
      exact (gives_message hsettings rfl).bind fun text htext => .pure htext
  · -- a string is refused with the names that there are
    rename_i names s
    have hnames : names ≠ [] := fun hnil => he.names (congrArg Entry.oneOf hnil)
    refine hactual.bind fun actual _ => (gives_message hsettings rfl).bind fun text htext => ?_
    have hlisted : ∃ text, andList (names.map fun n => s!"'{n}'") = .ok text :=
      exists_andList fun hnil => hnames (List.map_eq_nil_iff.mp hnil)
    refine (Gives.lift hlisted).bind fun listed _ => ?_
    exact (gives_message hsettings rfl).bind fun _ _ => .pure htext
  · exact husual

/-! ### Stopping -/

/-- Too many arguments are refused with their number, which is that of a list and can be written. -/
theorem faultless_tooMany (surplus : Nat) : Check.Faultless settings (c.tooMany surplus : Check Unit) := by
  refine (gives_message hsettings rfl).faultless_bind fun text htext => ?_
  refine (gives_signatureInfo hsettings hc).faultless_bind fun info _ => ?_
  exact Check.faultless_failWith hsettings.catalogue (by decide) htext

/-- A missing argument is refused with the name of its entry. -/
theorem faultless_missing (e : Entry) : Check.Faultless settings (c.missing index e : Check Unit) := by
  refine (gives_info hsettings hc e).faultless_bind fun info _ => ?_
  refine (gives_message hsettings rfl).faultless_bind fun text htext => ?_
  exact Check.faultless_failWith hsettings.catalogue (by decide) htext

/-- An argument that its entry refuses is refused with a message, if there is one. -/
theorem faultless_refuse (he : e.Worded) (harg : ∃ text, arg.objectName = .ok text) :
    Check.Faultless settings (c.refuse index e arg : Check Unit) := by
  refine (gives_refusal hsettings hc he harg).faultless_bind fun r hr => ?_
  exact Check.faultless_failWith hsettings.catalogue (by decide) hr

end

/-! ### Places -/

variable {values : List Value} {i : Nat} {stop : Check Unit}

include hsettings

/-- **Wherever dispatch stops, it stops with a story error,** if no check raised a fault, all entries can be put in words
and there is something to say of every value. -/
theorem StopsAt.faultless (h : c.StopsAt settings values i stop) (hc : c.signature.Worded)
    (hclear : ∀ j < i, c.signature.ClearAt settings values j)
    (hnames : ∀ v ∈ values, ∃ text, v.objectName = .ok text)
    (hquiet : ∀ f, ¬ c.signature.Raises settings values f) : Check.Faultless settings stop := by
  cases h with
  | error _ _ => exact Check.faultless_story _
  | raised hv hfree hasks hraises => exact absurd ⟨i, _, _, hclear, hv, hfree, hasks, hraises⟩ (hquiet _)
  | refused hv _ hasks _ =>
    exact faultless_refuse hsettings hc (hc _ hasks.mem_entries) (hnames _ (List.mem_of_getElem? hv))
  | missing _ _ _ => exact faultless_missing hsettings hc _
  | surplus _ _ _ _ => exact faultless_tooMany hsettings hc _

/-- Going through all places of sound values raises no fault: wherever it stops it does so with an error, and no check
has raised a fault on the way. -/
theorem faultless_checks (hc : c.signature.Sound) (hvalues : ∀ v ∈ values, v.Sound) :
    Faultless settings (c.checkFrom 0 c.signature.fixed values : Run σ Unit) fun _ => True := by
  intro w
  rcases checks_end c settings values w with ⟨-, hrun⟩ | ⟨i, stop, w', hclear, hstops, hrun⟩
  · exact .of_ok hrun trivial
  · have hstory : Check.Faultless settings stop :=
      hstops.faultless hsettings hc.worded hclear (fun v hv => (hvalues v hv).exists_objectName)
        (hc.not_raises hsettings hvalues)
    obtain ⟨failure, hstop⟩ := hstops.exists_failure
    obtain ⟨e, rfl⟩ := hstory failure hstop
    exact .of_story (hrun.trans (congrArg (·, w') hstop))

end Callee

/-! ## The whole -/

/-- What a call can be given: a sound value, or one behind dots, which may be an error there. -/
def IsArgument (v : Value) : Prop := v.Sound ∨ ∃ u, v = .spread u ∧ u.Sound

variable (hsettings : settings.Bundled)
include hsettings

/-- Of what cannot be spread out there is an error, if there is something to say of it.  The error stands among the
arguments, and it is for the checks to find it there. -/
theorem gives_cannotSpread {u : Value} (hname : ∃ text, u.objectName = .ok text) :
    Check.Gives settings
      (do
        let text ← Check.message "cannot_spread" [("actual", .string (← u.objectName))]
        return [.error (← StoryError.create "operation" text none)])
      fun values => ∃ e, values = [Value.error e] := by
  refine (Check.Gives.lift hname).bind fun actual _ => ?_
  refine (Check.gives_message hsettings rfl).bind fun text htext => ?_
  obtain ⟨e, he⟩ : ∃ e, StoryError.create "operation" text none settings = .ok e :=
    Check.exists_create_bundled hsettings.catalogue none (by decide) htext
  exact Check.Gives.bind (P := fun _ => True) ⟨e, he, trivial⟩ fun e _ => .pure ⟨e, rfl⟩

/-- **Spreading gives sound values,** whatever stands behind the dots.  Parts of sound values are sound, and strings
fall into characters. -/
theorem gives_spreadOne {v : Value} (hv : IsArgument v) :
    Check.Gives settings (spreadOne v) fun values => ∀ x ∈ values, x.Sound := by
  -- dots in front of a value; without them an argument stands for itself
  have hspread : ∀ {u : Value}, u.Sound →
      Check.Gives settings (spreadOne (.spread u)) fun values => ∀ x ∈ values, x.Sound := by
    intro u hu
    unfold spreadOne
    dsimp only
    split
    · rename_i e
      exact .pure (List.forall_mem_singleton.mpr (.error e))
    · refine .pure fun x hx => ?_
      obtain ⟨char, _, rfl⟩ := List.mem_map.mp hx
      exact .string _
    · exact .pure hu.of_array
    · obtain ⟨ordered, hordered, hperm⟩ := hu.exists_sorted
      exact ⟨ordered, Check.lift_eq_ok.mpr hordered, fun x hx => hu.of_dataset x (hperm.subset hx)⟩
    · rename_i w
      exact .pure (List.forall_mem_singleton.mpr (.typedVar _))
    · obtain ⟨values, hrun, e, rfl⟩ := gives_cannotSpread hsettings hu.exists_objectName
      exact ⟨_, hrun, List.forall_mem_singleton.mpr (.error e)⟩
  rcases hv with hv | ⟨u, rfl, hu⟩
  · cases v with
    | spread u => exact hspread hv.of_spread
    | _ => exact .pure (List.forall_mem_singleton.mpr hv)
  · exact hspread hu

/-- So does spreading all arguments, one after another. -/
theorem gives_spreadArguments {args : List Value} (hargs : ∀ v ∈ args, IsArgument v) :
    Check.Gives settings (spreadArguments args) fun values => ∀ x ∈ values, x.Sound := by
  induction args with
  | nil => exact .pure (List.forall_mem_nil _)
  | cons arg args ih =>
    obtain ⟨harg, hargs⟩ := List.forall_mem_cons.mp hargs
    refine (gives_spreadOne hsettings harg).bind fun first hfirst => ?_
    refine (ih hargs).bind fun others hothers => ?_
    exact .pure (List.forall_mem_append.mpr ⟨hfirst, hothers⟩)

/-- **Dispatch raises no faults,** and what it lets through is sound.  Arguments are spread, and then gone through;
what comes out is what the signature admits. -/
theorem faultless_arguments {c : Callee} (hc : c.signature.Sound) {args : List Value}
    (hargs : ∀ v ∈ args, IsArgument v) :
    Faultless settings (arguments c args : Run σ (List Value)) fun passed =>
      (∀ v ∈ passed, v.Sound) ∧ c.signature.Admits settings args passed ∧ c.signature.SomeIfAny passed := by
  have hpassed : Faultless settings (arguments c args : Run σ (List Value)) fun passed => ∀ v ∈ passed, v.Sound := by
    refine (Faultless.checked (Check.faultless_guardErrors args)).bind fun _ _ => ?_
    refine (Faultless.gives (gives_spreadArguments hsettings hargs)).bind fun passed hpassed => ?_
    refine (Callee.faultless_checks hsettings hc hpassed).bind fun _ _ => ?_
    exact (Faultless.notice _).bind fun _ _ => .pure hpassed
  intro w
  refine (hpassed w).with_run.mono fun passed w' ⟨hsound, hrun⟩ => ?_
  obtain ⟨hadmits, hsome, _⟩ := arguments_ok hrun
  exact ⟨hsound, hadmits, hsome⟩

end Dispatch

end StoryValues
