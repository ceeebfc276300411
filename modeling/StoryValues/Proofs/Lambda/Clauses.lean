import StoryValues.Error.Limit
import StoryValues.Lambda.Create
import StoryValues.Proofs.Error.Faultless
import StoryValues.Proofs.Value.Errors

/-
  LAMBDAS BUILT CLAUSE BY CLAUSE.

  Each clause is checked against the lambda that there is so far.  What comes of many clauses can nevertheless be
  said without following the steps.

  1. **The latest of each kind** — `made`: the lambda that has the variable it started with, and of each kind the
     clause that was given last.
  2. **Compatible clauses** — `Compatible`: accumulating variables are variables and have names of their own, a
     `when` clause is alone, and no kind comes again, except after `where true`.  One more clause keeps that up
     iff it is admitted (`compatible_snoc_iff`), and iff it is, `create` makes the next lambda of it
     (`ofOutcome_create`).
  3. **The whole run** (`build_cases`), by induction on the clauses from the last one: compatible clauses make that
     lambda, and all others come to an error.  Neither the lambda nor whether there is one depends on the order of
     clauses of different kinds (`compatible_of_perm`, `latest_of_perm`).
-/

namespace StoryValues

namespace Lambda

/-! ## Clauses that are given -/

/-- What a lambda starts with: nothing, the name of a variable, or a typed variable. -/
inductive Start where
  | nothing
  | name (s : String)
  | typed (v : TypedVar)

namespace Start

/-- What a lambda starts with, as the subject of its first clause. -/
def value : Start → Value
  | nothing => .nothing
  | name s => .string s
  | typed v => .typedVar v

/-- The loop variable. -/
def loop? (start : Start) : Option Variable := variableOf? start.value

end Start

/-- A clause as it is given, with the source of the lambda so far: anything for an accumulating variable, and text
for the others. -/
inductive Given where
  | making (content : Value) (source : String)
  | whereTrue (text source : String)
  | whenTrue (text source : String)
  | via (text source : String)

namespace Given

/-- The kind of the clause. -/
def kind : Given → Clause
  | making .. => .making
  | whereTrue .. => .whereTrue
  | whenTrue .. => .whenTrue
  | via .. => .via

/-- What stands after its word. -/
def content : Given → Value
  | making content _ => content
  | whereTrue text _ | whenTrue text _ | via text _ => .string text

/-- The source of the lambda that it ends. -/
def source : Given → String
  | making _ source | whereTrue _ source | whenTrue _ source | via _ source => source

/-- The accumulating variable, if this names one. -/
def making? : Given → Option Variable
  | making content _ => variableOf? content
  | _ => none

/-- The text, if this is a clause of a kind that has one. -/
def text? : Clause → Given → Option String
  | .whereTrue, whereTrue text _ | .whenTrue, whenTrue text _ | .via, via text _ => some text
  | _, _ => none

variable {k : Clause} {c : Given}

/-- A clause that has an accumulating variable is of that kind, and names it. -/
theorem of_making? {v : Variable} (h : c.making? = some v) : c.kind = .making ∧ variableOf? c.content = some v := by
  cases c with
  | making => exact ⟨rfl, h⟩
  | _ => exact nomatch h

/-- A clause that has a text of some kind is of that kind. -/
theorem of_text? {text : String} (h : c.text? k = some text) : c.kind = k ∧ c.content = .string text := by
  unfold text? at h
  split at h
  · exact ⟨rfl, congrArg Value.string (Option.some.inj h)⟩
  · exact ⟨rfl, congrArg Value.string (Option.some.inj h)⟩
  · exact ⟨rfl, congrArg Value.string (Option.some.inj h)⟩
  · exact nomatch h

/-- A clause of any kind but the accumulating variable has its text. -/
theorem isSome_text?_iff (hk : k ≠ .making) : (c.text? k).isSome = true ↔ c.kind = k := by
  cases k with
  | making => exact absurd rfl hk
  | _ => cases c <;> simp [text?, kind]

end Given

/-- Gives clauses to a subject, one after another.  An error is a value too, to which clauses can be given. -/
def build (subject : Value) (given : List Given) : Check Value :=
  given.foldlM (fun subject c => Value.ofOutcome (create subject c.kind.word c.content c.source)) subject

variable {α : Type} {settings : Settings} {start : Start} {given given' : List Given} {c : Given}

/-! ## The latest of each kind -/

/-- What the latest of the clauses has for us that has anything. -/
def latest (pick : Given → Option α) (given : List Given) : Option α := given.reverse.findSome? pick

section

variable {pick : Given → Option α} {a : α}

/-- One more clause is the latest of its kind. -/
theorem latest_snoc : latest pick (given ++ [c]) = (pick c).or (latest pick given) := by
  rw [latest, List.reverse_append, List.reverse_singleton, List.singleton_append, List.findSome?_cons]
  cases pick c <;> rfl

/-- The latest of a kind is one that was given. -/
theorem exists_of_latest (h : latest pick given = some a) : ∃ c ∈ given, pick c = some a := by
  obtain ⟨c, hc, ha⟩ := List.exists_of_findSome?_eq_some h
  exact ⟨c, List.mem_reverse.mp hc, ha⟩

/-- There is none where none was given. -/
theorem latest_eq_none_iff : latest pick given = none ↔ ∀ c ∈ given, pick c = none := by
  rw [latest, List.findSome?_eq_none_iff]
  exact forall_congr' fun c => by rw [List.mem_reverse]

variable {k : Clause} (hpick : ∀ c a, pick c = some a → c.kind = k)
include hpick

/-- Of clauses of different kinds, only one can have it. -/
theorem latest_eq_some_iff (hdistinct : (given.map Given.kind).Nodup) :
    latest pick given = some a ↔ ∃ c ∈ given, pick c = some a := by
  refine ⟨exists_of_latest, fun ⟨c, hc, ha⟩ => ?_⟩
  cases hlatest : latest pick given with
  | none =>
    rw [latest_eq_none_iff.mp hlatest c hc] at ha
    exact nomatch ha
  | some b =>
    obtain ⟨c', hc', hb⟩ := exists_of_latest hlatest
    have hkind : c.kind = c'.kind := (hpick c a ha).trans (hpick c' b hb).symm
    obtain rfl : c = c' := List.inj_on_of_nodup_map hdistinct hc hc' hkind
    exact hb.symm.trans ha

/-- **Of clauses of different kinds, the latest does not depend on their order.** -/
theorem latest_of_perm (hdistinct : (given.map Given.kind).Nodup) (h : given.Perm given') :
    latest pick given = latest pick given' := by
  refine Option.ext fun a => ?_
  rw [latest_eq_some_iff hpick hdistinct, latest_eq_some_iff hpick ((h.map _).nodup_iff.mp hdistinct)]
  exact exists_congr fun c => and_congr_left fun _ => h.mem_iff

end

/-- **The lambda of some clauses:** the variable that it starts with, and the latest clause of each kind. -/
def made (start : Start) (given : List Given) : Lambda where
  loop := start.loop?
  making := latest Given.making? given
  whereTrue := latest (Given.text? .whereTrue) given
  whenTrue := latest (Given.text? .whenTrue) given
  via := latest (Given.text? .via) given
  source := (given.getLast?.map Given.source).getD ""
  tag := none

/-- One more clause comes before those of its kind. -/
theorem made_snoc : made start (given ++ [c]) =
    { made start given with
      making := c.making?.or (made start given).making
      whereTrue := (c.text? .whereTrue).or (made start given).whereTrue
      whenTrue := (c.text? .whenTrue).or (made start given).whenTrue
      via := (c.text? .via).or (made start given).via
      source := c.source } := by
  simp only [made, latest_snoc, List.getLast?_concat]
  rfl

/-! ## Compatible clauses -/

/-- Variables do not have one and the same name, unless it is empty. -/
def Apart (making loop : Option Variable) : Prop := ∀ name, nameOf? making = some name → nameOf? loop ≠ some name

/-- **Clauses that go together** after a start. -/
structure Compatible (start : Start) (given : List Given) : Prop where
  named : ∀ c ∈ given, c.kind = .making → ∃ v, c.making? = some v ∧ Apart (some v) start.loop?
  alone : ∀ c ∈ given, c.kind = .whenTrue → start = .nothing ∧ given = [c]
  once : given.Pairwise fun c c' => c.kind = c'.kind → ∃ source, c = .whereTrue "true" source

/-- A clause of this kind may come next. -/
structure Fits (start : Start) (given : List Given) (k : Clause) : Prop where
  first : k = .whenTrue → start = .nothing ∧ given = []
  noWhen : ∀ g ∈ given, g.kind ≠ .whenTrue
  once : ∀ g ∈ given, g.kind = k → ∃ source, g = .whereTrue "true" source

/-- This clause may come next. -/
structure Admits (start : Start) (given : List Given) (c : Given) : Prop extends Fits start given c.kind where
  named : c.kind = .making → ∃ v, c.making? = some v ∧ Apart (some v) start.loop?

/-- **One more clause is compatible iff it is admitted.**  Clauses are given one by one at the end, so this is the
step of the induction in `build_cases`. -/
theorem compatible_snoc_iff : Compatible start (given ++ [c]) ↔ Compatible start given ∧ Admits start given c := by
  constructor
  · intro h
    have hlast : c ∈ given ++ [c] := List.mem_append_right _ List.mem_cons_self
    obtain ⟨honce, _, hnext⟩ := List.pairwise_append.mp h.once
    -- a clause `when true` stands alone, so with one clause more there is none before
    have hnoWhen : ∀ g ∈ given, g.kind ≠ .whenTrue := by
      intro g hg hwhen
      have hlength := congrArg List.length (h.alone g (List.mem_append_left _ hg) hwhen).2
      rw [List.length_append, List.length_singleton, List.length_singleton] at hlength
      have := List.length_pos_of_mem hg
      omega
    refine ⟨⟨fun g hg => h.named g (List.mem_append_left _ hg), fun g hg hwhen => absurd hwhen (hnoWhen g hg), honce⟩,
      ⟨fun hwhen => ?_, hnoWhen, fun g hg => hnext g hg c List.mem_cons_self⟩, h.named c hlast⟩
    obtain ⟨hstart, hone⟩ := h.alone c hlast hwhen
    exact ⟨hstart, List.append_left_eq_self.mp hone⟩
  · rintro ⟨h, hc⟩
    refine ⟨fun g hg hmaking => ?_, fun g hg hwhen => ?_, ?_⟩
    · rcases List.mem_append.mp hg with hg | hg
      · exact h.named g hg hmaking
      · obtain rfl := List.mem_singleton.mp hg
        exact hc.named hmaking
    · rcases List.mem_append.mp hg with hg | hg
      · exact absurd hwhen (hc.noWhen g hg)
      · obtain rfl := List.mem_singleton.mp hg
        obtain ⟨hstart, rfl⟩ := hc.first hwhen
        exact ⟨hstart, rfl⟩
    · -- the earlier clauses are of different kinds, and the new one is of none of theirs
      refine List.pairwise_append.mpr ⟨h.once, List.pairwise_singleton _ _, fun g hg c' hc' => ?_⟩
      obtain rfl := List.mem_singleton.mp hc'
      exact hc.once g hg

/-- **Whether clauses of different kinds are compatible does not depend on their order.** -/
theorem compatible_of_perm (hdistinct : (given.map Given.kind).Nodup) (hperm : given.Perm given')
    (h : Compatible start given) : Compatible start given' := by
  refine ⟨fun c hc => h.named c (hperm.mem_iff.mpr hc), fun c hc hwhen => ?_, ?_⟩
  · obtain ⟨hstart, rfl⟩ := h.alone c (hperm.mem_iff.mpr hc) hwhen
    exact ⟨hstart, (List.singleton_perm.mp hperm).symm⟩
  · have hdistinct' : (given'.map Given.kind).Nodup := (hperm.map _).nodup_iff.mp hdistinct
    exact (List.pairwise_map.mp hdistinct').imp fun hne heq => absurd heq hne

/-! ## One clause -/

/-- What the next clause is given to. -/
def subject (start : Start) (given : List Given) : Value :=
  if given = [] then start.value else .lambda (made start given)

/-- With a clause the subject of the next one is a lambda. -/
theorem subject_of_ne_nil (hne : given ≠ []) : subject start given = .lambda (made start given) := if_neg hne

/-- Where the latest `where` is `true`, so are all before it. -/
theorem Compatible.all_true (h : Compatible start given)
    (htrue : latest (Given.text? .whereTrue) given = some "true") :
    ∀ g ∈ given, g.kind = .whereTrue → ∃ source, g = .whereTrue "true" source := by
  induction given using List.reverseRecOn with
  | nil => exact List.forall_mem_nil _
  | append_singleton given c ih =>
    obtain ⟨hgiven, hc⟩ := compatible_snoc_iff.mp h
    rw [latest_snoc] at htrue
    refine List.forall_mem_append.mpr ⟨fun g hg hwhere => ?_, List.forall_mem_singleton.mpr fun hwhere => ?_⟩
    · cases c with
      | whereTrue text source => exact hc.once g hg hwhere
      | _ => exact ih hgiven htrue g hg hwhere
    · cases c with
      | whereTrue text source =>
        obtain rfl : text = "true" := Option.some.inj htrue
        exact ⟨source, rfl⟩
      | _ => exact nomatch hwhere

/-- The lambda of compatible clauses has those that were given. -/
theorem Compatible.has_iff (h : Compatible start given) (k : Clause) :
    (made start given).has k = true ↔ ∃ g ∈ given, g.kind = k := by
  have hhas : ∀ {β : Type} {pick : Given → Option β}, (∀ g ∈ given, (pick g).isSome = true ↔ g.kind = k) →
      ((latest pick given).isSome = true ↔ ∃ g ∈ given, g.kind = k) := by
    intro β pick hpick
    rw [← not_iff_not, Bool.not_eq_true, Option.isSome_eq_false_iff, Option.isNone_iff_eq_none, latest_eq_none_iff]
    push Not
    exact forall₂_congr fun g hg => by rw [← Option.not_isSome_iff_eq_none, hpick g hg]
  cases k with
  | making =>
    refine hhas fun g hg => ⟨fun hsome => ?_, fun hmaking => ?_⟩
    · obtain ⟨v, hv⟩ := Option.isSome_iff_exists.mp hsome
      exact (Given.of_making? hv).1
    · obtain ⟨v, hv, _⟩ := h.named g hg hmaking
      rw [hv]
      rfl
  | _ => exact hhas fun g _ => Given.isSome_text?_iff nofun

section

variable (hexplained : (settings.catalogue.explanation? "syntax").isSome = true)
include hexplained

/-- A start takes any clause, but only nothing takes `when`. -/
theorem ofSubject_start (start : Start) (k : Clause) :
    Fits start [] k ∧ ofSubject k start.value settings = .ok (made start []) ∨
      ¬ Fits start [] k ∧ ∃ e, e.kind = "syntax" ∧ ofSubject k start.value settings = .error (.story e) := by
  have hfits : (k = .whenTrue → start = .nothing) → Fits start [] k := fun h =>
    ⟨fun hwhen => ⟨h hwhen, rfl⟩, List.forall_mem_nil _, List.forall_mem_nil _⟩
  cases start with
  | nothing => exact Or.inl ⟨hfits fun _ => rfl, rfl⟩
  | _ =>
    -- a variable, with a type or without
    cases k with
    | whenTrue => exact Or.inr ⟨fun h => (nomatch (h.first rfl).1), Check.exists_fail hexplained (by decide)⟩
    | _ => exact Or.inl ⟨hfits nofun, rfl⟩

/-- The lambda of compatible clauses takes a clause of a kind that may come next. -/
theorem ofSubject_made (h : Compatible start given) (hne : given ≠ []) (k : Clause) :
    Fits start given k ∧ ofSubject k (.lambda (made start given)) settings = .ok (made start given) ∨
      ¬ Fits start given k ∧
        ∃ e, e.kind = "syntax" ∧ ofSubject k (.lambda (made start given)) settings = .error (.story e) := by
  unfold ofSubject
  dsimp only
  by_cases hwhen : k = .whenTrue ∨ (made start given).whenTrue.isSome = true
  · rw [if_pos hwhen]
    refine Or.inr ⟨fun hfits => ?_, Check.exists_fail hexplained (append_ne_empty_right _ (by decide))⟩
    rcases hwhen with hwhen | hwhen
    · exact hne (hfits.first hwhen).2
    · obtain ⟨g, hg, hkind⟩ := (h.has_iff .whenTrue).mp hwhen
      exact hfits.noWhen g hg hkind
  rw [if_neg hwhen]
  obtain ⟨hnot, hnone⟩ := not_or.mp hwhen
  by_cases htwice : ((made start given).has k &&
      !(k == .whereTrue && (made start given).whereTrue == some "true")) = true
  · rw [if_pos htwice]
    refine Or.inr ⟨fun hfits => ?_, Check.exists_fail hexplained (append_ne_empty_right _ (by decide))⟩
    obtain ⟨hhas, hreplaces⟩ := Bool.and_eq_true_iff.mp htwice
    obtain ⟨g, hg, hkind⟩ := (h.has_iff k).mp hhas
    obtain ⟨_, rfl⟩ := hfits.once g hg hkind
    obtain rfl : k = .whereTrue := hkind.symm
    -- the latest `where` is one of those that are true
    obtain ⟨text, htext⟩ := Option.isSome_iff_exists.mp hhas
    obtain ⟨g', hg', hpick⟩ := exists_of_latest htext
    obtain ⟨source, rfl⟩ := hfits.once _ hg' (Given.of_text? hpick).1
    obtain rfl : "true" = text := Option.some.inj hpick
    rw [htext] at hreplaces
    exact absurd hreplaces (by decide)
  · rw [if_neg htwice]
    refine Or.inl ⟨⟨fun hk => absurd hk hnot, fun g hg hkind => ?_, fun g hg hkind => ?_⟩, rfl⟩
    · exact hnone ((h.has_iff .whenTrue).mpr ⟨g, hg, hkind⟩)
    · have hhas : (made start given).has k = true := (h.has_iff k).mpr ⟨g, hg, hkind⟩
      rw [hhas, Bool.true_and, Bool.not_eq_true, Bool.not_eq_false', Bool.and_eq_true, beq_iff_eq,
        beq_iff_eq] at htwice
      exact h.all_true htwice.2 g hg (hkind.trans htwice.1)

/-- **The next clause meets the lambda so far,** if it may come next. -/
theorem ofSubject_cases (h : Compatible start given) (k : Clause) :
    Fits start given k ∧ ofSubject k (subject start given) settings = .ok (made start given) ∨
      ¬ Fits start given k ∧
        ∃ e, e.kind = "syntax" ∧ ofSubject k (subject start given) settings = .error (.story e) := by
  by_cases hne : given = []
  · rw [hne, subject, if_pos rfl]
    exact ofSubject_start hexplained start k
  · rw [subject_of_ne_nil hne]
    exact ofSubject_made hexplained h hne k

/-- The names of a lambda are checked. -/
theorem checkNames_cases (l : Lambda) :
    Apart l.making l.loop ∧ checkNames l settings = .ok () ∨
      ¬ Apart l.making l.loop ∧ ∃ e, e.kind = "syntax" ∧ checkNames l settings = .error (.story e) := by
  unfold checkNames Apart
  cases nameOf? l.making with
  | none => exact Or.inl ⟨nofun, rfl⟩
  | some m =>
    cases nameOf? l.loop with
    | none => exact Or.inl ⟨nofun, rfl⟩
    | some n =>
      by_cases heq : m = n
      · subst heq
        refine Or.inr ⟨fun h => h m rfl rfl, ?_⟩
        dsimp only
        rw [if_pos rfl]
        exact Check.exists_failWith hexplained (append_ne_empty_right _ (by decide))
      · refine Or.inl ⟨?_, congrFun (if_neg heq) settings⟩
        rintro name hm hn
        exact heq ((Option.some.inj hm).trans (Option.some.inj hn).symm)

/-- **The next clause is set,** unless it should name a variable and does not. -/
theorem withClause_cases (start : Start) (given : List Given) (c : Given) :
    (∃ l, { l with source := c.source, tag := none } = made start (given ++ [c]) ∧
      (c.kind = .making → ∃ v, c.making? = some v) ∧
      withClause (made start given) c.kind c.content settings = .ok l) ∨
    c.kind = .making ∧ c.making? = none ∧
      ∃ e, e.kind = "syntax" ∧ withClause (made start given) c.kind c.content settings = .error (.story e) := by
  cases c with
  | making content source =>
    have hclause : withClause (made start given) .making content =
        (variableOf? content).elim (Check.fail "syntax" "A 'making' clause needs a temporary variable after it.")
          fun v => pure { made start given with making := some v } := by
      rw [withClause]
      cases variableOf? content <;> rfl
    rw [Given.kind, Given.content, hclause, Given.making?]
    cases hv : variableOf? content with
    | some v =>
      refine Or.inl ⟨{ made start given with making := some v }, ?_, fun _ => ⟨v, rfl⟩, rfl⟩
      rw [made_snoc, Given.making?, hv]
      rfl
    | none => exact Or.inr ⟨rfl, rfl, Check.exists_fail hexplained (by decide)⟩
  | _ =>
    -- the lambda so far with this text
    refine Or.inl ⟨_, ?_, (fun h => by cases h), rfl⟩
    rw [made_snoc]
    rfl

omit hexplained in
/-- Compatible clauses have made a lambda whose variables have names of their own. -/
theorem Compatible.apart (h : Compatible start given) : Apart (made start given).making (made start given).loop := by
  cases hmaking : latest Given.making? given with
  | none =>
    rw [made, hmaking]
    exact nofun
  | some v =>
    obtain ⟨g, hg, hpick⟩ := exists_of_latest hmaking
    obtain ⟨w, hw, hapart⟩ := h.named g hg (Given.of_making? hpick).1
    obtain rfl := Option.some.inj (hw.symm.trans hpick)
    rw [made, hmaking]
    exact hapart

omit hexplained in
/-- The subject of a clause is no error. -/
theorem firstError?_subject (start : Start) (given : List Given) : (subject start given).firstError? = none := by
  rw [subject]
  split
  · cases start <;> rfl
  · rfl

/-- **One clause more** makes the next lambda iff it is admitted. -/
theorem ofOutcome_create (h : Compatible start given) (c : Given) :
    Admits start given c ∧ Value.ofOutcome (create (subject start given) c.kind.word c.content c.source) settings =
        .ok (.lambda (made start (given ++ [c]))) ∨
      ¬ Admits start given c ∧ ∃ e, e.kind = "syntax" ∧
        Value.ofOutcome (create (subject start given) c.kind.word c.content c.source) settings = .ok (.error e) := by
  -- the subject is no error, so what is left are three steps: the form of the subject, the clause, and the names
  have hsteps : create (subject start given) c.kind.word c.content c.source settings =
      (ofSubject c.kind (subject start given) >>= fun l => withClause l c.kind c.content >>= fun l =>
        checkNames l >>= fun _ => pure (.lambda { l with source := c.source, tag := none })) settings := by
    have hfree : (subject start given).guardError settings = .ok () := by
      rw [Value.guardError, firstError?_subject]
      rfl
    rw [create, Clause.ofWord?_word]
    exact Check.bind_of_ok hfree
  have herror : ∀ e : StoryError, create (subject start given) c.kind.word c.content c.source settings =
      .error (.story e) → Value.ofOutcome (create (subject start given) c.kind.word c.content c.source) settings =
        .ok (.error e) := fun e he => Check.bind_of_ok (Check.attempt_eq_error.mpr he)
  rcases ofSubject_cases hexplained h c.kind with ⟨hfits, hsubject⟩ | ⟨hfits, e, hkind, he⟩
  · rw [Check.bind_of_ok hsubject] at hsteps
    rcases withClause_cases hexplained start given c with ⟨l, hl, hnamed, hclause⟩ | ⟨hmaking, hnone, e, hkind, he⟩
    · rw [Check.bind_of_ok hclause, hl] at hsteps
      -- the names that are checked are those of the next lambda
      have hmaking : l.making = (made start (given ++ [c])).making := by rw [← hl]
      have hloop : l.loop = (made start (given ++ [c])).loop := by rw [← hl]
      rcases checkNames_cases hexplained l with ⟨hapart, hchecked⟩ | ⟨hapart, e, hkind, he⟩
      · rw [Check.bind_of_ok hchecked] at hsteps
        refine Or.inl ⟨⟨hfits, fun hk => ?_⟩, Check.bind_of_ok (Check.attempt_eq_ok.mpr hsteps)⟩
        obtain ⟨v, hv⟩ := hnamed hk
        rw [hmaking, hloop, made_snoc, hv] at hapart
        exact ⟨v, hv, hapart⟩
      · rw [Check.bind_of_error he] at hsteps
        refine Or.inr ⟨fun hadmits => hapart ?_, e, hkind, herror e hsteps⟩
        rw [hmaking, hloop]
        exact (compatible_snoc_iff.mpr ⟨h, hadmits⟩).apart
    · rw [Check.bind_of_error he] at hsteps
      refine Or.inr ⟨fun hadmits => ?_, e, hkind, herror e hsteps⟩
      obtain ⟨v, hv, _⟩ := hadmits.named hmaking
      cases hnone.symm.trans hv
  · rw [Check.bind_of_error he] at hsteps
    exact Or.inr ⟨fun hadmits => hfits hadmits.toFits, e, hkind, herror e hsteps⟩

/-! ## The whole run -/

omit hexplained in
/-- An error stays what it is, whatever it is given. -/
theorem ofOutcome_create_error (e : StoryError) (c : Given) :
    Value.ofOutcome (create (.error e) c.kind.word c.content c.source) settings = .ok (.error e) := by
  refine Check.bind_of_ok (Check.attempt_eq_error.mpr ?_)
  rw [create, Clause.ofWord?_word]
  exact Check.bind_of_error rfl

omit hexplained in
/-- One more clause is given to what the others have made. -/
theorem build_snoc (v : Value) :
    build v (given ++ [c]) =
      (build v given >>= fun v => Value.ofOutcome (create v c.kind.word c.content c.source)) := by
  rw [build, List.foldlM_append]
  refine congrArg (_ >>= ·) (funext fun v => ?_)
  rw [List.foldlM_cons]
  exact bind_pure _

/-- **Compatible clauses make their lambda, and all others an error.**  By induction on the clauses from the back;
once there is an error it stays. -/
theorem build_cases (start : Start) (given : List Given) :
    Compatible start given ∧ build start.value given settings = .ok (subject start given) ∨
      ¬ Compatible start given ∧ ∃ e, e.kind = "syntax" ∧ build start.value given settings = .ok (.error e) := by
  induction given using List.reverseRecOn with
  | nil => exact Or.inl ⟨⟨List.forall_mem_nil _, List.forall_mem_nil _, .nil⟩, rfl⟩
  | append_singleton given c ih =>
    rw [build_snoc, compatible_snoc_iff]
    rcases ih with ⟨h, hbuild⟩ | ⟨hnot, e, hkind, hbuild⟩
    · rw [Check.bind_of_ok hbuild]
      rcases ofOutcome_create hexplained h c with ⟨hadmits, hlambda⟩ | ⟨hadmits, herror⟩
      · refine Or.inl ⟨⟨h, hadmits⟩, ?_⟩
        rw [hlambda, subject_of_ne_nil (List.append_ne_nil_of_right_ne_nil _ (List.cons_ne_nil _ _))]
      · exact Or.inr ⟨fun hboth => hadmits hboth.2, herror⟩
    · rw [Check.bind_of_ok hbuild]
      exact Or.inr ⟨fun hboth => hnot hboth.1, e, hkind, ofOutcome_create_error e c⟩

end

/-- A lambda whose clauses go together: with `when` there is no variable and no other clause, and variables have
names of their own. -/
structure WellFormed (l : Lambda) : Prop where
  alone : l.whenTrue.isSome = true → l.loop = none ∧ l.making = none ∧ l.whereTrue = none ∧ l.via = none
  apart : Apart l.making l.loop

/-- Whatever a lambda has is one of the clauses that were given to the start. -/
structure GivenBy (start : Start) (given : List Given) (l : Lambda) : Prop where
  loop : l.loop = start.loop?
  making : ∀ v, l.making = some v → ∃ c ∈ given, c.kind = .making ∧ variableOf? c.content = some v
  whereTrue : ∀ text, l.whereTrue = some text → ∃ c ∈ given, c.kind = .whereTrue ∧ c.content = .string text
  whenTrue : ∀ text, l.whenTrue = some text → ∃ c ∈ given, c.kind = .whenTrue ∧ c.content = .string text
  via : ∀ text, l.via = some text → ∃ c ∈ given, c.kind = .via ∧ c.content = .string text

/-- Lambdas with the same variables and the same clauses; their sources may differ. -/
structure SameFields (l l' : Lambda) : Prop where
  loop : l.loop = l'.loop
  making : l.making = l'.making
  whereTrue : l.whereTrue = l'.whereTrue
  whenTrue : l.whenTrue = l'.whenTrue
  via : l.via = l'.via

/-- The lambda of compatible clauses is well-formed. -/
theorem Compatible.wellFormed (h : Compatible start given) : (made start given).WellFormed := by
  refine ⟨fun hwhen => ?_, h.apart⟩
  obtain ⟨g, hg, hkind⟩ := (h.has_iff .whenTrue).mp hwhen
  obtain ⟨rfl, rfl⟩ := h.alone g hg hkind
  cases g with
  | whenTrue text source => exact ⟨rfl, rfl, rfl, rfl⟩
  | _ => exact nomatch hkind

/-- Whatever a lambda has was given: the latest of its kind. -/
theorem givenBy_made (start : Start) (given : List Given) : (made start given).GivenBy start given := by
  have htext : ∀ {k : Clause} (text : String), latest (Given.text? k) given = some text →
      ∃ c ∈ given, c.kind = k ∧ c.content = .string text := by
    intro k text h
    obtain ⟨c, hc, hpick⟩ := exists_of_latest h
    exact ⟨c, hc, Given.of_text? hpick⟩
  refine ⟨rfl, fun v hv => ?_, htext, htext, htext⟩
  obtain ⟨c, hc, hpick⟩ := exists_of_latest hv
  exact ⟨c, hc, Given.of_making? hpick⟩

/-- The lambdas of clauses of different kinds have the same fields, in whatever order these are. -/
theorem sameFields_of_perm (hdistinct : (given.map Given.kind).Nodup) (h : given.Perm given') :
    SameFields (made start given) (made start given') where
  loop := rfl
  making := latest_of_perm (fun _ _ hpick => (Given.of_making? hpick).1) hdistinct h
  whereTrue := latest_of_perm (fun _ _ hpick => (Given.of_text? hpick).1) hdistinct h
  whenTrue := latest_of_perm (fun _ _ hpick => (Given.of_text? hpick).1) hdistinct h
  via := latest_of_perm (fun _ _ hpick => (Given.of_text? hpick).1) hdistinct h

/-- Of two compatible clauses of one kind, the earlier is `where true`. -/
theorem Compatible.eq_true_of_twice {before between after : List Given} {c c' : Given}
    (h : Compatible start (before ++ c :: (between ++ c' :: after))) (hsame : c.kind = c'.kind) :
    ∃ source, c = .whereTrue "true" source := by
  obtain ⟨_, hlater, _⟩ := List.pairwise_append.mp h.once
  have hmem : c' ∈ between ++ c' :: after := List.mem_append_right _ List.mem_cons_self
  exact (List.pairwise_cons.mp hlater).1 c' hmem hsame

/-- **Lambdas are well formed, and the order of their clauses does not matter.**  Let clauses be given to a start.

* Where there is no clause, the start is left as it is.  From the first clause on there is an error, or there is a
  lambda that is well formed and has nothing but what was given.
* There is a lambda iff there are clauses, and they are compatible.
* Where a kind of clause is given twice, there is an error, unless the earlier one is `where true`.
* Where no kind is given twice, the clauses come to errors in every order, or to lambdas of the same fields. -/
theorem build_spec (hexplained : (settings.catalogue.explanation? "syntax").isSome = true) (start : Start)
    (given : List Given) :
    (given = [] → build start.value given settings = .ok start.value) ∧
    (given ≠ [] → (∃ e, e.kind = "syntax" ∧ build start.value given settings = .ok (.error e)) ∨
      ∃ l, build start.value given settings = .ok (.lambda l) ∧ l.WellFormed ∧ l.GivenBy start given) ∧
    ((∃ l, build start.value given settings = .ok (.lambda l)) ↔ given ≠ [] ∧ Compatible start given) ∧
    (∀ before c between c' after, given = before ++ c :: (between ++ c' :: after) → c.kind = c'.kind →
      (∀ source, c ≠ .whereTrue "true" source) → ∃ e, build start.value given settings = .ok (.error e)) ∧
    (given ≠ [] → (given.map Given.kind).Nodup → ∀ given', given.Perm given' →
      ((∃ e, build start.value given settings = .ok (.error e)) ∧
        ∃ e, build start.value given' settings = .ok (.error e)) ∨
      ∃ l l', build start.value given settings = .ok (.lambda l) ∧
        build start.value given' settings = .ok (.lambda l') ∧ l.SameFields l') := by
  -- what compatible clauses come to, and what others do
  have hmade : ∀ {gs}, gs ≠ [] → Compatible start gs →
      build start.value gs settings = .ok (.lambda (made start gs)) := by
    intro gs hne h
    rw [← subject_of_ne_nil hne]
    exact ((build_cases hexplained start gs).resolve_right fun hnot => hnot.1 h).2
  have hrefused : ∀ {gs}, ¬ Compatible start gs →
      ∃ e, e.kind = "syntax" ∧ build start.value gs settings = .ok (.error e) :=
    fun {gs} hnot => ((build_cases hexplained start gs).resolve_left fun h => hnot h.1).2
  refine ⟨?_, fun hne => ?_, ⟨?_, fun ⟨hne, h⟩ => ⟨_, hmade hne h⟩⟩, ?_, fun hne hdistinct given' hperm => ?_⟩
  · rintro rfl
    rfl
  · by_cases h : Compatible start given
    · exact Or.inr ⟨_, hmade hne h, h.wellFormed, givenBy_made start given⟩
    · exact Or.inl (hrefused h)
  · rintro ⟨l, hl⟩
    refine ⟨?_, ?_⟩
    · rintro rfl
      cases start <;> exact nomatch hl
    · by_contra hnot
      obtain ⟨e, _, he⟩ := hrefused hnot
      exact nomatch hl.symm.trans he
  · rintro before c between c' after rfl hsame hnottrue
    obtain ⟨e, _, he⟩ := hrefused fun h => (h.eq_true_of_twice hsame).elim hnottrue
    exact ⟨e, he⟩
  · by_cases h : Compatible start given
    · -- any order of compatible clauses is compatible, as no kind comes twice
      have hne' : given' ≠ [] := fun hnil => hne (List.perm_nil.mp (hnil ▸ hperm))
      exact Or.inr ⟨_, _, hmade hne h, hmade hne' (compatible_of_perm hdistinct hperm h),
        sameFields_of_perm hdistinct hperm⟩
    · have hdistinct' := (hperm.map Given.kind).nodup_iff.mp hdistinct
      obtain ⟨e, _, he⟩ := hrefused h
      obtain ⟨e', _, he'⟩ := hrefused fun h' => h (compatible_of_perm hdistinct' hperm.symm h')
      exact Or.inl ⟨⟨e, he⟩, e', he'⟩

/-- The clauses of a lambda that adds up numbers above some bound. -/
def addsUp : List Given := [.making (.string "_total") "", .whereTrue "_x > 1" "", .via "_total + _x" ""]

/-- They make a lambda, and another one of the same fields the other way round. -/
theorem build_addsUp :
    let settings : Settings := Settings.usual
    (settings.catalogue.explanation? "syntax").isSome = true ∧ addsUp ≠ [] ∧ (addsUp.map Given.kind).Nodup ∧
      ∃ l l', build (.string "_x") addsUp settings = .ok (.lambda l) ∧
        build (.string "_x") addsUp.reverse settings = .ok (.lambda l') ∧ l.SameFields l' := by
  intro settings
  have hexplained : (settings.catalogue.explanation? "syntax").isSome = true := by decide +kernel
  have hne : addsUp ≠ [] := List.cons_ne_nil _ _
  have hdistinct : (addsUp.map Given.kind).Nodup := by decide
  have hbuild : ∃ l, build (.string "_x") addsUp settings = .ok (.lambda l) := ⟨_, rfl⟩
  obtain ⟨_, _, _, _, horder⟩ := build_spec hexplained (.name "_x") addsUp
  refine ⟨hexplained, hne, hdistinct, ?_⟩
  rcases horder hne hdistinct addsUp.reverse (List.reverse_perm _).symm with ⟨⟨e, he⟩, _⟩ | hlambdas
  · obtain ⟨l, hl⟩ := hbuild
    exact nomatch hl.symm.trans he
  · exact hlambdas

end Lambda

end StoryValues
