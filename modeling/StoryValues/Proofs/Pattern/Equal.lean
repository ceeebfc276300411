import StoryValues.Pattern.Destructure
import StoryValues.Proofs.Datatype.Asking
import StoryValues.Proofs.Pattern.Legible
import StoryValues.Proofs.Value.Canonical

/-
  EQUAL PATTERNS ACCEPT THE SAME.

  Patterns are equal when they are written alike and agree on whether letter case matters in them.  The
  source does not show whether it matters in a pattern *inside*, and such a pattern can be remade on its
  own.

  1. **Obtained** — the patterns that the macros, remaking and spreading lead to, nested in any way.  Those
     whose variables have names without commas and closing parentheses are legible (`Obtained.legible`),
     and so equal ones have the same form.
  2. **Letter cases** — `Datatype.letterCases` lists for each pattern in a datatype whether letter case is
     left out of account where it reads.  Datatypes of the same form with the same list take the same steps
     (`Datatype.step_of_sameForm`), by induction on the first.  Where everything is as the macros made it,
     the form settles the list (`Datatype.letterCases_of_asMade`).
  3. **The whole** (`Obtained.accepts_of_equals`): equal patterns agree on everything once letter case is
     left out of account, and on everything as they are if they have the same letter cases.  Both provisos
     are needed (`remade_inside`).
-/

namespace StoryValues

/-! ## Letter cases -/

mutual

/-- For each pattern in a datatype, in the order in which they are written, whether letter case is left out
of account there; `fold` says that it is in what is around. -/
def Datatype.letterCases (fold : Bool) : Datatype → List Bool
  | .named .. => []
  | .pattern _ parts folded _ => (fold || folded) :: Fragment.letterCasesIn (fold || folded) parts

/-- The same for a fragment. -/
def Fragment.letterCases (fold : Bool) : Fragment → List Bool
  | .text _ => []
  | .type d => d.letterCases fold
  | .typed d _ _ => d.letterCases fold

/-- The same for several fragments. -/
def Fragment.letterCasesIn (fold : Bool) : List Fragment → List Bool
  | [] => []
  | f :: fs => f.letterCases fold ++ Fragment.letterCasesIn fold fs

end

mutual

/-- Where letter case is left out of account it is in all that is inside: the marks of the patterns inside no longer
count. -/
theorem Datatype.letterCases_true : (d : Datatype) → ∀ b ∈ d.letterCases true, b = true
  | .named name spread => by simp [Datatype.letterCases]
  | .pattern shape parts folded spread => by
    rw [Datatype.letterCases, Bool.true_or]
    exact List.forall_mem_cons.mpr ⟨rfl, Fragment.letterCasesIn_true parts⟩

/-- Where letter cases are set aside from the start, they are set aside all over a fragment. -/
theorem Fragment.letterCases_true : (f : Fragment) → ∀ b ∈ f.letterCases true, b = true
  | .text s => by simp [Fragment.letterCases]
  | .type d => d.letterCases_true
  | .typed d name rest => d.letterCases_true

/-- Where letter cases are set aside from the start, they are set aside in several fragments, by recursion on the
list. -/
theorem Fragment.letterCasesIn_true : (fs : List Fragment) → ∀ b ∈ Fragment.letterCasesIn true fs, b = true
  | [] => by simp [Fragment.letterCasesIn]
  | f :: fs => List.forall_mem_append.mpr ⟨f.letterCases_true, Fragment.letterCasesIn_true fs⟩

end

mutual

/-- A datatype in which letter case is left out of account by the macro for that and by nothing else: no
pattern in it was remade. -/
def Datatype.AsMade : Datatype → Prop
  | .named .. => True
  | .pattern shape parts folded _ => folded = (shape == .insensitive) ∧ Fragment.AllAsMade parts

/-- The same for a fragment. -/
def Fragment.AsMade : Fragment → Prop
  | .text _ => True
  | .type d => d.AsMade
  | .typed d _ _ => d.AsMade

/-- The same for several fragments. -/
def Fragment.AllAsMade : List Fragment → Prop
  | [] => True
  | f :: fs => f.AsMade ∧ Fragment.AllAsMade fs

end

/-! ## What the form settles -/

/-- Shapes of the same form are both repetitions of the same bounds, once these are counted, or equal. -/
theorem Shape.SameForm.cases {shape shape' : Shape} (h : shape.SameForm shape') :
    (∃ b c, shape = .repeated b ∧ shape' = .repeated c ∧ b.least = c.least ∧ b.most = c.most) ∨
      shape = shape' := by
  cases shape with
  | repeated b =>
    cases shape' with
    | repeated c => exact Or.inl ⟨b, c, rfl, rfl, h⟩
    | _ => exact Or.inr h
  | _ => exact Or.inr h

/-- They are both the shape that leaves letter case out of account, or neither is.  Of all that the form says of
shapes, this is what letter cases depend on. -/
theorem Shape.SameForm.insensitive_eq {shape shape' : Shape} (h : shape.SameForm shape') :
    (shape == .insensitive) = (shape' == .insensitive) := by
  rcases h.cases with ⟨b, c, rfl, rfl, _⟩ | rfl <;> rfl

mutual

/-- **Where nothing was remade, the form settles the letter cases.**  A pattern leaves letter case out of account iff
it has the shape for it, and the form shows shapes.  By recursion on the first datatype, along with the derivation of
the same form. -/
theorem Datatype.letterCases_of_asMade : (d : Datatype) → ∀ e, d.SameForm e → d.AsMade → e.AsMade → ∀ fold,
    d.letterCases fold = e.letterCases fold
  | .named name spread, _, .named, _, _, fold => rfl
  | .pattern shape parts folded spread, _, .pattern hshape hparts, hd, he, fold => by
    obtain ⟨rfl, hd⟩ := hd
    obtain ⟨rfl, he⟩ := he
    rw [Datatype.letterCases, Datatype.letterCases, hshape.insensitive_eq,
      Fragment.letterCases_of_allAsMade parts _ hparts hd he]

/-- The form of a fragment settles its letter cases, for fragments as they are made. -/
theorem Fragment.letterCases_of_asMade : (f : Fragment) → ∀ g, f.SameForm g → f.AsMade → g.AsMade → ∀ fold,
    f.letterCases fold = g.letterCases fold
  | .text _, _, .text, _, _, _ => rfl
  | .type d, _, .type _ hform, hd, he, fold => Datatype.letterCases_of_asMade d _ hform hd he fold
  | .typed d _ _, _, .typed _ hform, hd, he, fold => Datatype.letterCases_of_asMade d _ hform hd he fold

/-- The forms of several fragments settle the letter cases of all of them, by recursion on the list. -/
theorem Fragment.letterCases_of_allAsMade : (fs : List Fragment) → ∀ gs, List.Forall₂ Fragment.SameForm fs gs →
    Fragment.AllAsMade fs → Fragment.AllAsMade gs → ∀ fold,
      Fragment.letterCasesIn fold fs = Fragment.letterCasesIn fold gs
  | [], _, .nil, _, _, fold => rfl
  | f :: fs, g :: gs, .cons hf hfs, hd, he, fold => by
    rw [Fragment.letterCasesIn, Fragment.letterCasesIn, Fragment.letterCases_of_asMade f g hf hd.1 he.1,
      Fragment.letterCases_of_allAsMade fs gs hfs hd.2 he.2]

end

/-- Bounds that count alike can both be counted up to, or neither can. -/
theorem Bounds.overflows_of_counted {b c : Bounds} (hleast : b.least = c.least) (hmost : b.most = c.most) :
    b.overflows = c.overflows := by
  rw [overflows, overflows, hleast, hmost]

mutual

/-- Datatypes of the same form make as many captures, hold as many patterns, and repeat as often.  The first keeps the
numbers of captures in step, and the second cuts the lists of letter cases of fragments in the same places. -/
theorem Datatype.counts_of_sameForm : (d : Datatype) → ∀ e, d.SameForm e →
    d.captures = e.captures ∧ d.overflows = e.overflows ∧
      ∀ fold fold', (d.letterCases fold).length = (e.letterCases fold').length
  | .named name spread, _, .named => ⟨rfl, rfl, fun _ _ => rfl⟩
  | .pattern shape parts folded spread, _, .pattern hshape hparts => by
    obtain ⟨hcaptures, hoverflows, hlength⟩ := Fragment.counts_of_sameForms parts _ hparts
    refine ⟨hcaptures, ?_, fun fold fold' => congrArg (· + 1) (hlength _ _)⟩
    unfold Datatype.overflows
    rw [hoverflows]
    rcases hshape.cases with ⟨b, c, rfl, rfl, hleast, hmost⟩ | rfl
    · exact congrArg (· || _) (Bounds.overflows_of_counted hleast hmost)
    · rfl

/-- Fragments of the same form capture and count alike; what is inside a variable does by recursion. -/
theorem Fragment.counts_of_sameForm : (f : Fragment) → ∀ g, f.SameForm g →
    f.captures = g.captures ∧ f.overflows = g.overflows ∧
      ∀ fold fold', (f.letterCases fold).length = (g.letterCases fold').length
  | .text s, _, .text => ⟨rfl, rfl, fun _ _ => rfl⟩
  | .type d, _, .type _ hd => Datatype.counts_of_sameForm d _ hd
  | .typed d name rest, _, .typed _ hd => by
    obtain ⟨hcaptures, hrest⟩ := Datatype.counts_of_sameForm d _ hd
    exact ⟨congrArg (1 + ·) hcaptures, hrest⟩

/-- Lists of fragments of the same forms capture and count alike. -/
theorem Fragment.counts_of_sameForms : (fs : List Fragment) → ∀ gs, List.Forall₂ Fragment.SameForm fs gs →
    Fragment.capturesIn fs = Fragment.capturesIn gs ∧ Fragment.overflowsIn fs = Fragment.overflowsIn gs ∧
      ∀ fold fold', (Fragment.letterCasesIn fold fs).length = (Fragment.letterCasesIn fold' gs).length
  | [], _, .nil => ⟨rfl, rfl, fun _ _ => rfl⟩
  | f :: fs, g :: gs, .cons hf hfs => by
    obtain ⟨hcaptures, hoverflows, hlength⟩ := Fragment.counts_of_sameForm f g hf
    obtain ⟨hcaptures', hoverflows', hlength'⟩ := Fragment.counts_of_sameForms fs gs hfs
    refine ⟨?_, ?_, fun fold fold' => ?_⟩
    · rw [Fragment.capturesIn, Fragment.capturesIn, hcaptures, hcaptures']
    · rw [Fragment.overflowsIn, Fragment.overflowsIn, hoverflows, hoverflows']
    · rw [Fragment.letterCasesIn, Fragment.letterCasesIn, List.length_append, List.length_append,
        hlength fold fold', hlength' fold fold']

end

/-! ## Steps -/

/-- Fragments to choose from: the first one, or one of the others.  The definition has a case of its own for a last
fragment, so its equation needs two. -/
theorem Fragment.choices_cons (fold : Bool) (base : Nat) (f g : Fragment) (fs : List Fragment) :
    Fragment.choices fold base (f :: g :: fs) =
      Step.orElse (f.step fold base) (Fragment.choices fold (base + f.captures) (g :: fs)) := rfl

mutual

/-- **Datatypes of the same form and the same letter cases take the same steps.**  By recursion on the first datatype
along with its fragments.  Steps are equal and not only alike in what they read: the same ways are tried in the same
order, and the captures have the same numbers. -/
theorem Datatype.step_of_sameForm : (d : Datatype) → ∀ e, d.SameForm e → ∀ fold more more' base,
    (d.isSpread || more) = (e.isSpread || more') → d.letterCases fold = e.letterCases fold →
      d.step fold more base = e.step fold more' base
  | .named name spread, .named _ spread', .named, fold, more, more', base, hspread, _ => by
    have hspread : (spread || more) = (spread' || more') := hspread
    unfold Datatype.step
    rw [hspread]
  | .pattern shape parts folded spread, .pattern shape' parts' folded' spread', .pattern hshape hparts, fold,
      more, more', base, hspread, hcases => by
    have hspread : (spread || more) = (spread' || more') := hspread
    obtain ⟨hfold, hcases⟩ := List.cons.inj hcases
    rw [← hfold] at hcases
    obtain ⟨hsteps, hchoices⟩ := Fragment.steps_of_sameForms parts parts' hparts (fold || folded) base hcases
    unfold Datatype.step
    rw [← hfold, hsteps, hchoices, hspread]
    rcases hshape.cases with ⟨b, c, rfl, rfl, hleast, hmost⟩ | rfl
    · simp only [hleast, hmost]
    · rfl

/-- Fragments of the same form and letter cases take the same steps.  A variable spread itself and one of a spread
datatype lead to one step, since a step asks whether either is spread. -/
theorem Fragment.step_of_sameForm : (f : Fragment) → ∀ g, f.SameForm g → ∀ fold base,
    f.letterCases fold = g.letterCases fold → f.step fold base = g.step fold base
  | .text s, _, .text, fold, base, _ => rfl
  | .type d, .type e, .type hspread hd, fold, base, hcases => by
    rw [Fragment.step, Fragment.step]
    exact Datatype.step_of_sameForm d e hd fold false false base (by rw [hspread]) hcases
  | .typed d _ rest, .typed e _ rest', .typed hspread hd, fold, base, hcases => by
    rw [Fragment.step, Fragment.step,
      Datatype.step_of_sameForm d e hd fold rest rest' (base + 1) hspread hcases]

/-- So do fragments, in order and to choose from.  Their letter cases are cut where the first fragment ends, which the
lengths allow. -/
theorem Fragment.steps_of_sameForms : (fs : List Fragment) → ∀ gs, List.Forall₂ Fragment.SameForm fs gs →
    ∀ fold base, Fragment.letterCasesIn fold fs = Fragment.letterCasesIn fold gs →
      Fragment.steps fold base fs = Fragment.steps fold base gs ∧
        Fragment.choices fold base fs = Fragment.choices fold base gs
  | [], _, .nil, fold, base, _ => ⟨rfl, rfl⟩
  | f :: fs, g :: gs, .cons hf hfs, fold, base, hcases => by
    obtain ⟨hcaptures, _, hlength⟩ := Fragment.counts_of_sameForm f g hf
    obtain ⟨hcase, hcases⟩ := List.append_inj hcases (hlength fold fold)
    have hstep := Fragment.step_of_sameForm f g hf fold base hcase
    obtain ⟨hsteps, hchoices⟩ := Fragment.steps_of_sameForms fs gs hfs fold (base + f.captures) hcases
    rw [Fragment.steps, Fragment.steps, hstep, hsteps, hcaptures]
    refine ⟨rfl, ?_⟩
    cases hfs with
    | nil => rw [Fragment.choices, Fragment.choices, hstep]
    | @cons f' g' fs gs hf' hfs =>
      rw [Fragment.choices_cons, Fragment.choices_cons, hstep, hchoices, hcaptures]

end

namespace Datatype

variable {d e : Datatype}

/-- Once letter case is left out of account in both, their letter cases are the same: all true, and as many. -/
theorem letterCases_insensitive (h : d.SameForm e) :
    d.insensitive.letterCases false = e.insensitive.letterCases false := by
  cases h with
  | named => rfl
  | @pattern shape shape' ps qs f g s t _ hparts =>
    obtain ⟨_, _, hlength⟩ := Fragment.counts_of_sameForms ps qs hparts
    have hall : ∀ fs, Fragment.letterCasesIn true fs =
        List.replicate (Fragment.letterCasesIn true fs).length true :=
      fun fs => List.eq_replicate_iff.mpr ⟨rfl, Fragment.letterCasesIn_true fs⟩
    show true :: Fragment.letterCasesIn true ps = true :: Fragment.letterCasesIn true qs
    rw [hall ps, hall qs, hlength true true]

/-- Remaking both leaves them of the same form, which does not show letter case. -/
theorem sameForm_insensitive (h : d.SameForm e) : d.insensitive.SameForm e.insensitive := by
  cases h with
  | named => exact .named
  | pattern hshape hparts => exact .pattern hshape hparts

/-- Remaking a datatype leaves it spread or not as it was. -/
theorem isSpread_insensitive (d : Datatype) : d.insensitive.isSpread = d.isSpread := by
  cases d <;> rfl

/-- Datatypes of the same form, spread alike and with the same letter cases read the same texts: they take one step,
and the same bounds stop them. -/
theorem readsAll_of_sameForm (h : d.SameForm e) (hspread : d.isSpread = e.isSpread)
    (hcases : d.letterCases false = e.letterCases false) (s : String) : d.readsAll s = e.readsAll s := by
  have hstep := d.step_of_sameForm e h false false false 0 (by rw [hspread]) hcases
  obtain ⟨_, hoverflows, _⟩ := d.counts_of_sameForm e h
  rw [readsAll, readsAll, fullMatch?, fullMatch?, hoverflows, hstep]

/-- **They accept the same values.**  Beyond what they read, being asked depends on the shape: a look ahead refuses to
be asked, and the two are look aheads together. -/
theorem accepts_of_sameForm (h : d.SameForm e) (hspread : d.isSpread = e.isSpread)
    (hcases : d.letterCases false = e.letterCases false) (v : Value) : d.accepts v = e.accepts v := by
  have hreads := readsAll_of_sameForm h hspread hcases
  cases h with
  | named => rfl
  | @pattern shape shape' _ _ _ _ _ _ hshape _ =>
    by_cases hahead : shape = .notBefore
    · obtain rfl := hahead
      obtain rfl : Shape.notBefore = shape' := by
        rcases hshape.cases with ⟨b, c, hb, _⟩ | h
        · exact nomatch hb
        · exact h
      rfl
    · have hahead' : shape' ≠ .notBefore := by
        rintro rfl
        rcases hshape.cases with ⟨b, c, _, hc, _⟩ | h
        · exact nomatch hc
        · exact hahead h
      rw [accepts_pattern hahead, accepts_pattern hahead']
      split
      · rw [hreads]
      · rfl

end Datatype

/-! ## Obtained patterns -/

namespace Fragment

variable {wrap inner : Bool} {fs : List Fragment} {d : Datatype}

/-- The variables of a datatype among fragments are variables of these.  By induction on the fragments, as for the two
that follow. -/
theorem mem_typedVars_of_type (hd : .type d ∈ fs) {v : TypedVar} (hv : v ∈ d.typedVars inner) :
    v ∈ typedVars wrap inner fs := by
  induction fs with
  | nil => exact absurd hd List.not_mem_nil
  | cons f fs ih =>
    rcases List.mem_cons.mp hd with rfl | htail
    · exact List.mem_append_left _ hv
    · cases f with
      | text s => exact ih htail
      | type e => exact List.mem_append_right _ (ih htail)
      | typed e name rest => exact List.mem_append_right _ (ih htail)

/-- The variables inside the datatype of a variable are among a pattern's own. -/
theorem mem_typedVars_of_typed {name : String} {rest : Bool} (hd : .typed d name rest ∈ fs) {v : TypedVar}
    (hv : v ∈ d.typedVars false) : v ∈ typedVars wrap inner fs := by
  induction fs with
  | nil => exact absurd hd List.not_mem_nil
  | cons f fs ih =>
    rcases List.mem_cons.mp hd with rfl | htail
    · exact List.mem_append_left _ (List.mem_cons_of_mem _ hv)
    · cases f with
      | text s => exact ih htail
      | type e => exact List.mem_append_right _ (ih htail)
      | typed e name' rest' => exact List.mem_append_right _ (ih htail)

/-- A variable in a pattern is one of the pattern's, with a datatype that may be folded. -/
theorem exists_typedVar_of_typed {name : String} {rest : Bool} (hd : .typed d name rest ∈ fs) :
    ∃ e, ⟨e, name, rest⟩ ∈ typedVars wrap inner fs := by
  induction fs with
  | nil => exact absurd hd List.not_mem_nil
  | cons f fs ih =>
    rcases List.mem_cons.mp hd with rfl | htail
    · exact ⟨_, List.mem_append_left _ List.mem_cons_self⟩
    · obtain ⟨e, he⟩ := ih htail
      cases f with
      | text s => exact ⟨e, he⟩
      | type d' => exact ⟨e, List.mem_append_right _ he⟩
      | typed d' name' rest' => exact ⟨e, List.mem_append_right _ he⟩

end Fragment

namespace Pattern

/-- **The patterns that can be obtained**: those that the six macros make of strings, datatypes, typed
variables and patterns obtained before, each with a limit on bounds of its own; and all these with letter
case left out of account, and spread. -/
inductive Obtained : Datatype → Prop
  | make {settings : Settings} {shape : Shape} {args : List Value} {d : Datatype} :
      (∀ b, shape ≠ .repeated b) → (∀ v ∈ args, ∀ e, Brings v e → e.isPattern = true → Obtained e) →
      make shape args settings = .ok d → Obtained d
  | repeated {settings : Settings} {args : List Value} {d : Datatype} :
      (∀ v ∈ args, ∀ e, Brings v e → e.isPattern = true → Obtained e) →
      repeated args settings = .ok d → Obtained d
  | insensitive {d : Datatype} : Obtained d → Obtained d.insensitive
  | spread {d : Datatype} : Obtained d → Obtained d.spread

/-- The names of the variables in a datatype show where they end.  `fold` says that what is around leaves
letter case out of account. -/
def NamesDelimited (fold : Bool) (d : Datatype) : Prop := ∀ v ∈ d.typedVars fold, IsDelimited v.name

/-- A pattern of textual parts is legible if the patterns among them are.  The names of variables inside are names of
the whole, so the condition on names goes down to the parts. -/
theorem legible_of_parts {shape : Shape} {parts : List Fragment} {folded spread fold : Bool}
    (hbounds : ∀ b, shape = .repeated b → ∃ limit, b.WellMade limit)
    (hparts : ∀ f ∈ parts, ∀ e, f.datatype? = some e →
      isTextual e = true ∧ (e.isPattern = true → ∀ fold, NamesDelimited fold e → e.Legible))
    (hnames : NamesDelimited fold (.pattern shape parts folded spread)) :
    (Datatype.pattern shape parts folded spread).Legible := by
  refine ⟨hbounds, Fragment.allLegible_iff.mpr fun f hf => ?_⟩
  have hlegible : ∀ e, f.datatype? = some e → ∀ fold, NamesDelimited fold e → e.Legible := by
    intro e he fold hdelimited
    obtain ⟨htext, hpattern⟩ := hparts f hf e he
    cases e with
    | named name spread => exact htext
    | pattern shape parts folded spread => exact hpattern rfl fold hdelimited
  cases f with
  | text s => trivial
  | type e => exact hlegible e rfl _ fun v hv => hnames v (Fragment.mem_typedVars_of_type hf hv)
  | typed e name rest =>
    obtain ⟨e', hvar⟩ := Fragment.exists_typedVar_of_typed hf
    exact ⟨hnames _ hvar, hlegible e rfl false fun v hv => hnames v (Fragment.mem_typedVars_of_typed hf hv)⟩

/-- **Obtained patterns are legible** if the names of their variables show where they end.  By induction on how the
pattern was obtained; remaking changes how variables are reported inside, but not their names. -/
theorem Obtained.legible {d : Datatype} (h : Obtained d) : ∀ fold, NamesDelimited fold d → d.Legible := by
  induction h with
  | @make settings shape args d hshape _ hmake ih =>
    obtain ⟨parts, rfl, hall⟩ := of_make hmake
    intro fold
    refine legible_of_parts (fun b hb => absurd hb (hshape b)) fun f hf e he => ?_
    obtain ⟨v, hv, hbrings, htext⟩ := brings_of_make hall hf he
    exact ⟨htext, ih v hv e hbrings⟩
  | @repeated settings args d _ hrep ih =>
    obtain ⟨b, rest, bounds, ht, hl, hc, ho, hmake⟩ := of_repeated hrep
    obtain ⟨parts, rfl, hall⟩ := of_make hmake
    intro fold
    refine legible_of_parts (fun b' hb' => ?_) fun f hf e he => ?_
    · obtain rfl := Shape.repeated.inj hb'
      exact ⟨_, wellMade_of_repeated ht hl hc ho⟩
    · -- the fragments come from the arguments behind the bounds
      obtain ⟨v, hv, hbrings, htext⟩ := brings_of_make hall hf he
      have harg : v ∈ args := (of_takeBounds ht).2 ▸ List.mem_append_right _ hv
      exact ⟨htext, ih v harg e hbrings⟩
  | @insensitive d _ ih =>
    intro fold hnames
    cases d with
    | named name spread => exact ih fold hnames
    | pattern shape parts folded spread =>
      refine ih true fun v hv => hnames v ?_
      simpa only [Datatype.insensitive, Datatype.typedVars, Bool.true_or, Bool.or_true] using hv
  | @spread d _ ih =>
    intro fold hnames
    cases d with
    | named name spread => exact ih fold hnames
    | pattern shape parts folded spread => exact ih fold hnames

/-! ## Equal patterns -/

/-- Datatypes are equal when they are the same by their source and their letter case, and asking is never a fault. -/
theorem equals_datatype (p q : Datatype) : Value.equals (.datatype p) (.datatype q) = .ok (p.same q) := by
  rw [Value.equals.eq_def, if_neg (by simp [Value.isPlain])]

/-- **Equal patterns accept the same**, once letter case is left out of account in both; and as they are, where they
have the same letter cases, as they do when nothing in them was remade.  Equality gives one source, the source gives
one form, and the form with the letter cases gives one step. -/
theorem Obtained.accepts_of_equals {p q : Datatype} (hp : Obtained p) (hq : Obtained q)
    (hpnames : ∀ v ∈ p.typedVars false, IsDelimited v.name)
    (hqnames : ∀ v ∈ q.typedVars false, IsDelimited v.name)
    (h : Value.equals (.datatype p) (.datatype q) = .ok true) :
    (∀ v, p.insensitive.accepts v = q.insensitive.accepts v) ∧
      (p.letterCases false = q.letterCases false ∨ p.AsMade ∧ q.AsMade → ∀ v, p.accepts v = q.accepts v) := by
  rw [equals_datatype] at h
  have hsource := Datatype.source_of_same (Except.ok.inj h)
  obtain ⟨hspread, hform⟩ :=
    Datatype.sameForm_of_source (hp.legible false hpnames) (hq.legible false hqnames) hsource
  constructor
  · refine Datatype.accepts_of_sameForm (Datatype.sameForm_insensitive hform) ?_
      (Datatype.letterCases_insensitive hform)
    rw [Datatype.isSpread_insensitive, Datatype.isSpread_insensitive, hspread]
  · rintro (hcases | ⟨hpmade, hqmade⟩)
    · exact Datatype.accepts_of_sameForm hform hspread hcases
    · exact Datatype.accepts_of_sameForm hform hspread (p.letterCases_of_asMade q hform hpmade hqmade false)

/-- A letter b in either case, and then digits for a variable, once or more.  `remade` says that the pattern
for the letter was remade before it went into the one that leaves letter case out of account, and `spread`
that the datatype of the variable is spread, and not the variable. -/
def lettersAndDigits (min : Number) (remade spread : Bool) : Datatype :=
  .pattern (.repeated (.atLeast min))
    [.type (.pattern .insensitive [.type (.pattern .sequence [.text "b"] remade false)] true false),
      .typed (.named "digit" spread) "x" (!spread)] false false

/-- The double that is one. -/
def oneAsDouble : Number := .real (.ofRatio false 1 1)

/-- A sequence of one text is obtained, and so it is remade. -/
theorem obtained_text (s : String) (remade : Bool) : Obtained (.pattern .sequence [.text s] remade false) := by
  have hmade : Obtained (.pattern .sequence [.text s] false false) := by
    refine @Obtained.make Settings.usual .sequence [.string s] _ nofun ?_ rfl
    exact List.forall_mem_singleton.mpr fun e he => nomatch he
  cases remade with
  | false => exact hmade
  | true => exact hmade.insensitive

/-- The pattern is obtained as soon as the macro makes it, its parts being obtained. -/
theorem obtained_lettersAndDigits {min : Number} {remade spread : Bool}
    (h : repeated [.number min,
        .datatype (.pattern .insensitive [.type (.pattern .sequence [.text "b"] remade false)] true false),
        .typedVar ⟨.named "digit" spread, "x", !spread⟩] Settings.usual =
      .ok (lettersAndDigits min remade spread)) : Obtained (lettersAndDigits min remade spread) := by
  refine .repeated ?_ h
  refine List.forall_mem_cons.mpr ⟨nofun, List.forall_mem_cons.mpr ⟨?_, ?_⟩⟩
  · intro e he _
    cases he
    refine @Obtained.make Settings.usual .insensitive
      [.datatype (.pattern .sequence [.text "b"] remade false)] _ nofun ?_ rfl
    refine List.forall_mem_singleton.mpr fun e he _ => ?_
    cases he
    exact obtained_text "b" remade
  · refine List.forall_mem_singleton.mpr fun e he hpattern => ?_
    cases he
    exact nomatch hpattern

/-- The name of the variable is one letter. -/
theorem delimited_lettersAndDigits (min : Number) (remade spread : Bool) :
    ∀ v ∈ (lettersAndDigits min remade spread).typedVars false, IsDelimited v.name := by
  have hall : "x".toList.all Value.undelimiting = true := by decide
  exact List.forall_mem_singleton.mpr fun c hc => Value.undelimiting_iff.mp (List.all_eq_true.mp hall c hc)

/-- Two such patterns with one bound in two ways, a pattern inside remade and not, and a variable spread in
two ways are equal and accept the same. -/
theorem accepts_lettersAndDigits :
    let p := lettersAndDigits oneAsDouble true false
    let q := lettersAndDigits (.int 1) false true
    Obtained p ∧ Obtained q ∧ Value.equals (.datatype p) (.datatype q) = .ok true ∧
      ∀ v, p.accepts v = q.accepts v := by
  intro p q
  have hp : Obtained p := obtained_lettersAndDigits (by decide +kernel)
  have hq : Obtained q := obtained_lettersAndDigits (by decide +kernel)
  have hequal : Value.equals (.datatype p) (.datatype q) = .ok true := by
    rw [equals_datatype]
    decide +kernel
  obtain ⟨_, haccepts⟩ := hp.accepts_of_equals hq (delimited_lettersAndDigits _ _ _)
    (delimited_lettersAndDigits _ _ _) hequal
  exact ⟨hp, hq, hequal, haccepts (Or.inl rfl)⟩

/-- **Both provisos are needed.**  A pattern around one for the letter a is equal to one around the same
pattern remade, and only the second accepts the capital letter.  A variable whose name goes on with a comma
and a text is equal to a variable with that text behind it, and only the first accepts a digit alone. -/
theorem remade_inside :
    let settings : Settings := Settings.usual
    let around (remade : Bool) : Datatype :=
      .pattern .sequence [.type (.pattern .sequence [.text "a"] remade false)] false false
    let named : Datatype := .pattern .sequence [.typed (.named "digit" false) "x,\"a\"" false] false false
    let followed : Datatype :=
      .pattern .sequence [.typed (.named "digit" false) "x" false, .text "a"] false false
    ((∀ remade, Obtained (around remade)) ∧
      Value.equals (.datatype (around true)) (.datatype (around false)) = .ok true ∧
      (around true).accepts (.string "A") settings = .ok true ∧
      (around false).accepts (.string "A") settings = .ok false) ∧
    ((Obtained named ∧ Obtained followed) ∧
      Value.equals (.datatype named) (.datatype followed) = .ok true ∧
      named.accepts (.string "1") settings = .ok true ∧
      followed.accepts (.string "1") settings = .ok false) := by
  intro settings around named followed
  have haround : ∀ remade, Obtained (around remade) := by
    intro remade
    refine @Obtained.make settings .sequence [.datatype (.pattern .sequence [.text "a"] remade false)] _ nofun
      (List.forall_mem_singleton.mpr fun e he _ => ?_) rfl
    cases he
    exact obtained_text "a" remade
  -- a variable brings no pattern, so nothing more has to be obtained
  have hvariable : ∀ name : String, ∀ e, Brings (.typedVar ⟨.named "digit" false, name, false⟩) e →
      e.isPattern = true → Obtained e := by
    intro name e he hpattern
    cases he
    exact nomatch hpattern
  have hnamed : Obtained named :=
    @Obtained.make settings .sequence [.typedVar ⟨.named "digit" false, "x,\"a\"", false⟩] _ nofun
      (List.forall_mem_singleton.mpr (hvariable _)) (by decide +kernel)
  have hfollowed : Obtained followed :=
    @Obtained.make settings .sequence [.typedVar ⟨.named "digit" false, "x", false⟩, .string "a"] _ nofun
      (List.forall_mem_cons.mpr ⟨hvariable _, List.forall_mem_singleton.mpr fun e he => nomatch he⟩)
      (by decide +kernel)
  rw [equals_datatype, equals_datatype]
  refine ⟨⟨haround, ?_⟩, ⟨hnamed, hfollowed⟩, ?_⟩
  all_goals decide +kernel

end Pattern

end StoryValues
