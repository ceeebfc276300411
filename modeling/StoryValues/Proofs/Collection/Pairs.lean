import StoryValues.Proofs.Collection.Reached
import StoryValues.Proofs.Error.Faultless
import StoryValues.Proofs.Value.Copied
import StoryValues.Proofs.Value.Description
import StoryValues.Proofs.Value.Keys

/-
  DATAMAPS MADE OF PAIRS.  The arguments of `Datamap.ofList` are names with their values behind them.  Each pair
  is checked against the entries that there are so far, in four steps: errors, the name, the name among the others,
  and the value.  What comes of many pairs can be said of the pairs alone.

  1. **Pairs that fit** (`Fits`) — neither part has an error, the name is text or a number that is not there yet,
     by value and by text, and the value can be kept.  `WellPaired` says so of every pair behind those before it.
  2. **Pairs that offend** (`Offends`) — which error is given, with its text.  A pair behind pairs that fit either
     fits, or offends, or has a name that is too long to be written or a dataset for a value that cannot be gone
     through, which are faults (`addPair_cases`, the step).
  3. **The run** (`addPairs_cases`), by induction on the pairs from the last one: all pairs are entered, or there is
     a first one that is not, and this decides what is given.
  4. **Assigning** the same pairs to an empty datamap gives the same names with the values themselves, and the two
     datamaps are equal as far as the values are equal to themselves (`equal_copied_iff`).
-/

namespace StoryValues

variable {settings : Settings}

/-- The error of this kind with this message, and perhaps an explanation of its own. -/
def StoryError.said (kind message : String) (explanation : Option String) : StoryError where
  kind := kind
  message := Case.capitalise message
  explanation := explanation
  warning := false
  tag := none

/-- Making an error that is explained, by its kind or by itself, makes the error that says so. -/
theorem StoryError.create_eq {kind message : String} {explanation : Option String}
    (hexplained : explanation.getD "" ≠ "" ∨ (settings.catalogue.explanation? kind).isSome = true)
    (huser : kind ≠ "user") (hmessage : message ≠ "") :
    create kind message explanation settings = .ok (.said kind message explanation) := by
  have hnot : ¬ (explanation.getD "" = "" ∧ (settings.catalogue.explanation? kind).isNone = true) := by
    rintro ⟨hnone, hkind⟩
    rcases hexplained with hown | hsome
    · exact hown hnone
    · rw [Option.isNone_iff_eq_none.mp hkind] at hsome
      exact Bool.false_ne_true hsome
  rw [create, if_neg hmessage, if_neg hnot, if_neg huser]
  rfl

/-- Stopping with an error of an explained kind. -/
theorem Check.fail_eq {α : Type} {kind message : String}
    (hkind : (settings.catalogue.explanation? kind).isSome = true) (huser : kind ≠ "user")
    (hmessage : message ≠ "") :
    (Check.fail kind message : Check α) settings = .error (.story (.said kind message none)) :=
  Check.bind_of_ok (StoryError.create_eq (Or.inr hkind) huser hmessage)

namespace Value

/-- What a value directly holds can be gone through: it is no dataset, or the members have natural keys. -/
def Searchable (v : Value) : Prop :=
  ∀ tag members, v = .dataset tag members → ∀ m ∈ members, ∃ key, naturalKey m = .ok key

/-- A value can be searched for what cannot be stored iff the search ends with an answer. -/
theorem searchable_iff {v : Value} : v.Searchable ↔ ∃ found, v.unstorable? = .ok found := by
  cases v with
  | dataset tag members =>
    constructor
    · intro h
      obtain ⟨ordered, hordered, _⟩ := sortOn_perm (h tag members rfl)
      exact ⟨_, congrArg (Except.map _) hordered⟩
    · rintro ⟨found, hfound⟩ _ _ ⟨⟩
      obtain ⟨ordered, hordered, _⟩ := of_map_ok hfound
      exact (of_sortOn hordered).1
  | _ => exact ⟨fun _ => ⟨_, rfl⟩, fun _ => nofun⟩

/-- Tests all of which say yes. -/
theorem allM_of_ok {α : Type} {test : α → Except Fault Bool} {xs : List α} (h : ∀ x ∈ xs, test x = .ok true) :
    xs.allM test = .ok true := by
  induction xs with
  | nil => rfl
  | cons x xs ih =>
    obtain ⟨hx, hxs⟩ := List.forall_mem_cons.mp h
    rw [List.allM, hx]
    exact ih hxs

end Value

namespace Datamap

variable {entries : Entries} {name : Name} {before pairs : List (Value × Value)} {p : Value × Value}

/-! ## Pairs -/

/-- The arguments in which pairs are written: each name with its value behind it. -/
def inTurn (pairs : List (Value × Value)) : List Value := pairs.flatMap fun p => [p.1, p.2]

/-- Arguments are written in pairs iff there is an even number of them. -/
theorem exists_inTurn (args : List Value) (heven : args.length % 2 = 0) : ∃ pairs, inTurn pairs = args := by
  induction args using List.twoStepInduction with
  | nil => exact ⟨[], rfl⟩
  | singleton v => exact absurd heven Nat.one_ne_zero
  | cons_cons key v rest ih _ =>
    obtain ⟨pairs, rfl⟩ := ih ((Nat.add_mod_right _ 2).symm.trans heven)
    exact ⟨(key, v) :: pairs, rfl⟩

/-- Pairs written in turn are an even number of arguments. -/
theorem length_inTurn (pairs : List (Value × Value)) : (inTurn pairs).length % 2 = 0 := by
  induction pairs with
  | nil => rfl
  | cons p pairs ih => exact (Nat.add_mod_right _ 2).trans ih

/-- Adding names and values in turn is adding pair after pair. -/
theorem addPairs_inTurn (pairs : List (Value × Value)) (entries : Entries) :
    addPairs entries (inTurn pairs) = pairs.foldlM (fun entries p => addPair entries p.1 p.2) entries := by
  induction pairs generalizing entries with
  | nil => rfl
  | cons p pairs ih =>
    rw [List.foldlM_cons]
    exact congrArg (addPair entries p.1 p.2 >>= ·) (funext ih)

/-- **A name that is new** behind pairs: none of their names is the same, and none of the other kind is written
alike. -/
def New (before : List (Value × Value)) (name : Name) : Prop :=
  ∀ q ∈ before, ∀ other, nameOf? q.1 = some other → other.same name = false ∧ other.alike name = false

/-- **A pair that fits** behind pairs: the first part is a name that is new, and neither part is an error or holds
one in arrays, and the second is not unstorable and holds nothing directly that is. -/
structure Fits (before : List (Value × Value)) (p : Value × Value) : Prop where
  free : p.1.ErrorFree
  named : ∃ name, nameOf? p.1 = some name ∧ New before name
  keepable : p.2.Keepable

/-- **Well-formed pairs**: each fits behind those in front of it. -/
def WellPaired (pairs : List (Value × Value)) : Prop :=
  ∀ before p after, pairs = before ++ p :: after → Fits before p

/-- No pairs are well-formed. -/
theorem wellPaired_nil : WellPaired [] :=
  fun _ _ _ h => absurd h.symm (List.append_ne_nil_of_right_ne_nil _ (List.cons_ne_nil _ _))

/-- One more pair behind others: it has to fit behind all of them.  Datamaps are made by adding at the end, so the
inductions on pairs go this way. -/
theorem wellPaired_snoc : WellPaired (pairs ++ [p]) ↔ WellPaired pairs ∧ Fits pairs p := by
  constructor
  · intro h
    refine ⟨fun before q after hpairs => h before q (after ++ [p]) ?_, h pairs p [] rfl⟩
    rw [hpairs, List.append_assoc, List.cons_append]
  · rintro ⟨hpairs, hp⟩ before q after h
    rcases List.eq_nil_or_concat' after with rfl | ⟨after, r, rfl⟩
    · obtain ⟨rfl, hlast⟩ := List.append_inj' h rfl
      exact (List.cons.inj hlast).1 ▸ hp
    · rw [← List.cons_append, ← List.append_assoc] at h
      exact hpairs before q after (List.append_inj' h rfl).1

/-- **A pair that can be checked** to the end: what stands for the name is not too long to be written, and what the
value directly holds can be gone through. -/
structure Checkable (p : Value × Value) : Prop where
  writable : ¬ p.1.TooLong
  searchable : p.2.Searchable

/-- **A pair that offends** behind pairs, with the error that it gives.  Errors count before the name, the name by
itself before the name among others, and the value last. -/
inductive Offends (before : List (Value × Value)) (p : Value × Value) : StoryError → Prop
  /-- a part is an error or holds one in arrays -/
  | error {e : StoryError} : (Value.array [p.1, p.2]).FirstError e → Offends before p e
  /-- the first part is no name -/
  | unnamed {text : String} : p.1.ErrorFree → p.2.ErrorFree → nameOf? p.1 = none → p.1.objectName = .ok text →
      Offends before p (.said "property"
        s!"Only strings and numbers can be used as data names for a datamap, not {text}." none)
  /-- a name of the other kind is written alike -/
  | alike {q : Value × Value} {name other : Name} {text otherText : String} : p.2.ErrorFree →
      nameOf? p.1 = some name → p.1.objectName = .ok text → q ∈ before → nameOf? q.1 = some other →
      q.1.objectName = .ok otherText → other.alike name = true → Offends before p (.said "property"
        ("You mustn't use both " ++ otherText ++ " and " ++ text ++ " as data names in the same datamap.") none)
  /-- the name is there already -/
  | repeated {q : Value × Value} {name other : Name} {text : String} : p.2.ErrorFree → nameOf? p.1 = some name →
      p.1.objectName = .ok text → q ∈ before → nameOf? q.1 = some other → other.same name = true →
      Offends before p (.said "operation"
        s!"You used the same data name ({text}) twice in the same datamap." none)
  /-- the value is unstorable, or the first thing in it that is unstorable is this -/
  | unstorable {name : Name} {bad : Value} {text : String} : p.2.ErrorFree → ¬ p.1.TooLong →
      nameOf? p.1 = some name → New before name → p.2.unstorable? = .ok (some bad) → bad.objectName = .ok text →
      Offends before p (.said "operation" s!"{text} can't be stored in a datamap." none)

/-- **What a pair gives that is not entered**: its error; or the fault of writing what stands for the name; or, where
all is well up to the value and this is a dataset that cannot be gone through, the fault of that. -/
inductive Refused (before : List (Value × Value)) (p : Value × Value) : Failure → Prop
  | offends {e : StoryError} : Offends before p e → Refused before p (.story e)
  | unwritable : p.2.ErrorFree → p.1.TooLong → Refused before p (.fault .integerTooLong)
  | unsearchable {name : Name} {fault : Fault} : p.2.ErrorFree → ¬ p.1.TooLong → nameOf? p.1 = some name →
      New before name → p.2.unstorable? = .error fault → Refused before p (.fault fault)

/-- What offends does not fit, whichever of the four steps it offends at. -/
theorem Offends.not_fits {e : StoryError} (h : Offends before p e) : ¬ Fits before p := by
  rintro ⟨hfree, ⟨name, hname, hnew⟩, hkeepable⟩
  cases h with
  | error he =>
    have hboth : (Value.array [p.1, p.2]).ErrorFree :=
      .array (List.forall_mem_cons.mpr ⟨hfree, List.forall_mem_singleton.mpr hkeepable.1⟩)
    exact nomatch (Value.firstError?_eq_none.mpr hboth).symm.trans (Value.firstError?_eq_some.mpr he)
  | unnamed _ _ hnone _ => exact nomatch hnone.symm.trans hname
  | alike _ hname' _ hq hother _ halike =>
    obtain rfl := Option.some.inj (hname.symm.trans hname')
    exact nomatch (hnew _ hq _ hother).2.symm.trans halike
  | repeated _ hname' _ hq hother hsame =>
    obtain rfl := Option.some.inj (hname.symm.trans hname')
    exact nomatch (hnew _ hq _ hother).1.symm.trans hsame
  | unstorable hvalue _ _ _ hbad _ => exact nomatch (Value.keepable_iff_of_unstorable? hvalue hbad).mp hkeepable

/-- What is refused does not fit or cannot be checked to the end. -/
theorem Refused.not_entered {failure : Failure} (h : Refused before p failure) : ¬ (Fits before p ∧ Checkable p) := by
  rintro ⟨hfits, hcheckable⟩
  cases h with
  | offends he => exact he.not_fits hfits
  | unwritable _ hlong => exact hcheckable.writable hlong
  | unsearchable _ _ _ _ hfault =>
    obtain ⟨found, hfound⟩ := Value.searchable_iff.mp hcheckable.searchable
    exact nomatch hfault.symm.trans hfound

/-! ## What is made of pairs -/

/-- **Entries made of pairs**: the names in their order, each with what becomes of its value. -/
def MadeOf (f : Value → Value) (pairs : List (Value × Value)) (entries : Entries) : Prop :=
  List.Forall₂ (fun p e => nameOf? p.1 = some e.1 ∧ e.2 = f p.2) pairs entries

namespace MadeOf

variable {f : Value → Value}

/-- One more pair makes one more entry. -/
theorem snoc (h : MadeOf f pairs entries) (hname : nameOf? p.1 = some name) :
    MadeOf f (pairs ++ [p]) (entries ++ [(name, f p.2)]) := List.rel_append h (.cons ⟨hname, rfl⟩ .nil)

/-- A name is new behind pairs iff it may be set and is not set in what was made of them.  It turns the check against
entries into a condition on pairs alone. -/
theorem new_iff (h : MadeOf f before entries) (name : Name) :
    New before name ↔ clash? entries name = none ∧ has entries name = false := by
  have hmembers : New before name ↔ ∀ e ∈ entries, e.1.same name = false ∧ e.1.alike name = false := by
    refine Value.forall_iff_of_forall₂ h fun q _ e _ hqe => ⟨fun hq => hq e.1 hqe.1, fun he other hother => ?_⟩
    exact Option.some.inj (hqe.1.symm.trans hother) ▸ he
  rw [hmembers, clash?_eq_none, has, List.any_eq_false]
  constructor
  · exact fun hall => ⟨fun e he => (hall e he).2, fun e he => Bool.eq_false_iff.mp (hall e he).1⟩
  · rintro ⟨halike, hsame⟩ e he
    exact ⟨Bool.eq_false_iff.mpr (hsame e he), halike e he⟩

/-- Every name that is set was made of a pair. -/
theorem exists_pair (h : MadeOf f before entries) {e : Name × Value} (he : e ∈ entries) :
    ∃ q ∈ before, nameOf? q.1 = some e.1 := by
  obtain ⟨q, hq, hqe⟩ := exists_of_forall₂ h.flip e he
  exact ⟨q, hq, hqe.1⟩

end MadeOf

/-- What clashes is one of the names, and is written alike. -/
theorem of_clash? {other : Name} (h : clash? entries name = some other) :
    other ∈ names entries ∧ other.alike name = true :=
  ⟨List.mem_of_find?_eq_some h, (List.find?_eq_some_iff_append.mp h).1⟩

/-- What makes a name is the value of the name. -/
theorem ofName_of_nameOf? {v : Value} (h : nameOf? v = some name) : Value.ofName name = v := by
  cases v with
  | string s => exact Option.some.inj h ▸ rfl
  | number n =>
    cases hn : n.isNumber with
    | true => exact Option.some.inj ((if_pos hn).symm.trans h) ▸ rfl
    | false => exact nomatch (if_neg (Bool.eq_false_iff.mp hn)).symm.trans h
  | _ => exact nomatch h

/-- A value that makes a name can be written iff the name can. -/
theorem isShort_iff_of_nameOf? {v : Value} (h : nameOf? v = some name) : name.isShort = true ↔ ¬ v.TooLong := by
  obtain rfl := ofName_of_nameOf? h
  cases name with
  | text s => exact iff_of_true rfl nofun
  | number n =>
    constructor
    · exact Value.not_tooLong_number
    · exact fun hshort => Bool.of_not_eq_false fun hlong => hshort (.number hlong)

section Steps

variable (hproperty : (settings.catalogue.explanation? "property").isSome = true)
  (hoperation : (settings.catalogue.explanation? "operation").isSome = true)
include hproperty

omit hproperty in
/-- What stands for a name and is too long to be written can't be checked, be it a number or none: either the name is
written, or the error that would refuse it speaks of it. -/
theorem checkName_of_tooLong {v : Value} (hlong : v.TooLong) :
    checkName entries v settings = .error (.fault .integerTooLong) := by
  have hfree : v.ErrorFree := by
    cases hlong with
    | number _ => exact .other nofun nofun
    | changer _ => exact .other nofun nofun
  rw [checkName, Check.bind_of_ok (Value.guardError_of_errorFree hfree)]
  cases hname : nameOf? v with
  | none => exact Check.bind_of_error (by rw [hlong.objectName]; rfl)
  | some name =>
    have hname : name.format = .error .integerTooLong := by
      rw [name.format_eq, if_neg fun hshort => (isShort_iff_of_nameOf? hname).mp hshort hlong]
    exact Check.bind_of_error (by rw [hname]; rfl)

/-- **Checking a name** behind pairs: it passes, or the pair offends, if what stands for the name and what stood for
the names before it can be written. -/
theorem checkName_cases {f : Value → Value} (hmade : MadeOf f before entries) (hbefore : ∀ q ∈ before, ¬ q.1.TooLong)
    (hfree : p.1.ErrorFree) (hvalue : p.2.ErrorFree) (hwritable : ¬ p.1.TooLong) :
    (∃ name, nameOf? p.1 = some name ∧ clash? entries name = none ∧
      checkName entries p.1 settings = .ok name) ∨
    ∃ e, Offends before p e ∧ checkName entries p.1 settings = .error (.story e) := by
  obtain ⟨text, htext⟩ := Value.exists_objectName hwritable
  rw [checkName, Check.bind_of_ok (Value.guardError_of_errorFree hfree)]
  cases hname : nameOf? p.1 with
  | none =>
    exact Or.inr ⟨_, .unnamed hfree hvalue hname htext, (Check.bind_of_ok (Check.lift_eq_ok.mpr htext)).trans
      (Check.fail_eq hproperty (by decide) (append_ne_empty_right _ (by decide)))⟩
  | some name =>
    have hformat : (liftM name.format : Check String) settings = .ok name.shown := by
      rw [name.format_eq, if_pos ((isShort_iff_of_nameOf? hname).mpr hwritable)]
      rfl
    dsimp only
    rw [Check.bind_of_ok hformat]
    cases hclash : clash? entries name with
    | none => exact Or.inl ⟨name, rfl, hclash, rfl⟩
    | some other =>
      -- the name that it clashes with was given by a pair before
      obtain ⟨hmem, halike⟩ := of_clash? hclash
      obtain ⟨e, he, rfl⟩ := List.mem_map.mp hmem
      obtain ⟨q, hq, hother⟩ := hmade.exists_pair he
      obtain ⟨otherText, hotherText⟩ := Value.exists_objectName (hbefore q hq)
      refine Or.inr ⟨_, .alike hvalue hname htext hq hother hotherText halike, ?_⟩
      dsimp only
      rw [ofName_of_nameOf? hother]
      refine (Check.bind_of_ok (Check.lift_eq_ok.mpr hotherText)).trans ?_
      refine (Check.bind_of_ok (Check.lift_eq_ok.mpr htext)).trans ?_
      exact Check.fail_eq hproperty (by decide) (append_ne_empty_right _ (by decide))

include hoperation

/-- **A pair behind pairs that were entered**: it fits and is entered too, or it is refused. -/
theorem addPair_cases (hmade : MadeOf Value.clone before entries) (hbefore : ∀ q ∈ before, Checkable q)
    (p : Value × Value) :
    (∃ name, nameOf? p.1 = some name ∧ Fits before p ∧ Checkable p ∧
      addPair entries p.1 p.2 settings = .ok (entries ++ [(name, p.2.clone)])) ∨
    ∃ failure, Refused before p failure ∧ addPair entries p.1 p.2 settings = .error failure := by
  rw [addPair]
  rcases Value.errorFree_or_firstError (.array [p.1, p.2]) with hfree | ⟨e, he⟩
  -- an error in either part comes first
  swap
  · exact Or.inr ⟨_, .offends (.error he), Check.bind_of_error (Value.guardError_of_firstError he)⟩
  have hguard : Value.guardErrors [p.1, p.2] settings = .ok () := Value.guardError_of_errorFree hfree
  obtain ⟨hkey, hrest⟩ := List.forall_mem_cons.mp (Value.errorFree_array.mp hfree)
  have hvalue : p.2.ErrorFree := List.forall_mem_singleton.mp hrest
  rw [Check.bind_of_ok hguard]
  -- then the name has to be written
  by_cases hwritable : p.1.TooLong
  · exact Or.inr ⟨_, .unwritable hvalue hwritable, Check.bind_of_error (checkName_of_tooLong hwritable)⟩
  rcases checkName_cases hproperty hmade (fun q hq => (hbefore q hq).writable) hkey hvalue hwritable with
    ⟨name, hname, hclash, hcheck⟩ | ⟨e, he, hcheck⟩
  swap
  · exact Or.inr ⟨_, .offends he, Check.bind_of_error hcheck⟩
  rw [Check.bind_of_ok hcheck]
  -- a name that is text for text a new one may still be there by value
  cases hhas : has entries name with
  | true =>
    obtain ⟨e, he, hsame⟩ := has_iff.mp hhas
    obtain ⟨q, hq, hother⟩ := hmade.exists_pair he
    obtain ⟨text, htext⟩ := Value.exists_objectName hwritable
    refine Or.inr ⟨_, .offends (.repeated hvalue hname htext hq hother hsame), ?_⟩
    refine (Check.bind_of_ok (Check.lift_eq_ok.mpr htext)).trans (Check.bind_of_error ?_)
    exact Check.fail_eq hoperation (by decide) (append_ne_empty_right _ (by decide))
  | false =>
    have hnew : New before name := (hmade.new_iff name).mpr ⟨hclash, hhas⟩
    -- the value is looked at last
    cases hsearch : p.2.unstorable? with
    | error fault => exact Or.inr ⟨_, .unsearchable hvalue hwritable hname hnew hsearch, rfl⟩
    | ok found =>
      cases found with
      | some bad =>
        obtain ⟨text, htext⟩ := Value.exists_objectName_of_unstorable? hsearch
        refine Or.inr ⟨_, .offends (.unstorable hvalue hwritable hname hnew hsearch htext), ?_⟩
        refine (Check.bind_of_ok (Check.lift_eq_ok.mpr htext)).trans ?_
        exact Check.fail_eq hoperation (by decide) (append_ne_empty_right _ (by decide))
      | none =>
        have hkeepable := (Value.keepable_iff_of_unstorable? hvalue hsearch).mpr rfl
        have hfits : Fits before p := ⟨hkey, ⟨name, hname, hnew⟩, hkeepable⟩
        exact Or.inl ⟨name, hname, hfits, ⟨hwritable, Value.searchable_iff.mpr ⟨_, hsearch⟩⟩, rfl⟩

/-- **Pairs one after another**, by induction from the last one: all are entered, or one is refused, and all in
front of it fit. -/
theorem addPairs_cases (pairs : List (Value × Value)) :
    (WellPaired pairs ∧ (∀ p ∈ pairs, Checkable p) ∧ ∃ created, MadeOf Value.clone pairs created ∧
      addPairs [] (inTurn pairs) settings = .ok created) ∨
    ∃ before p after failure, pairs = before ++ p :: after ∧ WellPaired before ∧ (∀ q ∈ before, Checkable q) ∧
      Refused before p failure ∧ addPairs [] (inTurn pairs) settings = .error failure := by
  simp only [addPairs_inTurn]
  induction pairs using List.reverseRecOn with
  | nil => exact Or.inl ⟨wellPaired_nil, nofun, [], .nil, rfl⟩
  | append_singleton pairs p ih =>
    rw [List.foldlM_append]
    rcases ih with ⟨hwell, hcheckable, created, hmade, hrun⟩ |
      ⟨before, q, after, failure, rfl, hwell, hcheckable, hrefused, hrun⟩
    · rw [Check.bind_of_ok hrun, List.foldlM_cons]
      rcases addPair_cases hproperty hoperation hmade hcheckable p with
        ⟨name, hname, hfits, hp, hadd⟩ | ⟨failure, hrefused, hadd⟩
      · refine Or.inl ⟨wellPaired_snoc.mpr ⟨hwell, hfits⟩, ?_, _, hmade.snoc hname, Check.bind_of_ok hadd⟩
        exact List.forall_mem_append.mpr ⟨hcheckable, List.forall_mem_singleton.mpr hp⟩
      · exact Or.inr ⟨pairs, p, [], failure, rfl, hwell, hcheckable, hrefused, Check.bind_of_error hadd⟩
    · refine Or.inr ⟨before, q, after ++ [p], failure, ?_, hwell, hcheckable, hrefused, Check.bind_of_error hrun⟩
      rw [List.append_assoc, List.cons_append]

end Steps

/-! ## Assigning the same pairs -/

/-- Pairs assigned one after another. -/
def assignPairs (entries : Entries) (pairs : List (Value × Value)) : Check Entries :=
  pairs.foldlM (fun entries p => assign entries p.1 p.2) entries

/-- **Pairs that are well-formed** are all assigned, if their names can be written, by induction from the last one. -/
theorem assignPairs_of_wellPaired (h : WellPaired pairs) (hwritable : ∀ p ∈ pairs, ¬ p.1.TooLong) :
    ∃ assigned, MadeOf id pairs assigned ∧ NamesApart assigned ∧
      assignPairs [] pairs settings = .ok assigned := by
  induction pairs using List.reverseRecOn with
  | nil => exact ⟨[], .nil, .nil, rfl⟩
  | append_singleton pairs p ih =>
    obtain ⟨hwell, hfits⟩ := wellPaired_snoc.mp h
    obtain ⟨hothers, hlast⟩ := List.forall_mem_append.mp hwritable
    obtain ⟨assigned, hmade, hapart, hrun⟩ := ih hwell hothers
    obtain ⟨name, hname, hnew⟩ := hfits.named
    have hshort : name.isShort = true :=
      (isShort_iff_of_nameOf? hname).mpr (hlast p (List.mem_singleton.mpr rfl))
    obtain ⟨hclash, hlacks⟩ := (hmade.new_iff name).mp hnew
    have hassign : assign assigned p.1 p.2 settings = .ok (assigned ++ [(name, p.2)]) := by
      rw [assign_of_name hname hshort hclash, put_of_lacks hlacks]
    refine ⟨_, hmade.snoc hname, hapart.assign hassign, ?_⟩
    rw [assignPairs, List.foldlM_append]
    exact (Check.bind_of_ok hrun).trans (Check.bind_of_ok hassign)

/-- **A datamap and one with copies of its values** are equal iff each value is equal to itself. -/
theorem equal_copied_iff (h : NamesApart entries) (s t : Tag) :
    Value.Equal (.datamap s (entries.map fun e => (e.1, e.2.clone))) (.datamap t entries) ↔
      ∀ e ∈ entries, Value.Equal e.2 e.2 := by
  -- a name leads from its copy back to the entry
  have hpartner : ∀ e ∈ entries, ∀ e' ∈ entries, e'.1.same e.1 = true → e' = e :=
    fun e he e' he' hsame => h.eq_of_shown he' he (Name.shown_of_same hsame)
  constructor
  · intro hequal e he
    obtain ⟨_, hall⟩ := Value.of_equal_datamap hequal
    obtain ⟨e', he', hsame, hvalue⟩ := hall _ (List.mem_map_of_mem he)
    obtain rfl := hpartner e he e' he' hsame
    exact (Value.equals_clone e'.2 e'.2).symm.trans hvalue
  · intro hall
    rw [Value.Equal, Value.equals.eq_def, if_neg (by simp [Value.isPlain])]
    refine (if_pos (List.length_map _)).trans (Value.allM_of_ok ?_)
    rintro ⟨copy, hcopy⟩ -
    obtain ⟨e, he, rfl⟩ := List.mem_map.mp hcopy
    have hself : e.1.same e.1 = true := Name.same_refl (h.proper e he)
    simp only
    split
    · rename_i e' hfind
      obtain rfl := hpartner e he e' (List.mem_of_find?_eq_some hfind)
        (List.find?_some (p := fun e' : Name × Value => e'.1.same e.1) hfind)
      exact (Value.equals_clone e'.2 e'.2).trans (hall e' he)
    · rename_i hfind
      exact absurd hself (List.find?_eq_none.mp hfind e he)

/-- What is created of pairs has copies of what is assigned of them. -/
theorem MadeOf.eq_map {f : Value → Value} {made assigned : Entries} (hmade : MadeOf f pairs made)
    (hassigned : MadeOf id pairs assigned) : made = assigned.map fun e => (e.1, f e.2) := by
  induction hmade generalizing assigned with
  | nil =>
    cases hassigned
    rfl
  | @cons p e pairs made hpe _ ih =>
    cases hassigned with
    | @cons _ e' _ assigned hpe' hrest =>
      have hname : e.1 = e'.1 := Option.some.inj (hpe.1.symm.trans hpe'.1)
      have hvalue : e.2 = f e'.2 := hpe.2.trans (congrArg f hpe'.2.symm)
      rw [List.map_cons, ← ih hrest, ← hname, ← hvalue]

/-! ## The whole -/

/-- **What pairs make.**  A datamap, iff the pairs are well-formed and can be checked to the end, that is, no name is
too long to be written and no value is a dataset that cannot be gone through.  It has the names in their order with
copies of the values, and is equal to the datamap that the same pairs are assigned to, as far as the values are equal
to themselves.  Otherwise the first pair that does not fit, or cannot be checked, gives its error or the fault of
that. -/
structure OfPairs (settings : Settings) (pairs : List (Value × Value)) : Prop where
  accepts : (∃ d, ofList (inTurn pairs) settings = .ok d) ↔ WellPaired pairs ∧ ∀ p ∈ pairs, Checkable p
  made : ∀ d, ofList (inTurn pairs) settings = .ok d → ∃ created assigned, d = .datamap none created ∧
    MadeOf Value.clone pairs created ∧ assignPairs [] pairs settings = .ok assigned ∧ MadeOf id pairs assigned ∧
    ∀ s t, Value.Equal (.datamap s created) (.datamap t assigned) ↔ ∀ p ∈ pairs, Value.Equal p.2 p.2
  refuses : ∀ failure, ofList (inTurn pairs) settings = .error failure → ∃ before p after,
    pairs = before ++ p :: after ∧ WellPaired before ∧ (∀ q ∈ before, Checkable q) ∧ Refused before p failure

/-- The error of a name that is left over, and is spoken of like this. -/
def oddArguments (last : String) : StoryError :=
  .said "macrocall" (last ++ " lacks a matching value.")
    (some "Datamaps must be given pairs of names and values, one after another.")

/-- What is made of pairs is what their entries make, or what stops adding them. -/
theorem ofList_inTurn (pairs : List (Value × Value)) : ofList (inTurn pairs) settings =
    (addPairs [] (inTurn pairs) settings).map fun entries => .datamap none entries := by
  have heven : ¬ (inTurn pairs).length % 2 = 1 := by
    rw [length_inTurn]
    exact Nat.zero_ne_one
  rw [ofList, if_neg heven]
  cases hrun : addPairs [] (inTurn pairs) settings with
  | ok entries => exact Check.bind_of_ok hrun
  | error failure => exact Check.bind_of_error hrun

/-- Pairs make what is said of them, wherever errors about names and operations are explained.  By cases on whether
all of them fit, or there is a first that does not. -/
theorem ofPairs_of_explained (hproperty : (settings.catalogue.explanation? "property").isSome = true)
    (hoperation : (settings.catalogue.explanation? "operation").isSome = true) (pairs : List (Value × Value)) :
    OfPairs settings pairs := by
  have hcases := addPairs_cases hproperty hoperation pairs
  rcases hcases with ⟨hwell, hcheckable, created, hcreated, hrun⟩ |
    ⟨before, p, after, failure, hpairs, hwell, hcheckable, hrefused, hrun⟩
  · obtain ⟨assigned, hassigned, hapart, hassign⟩ :=
      @assignPairs_of_wellPaired settings _ hwell fun p hp => (hcheckable p hp).writable
    have hresult : ofList (inTurn pairs) settings = .ok (.datamap none created) := by
      rw [ofList_inTurn, hrun]
      rfl
    refine ⟨iff_of_true ⟨_, hresult⟩ ⟨hwell, hcheckable⟩, fun d hd => ?_, ?_⟩
    swap
    · exact fun failure h => nomatch hresult.symm.trans h
    refine ⟨created, assigned, Except.ok.inj (hd.symm.trans hresult), hcreated, hassign, hassigned, fun s t => ?_⟩
    -- the datamap that is made holds copies, so it is equal where each value is equal to itself
    rw [hcreated.eq_map hassigned, equal_copied_iff hapart]
    refine (Value.forall_iff_of_forall₂ hassigned fun p _ e _ hpe => ?_).symm
    rw [hpe.2]
    rfl
  · have hresult : ofList (inTurn pairs) settings = .error failure := by
      rw [ofList_inTurn, hrun]
      rfl
    have hnone : ∀ d, ofList (inTurn pairs) settings ≠ .ok d := fun d hd => nomatch hresult.symm.trans hd
    refine ⟨iff_of_false (fun ⟨d, hd⟩ => hnone d hd) ?_, fun d hd => absurd hd (hnone d), fun failure' h => ?_⟩
    · -- a pair that was refused cannot both fit and be checkable
      rintro ⟨hall, hcheckableAll⟩
      exact hrefused.not_entered ⟨hall before p after hpairs,
        hcheckableAll p (hpairs ▸ List.mem_append_right _ List.mem_cons_self)⟩
    · obtain rfl := Except.error.inj (hresult.symm.trans h)
      exact ⟨before, p, after, hpairs, hwell, hcheckable, hrefused⟩

/-- **A datamap is made of well-formed pairs, and of nothing else.**  An odd number of arguments gives the error of
the last one, or a fault if that is too long to be written; an even number is pairs, and what pairs make is said by
`OfPairs`. -/
theorem ofList_accepts_wellPaired (hproperty : (settings.catalogue.explanation? "property").isSome = true)
    (hoperation : (settings.catalogue.explanation? "operation").isSome = true) (args : List Value) :
    (args.length % 2 = 1 → ∃ last, args.getLast? = some last ∧
      ((last.TooLong ∧ ofList args settings = .error (.fault .integerTooLong)) ∨
        ∃ text, last.objectName = .ok text ∧ ofList args settings = .error (.story (oddArguments text)))) ∧
    (args.length % 2 = 0 → ∃ pairs, inTurn pairs = args) ∧
    ∀ pairs, inTurn pairs = args → OfPairs settings pairs := by
  refine ⟨fun hodd => ?_, exists_inTurn args, fun pairs _ => ofPairs_of_explained hproperty hoperation pairs⟩
  have hne : args ≠ [] := by
    rintro rfl
    exact Nat.zero_ne_one hodd
  refine ⟨args.getLast hne, List.getLast?_eq_some_getLast hne, ?_⟩
  rw [ofList, if_pos hodd, List.getLast?_eq_some_getLast hne]
  by_cases hlong : (args.getLast hne).TooLong
  · refine Or.inl ⟨hlong, Check.bind_of_error ?_⟩
    rw [Option.getD_some, hlong.objectName]
    rfl
  · obtain ⟨text, htext⟩ := Value.exists_objectName hlong
    refine Or.inr ⟨text, htext, (Check.bind_of_ok (Check.lift_eq_ok.mpr htext)).trans (Check.bind_of_error ?_)⟩
    exact Check.bind_of_ok
      (StoryError.create_eq (Or.inl (by decide)) (by decide) (append_ne_empty_right _ (by decide)))

/-- A text and a number as names, with a dataset under the number. -/
theorem ofList_textThenNumber :
    let pairs : List (Value × Value) :=
      [(.string "a", .array [.nothing]), (.number (.int 1), .dataset (some 0) [.string "x"])]
    OfPairs { Settings.usual with repeatLimit := 0 } pairs ∧ WellPaired pairs ∧
      ofList (inTurn pairs) { Settings.usual with repeatLimit := 0 } = .ok (.datamap none
        [(.text "a", .array [.nothing]), (.number (.int 1), .dataset none [.string "x"])]) := by
  intro pairs
  have hmakes : OfPairs { Settings.usual with repeatLimit := 0 } pairs :=
    (@ofList_accepts_wellPaired { Settings.usual with repeatLimit := 0 } (by decide +kernel) (by decide +kernel)
      (inTurn pairs)).2.2 pairs rfl
  have hmade : ofList (inTurn pairs) { Settings.usual with repeatLimit := 0 } = .ok (.datamap none
      [(.text "a", .array [.nothing]), (.number (.int 1), .dataset none [.string "x"])]) := by
    decide +kernel
  exact ⟨hmakes, (hmakes.accepts.mp ⟨_, hmade⟩).1, hmade⟩

/-- The name `a` with a dataset that holds a whole number too large for a double. -/
def largeInside : List (Value × Value) := [(.string "a", .dataset none [.number (.int (10 ^ 400))])]

/-- **No datamap is made of it,** though it is well-formed: looking for something unstorable puts the members in
natural order. -/
theorem ofList_largeInside : WellPaired largeInside ∧
    ofList (inTurn largeInside) { Settings.usual with repeatLimit := 0 } = .error (.fault .integerTooLarge) := by
  refine ⟨?_, by decide +kernel⟩
  have hfits : Fits [] (Value.string "a", Value.dataset none [.number (.int (10 ^ 400))]) := by
    refine ⟨.other nofun nofun, ⟨_, rfl, nofun⟩, .other nofun nofun, rfl, ?_⟩
    exact List.forall_mem_singleton.mpr rfl
  exact wellPaired_snoc.mpr ⟨wellPaired_nil, hfits⟩

end Datamap

end StoryValues
