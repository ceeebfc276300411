import StoryValues.Proofs.Error.Faultless
import StoryValues.Proofs.Number.Format
import StoryValues.Proofs.Number.Rounding
import StoryValues.Proofs.Pattern.Destructured
import StoryValues.Proofs.Value.Description

/-
  THE GRAMMAR OF PATTERNS: which arguments make one, and what is said of the others.

  1. **Legal arguments** — `Legal`: strings, datatypes of text, and typed variables over these where the shape takes
     any.  They are those that make a fragment (`fragment_eq_ok_iff`), and all others are refused
     (`exists_refusal`), if there is something to say of them: a refusal names what it refuses, and an integer of too
     many digits has no name (`fragment_of_tooLong`).
  2. **The first that is not legal** decides: a pattern is made iff all are legal (`make_eq_ok_iff`), and else the
     refusal of the first that is not is what comes of it (`make_of_first`).  All arguments are looked at before any
     refusal is given, so that one without a name spoils that (`make_of_tooLong`).
  3. **Bounds.**  Up to two numbers in front of the arguments are taken for bounds (`Fronted`).  Those that are made
     well pass all checks, unless a number has no double (`stopsOnly_repeated`), and no others do.
  4. **The whole** (`construction_spec`).
-/

namespace StoryValues

/-- A datatype of text: a pattern, or any string, or one of the datatypes of characters, spread or not. -/
def Datatype.OfText : Datatype → Prop
  | .named name _ => name ∈ "string" :: characterTypes
  | .pattern .. => True

/-- Whether typed variables may be among the fragments: everywhere but where a match may leave them unread. -/
def Shape.TakesVariables : Shape → Prop
  | .either | .optional => False
  | .repeated (.atLeast min) | .repeated (.between min _) => min.sameValue (.int 0) = false
  | _ => True

namespace Pattern

variable {settings : Settings} {shape : Shape} {v : Value} {f : Fragment} {d : Datatype} {args rest : List Value}
  {b : Bounds}

/-! ## Legal arguments -/

/-- **The arguments that a pattern of a shape may be made of.** -/
inductive Legal (shape : Shape) : Value → Prop
  | text (s : String) : Legal shape (.string s)
  | type {d : Datatype} : d.OfText → Legal shape (.datatype d)
  | typed {w : TypedVar} : shape.TakesVariables → w.datatype.OfText → Legal shape (.typedVar w)

/-- The pattern of a shape that has these arguments for its fragments. -/
def PatternOf (shape : Shape) (args : List Value) (d : Datatype) : Prop :=
  ∃ parts, parts.map Fragment.toValue = args ∧ d = .pattern shape parts (shape == .insensitive) false

/-- A legal argument stands for a fragment, so a list of legal arguments is the values of some fragments
(`exists_parts`). -/
theorem Legal.exists_fragment (h : Legal shape v) : ∃ f : Fragment, f.toValue = v := by
  cases h with
  | text s => exact ⟨.text s, rfl⟩
  | @type d _ => exact ⟨.type d, rfl⟩
  | @typed w _ _ => exact ⟨.typed w.datatype w.name w.rest, rfl⟩

/-- The kind of error that refuses an argument which is not legal. -/
def refusalKind (shape : Shape) : Value → String
  | .typedVar _ => if shape.allowsTyped then "datatype" else "operation"
  | _ => "datatype"

/-- What the check lets pass are the datatypes of text. -/
theorem isTextual_iff : isTextual d = true ↔ d.OfText := by
  cases d with
  | pattern => exact ⟨fun _ => trivial, fun _ => rfl⟩
  | named name spread =>
    constructor
    · exact fun h => List.mem_cons.mpr (textName_cases h)
    · have hall : ∀ name ∈ "string" :: Datatype.characterTypes, isTextual (.named name spread) = true := by
        cases spread <;> decide
      exact hall name

/-- A datatype of text passes. -/
theorem checkTextual_of_ofText (h : d.OfText) : checkTextual shape d settings = .ok () := by
  cases d with
  | pattern => rfl
  | named name spread => exact congrFun (if_pos (isTextual_iff.mpr h)) settings

/-- A bound that is a count is above zero iff it is another number.  So whether typed variables may stand in a
repetition, which the macro asks by comparing the bound with zero, is whether a match has to go through them. -/
theorem allowsTyped_iff (h : ∀ b, shape = .repeated b → ∃ limit, b.WellMade limit) :
    shape.allowsTyped = true ↔ shape.TakesVariables := by
  have hbound : ∀ {min : Number} {a : Nat}, min.IsCount a →
      (Number.lt (.int 0) min = true ↔ min.sameValue (.int 0) = false) := by
    intro min a ha
    have hzero : (Number.int 0).IsCount 0 := Number.isCount_ofNat 0
    rw [← Bool.not_eq_true, ha.int_lt_iff, ha.sameValue_iff hzero]
    omega
  cases shape with
  | repeated b =>
    cases b with
    | once => exact ⟨fun _ => trivial, fun _ => rfl⟩
    | atLeast min =>
      obtain ⟨_, a, ha, _⟩ := h _ rfl
      exact hbound ha
    | between min max =>
      obtain ⟨_, a, ha, _⟩ := h _ rfl
      exact hbound ha
  | either => exact ⟨nofun, nofun⟩
  | optional => exact ⟨nofun, nofun⟩
  | _ => exact ⟨fun _ => trivial, fun _ => rfl⟩

/-- The case of a repetition with well-made bounds. -/
theorem allowsTyped_of_wellMade {limit : Int} (hb : b.WellMade limit) :
    (Shape.repeated b).allowsTyped = true ↔ (Shape.repeated b).TakesVariables := by
  refine allowsTyped_iff ?_
  rintro _ ⟨⟩
  exact ⟨limit, hb⟩

/-- What a typed variable stands for is of text iff its datatype is, be it spread or not. -/
theorem ofText_taken (w : TypedVar) :
    (if w.rest then w.datatype.spread else w.datatype).OfText ↔ w.datatype.OfText := by
  rw [← isTextual_iff, ← isTextual_iff]
  split
  · rw [isTextual_spread]
  · exact Iff.rfl

/-- Results without an error are gone through to what follows them, by induction on them. -/
theorem firstError_append {α : Type} (parts : List α) (results : List (Except StoryError α)) :
    firstError (parts.map .ok ++ results) settings =
      (firstError results settings).map (parts ++ ·) := by
  induction parts with
  | nil =>
    show firstError results settings = _
    cases firstError results settings <;> rfl
  | cons part parts ih =>
    show (firstError (parts.map .ok ++ results) >>= fun others => pure (part :: others) : Check (List α)) settings = _
    cases hrest : firstError results settings with
    | ok others =>
      rw [hrest] at ih
      exact Check.bind_of_ok ih
    | error e =>
      rw [hrest] at ih
      exact Check.bind_of_error ih

section

variable (htyped : shape.allowsTyped = true ↔ shape.TakesVariables)
include htyped

/-- **An argument makes a fragment iff it is legal,** and it makes the fragment that stands for it. -/
theorem fragment_eq_ok_iff : fragment shape v settings = .ok f ↔ v = f.toValue ∧ Legal shape v := by
  constructor
  · intro h
    refine ⟨eq_toValue_of_fragment h, ?_⟩
    obtain rfl := eq_toValue_of_fragment h
    cases f with
    | text s => exact .text s
    | type d => exact .type (isTextual_iff.mp (of_fragment h rfl).2)
    | typed d name rest =>
      have hallowed : shape.allowsTyped = true := by
        by_contra hno
        rw [Fragment.toValue, fragment, if_neg hno] at h
        exact Check.fail_ne_ok h
      exact .typed (htyped.mp hallowed) (isTextual_iff.mp (of_fragment h rfl).2)
  · rintro ⟨rfl, hlegal⟩
    cases f with
    | text s => rfl
    | type d =>
      obtain ⟨⟩ | ⟨hd⟩ | _ := hlegal
      exact Check.bind_of_ok (checkTextual_of_ofText hd)
    | typed d name rest =>
      obtain _ | _ | ⟨htakes, hd⟩ := hlegal
      rw [Fragment.toValue, fragment, if_pos (htyped.mpr htakes)]
      exact Check.bind_of_ok (checkTextual_of_ofText ((ofText_taken ⟨d, name, rest⟩).mpr hd))

/-- Legal arguments are answered with fragments, each with its own. -/
theorem answered_of_legal {parts : List Fragment} (hlegal : ∀ v ∈ parts.map Fragment.toValue, Legal shape v) :
    List.Forall₂ (fun v result => (fragment shape v).attempt settings = .ok result) (parts.map Fragment.toValue)
      (parts.map .ok) := by
  rw [List.forall₂_map_left_iff, List.forall₂_map_right_iff, List.forall₂_same]
  intro f hf
  rw [Check.attempt_eq_ok, fragment_eq_ok_iff htyped]
  exact ⟨rfl, hlegal _ (List.mem_map_of_mem hf)⟩

omit htyped in
/-- Legal arguments are those of some fragments. -/
theorem exists_parts (hlegal : ∀ v ∈ args, Legal shape v) :
    ∃ parts : List Fragment, parts.map Fragment.toValue = args := by
  have hrange : args ∈ Set.range (List.map Fragment.toValue) := by
    rw [Set.range_list_map]
    exact fun v hv => (hlegal v hv).exists_fragment
  exact hrange

/-- Whatever has been made is of the arguments, and all of them are legal.  Left to right the fragments that were made
show it; right to left legal arguments are answered, and there is no first error. -/
theorem make_eq_ok_iff : make shape args settings = .ok d ↔ (∀ v ∈ args, Legal shape v) ∧ PatternOf shape args d := by
  constructor
  · intro h
    obtain ⟨parts, rfl, hparts⟩ := of_make h
    have hvalues : parts.map Fragment.toValue = args ∧ ∀ v ∈ args, Legal shape v := by
      clear h
      induction hparts with
      | nil => exact ⟨rfl, List.forall_mem_nil _⟩
      | cons hf _ ih =>
        obtain ⟨rfl, hlegal⟩ := (fragment_eq_ok_iff htyped).mp hf
        exact ⟨congrArg (_ :: ·) ih.1, List.forall_mem_cons.mpr ⟨hlegal, ih.2⟩⟩
    exact ⟨hvalues.2, parts, hvalues.1, rfl⟩
  · rintro ⟨hlegal, parts, rfl, rfl⟩
    have hparts : firstError (parts.map .ok) settings = .ok parts := by
      rw [← List.append_nil (parts.map _), firstError_append]
      exact congrArg Except.ok (List.append_nil parts)
    rw [make, Check.bind_of_ok (Check.mapM_eq_ok.mpr (answered_of_legal htyped hlegal)), Check.bind_of_ok hparts]
    rfl

/-- **A pattern is made iff all arguments are legal.**  The pattern is the one that has them for its fragments. -/
theorem exists_make_iff : (∃ d, make shape args settings = .ok d) ↔ ∀ v ∈ args, Legal shape v := by
  constructor
  · rintro ⟨d, hd⟩
    exact ((make_eq_ok_iff htyped).mp hd).1
  · intro hlegal
    obtain ⟨parts, hparts⟩ := exists_parts hlegal
    exact ⟨_, (make_eq_ok_iff htyped).mpr ⟨hlegal, parts, hparts, rfl⟩⟩

/-! ## The first that is not legal -/

omit htyped in
/-- What no message can speak of makes no fragment, and why can't be said: the refusal would name the value. -/
theorem fragment_of_tooLong (h : v.TooLong) : fragment shape v settings = .error (.fault .integerTooLong) := by
  have hname := h.objectName
  cases h with
  | number _ => exact Check.bind_of_error (by rw [hname]; rfl)
  | changer _ => exact Check.bind_of_error (by rw [hname]; rfl)

variable (hexplained : ∀ kind ∈ ["datatype", "operation"], (settings.catalogue.explanation? kind).isSome = true)
include hexplained

omit htyped in
/-- A datatype that is not of text is refused with an error about datatypes.  There are two texts for it, one of them
for the datatypes of numbers, and the kind is the same. -/
theorem exists_notTextual (h : ¬ d.OfText) :
    ∃ e, e.kind = "datatype" ∧ checkTextual shape d settings = .error (.story e) := by
  cases d with
  | pattern => exact absurd trivial h
  | named name spread =>
    rw [checkTextual, if_neg (mt isTextual_iff.mp h)]
    split
    · exact Check.exists_fail (hexplained _ List.mem_cons_self) (append_ne_empty_right _ (by decide))
    · exact Check.exists_fail (hexplained _ List.mem_cons_self) (append_ne_empty_right _ (by decide))

/-- **An argument that is not legal is refused** by an error of its kind, if the error can speak of it. -/
theorem exists_refusal (h : ¬ Legal shape v) (hshort : ¬ v.TooLong) :
    ∃ e, e.kind = refusalKind shape v ∧ fragment shape v settings = .error (.story e) := by
  cases v with
  | string s => exact absurd (.text s) h
  | datatype d =>
    obtain ⟨e, hkind, he⟩ := exists_notTextual hexplained fun hd => h (.type hd)
    exact ⟨e, hkind, Check.bind_of_error he⟩
  | typedVar w =>
    by_cases hallowed : shape.allowsTyped = true
    · obtain ⟨e, hkind, he⟩ := exists_notTextual hexplained fun hd =>
        h (.typed (htyped.mp hallowed) ((ofText_taken w).mp hd))
      refine ⟨e, hkind.trans (if_pos hallowed).symm, ?_⟩
      rw [fragment, if_pos hallowed]
      exact Check.bind_of_error he
    · rw [fragment, if_neg hallowed, refusalKind, if_neg hallowed]
      exact Check.exists_fail (hexplained _ (by decide)) (append_ne_empty_right _ (by decide))
  | _ =>
    -- no other value can be a fragment at all, and the refusal names it
    obtain ⟨name, hname⟩ := Value.exists_objectName hshort
    obtain ⟨e, hkind, he⟩ := Check.exists_fail (α := Fragment) (hexplained _ List.mem_cons_self)
      (append_ne_empty_right (s!"The ({shape.name}:) macro must only be given strings and datatypes, not " ++ name)
        (t := ".") (by decide))
    exact ⟨e, hkind, (Check.bind_of_ok (Check.lift_eq_ok.mpr hname)).trans he⟩

/-- Every argument that a refusal can speak of is answered, be it with a fragment or with a refusal. -/
theorem exists_attempt (hshort : ¬ v.TooLong) : ∃ result, (fragment shape v).attempt settings = .ok result := by
  by_cases hlegal : Legal shape v
  · obtain ⟨f, rfl⟩ := hlegal.exists_fragment
    exact ⟨.ok f, Check.attempt_eq_ok.mpr ((fragment_eq_ok_iff htyped).mpr ⟨rfl, hlegal⟩)⟩
  · obtain ⟨e, _, he⟩ := exists_refusal htyped hexplained hlegal hshort
    exact ⟨.error e, Check.attempt_eq_error.mpr he⟩

/-- Arguments that messages can speak of are all answered, with fragments or with refusals. -/
theorem exists_answered (hshort : ∀ v ∈ args, ¬ v.TooLong) :
    ∃ results, List.Forall₂ (fun v result => (fragment shape v).attempt settings = .ok result) args results := by
  induction args with
  | nil => exact ⟨[], .nil⟩
  | cons v args ih =>
    obtain ⟨hv, hothers⟩ := List.forall_mem_cons.mp hshort
    obtain ⟨result, hresult⟩ := exists_attempt htyped hexplained hv
    obtain ⟨results, hresults⟩ := ih hothers
    exact ⟨result :: results, .cons hresult hresults⟩

/-- **The refusal of the first argument that is not legal is all that comes of them,** where it and those behind it
can be spoken of. -/
theorem make_of_first {before after : List Value} (hbefore : ∀ u ∈ before, Legal shape u) (hv : ¬ Legal shape v)
    (hshort : ∀ u ∈ v :: after, ¬ u.TooLong) :
    ∃ e, e.kind = refusalKind shape v ∧ fragment shape v settings = .error (.story e) ∧
      make shape (before ++ v :: after) settings = .error (.story e) := by
  obtain ⟨hnamed, hafter⟩ := List.forall_mem_cons.mp hshort
  obtain ⟨e, hkind, he⟩ := exists_refusal htyped hexplained hv hnamed
  refine ⟨e, hkind, he, ?_⟩
  obtain ⟨parts, rfl⟩ := exists_parts hbefore
  obtain ⟨results, hresults⟩ := exists_answered htyped hexplained hafter
  have hrefused : (fragment shape v).attempt settings = .ok (.error e) := Check.attempt_eq_error.mpr he
  have hanswered := Check.mapM_eq_ok.mpr
    (List.rel_append (answered_of_legal htyped hbefore) (.cons hrefused hresults))
  rw [make, Check.bind_of_ok hanswered]
  refine Check.bind_of_error ?_
  rw [firstError_append]
  rfl

/-- **An argument that no message can speak of spoils the refusal,** wherever it stands: those before it are answered,
be it with a refusal, and at the first such argument the making stops. -/
theorem make_of_tooLong (h : ∃ v ∈ args, v.TooLong) :
    make shape args settings = .error (.fault .integerTooLong) := by
  refine Check.bind_of_error ?_
  induction args with
  | nil =>
    obtain ⟨_, hmem, _⟩ := h
    exact absurd hmem List.not_mem_nil
  | cons v args ih =>
    rw [List.mapM_cons]
    by_cases hv : v.TooLong
    · refine Check.bind_of_error ?_
      rw [Check.attempt, fragment_of_tooLong hv]
    · obtain ⟨result, hresult⟩ := exists_attempt htyped hexplained hv
      obtain ⟨u, hu, hlong⟩ := h
      obtain rfl | hu := List.mem_cons.mp hu
      · exact absurd hlong hv
      · exact (Check.bind_of_ok hresult).trans (Check.bind_of_error (ih ⟨u, hu, hlong⟩))

end

/-! ## Bounds -/

/-- **Up to two numbers in front of some arguments,** which are taken for bounds, and the other arguments. -/
def Fronted (args : List Value) (b : Bounds) (rest : List Value) : Prop :=
  args = b.numbers.map .number ++ rest ∧ (∀ n ∈ b.numbers, n.isNumber = true) ∧
    (b.numbers.length < 2 → ∀ n others, rest = .number n :: others → n.isNumber = false)

/-- Where no number is taken from the front, there is none: a first argument that is a number is then one that
compares with nothing. -/
theorem of_takeNumber?_eq_none (h : takeNumber? args = none) :
    ∀ n others, args = .number n :: others → n.isNumber = false := by
  rintro n others rfl
  cases hn : n.isNumber with
  | false => rfl
  | true =>
    rw [takeNumber?, if_pos hn] at h
    exact nomatch h

/-- What is taken for bounds are up to two numbers in front, and no fewer than there are. -/
theorem fronted_of_takeBounds (h : takeBounds args = (b, rest)) : Fronted args b rest := by
  obtain ⟨hnumbers, hargs⟩ := of_takeBounds h
  refine ⟨hargs, hnumbers, fun hlength => ?_⟩
  unfold takeBounds at h
  split at h
  · rename_i hnone
    obtain ⟨rfl, rfl⟩ := Prod.mk.inj h
    exact of_takeNumber?_eq_none hnone
  · split at h
    · rename_i hnone
      obtain ⟨rfl, rfl⟩ := Prod.mk.inj h
      exact of_takeNumber?_eq_none hnone
    · -- two are taken
      obtain ⟨rfl, rfl⟩ := Prod.mk.inj h
      exact absurd hlength (Nat.lt_irrefl 2)

/-- A count is whole, if it can be asked: one so large that no double is near it can't. -/
theorem isWhole_of_isCount {x : Number} {m : Nat} (hm : x.IsCount m) {whole : Bool} (h : x.isWhole = .ok whole) :
    whole = true := by
  cases x with
  | int k =>
    rw [Number.isWhole] at h
    cases hx : (Number.int k).toDouble with
    | error fault =>
      rw [hx] at h
      exact nomatch h
    | ok y =>
      rw [hx] at h
      exact (Except.ok.inj h).symm.trans (Number.isWhole_of_toDouble hx)
  | real y =>
    rw [← Except.ok.inj h]
    cases y with
    | finite negative e f => exact Number.isWhole_of_units hm.units
    | infinite negative =>
      have hside := hm.side
      cases negative <;> exact absurd hside (by decide)
    | nan tag => exact nomatch hm.isNumber

/-- Bounds that are well made limit with counts alone, since an upper one without end limits nothing. -/
theorem isCount_of_limiting {limit : Int} {bounds : List Number} (hb : b.WellMade limit)
    (h : limiting b = .ok bounds) : ∀ x ∈ bounds, ∃ m : Nat, x.IsCount m ∧ m ≤ limit := by
  cases b with
  | once =>
    obtain rfl : [] = bounds := Except.ok.inj h
    exact List.forall_mem_nil _
  | atLeast min =>
    obtain rfl : [min] = bounds := Except.ok.inj h
    exact List.forall_mem_singleton.mpr hb
  | between min max =>
    obtain ⟨a, ha, hal, hmax⟩ := hb
    rw [of_limiting h]
    split
    · exact List.forall_mem_singleton.mpr ⟨a, ha, hal⟩
    · rename_i hfinite
      obtain ⟨c, hc, hcl, _⟩ := hmax.resolve_left fun hinf => hfinite (Bool.and_eq_true_iff.mpr hinf)
      exact List.forall_mem_cons.mpr ⟨⟨a, ha, hal⟩, List.forall_mem_singleton.mpr ⟨c, hc, hcl⟩⟩

open Check (StopsOnly IsFault)

/-- A count up to the limit passes its check, unless asking it is a fault. -/
theorem stopsOnly_checkBound {limit : Int} {x : Number} {m : Nat} (hm : x.IsCount m) (hlimit : m ≤ limit) :
    StopsOnly settings IsFault (checkBound limit x) := by
  have hneg : x.lt (.int 0) = false := by
    have hzero : (Number.int 0).IsCount 0 := Number.isCount_ofNat 0
    rw [← Bool.not_eq_true, hm.lt_iff hzero]
    exact Nat.not_lt_zero m
  have hsmall : Number.lt (.int limit) x = false := by
    rw [← Bool.not_eq_true, hm.int_lt_iff]
    omega
  unfold checkBound
  rw [hneg, if_neg Bool.false_ne_true, hsmall]
  refine StopsOnly.bind (.of_fault _) fun whole hwhole => ?_
  rw [isWhole_of_isCount hm (Check.lift_eq_ok.mp hwhole)]
  exact .of_ok rfl

/-- An infinite number above zero is below none that is between the infinities, so it is in order behind any count. -/
theorem lt_of_isInfinite {x y : Number} (hinf : x.isInfinite = true) (hpos : Number.lt (.int 0) x = true)
    (hy : y.side = 0) : x.lt y = false := by
  cases x with
  | int m => exact nomatch hinf
  | real d =>
    cases d with
    | finite => exact nomatch hinf
    | nan => exact nomatch hinf
    | infinite negative =>
      cases negative with
      | true => exact absurd hpos (by decide)
      | false =>
        have hside : (Number.real (.infinite false)).side = 1 := rfl
        simp [Number.lt, hside, hy]

/-- Well-made bounds are in order, by the counts or because the upper one is without end. -/
theorem checkOrder_of_wellMade {limit : Int} (hb : b.WellMade limit) : checkOrder b settings = .ok () := by
  cases b with
  | between min max =>
    obtain ⟨a, ha, _, hmax⟩ := hb
    have hnot : max.lt min = false := by
      rcases hmax with ⟨hinf, hpos⟩ | ⟨c, hc, _, hac⟩
      · exact lt_of_isInfinite hinf hpos ha.side
      · rw [← Bool.not_eq_true, hc.lt_iff ha]
        omega
    rw [checkOrder, hnot]
    rfl
  | _ => rfl

/-- **Where bounds and fragments are in order, nothing but a fault stops a repetition:** a number without a double. -/
theorem stopsOnly_repeated (ht : takeBounds args = (b, rest)) (hb : b.WellMade settings.repeatLimit)
    (hrest : rest ≠ []) (hlegal : ∀ v ∈ rest, Legal (.repeated b) v) :
    StopsOnly settings IsFault (repeated args) := by
  obtain ⟨d, hmade⟩ : ∃ d, make (.repeated b) rest settings = .ok d :=
    (exists_make_iff (allowsTyped_of_wellMade hb)).mpr hlegal
  have hnone : rest.find? (fun v => !isFragment v) = none := by
    refine List.find?_eq_none.mpr fun v hv => ?_
    obtain ⟨f, rfl⟩ := (hlegal v hv).exists_fragment
    rw [isFragment, Fragment.ofValue?_toValue]
    exact Bool.false_ne_true
  unfold repeated
  rw [ht]
  dsimp only
  refine StopsOnly.bind (.of_ok rfl) fun read hread => ?_
  obtain rfl : settings = read := Except.ok.inj hread
  refine StopsOnly.bind (.of_fault _) fun bounds hbounds => ?_
  refine StopsOnly.bind (StopsOnly.forIn fun x hx _ => ?_) fun _ _ => ?_
  · obtain ⟨m, hm, hlimit⟩ := isCount_of_limiting hb (Check.lift_eq_ok.mp hbounds) x hx
    exact (stopsOnly_checkBound hm hlimit).bind fun _ _ => .of_ok rfl
  refine StopsOnly.bind (.of_ok (checkOrder_of_wellMade hb)) fun _ _ => ?_
  rw [if_neg (mt List.isEmpty_iff.mp hrest), Value.objection?, hnone]
  -- the bounds are written for the matcher, and may be too long for that
  exact StopsOnly.bind (.of_fault _) fun _ _ => .of_ok hmade

/-- Numbers alone make no repetition: the macro refuses it before it makes a pattern. -/
theorem ne_nil_of_repeated (h : repeated args settings = .ok d) : (takeBounds args).2 ≠ [] := by
  unfold repeated at h
  obtain ⟨_, _, h⟩ := Check.bind_eq_ok.mp h
  obtain ⟨_, _, h⟩ := Check.bind_eq_ok.mp h
  obtain ⟨_, _, h⟩ := Check.bind_eq_ok.mp h
  obtain ⟨_, _, h⟩ := Check.bind_eq_ok.mp h
  exact mt List.isEmpty_iff.mpr (Check.of_ite_fail h).1

/-- **What a repetition that gives a result has been given.**  The result is a pattern iff the bounds are well made,
something follows them and all that follows is legal; and then it is the pattern of what follows. -/
theorem repeated_of_takeBounds (ht : takeBounds args = (b, rest)) {result : Except StoryError Datatype}
    (hresult : (repeated args).attempt settings = .ok result) :
    ((∃ d, result = .ok d) ↔
      b.WellMade settings.repeatLimit ∧ rest ≠ [] ∧ ∀ v ∈ rest, Legal (.repeated b) v) ∧
    ∀ d, result = .ok d → PatternOf (.repeated b) rest d := by
  cases result with
  | ok d =>
    have hd := Check.attempt_eq_ok.mp hresult
    obtain ⟨b', rest', bounds, ht', hbounds, hchecked, horder, hmake⟩ := of_repeated hd
    obtain ⟨rfl, rfl⟩ := Prod.mk.inj (ht.symm.trans ht')
    have hb := wellMade_of_repeated ht hbounds hchecked horder
    have hrest := ne_nil_of_repeated hd
    rw [ht] at hrest
    obtain ⟨hlegal, hof⟩ := (make_eq_ok_iff (allowsTyped_of_wellMade hb)).mp hmake
    refine ⟨⟨fun _ => ⟨hb, hrest, hlegal⟩, fun _ => ⟨d, rfl⟩⟩, ?_⟩
    rintro _ ⟨⟩
    exact hof
  | error e =>
    refine ⟨⟨nofun, fun ⟨hb, hrest, hlegal⟩ => ?_⟩, nofun⟩
    -- a story error is no fault
    exact absurd rfl (stopsOnly_repeated ht hb hrest hlegal _ (Check.attempt_eq_error.mp hresult) e)

/-! ## The whole -/

/-- The shapes of macros that take fragments alone. -/
def plainShapes : List Shape := [.sequence, .either, .optional, .insensitive, .notBefore]

/-- **Building patterns accepts its grammar and nothing else.**

* The macros that take fragments alone make a pattern iff all arguments are legal, and it is the pattern of these
  arguments.  If they are not, the error that refuses the first one that is not is the result, unless an argument is an
  integer of too many digits, or a chain of styling that was given one first: no refusal can name that, and it is a
  fault, wherever among the arguments it stands.
* Of the arguments of a repetition, up to two numbers in front are its bounds.  Whenever there is a result, it is a
  pattern iff the bounds are counts up to the limit and in order (the upper one perhaps without end), there is
  something to repeat, and all of that is legal; and it is the pattern of these bounds and arguments. -/
theorem construction_spec
    (hexplained : ∀ kind ∈ ["datatype", "operation"], (settings.catalogue.explanation? kind).isSome = true)
    (args : List Value) :
    (∀ shape ∈ plainShapes,
      ((∃ d, make shape args settings = .ok d) ↔ ∀ v ∈ args, Legal shape v) ∧
      (∀ d, make shape args settings = .ok d → PatternOf shape args d) ∧
      ((∃ u ∈ args, u.TooLong) → make shape args settings = .error (.fault .integerTooLong)) ∧
      ((∀ u ∈ args, ¬ u.TooLong) →
        ∀ before v after, args = before ++ v :: after → (∀ u ∈ before, Legal shape u) → ¬ Legal shape v →
          ∃ e, e.kind = refusalKind shape v ∧ fragment shape v settings = .error (.story e) ∧
            make shape args settings = .error (.story e))) ∧
    ∃ b rest, Fronted args b rest ∧ ∀ result, (repeated args).attempt settings = .ok result →
      ((∃ d, result = .ok d) ↔
        b.WellMade settings.repeatLimit ∧ rest ≠ [] ∧ ∀ v ∈ rest, Legal (.repeated b) v) ∧
      ∀ d, result = .ok d → PatternOf (.repeated b) rest d := by
  constructor
  · intro shape hshape
    -- none of the five shapes is a repetition, whose bounds decide about variables
    have htyped : shape.allowsTyped = true ↔ shape.TakesVariables := by
      refine allowsTyped_iff ?_
      rintro b rfl
      simp [plainShapes] at hshape
    refine ⟨exists_make_iff htyped, fun d hd => ((make_eq_ok_iff htyped).mp hd).2,
      make_of_tooLong htyped hexplained, fun hshort => ?_⟩
    rintro before v after rfl hbefore hv
    exact make_of_first htyped hexplained hbefore hv fun u hu => hshort u (List.mem_append_right before hu)
  · exact ⟨_, _, fronted_of_takeBounds rfl, fun result hresult => repeated_of_takeBounds rfl hresult⟩

/-- A letter and a variable for a digit make a sequence, and no choice. -/
theorem construction_spec_letterDigit :
    let settings : Settings := Settings.usual
    let args : List Value := [.string "a", .typedVar ⟨.named "digit" false, "d", false⟩]
    (∀ kind ∈ ["datatype", "operation"], (settings.catalogue.explanation? kind).isSome = true) ∧
      (∃ d, make .sequence args settings = .ok d) ∧
      ∃ e, e.kind = "operation" ∧ make .either args settings = .error (.story e) := by
  intro settings args
  have hexplained : ∀ kind ∈ ["datatype", "operation"], (settings.catalogue.explanation? kind).isSome = true := by
    decide +kernel
  have hspec := (construction_spec hexplained args).1
  have hlegal : ∀ v ∈ args, Legal .sequence v := by
    refine List.forall_mem_cons.mpr ⟨.text "a", List.forall_mem_singleton.mpr (.typed trivial ?_)⟩
    show "digit" ∈ _
    decide
  have hshort : ∀ u ∈ args, ¬ u.TooLong := by
    simp only [args, List.forall_mem_cons, List.not_mem_nil, false_implies, implies_true, and_true]
    exact ⟨nofun, nofun⟩
  obtain ⟨e, hkind, _, he⟩ := (hspec .either (by decide)).2.2.2 hshort [.string "a"] _ [] rfl
    (List.forall_mem_singleton.mpr (.text "a")) (by rintro ⟨⟩; assumption)
  exact ⟨hexplained, (hspec .sequence (by decide)).1.mpr hlegal, e, hkind, he⟩

/-- The integer of 4301 digits is no fragment of a sequence, and no error says so. -/
theorem sequence_tooLong :
    let args : List Value := [.number (.int (10 ^ 4300))]
    (∃ v ∈ args, ¬ Legal .sequence v) ∧
      make .sequence args Settings.usual = .error (.fault .integerTooLong) ∧
      ∀ e, make .sequence args Settings.usual ≠ .error (.story e) := by
  intro args
  have hlong : (Number.int (10 ^ 4300)).isShort = false := by decide +kernel
  have hfault : make .sequence args Settings.usual = .error (.fault .integerTooLong) :=
    Check.bind_of_error (by
      rw [List.mapM_cons]
      exact Check.bind_of_error (by rw [Check.attempt, fragment_of_tooLong (.number hlong)]))
  refine ⟨⟨_, List.mem_cons_self, nofun⟩, hfault, fun e he => ?_⟩
  exact absurd (hfault.symm.trans he) (by simp)

end Pattern

end StoryValues
