import StoryValues.Proofs.Value.Pairing
import StoryValues.Proofs.Value.Sameness

/-
  VERDICTS.  A check says yes, says no, or stops.  What its yes shows and what its no refutes are two
  questions, and where a check may stop they have different answers: the members that a search did not get
  to may still have fitted.

  1. **What is shown and what is refuted** (`Check.Says`): a yes shows one proposition, a no refutes another,
     weaker one.  Where a check gives an answer at all (`Check.Answers`), the two may be the same, and it
     decides it (`Check.Decides`).
  2. **Where a check may stop** (`Check.StopsOnly`): every failure is of a kind that is allowed.  With none
     allowed, the check answers; with faults allowed, it is never a story error.
  3. **The two searches of matching**, with a lemma of either kind each.  A pattern is laid along values
     (`Value.Cut`): a spread element takes any number of values that it accepts, any other takes one that fits
     it.  Members are paired off (`Value.PairsInto`).
-/

namespace StoryValues

namespace Check

variable {α β : Type} {settings : Settings} {p p' q q' : Prop} {c d : Check Bool}

/-! ## What is shown and what is refuted -/

/-- What the answers of a check mean: a yes that `p` holds, and a no that `q` does not. -/
structure Says (settings : Settings) (c : Check Bool) (p q : Prop) : Prop where
  yes : c settings = .ok true → p
  no : c settings = .ok false → ¬ q

namespace Says

/-- A yes says that the check says yes, a no that it says no.  This is the least that can be said of any check, and
what a recursive check is said by at its recursive calls. -/
theorem of_run (settings : Settings) (c : Check Bool) :
    Says settings c (c settings = .ok true) (c settings ≠ .ok false) where
  yes h := h
  no h h' := h' h

/-- A yes may show something weaker, and a no refute something stronger. -/
theorem mono (h : Says settings c p q) (hp : p → p') (hq : q' → q) : Says settings c p' q' where
  yes hyes := hp (h.yes hyes)
  no hno hq' := h.no hno (hq hq')

/-- An answer that is known beforehand. -/
theorem of_bool {b : Bool} (hp : b = true → p) (hq : q → b = true) : Says settings (pure b) p q where
  yes h := hp (Except.ok.inj h)
  no h hq' := by
    rw [hq hq'] at h
    cases h

/-- A result that is computed on the way: what is said may depend on it, for there is no answer without it. -/
theorem bind_lift {r : Except Fault α} {f : α → Check Bool} (h : ∀ a, r = .ok a → Says settings (f a) p q) :
    Says settings (Check.lift r >>= f) p q where
  yes hyes := by
    obtain ⟨a, hr, ha⟩ := bind_eq_ok.mp hyes
    exact (h a (lift_eq_ok.mp hr)).yes ha
  no hno := by
    obtain ⟨a, hr, ha⟩ := bind_eq_ok.mp hno
    exact (h a (lift_eq_ok.mp hr)).no ha

/-- A check that goes on only if an earlier one says yes shows both.  A no of either refutes both, whether or not the
other was asked. -/
theorem bind_and (hc : Says settings c p q) (hd : Says settings d p' q') :
    Says settings (do if ← c then d else return false) (p ∧ p') (q ∧ q') where
  yes h := by
    obtain ⟨first, hfirst, h⟩ := bind_eq_ok.mp h
    cases first with
    | true => exact ⟨hc.yes hfirst, hd.yes h⟩
    | false => cases h
  no h := by
    obtain ⟨first, hfirst, h⟩ := bind_eq_ok.mp h
    cases first with
    | true => exact fun hq => hd.no h hq.2
    | false => exact fun hq => hc.no hfirst hq.1

/-- A check that goes on only if an earlier one says no shows one of both, and its no refutes either. -/
theorem bind_or (hc : Says settings c p q) (hd : Says settings d p' q') :
    Says settings (do if ← c then return true else d) (p ∨ p') (q ∨ q') where
  yes h := by
    obtain ⟨first, hfirst, h⟩ := bind_eq_ok.mp h
    cases first with
    | true => exact Or.inl (hc.yes hfirst)
    | false => exact Or.inr (hd.yes h)
  no h := by
    obtain ⟨first, hfirst, h⟩ := bind_eq_ok.mp h
    cases first with
    | true => cases h
    | false => exact fun hq => hq.elim (hc.no hfirst) (hd.no h)

/-- A condition in front of a check. -/
theorem ite_false {b : Prop} [Decidable b] (h : b → Says settings c p q) :
    Says settings (if b then c else pure false) (b ∧ p) (b ∧ q) := by
  by_cases hb : b
  · rw [if_pos hb]
    exact (h hb).mono (fun hp => ⟨hb, hp⟩) fun hq => hq.2
  · rw [if_neg hb]
    exact of_bool nofun fun hq => absurd hq.1 hb

/-- Checks of all members of a list: a yes shows all, and a no refutes that all may hold, at the first member that
says no. -/
theorem allM {f : α → Check Bool} {P Q : α → Prop} {xs : List α} (h : ∀ x ∈ xs, Says settings (f x) (P x) (Q x)) :
    Says settings (xs.allM f) (∀ x ∈ xs, P x) (∀ x ∈ xs, Q x) := by
  induction xs with
  | nil => exact of_bool (fun _ => List.forall_mem_nil _) fun _ => rfl
  | cons x xs ih =>
    obtain ⟨hx, hxs⟩ := List.forall_mem_cons.mp h
    rw [List.forall_mem_cons, List.forall_mem_cons]
    refine ⟨fun hyes => ?_, fun hno => ?_⟩
    · obtain ⟨first, hfirst, hrest⟩ := bind_eq_ok.mp hyes
      cases first with
      | true => exact ⟨hx.yes hfirst, (ih hxs).yes hrest⟩
      | false => cases hrest
    · obtain ⟨first, hfirst, hrest⟩ := bind_eq_ok.mp hno
      cases first with
      | true => exact fun hq => (ih hxs).no hrest hq.2
      | false => exact fun hq => hx.no hfirst hq.1

/-- Checks of members of a list until one says yes: a yes shows that member, and a no was said of every one. -/
theorem anyM {f : α → Check Bool} {P Q : α → Prop} {xs : List α} (h : ∀ x ∈ xs, Says settings (f x) (P x) (Q x)) :
    Says settings (xs.anyM f) (∃ x ∈ xs, P x) (∃ x ∈ xs, Q x) := by
  induction xs with
  | nil =>
    refine of_bool nofun ?_
    rintro ⟨x, hx, _⟩
    exact absurd hx List.not_mem_nil
  | cons x xs ih =>
    obtain ⟨hx, hxs⟩ := List.forall_mem_cons.mp h
    rw [List.exists_mem_cons_iff, List.exists_mem_cons_iff]
    refine ⟨fun hyes => ?_, fun hno => ?_⟩
    · obtain ⟨first, hfirst, hrest⟩ := bind_eq_ok.mp hyes
      cases first with
      | true => exact Or.inl (hx.yes hfirst)
      | false => exact Or.inr ((ih hxs).yes hrest)
    · obtain ⟨first, hfirst, hrest⟩ := bind_eq_ok.mp hno
      cases first with
      | true => cases hrest
      | false => exact fun hq => hq.elim (hx.no hfirst) ((ih hxs).no hrest)

end Says

/-! ## Where a check may stop -/

/-- Every failure of a check is of a kind that is allowed. -/
def StopsOnly (settings : Settings) (allowed : Failure → Prop) (c : Check α) : Prop :=
  ∀ e, c settings = .error e → allowed e

/-- No failure is allowed: the check gives an answer. -/
abbrev Answers (settings : Settings) (c : Check α) : Prop := StopsOnly settings (fun _ => False) c

/-- Faults are allowed, and story errors are not. -/
def IsFault (e : Failure) : Prop := ∀ s, e ≠ .story s

/-- A failure that is no story error is a fault of some kind. -/
theorem IsFault.exists_fault {e : Failure} (h : IsFault e) : ∃ f, e = .fault f := by
  cases e with
  | story s => exact absurd rfl (h s)
  | fault f => exact ⟨f, rfl⟩

/-- A check gives an answer iff no failure is allowed to it. -/
theorem answers_iff {c : Check α} : Answers settings c ↔ ∃ a, c settings = .ok a := by
  constructor
  · intro h
    cases hc : c settings with
    | ok a => exact ⟨a, rfl⟩
    | error e => exact (h e hc).elim
  · rintro ⟨a, ha⟩ e he
    cases ha.symm.trans he

namespace StopsOnly

variable {allowed : Failure → Prop}

/-- A check with a result has no failure at all. -/
theorem of_ok {c : Check α} {a : α} (h : c settings = .ok a) : StopsOnly settings allowed c :=
  fun _ he => nomatch h.symm.trans he

/-- A lifted result may stop with its fault. -/
theorem of_fault (r : Except Fault α) : StopsOnly settings IsFault (Check.lift r) :=
  fun _ he s hs => lift_ne_story r s (hs ▸ he)

/-- One check after another stops where either does; the second is only asked with a result of the first. -/
theorem bind {c : Check α} {f : α → Check β} (hc : StopsOnly settings allowed c)
    (hf : ∀ a, c settings = .ok a → StopsOnly settings allowed (f a)) : StopsOnly settings allowed (c >>= f) := by
  intro e he
  rcases bind_eq_error.mp he with he | ⟨a, ha, he⟩
  · exact hc e he
  · exact hf a ha e he

/-- A check that goes on one way or the other. -/
theorem ite {b : Prop} [Decidable b] {c d : Check α} (hc : b → StopsOnly settings allowed c)
    (hd : ¬ b → StopsOnly settings allowed d) : StopsOnly settings allowed (if b then c else d) := by
  by_cases hb : b
  · rw [if_pos hb]
    exact hc hb
  · rw [if_neg hb]
    exact hd hb

/-- A check after another, whatever that one said. -/
theorem bind_ite {c d d' : Check Bool} (hc : StopsOnly settings allowed c) (hd : StopsOnly settings allowed d)
    (hd' : StopsOnly settings allowed d') : StopsOnly settings allowed (do if ← c then d else d') :=
  hc.bind fun _ _ => ite (fun _ => hd) fun _ => hd'

/-- Checks of all members stop only where one of them does. -/
theorem allM {f : α → Check Bool} {xs : List α} (h : ∀ x ∈ xs, StopsOnly settings allowed (f x)) :
    StopsOnly settings allowed (xs.allM f) := by
  induction xs with
  | nil => exact of_ok rfl
  | cons x xs ih =>
    obtain ⟨hx, hxs⟩ := List.forall_mem_cons.mp h
    refine hx.bind fun first _ => ?_
    cases first with
    | true => exact ih hxs
    | false => exact of_ok rfl

/-- Checks of members until one says yes, too. -/
theorem anyM {f : α → Check Bool} {xs : List α} (h : ∀ x ∈ xs, StopsOnly settings allowed (f x)) :
    StopsOnly settings allowed (xs.anyM f) := by
  induction xs with
  | nil => exact of_ok rfl
  | cons x xs ih =>
    obtain ⟨hx, hxs⟩ := List.forall_mem_cons.mp h
    refine hx.bind fun first _ => ?_
    cases first with
    | true => exact of_ok rfl
    | false => exact ih hxs

end StopsOnly

end Check

namespace Value

variable {α β : Type} {settings : Settings} {allowed : Failure → Prop}

/-! ## Laying a pattern along values -/

/-- **A pattern laid along values:** a spread element takes any number of values, one after another, and
any other element takes one value that fits it. -/
inductive Cut (isSpread : β → Bool) (takes : β → α → Prop) (fits : α → β → Prop) : List α → List β → Prop
  | done : Cut isSpread takes fits [] []
  | one {x : α} {p : β} {xs : List α} {ps : List β} : isSpread p = false → fits x p →
      Cut isSpread takes fits xs ps → Cut isSpread takes fits (x :: xs) (p :: ps)
  | enough {p : β} {xs : List α} {ps : List β} : isSpread p = true →
      Cut isSpread takes fits xs ps → Cut isSpread takes fits xs (p :: ps)
  | more {x : α} {p : β} {xs : List α} {ps : List β} : isSpread p = true → takes p x →
      Cut isSpread takes fits xs (p :: ps) → Cut isSpread takes fits (x :: xs) (p :: ps)

namespace Cut

variable {isSpread : β → Bool} {takes takes' : β → α → Prop} {fits fits' : α → β → Prop} {x : α} {p : β}
  {xs : List α} {ps : List β}

/-- A pattern that is laid so is laid so for all that takes and fits more. -/
theorem mono (htakes : ∀ p x, takes p x → takes' p x) (hfits : ∀ x p, fits x p → fits' x p)
    (h : Cut isSpread takes fits xs ps) : Cut isSpread takes' fits' xs ps := by
  induction h with
  | done => exact .done
  | one hone hfit _ ih => exact .one hone (hfits _ _ hfit) ih
  | enough hspread _ ih => exact .enough hspread ih
  | more hspread htake _ ih => exact .more hspread (htakes _ _ htake) ih

/-- Without elements left there must be no value left. -/
theorem nil_right_iff : Cut isSpread takes fits xs [] ↔ xs.isEmpty = true := by
  constructor
  · rintro ⟨⟩
    rfl
  · intro h
    obtain rfl := List.isEmpty_iff.mp h
    exact .done

/-- No value is left for an element that is not spread, and a spread one can do without. -/
theorem nil_left_iff : Cut isSpread takes fits ([] : List α) (p :: ps) ↔
    isSpread p = true ∧ Cut isSpread takes fits ([] : List α) ps := by
  constructor
  · intro h
    cases h with
    | enough hspread h => exact ⟨hspread, h⟩
  · exact fun h => .enough h.1 h.2

/-- A spread element has had enough, or takes one more.  The search tries the two in this order. -/
theorem spread_iff (hspread : isSpread p = true) : Cut isSpread takes fits (x :: xs) (p :: ps) ↔
    Cut isSpread takes fits (x :: xs) ps ∨ takes p x ∧ Cut isSpread takes fits xs (p :: ps) := by
  constructor
  · intro h
    cases h with
    | one hone _ _ => exact absurd (hone.symm.trans hspread) Bool.false_ne_true
    | enough _ h => exact Or.inl h
    | more _ htake h => exact Or.inr ⟨htake, h⟩
  · rintro (h | ⟨htake, h⟩)
    · exact .enough hspread h
    · exact .more hspread htake h

/-- An element that is not spread takes the first value, if it fits. -/
theorem one_iff (hone : isSpread p = false) : Cut isSpread takes fits (x :: xs) (p :: ps) ↔
    fits x p ∧ Cut isSpread takes fits xs ps := by
  constructor
  · intro h
    cases h with
    | one _ hfit h => exact ⟨hfit, h⟩
    | enough hspread _ => exact absurd (hone.symm.trans hspread) Bool.false_ne_true
    | more hspread _ _ => exact absurd (hone.symm.trans hspread) Bool.false_ne_true
  · exact fun h => .one hone h.1 h.2

end Cut

section

variable {isSpread : β → Bool} {accepts : β → α → Check Bool} {test : α → β → Check Bool}

/-- **The search finds a way to lay the pattern** if it says yes, and none is open if it says no.  By induction on
values and elements together, as the search goes, with the four ways to begin as its cases. -/
theorem says_matchAlong {takes takes' : β → α → Prop} {fits fits' : α → β → Prop} (xs : List α) (ps : List β)
    (haccepts : ∀ p ∈ ps, ∀ x ∈ xs, Check.Says settings (accepts p x) (takes p x) (takes' p x))
    (htest : ∀ x ∈ xs, ∀ p ∈ ps, Check.Says settings (test x p) (fits x p) (fits' x p)) :
    Check.Says settings (matchAlong isSpread accepts test xs ps) (Cut isSpread takes fits xs ps)
      (Cut isSpread takes' fits' xs ps) := by
  match xs, ps with
  | xs, [] =>
    rw [matchAlong, Cut.nil_right_iff, Cut.nil_right_iff]
    exact .of_bool id id
  | [], p :: ps =>
    rw [matchAlong, Cut.nil_left_iff, Cut.nil_left_iff]
    refine .ite_false fun _ => says_matchAlong [] ps ?_ ?_
    · exact fun p _ x hx => absurd hx List.not_mem_nil
    · exact fun x hx => absurd hx List.not_mem_nil
  | x :: xs, p :: ps =>
    rw [matchAlong]
    cases hspread : isSpread p with
    | true =>
      -- as few as will do: first none, then one more
      rw [if_pos rfl, Cut.spread_iff hspread, Cut.spread_iff hspread]
      refine .bind_or (says_matchAlong (x :: xs) ps ?_ ?_) (.bind_and ?_ (says_matchAlong xs (p :: ps) ?_ ?_))
      · exact fun p' hp' => haccepts p' (List.mem_cons_of_mem p hp')
      · exact fun x' hx' p' hp' => htest x' hx' p' (List.mem_cons_of_mem p hp')
      · exact haccepts p List.mem_cons_self x List.mem_cons_self
      · exact fun p' hp' x' hx' => haccepts p' hp' x' (List.mem_cons_of_mem x hx')
      · exact fun x' hx' => htest x' (List.mem_cons_of_mem x hx')
    | false =>
      rw [if_neg Bool.false_ne_true, Cut.one_iff hspread, Cut.one_iff hspread]
      refine .bind_and (htest x List.mem_cons_self p List.mem_cons_self) (says_matchAlong xs ps ?_ ?_)
      · exact fun p' hp' x' hx' => haccepts p' (List.mem_cons_of_mem p hp') x' (List.mem_cons_of_mem x hx')
      · exact fun x' hx' p' hp' => htest x' (List.mem_cons_of_mem x hx') p' (List.mem_cons_of_mem p hp')
termination_by xs.length + ps.length

/-- The search stops only where one of the checks does that it may ask. -/
theorem stopsOnly_matchAlong (xs : List α) (ps : List β)
    (haccepts : ∀ p ∈ ps, ∀ x ∈ xs, Check.StopsOnly settings allowed (accepts p x))
    (htest : ∀ x ∈ xs, ∀ p ∈ ps, Check.StopsOnly settings allowed (test x p)) :
    Check.StopsOnly settings allowed (matchAlong isSpread accepts test xs ps) := by
  match xs, ps with
  | xs, [] =>
    rw [matchAlong]
    exact .of_ok rfl
  | [], p :: ps =>
    rw [matchAlong]
    refine .ite (fun _ => stopsOnly_matchAlong [] ps ?_ ?_) fun _ => .of_ok rfl
    · exact fun p _ x hx => absurd hx List.not_mem_nil
    · exact fun x hx => absurd hx List.not_mem_nil
  | x :: xs, p :: ps =>
    rw [matchAlong]
    refine .ite (fun _ => ?_) fun _ => ?_
    · -- a spread element is passed, or else takes one value more
      refine .bind_ite (stopsOnly_matchAlong (x :: xs) ps ?_ ?_) (.of_ok rfl)
        (.bind_ite ?_ (stopsOnly_matchAlong xs (p :: ps) ?_ ?_) (.of_ok rfl))
      · exact fun p' hp' => haccepts p' (List.mem_cons_of_mem p hp')
      · exact fun x' hx' p' hp' => htest x' hx' p' (List.mem_cons_of_mem p hp')
      · exact haccepts p List.mem_cons_self x List.mem_cons_self
      · exact fun p' hp' x' hx' => haccepts p' hp' x' (List.mem_cons_of_mem x hx')
      · exact fun x' hx' => htest x' (List.mem_cons_of_mem x hx')
    · refine .bind_ite (htest x List.mem_cons_self p List.mem_cons_self) (stopsOnly_matchAlong xs ps ?_ ?_)
        (.of_ok rfl)
      · exact fun p' hp' x' hx' => haccepts p' (List.mem_cons_of_mem p hp') x' (List.mem_cons_of_mem x hx')
      · exact fun x' hx' p' hp' => htest x' (List.mem_cons_of_mem x hx') p' (List.mem_cons_of_mem p hp')
termination_by xs.length + ps.length

end

/-! ## Pairing off -/

/-- Agreement place by place may be weakened, for members of these lists. -/
theorem forall₂_imp {R S : α → β → Prop} {xs : List α} {ys : List β} (h : ∀ x ∈ xs, ∀ y ∈ ys, R x y → S x y)
    (hxy : List.Forall₂ R xs ys) : List.Forall₂ S xs ys :=
  (forall₂_symm (S := fun y x => S x y) h hxy).flip

section

variable {R S : α → β → Prop} {test : α → β → Check Bool} {xs : List α} {ys : List β}

/-- So may a pairing. -/
theorem PairsInto.imp (hRS : ∀ x ∈ xs, ∀ y ∈ ys, R x y → S x y) (h : PairsInto R xs ys) : PairsInto S xs ys := by
  obtain ⟨zs, hsub, hzs⟩ := h
  exact ⟨zs, hsub, forall₂_imp (fun x hx z hz => hRS x hx z (hsub.subset hz)) hzs⟩

/-- Pairing off does not depend on the order of either list.  So what natural order is good for is only which pairing
is tried first. -/
theorem PairsInto.perm {os : List α} {ot : List β} (hxs : os.Perm xs) (hys : ot.Perm ys)
    (h : PairsInto R os ot) : PairsInto R xs ys := by
  obtain ⟨zs, hsub, hzs⟩ := h
  obtain ⟨zs', hzs', hperm⟩ := List.perm_comp_forall₂ hxs.symm hzs
  exact ⟨zs', hperm.subperm.trans (hsub.trans hys.subperm), hzs'⟩

/-- A pairing that takes all members can be turned round; one that leaves some over cannot. -/
theorem PairsInto.flip {T : β → α → Prop} (hlength : xs.length = ys.length) (hRT : ∀ x ∈ xs, ∀ y ∈ ys, R x y → T y x)
    (h : PairsInto R xs ys) : PairsInto T ys xs := by
  obtain ⟨zs, hsub, hzs⟩ := h
  have hperm : zs.Perm ys := hsub.perm_of_length_le (by rw [← hlength, hzs.length_eq])
  have hback : List.Forall₂ T zs xs := forall₂_symm (fun x hx z hz => hRT x hx z (hperm.mem_iff.mp hz)) hzs
  obtain ⟨ws, hws, hperm'⟩ := List.perm_comp_forall₂ hperm.symm hback
  exact ⟨ws, hperm'.subperm, hws⟩

/-- What is left when one is taken out was there, and so was the one. -/
theorem mem_of_mem_withOthers {p : β × List β} (hp : p ∈ withOthers ys) : p.1 ∈ ys ∧ ∀ y ∈ p.2, y ∈ ys := by
  have hperm := perm_of_mem_withOthers hp
  exact ⟨hperm.mem_iff.mpr List.mem_cons_self, fun y hy => hperm.mem_iff.mpr (List.mem_cons_of_mem p.1 hy)⟩

/-- **The search finds a pairing** if it says yes, and none is open if it says no.  By induction on the members of the
first list: each is tried with every member that is left. -/
theorem says_matchPairs (h : ∀ x ∈ xs, ∀ y ∈ ys, Check.Says settings (test x y) (R x y) (S x y)) :
    Check.Says settings (matchPairs test xs ys) (PairsInto R xs ys) (PairsInto S xs ys) := by
  induction xs generalizing ys with
  | nil =>
    rw [matchPairs]
    exact .of_bool (fun _ => ⟨[], List.nil_subperm, .nil⟩) fun _ => rfl
  | cons x xs ih =>
    obtain ⟨hx, hxs⟩ := List.forall_mem_cons.mp h
    rw [matchPairs, pairsInto_cons, pairsInto_cons]
    refine .anyM fun p hp => ?_
    obtain ⟨hfirst, hothers⟩ := mem_of_mem_withOthers hp
    exact .bind_and (hx p.1 hfirst) (ih fun x' hx' y' hy' => hxs x' hx' y' (hothers y' hy'))

/-- The search for a pairing stops only where one of the checks does that it may ask. -/
theorem stopsOnly_matchPairs (h : ∀ x ∈ xs, ∀ y ∈ ys, Check.StopsOnly settings allowed (test x y)) :
    Check.StopsOnly settings allowed (matchPairs test xs ys) := by
  induction xs generalizing ys with
  | nil =>
    rw [matchPairs]
    exact .of_ok rfl
  | cons x xs ih =>
    obtain ⟨hx, hxs⟩ := List.forall_mem_cons.mp h
    rw [matchPairs]
    refine .anyM fun p hp => ?_
    obtain ⟨hfirst, hothers⟩ := mem_of_mem_withOthers hp
    exact .bind_ite (hx p.1 hfirst) (ih fun x' hx' y' hy' => hxs x' hx' y' (hothers y' hy')) (.of_ok rfl)

/-- Members that fit place by place are paired off at once, without a search. -/
theorem matchPairs_of_forall₂ (h : List.Forall₂ (fun x y => test x y settings = .ok true) xs ys) :
    matchPairs test xs ys settings = .ok true := by
  induction h with
  | nil =>
    rw [matchPairs]
    rfl
  | @cons x y xs ys hxy _ ih =>
    rw [matchPairs, withOthers]
    have hfirst : (do if ← test x y then matchPairs test xs ys else return false : Check Bool) settings = .ok true :=
      (Check.bind_of_ok hxy).trans ih
    exact Check.bind_of_ok hfirst

end

end Value

end StoryValues
