import StoryValues.Proofs.Value.Matching
import StoryValues.Proofs.Value.Printing
import StoryValues.Proofs.Value.Verdicts

/-
  FITTING: one step of matching.

  Whether two values match comes down to what datatypes claim and to whether the values in them match.  What
  one step asks of two values is written down here for any relation between the values in them
  (`Value.Fits`), as `Value.Agree` does for equality.

  1. **Matching, one step at a time** (`isMatch_eq`): a claim of either side, else what is inside
     (`matchInside`), which goes on with matching as a whole.
  2. **What its answers mean** (`says_isMatch`): a yes shows a fit in which all that was asked said yes, and a
     no rules out every fit in which nothing that could be asked says no.  Between the two lies what a search
     never got to.
  3. **Where it stops** (`stopsOnly_isMatch`): nowhere but in a claim, in a comparison, or in putting the
     members of a dataset in order, at any depth of arrays, datamaps and datasets (`Value.Throughout`).
-/

namespace StoryValues

namespace Value

variable {α β γ δ : Type} {settings : Settings}

/-! ## Members with and without their membership -/

/-- A check of all members of an image, told of the members themselves.  Matching runs over members that are paired
with their membership; this and the next lemmas take that pairing off again. -/
theorem allM_map (f : α → β) (test : β → Check Bool) (xs : List α) :
    (xs.map f).allM test = xs.allM fun x => test (f x) := by
  induction xs with
  | nil => rfl
  | cons x xs ih =>
    rw [List.map_cons, List.allM, List.allM, ih]

/-- The same for a check of members until one says yes. -/
theorem anyM_map (f : α → β) (test : β → Check Bool) (xs : List α) :
    (xs.map f).anyM test = xs.anyM fun x => test (f x) := by
  induction xs with
  | nil => rfl
  | cons x xs ih =>
    rw [List.map_cons, List.anyM, List.anyM, ih]

/-- Checking members along with their membership comes to checking them. -/
theorem allM_attach {xs : List α} (test : α → Check Bool) : xs.attach.allM (fun x => test x.val) = xs.allM test := by
  rw [← allM_map Subtype.val test xs.attach, List.attach_map_subtype_val]

/-- A pattern laid along values, both of them images, told of what they are images of: whether an element is spread,
what it accepts and what fits it are asked of the images. -/
theorem matchAlong_map (f : α → γ) (g : β → δ) (isSpread : δ → Bool) (accepts : δ → γ → Check Bool)
    (test : γ → δ → Check Bool) (xs : List α) (ps : List β) :
    matchAlong isSpread accepts test (xs.map f) (ps.map g) =
      matchAlong (fun p => isSpread (g p)) (fun p x => accepts (g p) (f x)) (fun x p => test (f x) (g p)) xs ps := by
  match xs, ps with
  | xs, [] =>
    rw [List.map_nil, matchAlong, matchAlong, List.isEmpty_map]
  | [], p :: ps =>
    have ih := matchAlong_map f g isSpread accepts test [] ps
    rw [List.map_nil] at ih
    rw [List.map_nil, List.map_cons, matchAlong, matchAlong, ih]
  | x :: xs, p :: ps =>
    have henough := matchAlong_map f g isSpread accepts test (x :: xs) ps
    have hmore := matchAlong_map f g isSpread accepts test xs (p :: ps)
    have hone := matchAlong_map f g isSpread accepts test xs ps
    rw [List.map_cons] at henough hmore
    rw [List.map_cons, List.map_cons, matchAlong, matchAlong, henough, hmore, hone]
termination_by xs.length + ps.length

/-- Laying a pattern along values with their membership comes to laying it along the values. -/
theorem matchAlong_attach {xs : List α} {ps : List β} (isSpread : β → Bool) (accepts : β → α → Check Bool)
    (test : α → β → Check Bool) :
    matchAlong (fun p => isSpread p.val) (fun p x => accepts p.val x.val) (fun x p => test x.val p.val) xs.attach
      ps.attach = matchAlong isSpread accepts test xs ps := by
  rw [← matchAlong_map Subtype.val Subtype.val, List.attach_map_subtype_val, List.attach_map_subtype_val]

/-- Taking one member out of an image, and what is left then, are the images of the member and of what is left. -/
theorem withOthers_map (f : α → β) (xs : List α) :
    withOthers (xs.map f) = (withOthers xs).map fun p => (f p.1, p.2.map f) := by
  induction xs with
  | nil => rfl
  | cons x xs ih =>
    rw [List.map_cons, withOthers, withOthers, ih, List.map_cons, List.map_map, List.map_map]
    rfl

/-- Pairing off the members of two images is pairing off what they are images of. -/
theorem matchPairs_map (f : α → γ) (g : β → δ) (test : γ → δ → Check Bool) (xs : List α) (ys : List β) :
    matchPairs test (xs.map f) (ys.map g) = matchPairs (fun x y => test (f x) (g y)) xs ys := by
  induction xs generalizing ys with
  | nil => rfl
  | cons x xs ih =>
    rw [List.map_cons, matchPairs, matchPairs, withOthers_map, anyM_map]
    congr 1
    funext p
    show (test (f x) (g p.1) >>= fun yes => if yes = true then matchPairs test (xs.map f) (p.2.map g) else pure false) = _
    rw [ih]

/-- Sorting members along with their membership comes to sorting them, since the key of a member does not depend on
it. -/
theorem sorted_eq_attach (xs : List Value) :
    sorted xs = (sortOn (fun x => naturalKey x.val) xs.attach).map (List.map Subtype.val) := by
  have hsort := @bind_sortOn _ _ _ (fun x => naturalKey x.val) Subtype.val xs.attach
    (pure : List Value → Except Fault (List Value))
  rw [List.attach_map_val, List.attach_map_subtype_val] at hsort
  rw [sorted, sortOn, hsort]
  cases sortOn (fun x => naturalKey x.val) xs.attach with
  | ok os => rfl
  | error f => rfl

/-- A lifted result goes on as it is where what it was mapped to would. -/
theorem lift_map_bind {r : Except Fault α} {f : α → β} {next : β → Check γ} :
    Check.lift (r.map f) >>= next = Check.lift r >>= fun a => next (f a) := by
  cases r with
  | ok a => rfl
  | error e => rfl

/-! ## Matching, one step at a time -/

/-- Matching the items of arrays: along the pattern that holds a spread datatype, or place by place. -/
def matchItems (xs ys : List Value) : Check Bool :=
  if ys.any isSpreadType then matchAlong isSpreadType claims isMatch xs ys
  else if xs.any isSpreadType then matchAlong isSpreadType claims isMatch ys xs
  else if xs.length = ys.length then (xs.zip ys).allM fun p => isMatch p.1 p.2
  else return false

/-- Matching what is found under a name. -/
def matchEntry (ys : List (Name × Value)) (e : Name × Value) : Check Bool :=
  match ys.find? fun e' => e'.1.same e.1 with
  | some e' => isMatch e.2 e'.2
  | none => return false

/-- Matching the entries of datamaps name by name. -/
def matchEntries (xs ys : List (Name × Value)) : Check Bool :=
  if xs.length = ys.length ∧ xs.all fun e => (lookupName ys e.1).isSome then xs.allM (matchEntry ys)
  else return false

/-- Matching the members of datasets, which are paired off in natural order. -/
def matchMembers (xs ys : List Value) : Check Bool := do
  let os ← Check.lift (sorted xs)
  let ot ← Check.lift (sorted ys)
  if os.length = ot.length then matchPairs isMatch os ot else return false

/-- What matching comes to where neither side is a datatype that claims the other. -/
def matchInside (l r : Value) : Check Bool :=
  match l, r with
  | .array xs, .array ys => matchItems xs ys
  | .datamap _ xs, .datamap _ ys => matchEntries xs ys
  | .dataset _ xs, .dataset _ ys => matchMembers xs ys
  | l, r => Check.lift (equals l r)

/-- **Matching is a claim of either side, or else what is inside.**  This is the recursion of the definition without
the membership proofs that its termination needs, and every later proof unfolds matching by it. -/
theorem isMatch_eq (l r : Value) : isMatch l r = (do
    let first ← l.claims r
    let second ← r.claims l
    if first || second then return true else matchInside l r) := by
  unfold isMatch
  congr 1
  funext first
  congr 1
  funext second
  split
  · rfl
  split
  · rename_i xs ys
    show _ = matchItems xs ys
    -- the recursion goes through the items with their membership; without it the calls are the same
    rw [matchItems, ← matchAlong_attach isSpreadType claims isMatch, ← matchAlong_attach isSpreadType claims isMatch,
      ← allM_attach fun p : Value × Value => isMatch p.1 p.2]
  · rename_i xs _ ys
    show _ = matchEntries xs ys
    rw [matchEntries, ← allM_attach (matchEntry ys)]
    refine if_congr Iff.rfl (congrArg (fun test => xs.attach.allM test) (funext fun e => ?_)) rfl
    obtain ⟨⟨name, x⟩, _⟩ := e
    dsimp only
    rw [matchEntry]
    split
    · rename_i e' hfind
      rw [hfind]
    · rename_i hfind
      rw [hfind]
  · rename_i xs _ ys
    show _ = matchMembers xs ys
    rw [matchMembers, sorted_eq_attach xs, sorted_eq_attach ys, lift_map_bind]
    congr 1
    funext os
    rw [lift_map_bind]
    congr 1
    funext ot
    -- sorting the members keeps each with its proof
    rw [List.length_map, List.length_map, matchPairs_map]
  · rename_i harray hdatamap hdataset
    rw [matchInside]
    · rfl
    · exact harray
    · exact hdatamap
    · exact hdataset

/-! ## What the answers mean -/

/-- Whether two values are collections of one kind. -/
def areCollections : Value → Value → Bool
  | .array _, .array _ => true
  | .datamap .., .datamap .. => true
  | .dataset .., .dataset .. => true
  | _, _ => false

/-- **What is inside fits,** up to claims of datatypes and a relation between the values inside. -/
inductive Inside (claim R : Value → Value → Prop) : Value → Value → Prop
  | alongSecond {xs ys : List Value} : ys.any isSpreadType = true → Cut isSpreadType claim R xs ys →
      Inside claim R (.array xs) (.array ys)
  | alongFirst {xs ys : List Value} : ys.any isSpreadType = false → xs.any isSpreadType = true →
      Cut isSpreadType claim R ys xs → Inside claim R (.array xs) (.array ys)
  | places {xs ys : List Value} : ys.any isSpreadType = false → xs.any isSpreadType = false →
      List.Forall₂ R xs ys → Inside claim R (.array xs) (.array ys)
  | datamap {s t : Tag} {xs ys : List (Name × Value)} : xs.length = ys.length →
      (∀ e ∈ xs, ∃ e', (ys.find? fun e' => e'.1.same e.1) = some e' ∧ R e.2 e'.2) →
        Inside claim R (.datamap s xs) (.datamap t ys)
  | dataset {s t : Tag} {xs ys : List Value} : xs.length = ys.length → PairsInto R xs ys →
      Inside claim R (.dataset s xs) (.dataset t ys)
  | single {l r : Value} : areCollections l r = false → Equal l r → Inside claim R l r

/-- **Two values fit,** up to claims of datatypes and a relation between the values inside: either is claimed
by the other, or what is inside fits. -/
inductive Fits (claim R : Value → Value → Prop) (l r : Value) : Prop
  | claiming : claim l r → Fits claim R l r
  | claimed : claim r l → Fits claim R l r
  | inside : Inside claim R l r → Fits claim R l r

/-- A datatype says that it accepts a value. -/
def Claims (settings : Settings) (l r : Value) : Prop := l.claims r settings = .ok true

/-- A datatype does not say that it does not accept a value: it may stop without an answer. -/
def MayClaim (settings : Settings) (l r : Value) : Prop := l.claims r settings ≠ .ok false

/-- Matching says yes. -/
def Matches (settings : Settings) (l r : Value) : Prop := isMatch l r settings = .ok true

/-- Matching does not say no: it may stop without an answer. -/
def MayMatch (settings : Settings) (l r : Value) : Prop := isMatch l r settings ≠ .ok false

/-- What a claim says is what it says, and what it does not rule out it may say. -/
theorem says_claims (l r : Value) : Check.Says settings (l.claims r) (Claims settings l r) (MayClaim settings l r) :=
  .of_run settings _

/-- The same of matching as a whole, which is what one step of it goes on with. -/
theorem says_match (l r : Value) : Check.Says settings (isMatch l r) (Matches settings l r) (MayMatch settings l r) :=
  .of_run settings _

/-- The answers for arrays, on either side of which there may be a spread datatype: laid along it on the right, else
along it on the left, else place by place. -/
theorem says_matchItems (xs ys : List Value) :
    Check.Says settings (matchItems xs ys) (Inside (Claims settings) (Matches settings) (.array xs) (.array ys))
      (Inside (MayClaim settings) (MayMatch settings) (.array xs) (.array ys)) := by
  rw [matchItems]
  -- the pattern on the right is looked at first
  cases hys : ys.any isSpreadType with
  | true =>
    rw [if_pos rfl]
    refine (says_matchAlong xs ys (fun _ _ _ _ => says_claims _ _) fun _ _ _ _ => says_match _ _).mono
      (.alongSecond hys) fun h => ?_
    cases h with
    | alongSecond _ h => exact h
    | alongFirst hno _ _ => exact absurd (hno.symm.trans hys) Bool.false_ne_true
    | places hno _ _ => exact absurd (hno.symm.trans hys) Bool.false_ne_true
    | single hno _ => cases hno
  | false =>
    rw [if_neg Bool.false_ne_true]
    cases hxs : xs.any isSpreadType with
    | true =>
      rw [if_pos rfl]
      refine (says_matchAlong ys xs (fun _ _ _ _ => says_claims _ _) fun _ _ _ _ => says_match _ _).mono
        (.alongFirst hys hxs) fun h => ?_
      cases h with
      | alongSecond hyes _ => exact absurd (hys.symm.trans hyes) Bool.false_ne_true
      | alongFirst _ _ h => exact h
      | places _ hno _ => exact absurd (hno.symm.trans hxs) Bool.false_ne_true
      | single hno _ => cases hno
    | false =>
      rw [if_neg Bool.false_ne_true]
      refine (Check.Says.ite_false fun _ => .allM fun p _ => says_match p.1 p.2).mono (fun h => ?_) fun h => ?_
      · exact .places hys hxs (List.forall₂_iff_zip.mpr ⟨h.1, fun hp => h.2 _ hp⟩)
      · cases h with
        | alongSecond hyes _ => exact absurd (hys.symm.trans hyes) Bool.false_ne_true
        | alongFirst _ hyes _ => exact absurd (hxs.symm.trans hyes) Bool.false_ne_true
        | places _ _ h => exact ⟨h.length_eq, fun p hp => (List.forall₂_iff_zip.mp h).2 hp⟩
        | single hno _ => cases hno

/-- The answer for one entry: the value under its name, if there is one, and no if there is none. -/
theorem says_matchEntry (ys : List (Name × Value)) (e : Name × Value) :
    Check.Says settings (matchEntry ys e)
      (∃ e', (ys.find? fun e' => e'.1.same e.1) = some e' ∧ Matches settings e.2 e'.2)
      (∃ e', (ys.find? fun e' => e'.1.same e.1) = some e' ∧ MayMatch settings e.2 e'.2) := by
  rw [matchEntry]
  cases ys.find? fun e' => e'.1.same e.1 with
  | some e' =>
    refine (says_match e.2 e'.2).mono (fun h => ⟨e', rfl, h⟩) ?_
    rintro ⟨e'', hsome, h⟩
    exact Option.some.inj hsome ▸ h
  | none => exact .of_bool nofun fun ⟨_, hsome, _⟩ => nomatch hsome

/-- The answers for datamaps, which need as many entries and all names before any values are looked at. -/
theorem says_matchEntries {s t : Tag} (xs ys : List (Name × Value)) :
    Check.Says settings (matchEntries xs ys)
      (Inside (Claims settings) (Matches settings) (.datamap s xs) (.datamap t ys))
      (Inside (MayClaim settings) (MayMatch settings) (.datamap s xs) (.datamap t ys)) := by
  rw [matchEntries]
  refine (Check.Says.ite_false fun _ => .allM fun e _ => says_matchEntry ys e).mono (fun h => .datamap h.1.1 h.2)
    fun h => ?_
  cases h with
  | datamap hlength h =>
    -- a name with a partner is found
    refine ⟨⟨hlength, List.all_eq_true.mpr fun e he => ?_⟩, h⟩
    obtain ⟨e', hfind, _⟩ := h e he
    rw [lookupName, hfind]
    rfl
  | single hno _ => cases hno

/-- The answers for datasets.  The search runs over the members in natural order, but whether there is a pairing does
not depend on any order. -/
theorem says_matchMembers {s t : Tag} (xs ys : List Value) :
    Check.Says settings (matchMembers xs ys)
      (Inside (Claims settings) (Matches settings) (.dataset s xs) (.dataset t ys))
      (Inside (MayClaim settings) (MayMatch settings) (.dataset s xs) (.dataset t ys)) := by
  rw [matchMembers]
  refine .bind_lift fun os hos => .bind_lift fun ot hot => ?_
  have hperm := (of_sortOn hos).2
  have hperm' := (of_sortOn hot).2
  rw [hperm.length_eq, hperm'.length_eq]
  refine (Check.Says.ite_false fun _ => says_matchPairs fun x _ y _ => says_match x y).mono (fun h => ?_) fun h => ?_
  · exact .dataset h.1 (h.2.perm hperm hperm')
  · cases h with
    | dataset hlength h => exact ⟨hlength, h.perm hperm.symm hperm'.symm⟩
    | single hno _ => cases hno

/-- Values that are not collections of one kind match inside iff they are equal, and there the comparison may stop as
well. -/
theorem matchInside_eq {l r : Value} (h : areCollections l r = false) : matchInside l r = Check.lift (equals l r) := by
  unfold matchInside
  split
  · cases h
  · cases h
  · cases h
  · rfl

/-- The answers for what is inside two values, one case for each kind of collection and one for all other pairs. -/
theorem says_matchInside (l r : Value) :
    Check.Says settings (matchInside l r) (Inside (Claims settings) (Matches settings) l r)
      (Inside (MayClaim settings) (MayMatch settings) l r) := by
  cases h : areCollections l r with
  | true =>
    unfold areCollections at h
    split at h
    · exact says_matchItems _ _
    · exact says_matchEntries _ _
    · exact says_matchMembers _ _
    · cases h
  | false =>
    rw [matchInside_eq h]
    constructor
    · exact fun hyes => .single h (Check.lift_eq_ok.mp hyes)
    · intro hno hopen
      have hno : equals l r = .ok false := Check.lift_eq_ok.mp hno
      cases hopen with
      | single _ hequal => cases hno.symm.trans hequal
      | _ => cases h

/-- **What the answers of matching mean:** a yes, that the values fit by answers that say yes; a no, that they do not
even fit by all that does not say no.  The two differ where a search ended before it met something that stops. -/
theorem says_isMatch (l r : Value) :
    Check.Says settings (isMatch l r) (Fits (Claims settings) (Matches settings) l r)
      (Fits (MayClaim settings) (MayMatch settings) l r) := by
  rw [isMatch_eq]
  constructor
  · intro hyes
    obtain ⟨first, hfirst, h⟩ := Check.bind_eq_ok.mp hyes
    obtain ⟨second, hsecond, h⟩ := Check.bind_eq_ok.mp h
    cases first with
    | true => exact .claiming hfirst
    | false =>
      cases second with
      | true => exact .claimed hsecond
      | false => exact .inside ((says_matchInside l r).yes h)
  · intro hno
    obtain ⟨first, hfirst, h⟩ := Check.bind_eq_ok.mp hno
    obtain ⟨second, hsecond, h⟩ := Check.bind_eq_ok.mp h
    cases first with
    | true => cases h
    | false =>
      cases second with
      | true => cases h
      | false =>
        -- both claims were answered with no, and so was what is inside
        rintro (hclaim | hclaim | hinside)
        · exact hclaim hfirst
        · exact hclaim hsecond
        · exact (says_matchInside l r).no h hinside

/-! ## Where it stops -/

/-- The values that matching looks at inside a value. -/
def contents : Value → List Value
  | .array items => items
  | .datamap _ entries => entries.map Prod.snd
  | .dataset _ members => members
  | _ => []

/-- Matching looks at no more of a value than its parts. -/
theorem parts_of_mem_contents {v x : Value} (h : x ∈ v.contents) : x ∈ v.parts := by
  cases v with
  | array items => exact h
  | datamap tag entries => exact h
  | dataset tag members => exact h
  | _ => exact absurd h List.not_mem_nil

/-- Something holds of a value and of all values that matching looks at in it, at every depth. -/
inductive Throughout (P : Value → Prop) : Value → Prop
  | intro {v : Value} : P v → (∀ x ∈ v.contents, Throughout P x) → Throughout P v

namespace Throughout

variable {P Q : Value → Prop} {v x : Value}

/-- It holds of the value itself. -/
theorem here (h : v.Throughout P) : P v := by
  cases h with
  | intro h _ => exact h

/-- It holds of everything that matching looks at in the value, and throughout that. -/
theorem inside (h : v.Throughout P) (hx : x ∈ v.contents) : x.Throughout P := by
  cases h with
  | intro _ h => exact h x hx

/-- What follows from it holds throughout as well, by induction on the value. -/
theorem mono (h : v.Throughout P) (hPQ : ∀ {x}, P x → Q x) : v.Throughout Q := by
  induction h with
  | intro hv _ ih => exact .intro (hPQ hv) ih

/-- Two things that hold throughout hold together throughout. -/
theorem and (hP : v.Throughout P) (hQ : v.Throughout Q) : v.Throughout fun x => P x ∧ Q x := by
  induction hP with
  | intro hv _ ih => exact .intro ⟨hv, hQ.here⟩ fun x hx => ih x hx (hQ.inside hx)

/-- Where there is nothing to look at inside, it is enough that it holds of the value. -/
theorem single (hcontents : v.contents = []) (h : P v) : v.Throughout P :=
  .intro h fun _ hx => absurd (hcontents ▸ hx) List.not_mem_nil

/-- Where there is one value inside, it has to hold of the outer one and throughout the inner one. -/
theorem only (hcontents : v.contents = [x]) (h : P v) (hx : x.Throughout P) : v.Throughout P :=
  .intro h (hcontents ▸ List.forall_mem_singleton.mpr hx)

/-- The same where there are two. -/
theorem pair {y : Value} (hcontents : v.contents = [x, y]) (h : P v) (hx : x.Throughout P) (hy : y.Throughout P) :
    v.Throughout P :=
  .intro h (hcontents ▸ List.forall_mem_cons.mpr ⟨hx, List.forall_mem_singleton.mpr hy⟩)

/-- What holds everywhere holds of all that matching looks at, which is less: matching does not look into spread
values, changers or commands. -/
theorem of_everywhere (h : v.Everywhere P) : v.Throughout (Everywhere P) := by
  induction h with
  | @intro v hv hparts ih =>
    exact .intro (.intro hv hparts) fun x hx => ih x (parts_of_mem_contents hx)

end Throughout

/-- Matching what is inside stops only where a claim of an item, a comparison of the two or putting members in order
does, or matching the values inside.  The last of these is what the induction below supplies. -/
theorem stopsOnly_matchInside {allowed : Failure → Prop} {P : Value → Prop} {l r : Value}
    (hclaims : ∀ x y, P x → P y → Check.StopsOnly settings allowed (x.claims y))
    (hequals : Check.StopsOnly settings allowed (Check.lift (equals l r)))
    (hsorted : ∀ tag xs, P (.dataset tag xs) → Check.StopsOnly settings allowed (Check.lift (sorted xs)))
    (hl : l.Throughout P) (hr : r.Throughout P)
    (hinside : ∀ x ∈ l.contents, ∀ y ∈ r.contents,
      Check.StopsOnly settings allowed (isMatch x y) ∧ Check.StopsOnly settings allowed (isMatch y x)) :
    Check.StopsOnly settings allowed (matchInside l r) := by
  unfold matchInside
  split
  · rename_i xs ys
    rw [matchItems]
    refine .ite (fun _ => ?_) fun _ => .ite (fun _ => ?_) fun _ => .ite (fun _ => .allM fun p hp => ?_) fun _ =>
      .of_ok rfl
    · -- spread items may be on either side; without any, items are matched in pairs
      refine stopsOnly_matchAlong xs ys (fun y hy x hx => ?_) fun x hx y hy => (hinside x hx y hy).1
      exact hclaims y x (hr.inside hy).here (hl.inside hx).here
    · refine stopsOnly_matchAlong ys xs (fun x hx y hy => ?_) fun y hy x hx => (hinside x hx y hy).2
      exact hclaims x y (hl.inside hx).here (hr.inside hy).here
    · obtain ⟨hx, hy⟩ := List.of_mem_zip hp
      exact (hinside p.1 hx p.2 hy).1
  · rename_i xs _ ys
    rw [matchEntries]
    refine .ite (fun _ => .allM fun e he => ?_) fun _ => .of_ok rfl
    rw [matchEntry]
    split
    · rename_i e' hfind
      have hmem := List.mem_of_find?_eq_some hfind
      exact (hinside e.2 (List.mem_map_of_mem he) e'.2 (List.mem_map_of_mem hmem)).1
    · exact .of_ok rfl
  · rename_i xs _ ys
    rw [matchMembers]
    refine .bind (hsorted _ xs hl.here) fun os hos => .bind (hsorted _ ys hr.here) fun ot hot => ?_
    -- what was put in order are still the members
    have hperm := (of_sortOn (Check.lift_eq_ok.mp hos)).2
    have hperm' := (of_sortOn (Check.lift_eq_ok.mp hot)).2
    refine .ite (fun _ => stopsOnly_matchPairs fun x hx y hy => ?_) fun _ => .of_ok rfl
    exact (hinside x (hperm.mem_iff.mp hx) y (hperm'.mem_iff.mp hy)).1
  · exact hequals

/-- **Matching stops only where a claim, a comparison or putting members in order does,** at some depth of either
side.  By induction on the values, one step being the lemma before. -/
theorem stopsOnly_isMatch {allowed : Failure → Prop} {P : Value → Prop} {l r : Value}
    (hclaims : ∀ x y, P x → P y → Check.StopsOnly settings allowed (x.claims y))
    (hequals : ∀ x y, P x → P y → Check.StopsOnly settings allowed (Check.lift (equals x y)))
    (hsorted : ∀ tag xs, P (.dataset tag xs) → Check.StopsOnly settings allowed (Check.lift (sorted xs)))
    (hl : l.Throughout P) (hr : r.Throughout P) : Check.StopsOnly settings allowed (isMatch l r) := by
  rw [isMatch_eq]
  refine .bind (hclaims l r hl.here hr.here) fun first _ => .bind (hclaims r l hr.here hl.here) fun second _ => ?_
  refine .ite (fun _ => .of_ok rfl) fun _ => ?_
  refine stopsOnly_matchInside hclaims (hequals l r hl.here hr.here) hsorted hl hr fun x hx y hy => ?_
  have hxl := sizeOf_lt_of_mem_parts (parts_of_mem_contents hx)
  have hyr := sizeOf_lt_of_mem_parts (parts_of_mem_contents hy)
  exact ⟨stopsOnly_isMatch hclaims hequals hsorted (hl.inside hx) (hr.inside hy),
    stopsOnly_isMatch hclaims hequals hsorted (hr.inside hy) (hl.inside hx)⟩
termination_by sizeOf l + sizeOf r

end Value

end StoryValues
