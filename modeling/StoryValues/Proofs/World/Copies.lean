import StoryValues.Proofs.Run
import StoryValues.Proofs.Value.Copied
import StoryValues.Proofs.World.Lexical
import StoryValues.World.InPlace

/-
  COPIES IN THE WORLD.  A collection that is changed in place is changed wherever it is held, and it is known there by
  its tag.  A copy of a collection gets a tag of its own, so what is done to the copy is not done to the original.

  1. **Tags in a value** (`Value.Below`) — all collections that are held in a value, at any depth, have tags that were
     made already, or none.  Giving tags keeps it so (`below_adopt`).
  2. **Replacing** the collection of a tag changes no value in which none has this tag (`replace_of_below`).
  3. **Changes that leave a value** (`World.Leaves`) — each maps everything that is held by a function that does not
     change this value.  So whoever sees it sees it still (`Leaves.value?`).
  4. **Every operation in place** is a change of this kind to a value without the tag (`Edit.sparing`), and so are
     many of them (`Edits.leaves`).
  5. **The whole** (`clone_faithful`) — a copy is equal to the value, is printed like it and accepted like it, and
     changing it in place leaves the value.
-/

namespace StoryValues

namespace Value

variable {n m tag : Nat} {v new : Value}

/-! ## Tags in a value -/

/-- The values that a change in place looks for inside a value. -/
def held : Value → List Value
  | .array items => items
  | .datamap _ entries => entries.map Prod.snd
  | .dataset _ members => members
  | .spread v => [v]
  | .changer nodes => nodes.flatMap Prod.snd
  | .command _ _ params _ => params
  | _ => []

/-- **The collections in a value, at any depth, have tags below this one,** or none. -/
inductive Below (n : Nat) : Value → Prop
  | intro {v : Value} : (∀ t, v.tag? = some t → t < n) → (∀ x ∈ v.held, Below n x) → Below n v

/-- Tags below one number are below any greater one. -/
theorem Below.mono (h : v.Below n) (hnm : n ≤ m) : v.Below m := by
  induction h with
  | intro htag _ ih => exact .intro (fun t ht => Nat.lt_of_lt_of_le (htag t ht) hnm) ih

/-- The tag of a collection is one of those that are held in it. -/
theorem Below.tag_lt {t : Nat} (h : v.Below n) (ht : v.tag? = some t) : t < n := by
  cases h with
  | intro htag _ => exact htag t ht

/-- What a value holds has tags below the number, too. -/
theorem Below.inside {x : Value} (h : v.Below n) (hx : x ∈ v.held) : x.Below n := by
  cases h with
  | intro _ hheld => exact hheld x hx

/-- What is no collection itself has as much of tags as what it holds. -/
theorem Below.of_held (htag : v.tag? = none) (hheld : ∀ x ∈ v.held, x.Below n) : v.Below n :=
  .intro (fun _ ht => nomatch htag.symm.trans ht) hheld

/-- A copy of a value holds what the value does, and its own tag is taken off. -/
theorem Below.clone (h : v.Below n) : v.clone.Below n := by
  cases v with
  | datamap t entries => exact .of_held rfl fun x hx => h.inside hx
  | dataset t members => exact .of_held rfl fun x hx => h.inside hx
  | _ => exact h

/-! ## Replacing -/

/-- Replacing in a list is replacing in each member; it is written out as a recursion of its own, along with that on
values. -/
theorem replaceAll_eq_map (tag : Nat) (new : Value) (vs : List Value) :
    replaceAll tag new vs = vs.map (replace tag new) := by
  induction vs with
  | nil => rfl
  | cons v vs ih => rw [replaceAll, ih, List.map_cons]

/-- Replacing a datum in the entries of a datamap is replacing it in each value. -/
theorem replaceEntries_eq_map (tag : Nat) (new : Value) (entries : List (Name × Value)) :
    replaceEntries tag new entries = entries.map fun e => (e.1, replace tag new e.2) := by
  induction entries with
  | nil => rfl
  | cons e entries ih => rw [replaceEntries, ih, List.map_cons]

/-- Replacing a datum in the nodes of a chain is replacing it in each parameter. -/
theorem replaceNodes_eq_map (tag : Nat) (new : Value) (nodes : List (String × List Value)) :
    replaceNodes tag new nodes = nodes.map fun node => (node.1, node.2.map (replace tag new)) := by
  induction nodes with
  | nil => rfl
  | cons node nodes ih => rw [replaceNodes, ih, replaceAll_eq_map, List.map_cons]

/-- What changes no member of a list does not change the list.  Applied to what a value holds, it makes a change that
spares all parts one that spares the value. -/
theorem map_eq_self {α : Type} {f : α → α} {xs : List α} (h : ∀ x ∈ xs, f x = x) : xs.map f = xs :=
  (List.map_congr_left h).trans (List.map_id xs)

/-- **A value in which no collection has the tag stays as it is,** by induction on what it holds. -/
theorem replace_of_below (h : v.Below n) (htag : n ≤ tag) (new : Value) : replace tag new v = v := by
  induction h with
  | @intro v hown _ ih =>
    have hne : v.tag? ≠ some tag := fun ht => absurd (hown tag ht) (Nat.not_lt.mpr htag)
    -- what it holds stays, and the collection itself has no such tag
    have hmembers : v.held.map (replace tag new) = v.held := map_eq_self ih
    cases v with
    | array items => exact congrArg Value.array ((replaceAll_eq_map tag new items).trans hmembers)
    | datamap t entries =>
      have ht : t ≠ some tag := hne
      have hentries : ∀ e ∈ entries, (e.1, replace tag new e.2) = e :=
        fun e he => congrArg (e.1, ·) (ih e.2 (List.mem_map_of_mem he))
      rw [replace, if_neg ht, replaceEntries_eq_map, map_eq_self hentries]
    | dataset t members =>
      have ht : t ≠ some tag := hne
      rw [replace, if_neg ht]
      exact congrArg (Value.dataset t) ((replaceAll_eq_map tag new members).trans hmembers)
    | spread v => rw [replace, ih v (List.mem_singleton_self v)]
    | changer nodes =>
      have hnodes : ∀ node ∈ nodes, (node.1, node.2.map (replace tag new)) = node := fun node hnode =>
        congrArg (node.1, ·) (map_eq_self fun x hx => ih x (List.mem_flatMap.mpr ⟨node, hnode, hx⟩))
      rw [replace, replaceNodes_eq_map, map_eq_self hnodes]
    | command t name params action =>
      rw [replace]
      exact congrArg (Value.command t name · action) ((replaceAll_eq_map tag new params).trans hmembers)
    | _ => simp only [replace]

/-! ## Giving tags -/

/-- Giving a tag leaves the next free number no smaller.  It is the step for collections in `below_adopt`. -/
theorem le_adopt_tag (n : Nat) (t : Tag) : n ≤ (Tag.adopt n t).2 := by
  cases t with
  | none => exact Nat.le_succ n
  | some t => exact Nat.le_refl n

/-- A tag that was below is below the next one when it has been given, and so is one that was made. -/
theorem adopt_tag_lt {t : Tag} {k : Nat} (ht : ∀ k, t = some k → k < n) (hk : (Tag.adopt n t).1 = some k) :
    k < (Tag.adopt n t).2 := by
  cases t with
  | none =>
    obtain rfl := Option.some.inj hk
    exact Nat.lt_succ_self n
  | some t => exact ht k hk

/-- A number of a colour takes no tag that was given before. -/
theorem le_adopt_number (n : Nat) (x : Number) : n ≤ (x.adopt n).2 := by
  cases x with
  | int k => exact Nat.le_refl n
  | real x =>
    cases x with
    | nan t => exact le_adopt_tag n t
    | _ => exact Nat.le_refl n

/-- A colour takes no tag that was given before; its channels get theirs one after another. -/
theorem le_adopt_colour (n : Nat) (c : Colour) : n ≤ (c.adopt n).2 :=
  (((le_adopt_number n c.red).trans (le_adopt_number _ c.green)).trans (le_adopt_number _ c.blue)).trans
    (le_adopt_number _ c.alpha)

mutual

/-- **Giving tags** leaves all of them below the next one, by recursion on the value.  The first part says that
numbers only grow, so that tags given to earlier parts are still below in the end. -/
theorem below_adopt : (v : Value) → (n : Nat) → v.Below n → n ≤ (v.adopt n).2 ∧ (v.adopt n).1.Below (v.adopt n).2
  | .array items, n, h => by
    obtain ⟨hle, hitems⟩ := below_adoptAll items n fun x hx => h.inside hx
    exact ⟨hle, .of_held rfl hitems⟩
  | .datamap t entries, n, h => by
    -- the tag of the datamap is given first, and the entries after it
    have ht : ∀ k, t = some k → k < n := fun k hk => h.tag_lt hk
    obtain ⟨hle, hentries⟩ := below_adoptEntries entries (Tag.adopt n t).2 fun e he =>
      (h.inside (List.mem_map_of_mem he)).mono (le_adopt_tag n t)
    refine ⟨(le_adopt_tag n t).trans hle, .intro (fun k hk => Nat.lt_of_lt_of_le (adopt_tag_lt ht hk) hle) ?_⟩
    intro x hx
    obtain ⟨e, he, rfl⟩ := List.mem_map.mp hx
    exact hentries e he
  | .dataset t members, n, h => by
    have ht : ∀ k, t = some k → k < n := fun k hk => h.tag_lt hk
    obtain ⟨hle, hmembers⟩ := below_adoptAll members (Tag.adopt n t).2 fun x hx =>
      (h.inside hx).mono (le_adopt_tag n t)
    exact ⟨(le_adopt_tag n t).trans hle,
      .intro (fun k hk => Nat.lt_of_lt_of_le (adopt_tag_lt ht hk) hle) hmembers⟩
  | .spread v, n, h => by
    obtain ⟨hle, hv⟩ := below_adopt v n (h.inside (List.mem_singleton_self v))
    exact ⟨hle, .of_held rfl fun x hx => List.mem_singleton.mp hx ▸ hv⟩
  | .changer nodes, n, h => by
    obtain ⟨hle, hnodes⟩ := below_adoptNodes nodes n fun node hnode x hx =>
      h.inside (List.mem_flatMap.mpr ⟨node, hnode, hx⟩)
    refine ⟨hle, .of_held rfl fun x hx => ?_⟩
    obtain ⟨node, hnode, hx⟩ := List.mem_flatMap.mp hx
    exact hnodes node hnode x hx
  | .command t _ params _, n, h => by
    obtain ⟨hle, hparams⟩ := below_adoptAll params (Tag.adopt n t).2 fun x hx =>
      (h.inside hx).mono (le_adopt_tag n t)
    exact ⟨(le_adopt_tag n t).trans hle, .of_held rfl hparams⟩
  | .number x, n, _ => ⟨le_adopt_number n x, .of_held rfl nofun⟩
  | .error e, n, _ => ⟨le_adopt_tag n e.tag, .of_held rfl nofun⟩
  | .colour c, n, _ => ⟨le_adopt_colour n c, .of_held rfl nofun⟩
  | .lambda l, n, _ => ⟨le_adopt_tag n l.tag, .of_held rfl nofun⟩
  | .custom m, n, _ => ⟨le_adopt_tag n m.tag, .of_held rfl nofun⟩
  | .nothing, n, h | .boolean _, n, h | .string _, n, h | .datatype _, n, h | .typedVar _, n, h | .gradient _, n, h
  | .hooks _, n, h | .filtered, n, h => ⟨Nat.le_refl n, h⟩

/-- Giving tags to a list of values, from front to back, leaves all of them below the next one. -/
theorem below_adoptAll : (vs : List Value) → (n : Nat) → (∀ x ∈ vs, x.Below n) →
    n ≤ (adoptAll n vs).2 ∧ ∀ x ∈ (adoptAll n vs).1, x.Below (adoptAll n vs).2
  | [], n, _ => ⟨Nat.le_refl n, fun _ hx => absurd hx List.not_mem_nil⟩
  | v :: vs, n, h => by
    obtain ⟨hv, hvs⟩ := List.forall_mem_cons.mp h
    obtain ⟨hle, hfirst⟩ := below_adopt v n hv
    obtain ⟨hle', hrest⟩ := below_adoptAll vs (v.adopt n).2 fun x hx => (hvs x hx).mono hle
    exact ⟨hle.trans hle', List.forall_mem_cons.mpr ⟨hfirst.mono hle', hrest⟩⟩

/-- Giving tags to the values of entries leaves all of them below the next one. -/
theorem below_adoptEntries : (entries : List (Name × Value)) → (n : Nat) → (∀ e ∈ entries, e.2.Below n) →
    n ≤ (adoptEntries n entries).2 ∧ ∀ e ∈ (adoptEntries n entries).1, e.2.Below (adoptEntries n entries).2
  | [], n, _ => ⟨Nat.le_refl n, fun _ he => absurd he List.not_mem_nil⟩
  | (_, v) :: rest, n, h => by
    obtain ⟨hv, hrest⟩ := List.forall_mem_cons.mp h
    obtain ⟨hle, hfirst⟩ := below_adopt v n hv
    obtain ⟨hle', hrest⟩ := below_adoptEntries rest (v.adopt n).2 fun e he => (hrest e he).mono hle
    exact ⟨hle.trans hle', List.forall_mem_cons.mpr ⟨hfirst.mono hle', hrest⟩⟩

/-- Giving tags to the parameters of a chain leaves all of them below the next one. -/
theorem below_adoptNodes : (nodes : List (String × List Value)) → (n : Nat) →
    (∀ node ∈ nodes, ∀ x ∈ node.2, x.Below n) →
      n ≤ (adoptNodes n nodes).2 ∧
        ∀ node ∈ (adoptNodes n nodes).1, ∀ x ∈ node.2, x.Below (adoptNodes n nodes).2
  | [], n, _ => ⟨Nat.le_refl n, fun _ hnode => absurd hnode List.not_mem_nil⟩
  | (_, params) :: rest, n, h => by
    obtain ⟨hparams, hrest⟩ := List.forall_mem_cons.mp h
    obtain ⟨hle, hfirst⟩ := below_adoptAll params n hparams
    obtain ⟨hle', hrest⟩ := below_adoptNodes rest (adoptAll n params).2 fun node hnode x hx =>
      (hrest node hnode x hx).mono hle
    exact ⟨hle.trans hle', List.forall_mem_cons.mpr ⟨fun x hx => (hfirst x hx).mono hle', hrest⟩⟩

end

/-- A collection that has a tag keeps it, so taking a value into the world twice leaves it the one that it is. -/
theorem tag?_adopt {t : Nat} (h : v.tag? = some t) (n : Nat) : (v.adopt n).1.tag? = some t := by
  cases v with
  | datamap tag entries =>
    obtain rfl : tag = some t := h
    rfl
  | dataset tag members =>
    obtain rfl : tag = some t := h
    rfl
  | _ => exact nomatch h

/-- A value that is changed in place: a datamap or a dataset. -/
def IsCollection : Value → Prop
  | .datamap .. | .dataset .. => True
  | _ => False

/-- **The copy of a collection gets the next tag,** which no value in the world has.  Changes to the copy are looked
for under this tag. -/
theorem tag?_adopt_clone (h : v.IsCollection) (n : Nat) : (v.clone.adopt n).1.tag? = some n := by
  cases v with
  | datamap tag entries => rfl
  | dataset tag members => rfl
  | _ => exact h.elim

end Value

/-! ## Changes that leave a value -/

namespace World

variable {σ : Type} {host : Host σ} {v : Value} {w w' w'' : World σ}

/-- **One world comes from another by changes that leave a value:** each maps all that the scopes, the frames and the
host hold by a function that does not change it. -/
inductive Leaves (host : Host σ) (v : Value) (w : World σ) : World σ → Prop
  | same : Leaves host v w w
  | change {w' : World σ} {f : Value → Value} (next : Nat) : Leaves host v w w' → f v = v →
      Leaves host v w { w'.mapValues f with fresh := next, host := host.mapHeld f w'.host }

/-- Changes that leave a value can be made one after another. -/
theorem Leaves.trans (h : w.Leaves host v w') (h' : w'.Leaves host v w'') : w.Leaves host v w'' := by
  induction h' with
  | same => exact h
  | change next _ hf ih => exact .change next ih hf

/-- What is bound to a name in a scope is changed like all values. -/
theorem binding?_mapValues (f : Value → Value) (w : World σ) (id : Nat) (key : String) :
    (w.mapValues f).binding? id key = (w.binding? id key).map f := by
  have hlookup : ∀ bindings : List (String × Value),
      (bindings.map fun b => (b.1, f b.2)).lookup key = (bindings.lookup key).map f := by
    intro bindings
    induction bindings with
    | nil => rfl
    | cons b bindings ih =>
      rw [List.map_cons, List.lookup_cons, List.lookup_cons, ih]
      cases key == b.1 <;> rfl
  have hscope : (w.mapValues f).scope? id = (w.scope? id).map fun s =>
      { s with bindings := s.bindings.map fun b => (b.1, f b.2) } := List.getElem?_map
  rw [binding?, binding?, hscope]
  cases w.scope? id with
  | none => rfl
  | some s => exact hlookup s.bindings

/-- **A name is seen in the same scope** whatever is done to the values.  Whether it is bound there does not depend on
them. -/
theorem value?_mapValues (f : Value → Value) (w : World σ) (id : Nat) (key : String) :
    (w.mapValues f).value? id key = (w.value? id key).map f := by
  have hparents : ∀ i : Nat, (w.mapValues f).scopes[i]?.map Scope.parent = w.scopes[i]?.map Scope.parent := by
    intro i
    rw [mapValues, List.getElem?_map]
    cases w.scopes[i]? <;> rfl
  rw [value?_eq, value?_eq, Scope.outward_congr hparents]
  induction Scope.outward w.scopes id with
  | nil => rfl
  | cons i ids ih =>
    rw [List.findSome?_cons, List.findSome?_cons, binding?_mapValues, ih]
    cases w.binding? i key <;> rfl

/-- **Whoever sees the value sees it still.**  By induction on the changes: each maps it to itself. -/
theorem Leaves.value? (h : w.Leaves host v w') {id : Nat} {key : String} (hv : w.value? id key = some v) :
    w'.value? id key = some v := by
  induction h with
  | same => exact hv
  | @change w' f next _ hf ih =>
    show (w'.mapValues f).value? id key = some v
    rw [value?_mapValues, ih, Option.map_some, hf]

end World

/-! ## Operations in place -/

namespace Run

variable {σ α β : Type} {host : Host σ} {settings : Settings} {v d : Value} {tag : Nat} {P : α → Prop} {x : Run σ α}

/-- A run leaves a value, and what it gives has a property. -/
def Sparing (host : Host σ) (settings : Settings) (v : Value) (P : α → Prop) (x : Run σ α) : Prop :=
  ∀ w, w.Leaves host v (x settings w).2 ∧ ∀ a w', x settings w = (.ok a, w') → P a

namespace Sparing

/-- A check changes no value. -/
theorem check (c : Check α) : Sparing host settings v (fun _ => True) (liftM c : Run σ α) :=
  fun _ => ⟨.same, fun _ _ _ => trivial⟩

/-- Giving a result changes no value. -/
theorem pure {a : α} (h : P a) : Sparing host settings v P (Pure.pure a : Run σ α) :=
  fun _ => ⟨.same, fun _ _ hrun => Except.ok.inj (Prod.mk.inj hrun).1 ▸ h⟩

/-- One run after another leaves a value that both leave.  The property of the first result is what the second run may
use: mostly that it has the tag. -/
theorem bind {f : α → Run σ β} {Q : β → Prop} (hx : Sparing host settings v P x)
    (hf : ∀ a, P a → Sparing host settings v Q (f a)) : Sparing host settings v Q (x >>= f) := by
  intro w
  obtain ⟨hleaves, hgives⟩ := hx w
  rcases stops_or_gives x settings w with ⟨e, w', hstops⟩ | ⟨a, w', hok⟩
  · rw [hstops] at hleaves
    rw [bind_of_error hstops]
    exact ⟨hleaves, nofun⟩
  · rw [hok] at hleaves
    rw [bind_of_ok hok]
    obtain ⟨hleaves', hgives'⟩ := hf a (hgives a w' hok) w'
    exact ⟨hleaves.trans hleaves', hgives'⟩

end Sparing

/-- **A collection with a tag becomes another of this tag,** and a value in which none has it is left. -/
theorem become_sparing {new : Value} (hd : d.tag? = some tag) (hnew : new.tag? = some tag)
    (hv : ∀ u, Value.replace tag u v = v) : Sparing host settings v (·.tag? = some tag) (become host d new) := by
  intro w
  have hrun : become host d new settings w = (.ok (new.adopt w.fresh).1,
      { w.mapValues (Value.replace tag (new.adopt w.fresh).1) with
        fresh := (new.adopt w.fresh).2
        host := host.mapHeld (Value.replace tag (new.adopt w.fresh).1) w.host }) := by
    unfold become
    rw [bind_of_ok (show adopt new settings w = (.ok (new.adopt w.fresh).1, _) from rfl), hd]
    rfl
  rw [hrun]
  exact ⟨.change _ .same (hv _), fun a _ h => Except.ok.inj (Prod.mk.inj h).1 ▸ Value.tag?_adopt hnew _⟩

section Operations

variable (hd : d.tag? = some tag) (hv : ∀ u, Value.replace tag u v = v)

include hd hv

/-- Giving a datamap other entries leaves all values that hold no collection of its tag. -/
theorem putEntries_sparing (entries : Datamap.Entries) :
    Sparing host settings v (·.tag? = some tag) (putEntries host d entries) :=
  become_sparing hd hd hv

/-- So does giving a dataset other members. -/
theorem putMembers_sparing (members : List Value) :
    Sparing host settings v (·.tag? = some tag) (putMembers host d members) :=
  become_sparing hd hd hv

/-- Setting a name is a check and then other entries. -/
theorem assign_sparing (key u : Value) : Sparing host settings v (·.tag? = some tag) (assign host d key u) :=
  .bind (.check _) fun _ _ => .bind (.check _) fun _ _ => putEntries_sparing hd hv _

/-- Many names are set one after another, by induction on them.  The datamap is another value each time, with the same
tag. -/
theorem assignAll_sparing (items : List (Name × Value)) :
    Sparing host settings v (·.tag? = some tag) (assignAll host d items) := by
  induction items generalizing d with
  | nil => exact .pure hd
  | cons item items ih => exact .bind (assign_sparing hd hv _ _) fun d hd => ih hd

/-- Removing a name is a check and then other entries, too. -/
theorem removeName_sparing (key : Value) : Sparing host settings v (·.tag? = some tag) (removeName host d key) :=
  .bind (.check _) fun _ _ => .bind (.check _) fun _ _ => putEntries_sparing hd hv _

/-- Taking a name out with its value is looking for the value and removing the name, or nothing where it is not there.
-/
theorem popName_sparing (key otherwise : Value) :
    Sparing host settings v (·.2.tag? = some tag) (popName host d key otherwise) := by
  refine .bind (.check _) fun entries _ => .bind (.check _) fun found _ => ?_
  cases found with
  | none => exact .pure hd
  | some u => exact .bind (removeName_sparing hd hv key) fun _ hd => .pure hd

/-- Setting a name that is not there yet is setting it, and else nothing. -/
theorem setDefault_sparing (key u : Value) :
    Sparing host settings v (·.2.tag? = some tag) (setDefault host d key u) := by
  refine .bind (.check _) fun entries _ => .bind (.check _) fun found _ => ?_
  cases found with
  | none => exact .bind (assign_sparing hd hv key u) fun _ hd => .pure hd
  | some u => exact .pure hd

/-- Adding a member is a check and then other members. -/
theorem addMember_sparing (u : Value) : Sparing host settings v (·.tag? = some tag) (addMember host d u) :=
  .bind (.check _) fun _ _ => .bind (.check _) fun _ _ => putMembers_sparing hd hv _

/-- Removing a member is one as well. -/
theorem discardMember_sparing (u : Value) : Sparing host settings v (·.tag? = some tag) (discardMember host d u) :=
  .bind (.check _) fun _ _ => .bind (.check _) fun _ _ => putMembers_sparing hd hv _

/-- Taking any member out gives it beside the dataset of the others.  These are all the ways in which a collection is
changed in place. -/
theorem popMember_sparing : Sparing host settings v (·.2.tag? = some tag) (popMember host d) :=
  .bind (.check _) fun _ _ => .bind (.check _) fun _ _ => .bind (putMembers_sparing hd hv _) fun _ hd => .pure hd

end Operations

end Run

/-- **What can be done to a collection in place.** -/
inductive Edit where
  | assign (key v : Value)
  | assignAll (items : List (Name × Value))
  | removeName (key : Value)
  | popName (key otherwise : Value)
  | setDefault (key v : Value)
  | addMember (v : Value)
  | discardMember (v : Value)
  | popMember

namespace Edit

variable {σ : Type} {host : Host σ} {settings : Settings} {v d : Value} {tag : Nat}

/-- Does it, and gives the collection as it is then. -/
def run (host : Host σ) (d : Value) : Edit → Run σ Value
  | assign key v => Run.assign host d key v
  | assignAll items => Run.assignAll host d items
  | removeName key => Run.removeName host d key
  | popName key otherwise => do return (← Run.popName host d key otherwise).2
  | setDefault key v => do return (← Run.setDefault host d key v).2
  | addMember v => Run.addMember host d v
  | discardMember v => Run.discardMember host d v
  | popMember => do return (← Run.popMember host d).2

/-- **The step:** whatever is done to a collection with a tag, a value in which none has it is left. -/
theorem sparing (hd : d.tag? = some tag) (hv : ∀ u, Value.replace tag u v = v) (e : Edit) :
    Run.Sparing host settings v (·.tag? = some tag) (e.run host d) := by
  cases e with
  | assign key u => exact Run.assign_sparing hd hv key u
  | assignAll items => exact Run.assignAll_sparing hd hv items
  | removeName key => exact Run.removeName_sparing hd hv key
  | popName key otherwise => exact .bind (Run.popName_sparing hd hv key otherwise) fun _ hd => .pure hd
  | setDefault key u => exact .bind (Run.setDefault_sparing hd hv key u) fun _ hd => .pure hd
  | addMember u => exact Run.addMember_sparing hd hv u
  | discardMember u => exact Run.discardMember_sparing hd hv u
  | popMember => exact .bind (Run.popMember_sparing hd hv) fun _ hd => .pure hd

end Edit

namespace World

variable {σ : Type} {host : Host σ} {settings : Settings} {v : Value} {w w' : World σ} {tag : Nat}

/-- **The collection of a tag is changed in place** any number of times, whatever it is by then.  What stops half-way
has been done as far as it came. -/
inductive Edits (host : Host σ) (settings : Settings) (tag : Nat) (w : World σ) : World σ → Prop
  | none : Edits host settings tag w w
  | next {w' : World σ} {d : Value} (e : Edit) : Edits host settings tag w w' → d.tag? = some tag →
      Edits host settings tag w (e.run host d settings w').2

/-- **The run:** a value in which no collection has the tag is left, by induction on the changes. -/
theorem Edits.leaves (h : w.Edits host settings tag w') (hv : ∀ u, Value.replace tag u v = v) :
    w.Leaves host v w' := by
  induction h with
  | none => exact .same
  | next e _ hd ih => exact ih.trans (Edit.sparing hd hv e _).1

end World

/-! ## The whole -/

namespace Value

variable {σ : Type} {v : Value}

/-- **A copy is faithful, and is one.**  It is what the kind of the value makes for a copy, equal to the value, printed
like it, and accepted by the same datatypes.  The copy of a collection is known by a tag of its own, and can be copied
again; and whatever is done to it in place, the value is left wherever it is, and seen under all names under which it
was seen. -/
theorem clone_faithful (host : Host σ) (settings : Settings) (hproper : v.Everywhere Proper) (hmade : v.Made) :
    v.copy = v.clone ∧ Equal v.clone v ∧ v.clone.source = v.source ∧
      (∀ d : Datatype, d.accepts v.clone settings = d.accepts v settings) ∧
      (v.IsCollection → ∀ w : World σ, v.Below w.fresh →
        (v.clone.adopt w.fresh).1.tag? = some w.fresh ∧
          (v.clone.adopt w.fresh).1.Below (v.clone.adopt w.fresh).2 ∧
          ∀ w₁ w₂ : World σ, w₁.Edits host settings w.fresh w₂ →
            w₁.Leaves host v w₂ ∧ ∀ id key, w₁.value? id key = some v → w₂.value? id key = some v) := by
  have hequal : Equal v.clone v := by
    rw [Equal, equals_clone]
    exact equal_refl hproper
  have hcopy : v.copy = v.clone := copy_eq_clone (hmade.inOrder hproper.here)
  refine ⟨hcopy, hequal, source_clone v, accepts_clone v, fun hcollection w hbelow => ?_⟩
  obtain ⟨-, hbelow'⟩ := below_adopt v.clone w.fresh hbelow.clone
  refine ⟨tag?_adopt_clone hcollection w.fresh, hbelow', fun w₁ w₂ hedits => ?_⟩
  have hleaves : w₁.Leaves host v w₂ := hedits.leaves fun u => replace_of_below hbelow (Nat.le_refl _) u
  exact ⟨hleaves, fun id key hv => hleaves.value? hv⟩

/-- A datamap with a dataset in it. -/
def withMembers : Value := .datamap (some 0) [(.text "all", .dataset (some 1) [.boolean true])]

/-- A host that holds one value. -/
def holding : Host Value where
  evaluate _ := pure .nothing
  call _ _ := pure .nothing
  mutate _ := fun _ styles => (styles, pure .nothing)
  mapHeld f u := f u

/-- A world with a variable for the datamap, in which the host holds the copy. -/
def besideCopy : World Value :=
  { World.start [] (withMembers.clone.adopt 2).1 with
    scopes := [⟨"here", none, [("map", withMembers)], []⟩]
    fresh := 2 }

/-- The world in which a name of the copy has been set. -/
def copySet : World Value :=
  ((Edit.assign (.string "all") (.boolean false)).run holding besideCopy.host Settings.usual
    besideCopy).2

/-- The copy is another then, and the datamap is not.  The dataset in it has a tag, too, and the copy holds this very
dataset until its name is set. -/
theorem clone_faithful_withMembers :
    Equal withMembers.clone withMembers ∧ copySet.host = .datamap (some 2) [(.text "all", .boolean false)] ∧
      copySet.value? 0 "map" = some withMembers := by
  have hproper : withMembers.Everywhere Proper :=
    everywhere_of_parts_one rfl
      ⟨fun e he => by obtain rfl := List.mem_singleton.mp he; exact trivial, List.pairwise_singleton ..⟩
      (everywhere_of_parts_one rfl
        ⟨fun x hx => by obtain rfl := List.mem_singleton.mp hx; exact ⟨_, rfl⟩, List.pairwise_singleton ..⟩
        (everywhere_of_parts_nil rfl trivial))
  have hbelow : withMembers.Below besideCopy.fresh := by
    refine .intro (fun t ht => Option.some.inj ht ▸ by decide) fun x hx => ?_
    obtain rfl := List.mem_singleton.mp hx
    refine .intro (fun t ht => Option.some.inj ht ▸ by decide) fun x hx => ?_
    obtain rfl := List.mem_singleton.mp hx
    exact .of_held rfl nofun
  obtain ⟨-, hequal, -, -, hleft⟩ :=
    clone_faithful holding Settings.usual (v := withMembers) hproper nofun
  obtain ⟨htag, -, hkept⟩ := hleft trivial besideCopy hbelow
  have hedits : besideCopy.Edits holding Settings.usual besideCopy.fresh copySet :=
    .next (.assign (.string "all") (.boolean false)) .none htag
  have hbefore : besideCopy.value? 0 "map" = some withMembers :=
    World.value?_of_outermost (s := ⟨"here", none, [("map", withMembers)], []⟩) rfl rfl "map"
  exact ⟨hequal, rfl, (hkept besideCopy copySet hedits).2 0 "map" hbefore⟩

end Value

end StoryValues
