import StoryValues.Proofs.Number.Rounding
import StoryValues.Proofs.Value.Agreement
import StoryValues.Value.Printing

/-
  PRINTED TEXT of collections.  Sorting and printing go hand in hand in `print`: the texts of members are
  sorted along with the members, by the keys of the members.  It comes to the same as sorting the members
  first and printing them then (`print_array`, `print_datamap`, `print_dataset`), which is how proofs see
  it; what was printed is thereby a list of members in order with the text of each (`of_print_dataset` and
  the like).

  A value prints only if its parts do and if what has to be sorted in it has keys, so what was printed can
  be compared (`everywhere_keyed`).
-/

namespace StoryValues

variable {α β : Type}

/-! ## Results in order -/

/-- A fault is no result. -/
theorem error_ne_ok {f : Fault} {a : α} : (Except.error f : Except Fault α) ≠ .ok a := nofun

/-- What gives a result goes through its first step. -/
theorem ok_of_bind {x : Except Fault α} {f : α → Except Fault β} {b : β} (h : (x >>= f) = .ok b) :
    ∃ a, x = .ok a ∧ f a = .ok b := by
  cases x with
  | ok a => exact ⟨a, rfl, h⟩
  | error e => exact nomatch h

/-- There are results for all members of a list, if there is one for each. -/
theorem exists_mapM {f : α → Except Fault β} {xs : List α} (h : ∀ x ∈ xs, ∃ y, f x = .ok y) :
    ∃ ys, xs.mapM f = .ok ys := by
  induction xs with
  | nil => exact ⟨[], rfl⟩
  | cons x xs ih =>
    obtain ⟨hx, hxs⟩ := List.forall_mem_cons.mp h
    obtain ⟨y, hy⟩ := hx
    obtain ⟨ys, hys⟩ := ih hxs
    rw [List.mapM_cons, hy, hys]
    exact ⟨y :: ys, rfl⟩

/-- Sorting by key takes no notice of what it sorts. -/
theorem sortByKey_map (f : α → β) (keyed : List (NaturalKey × α)) :
    sortByKey (keyed.map fun p => (p.1, f p.2)) = (sortByKey keyed).map f := by
  rw [sortByKey, sortByKey, List.map_map]
  have hsort : (keyed.mergeSort fun a b => a.1.le b.1).map (fun p => (p.1, f p.2)) =
      (keyed.map fun p => (p.1, f p.2)).mergeSort fun a b => a.1.le b.1 :=
    List.map_mergeSort fun a _ b _ => rfl
  rw [← hsort, List.map_map]
  rfl

/-- What is collected of a list is the result for each of its members, in order. -/
theorem collect_map_ok {γ : Type} {f : α → Except Fault γ} {xs : List α} {ys : List γ} :
    collect (xs.map f) = .ok ys ↔ List.Forall₂ (fun x y => f x = .ok y) xs ys := by
  induction xs generalizing ys with
  | nil =>
    rw [List.forall₂_nil_left_iff]
    exact ⟨fun h => (Except.ok.inj h).symm, fun h => h ▸ rfl⟩
  | cons x xs ih =>
    rw [List.map_cons, collect]
    cases hx : f x with
    | error e =>
      constructor
      · exact fun h => absurd h error_ne_ok
      · intro h
        cases h with
        | cons hxy _ => exact absurd (hx.symm.trans hxy) error_ne_ok
    | ok y =>
      show (collect (xs.map f) >>= fun as => pure (y :: as)) = _ ↔ _
      cases hxs : collect (xs.map f) with
      | error e =>
        constructor
        · exact fun h => absurd h error_ne_ok
        · intro h
          cases h with
          | cons _ hrest => exact absurd (hxs.symm.trans (ih.mpr hrest)) error_ne_ok
      | ok rest =>
        constructor
        · intro h
          obtain rfl : y :: rest = ys := Except.ok.inj h
          exact .cons hx (ih.mp hxs)
        · intro h
          cases h with
          | cons hxy hrest =>
            obtain rfl := Except.ok.inj (hx.symm.trans hxy)
            obtain rfl := Except.ok.inj (hxs.symm.trans (ih.mpr hrest))
            rfl

namespace Value

/-- What is sorted has keys, and is all there, in whatever order. -/
theorem of_sortOn {key : α → Except Fault NaturalKey} {xs ordered : List α} (h : sortOn key xs = .ok ordered) :
    (∀ x ∈ xs, ∃ k, key x = .ok k) ∧ ordered.Perm xs := by
  obtain ⟨keys, hkeys, _⟩ := ok_of_bind h
  have hall : ∀ x ∈ xs, ∃ k, key x = .ok k := by
    intro x hx
    obtain ⟨k, _, hk⟩ := exists_of_forall₂ (collect_map_ok.mp hkeys) x hx
    exact ⟨k, hk⟩
  obtain ⟨ordered', hordered', hperm⟩ := sortOn_perm hall
  obtain rfl := Except.ok.inj (hordered'.symm.trans h)
  exact ⟨hall, hperm⟩

/-! ## Sorting, then printing -/

/-- The texts of a list of values are those of the values, one by one. -/
theorem zipWith_printAll {γ : Type} (f : Value → Except Fault String → γ) (vs : List Value) :
    List.zipWith f vs (printAll vs) = vs.map fun v => f v v.print := by
  rw [printAll_eq_map, List.zipWith_map_right, List.zipWith_self]

/-- The text of an entry: its name, a comma, and its value. -/
def entryText (e : Name × Value) : Except Fault String :=
  e.2.print.map fun text => e.1.source ++ "," ++ text

/-- The texts of entries are those of each of them.  The definition goes through the list itself so that it is seen to
end. -/
theorem printEntries_eq_map (entries : List (Name × Value)) :
    printEntries entries = entries.map entryText := by
  induction entries with
  | nil => rfl
  | cons e entries ih => rw [printEntries, ih, List.map_cons]; rfl

/-- What is sorted may be put into other words before or after, since only keys are looked at.  So sorting texts along
with members comes to sorting members and writing them then. -/
theorem bind_sortOn {γ : Type} {key : α → Except Fault NaturalKey} (f : α → β) (xs : List α)
    (next : List β → Except Fault γ) :
    (collect (xs.map key) >>= fun keys => next (sortByKey (keys.zip (xs.map f)))) =
      sortOn key xs >>= fun ordered => next (ordered.map f) := by
  rw [sortOn]
  cases collect (xs.map key) with
  | error e => rfl
  | ok keys =>
    show next (sortByKey (keys.zip (xs.map f))) = next ((sortByKey (keys.zip xs)).map f)
    rw [List.zip_map_right, ← sortByKey_map]
    rfl

/-- A datamap prints as its entries do in the order of their names, joined. -/
theorem print_datamap (tag : Tag) (entries : List (Name × Value)) :
    print (.datamap tag entries) = sortOn (fun e => e.1.key) entries >>= fun ordered =>
      collect (ordered.map entryText) >>= fun texts => pure (callText "dm" texts) := by
  rw [print, printEntries_eq_map]
  exact bind_sortOn entryText entries fun texts => collect texts >>= fun texts => pure (callText "dm" texts)

/-- A dataset prints as its members do in natural order, joined. -/
theorem print_dataset (tag : Tag) (members : List Value) :
    print (.dataset tag members) = sorted members >>= fun ordered =>
      collect (ordered.map print) >>= fun texts => pure (callText "ds" texts) := by
  rw [print, zipWith_printAll, printAll_eq_map]
  exact bind_sortOn print members fun texts => collect texts >>= fun texts => pure (callText "ds" texts)

/-- What an array prints: the texts of its items. -/
theorem of_print_array {items : List Value} {text : String} (h : print (.array items) = .ok text) :
    ∃ texts, List.Forall₂ (fun x s => print x = .ok s) items texts ∧ text = callText "a" texts := by
  rw [print_array] at h
  obtain ⟨texts, htexts, hcall⟩ := ok_of_bind h
  exact ⟨texts, collect_map_ok.mp htexts, (Except.ok.inj hcall).symm⟩

/-- What a datamap prints: the texts of its entries, sorted by name. -/
theorem of_print_datamap {tag : Tag} {entries : List (Name × Value)} {text : String}
    (h : print (.datamap tag entries) = .ok text) :
    ∃ ordered texts, sortOn (fun e => e.1.key) entries = .ok ordered ∧
      List.Forall₂ (fun e s => entryText e = .ok s) ordered texts ∧ text = callText "dm" texts := by
  rw [print_datamap] at h
  obtain ⟨ordered, hordered, h⟩ := ok_of_bind h
  obtain ⟨texts, htexts, hcall⟩ := ok_of_bind h
  exact ⟨ordered, texts, hordered, collect_map_ok.mp htexts, (Except.ok.inj hcall).symm⟩

/-- What a dataset prints: the texts of its members in natural order. -/
theorem of_print_dataset {tag : Tag} {members : List Value} {text : String}
    (h : print (.dataset tag members) = .ok text) :
    ∃ ordered texts, sorted members = .ok ordered ∧
      List.Forall₂ (fun x s => print x = .ok s) ordered texts ∧ text = callText "ds" texts := by
  rw [print_dataset] at h
  obtain ⟨ordered, hordered, h⟩ := ok_of_bind h
  obtain ⟨texts, htexts, hcall⟩ := ok_of_bind h
  exact ⟨ordered, texts, hordered, collect_map_ok.mp htexts, (Except.ok.inj hcall).symm⟩

/-! ## What has a key has a text -/

/-- A source is what is printed of a value in which there is no error. -/
theorem source_eq_ok {v : Value} {text : String} :
    v.source = .ok text ↔ v.firstError? = none ∧ v.print = .ok text := by
  rw [source, sourceOf]
  cases v.firstError? with
  | none => exact ⟨fun h => ⟨rfl, h⟩, fun h => h.2⟩
  | some e => exact ⟨fun h => (nomatch h), fun h => (nomatch h.1)⟩

/-- A result that was made of another. -/
theorem of_map_ok {x : Except Fault α} {f : α → β} {b : β} (h : x.map f = .ok b) : ∃ a, x = .ok a ∧ b = f a := by
  cases x with
  | ok a => exact ⟨a, rfl, (Except.ok.inj h).symm⟩
  | error e => exact nomatch h

/-- The text that a value is sorted by if it is no number: a string itself, and the source of any other. -/
def label : Value → Except Fault String
  | .string s => .ok s
  | v => v.source

/-- All but numbers are sorted by their text. -/
theorem naturalKey_of_label {v : Value} (h : v.isNumber = false) : v.naturalKey = v.label.map NaturalKey.ofText := by
  cases v with
  | number n =>
    have hn : n.isNumber = false := h
    rw [naturalKey, keyOf, if_neg (by rw [hn]; exact Bool.false_ne_true)]
    rfl
  | _ => rfl

/-- Numbers are sorted by their doubles. -/
theorem naturalKey_number {n : Number} (h : n.isNumber = true) :
    naturalKey (.number n) = NaturalKey.ofNumber n := by
  rw [naturalKey, keyOf, if_pos h]

/-- What has a key has a source: a number always, a string too, and anything else is sorted by it. -/
theorem source_of_naturalKey {v : Value} {key : NaturalKey} (h : v.naturalKey = .ok key) :
    ∃ text, v.source = .ok text := by
  cases v with
  | number n =>
    have hshort : n.isShort = true := by
      cases n with
      | real x => rfl
      | int k =>
        rw [naturalKey_number rfl] at h
        obtain ⟨x, hx, _⟩ := of_map_ok h
        exact Number.isShort_of_toDouble hx
    exact ⟨n.written, Number.format_of_isShort hshort⟩
  | string s => exact ⟨quoted s, rfl⟩
  | _ =>
    rw [naturalKey_of_label rfl] at h
    obtain ⟨text, htext, _⟩ := of_map_ok h
    exact ⟨text, htext⟩

/-- So it has a text. -/
theorem print_of_naturalKey {v : Value} {key : NaturalKey} (h : v.naturalKey = .ok key) :
    ∃ text, v.print = .ok text := by
  obtain ⟨text, htext⟩ := source_of_naturalKey h
  exact ⟨text, (source_eq_ok.mp htext).2⟩

/-- What a dataset prints once its members are in order. -/
theorem source_dataset {tag : Tag} {xs os : List Value} {s : String} (hsorted : sorted xs = .ok os)
    (h : (collect (os.map print)).map (callText "ds") = .ok s) : (Value.dataset tag xs).source = .ok s := by
  obtain ⟨texts, htexts, rfl⟩ := of_map_ok h
  refine source_eq_ok.mpr ⟨rfl, ?_⟩
  rw [print_dataset, hsorted]
  show collect (os.map print) >>= _ = _
  rw [htexts]
  rfl

/-! ## What was printed has parts that were printed -/

/-- The text of a node: a call with the sources of its parameters. -/
def nodeText (n : String × List Value) : Except Fault String :=
  (collect (n.2.map source)).map (callText n.1)

/-- The texts of a chain are those of its nodes. -/
theorem printNodes_eq_map (nodes : List (String × List Value)) : printNodes nodes = nodes.map nodeText := by
  induction nodes with
  | nil => rfl
  | cons n nodes ih =>
    rw [printNodes, ih, zipWith_printAll]
    rfl

/-- The text of an entry has that of its value in it. -/
theorem of_entryText {e : Name × Value} {s : String} (h : entryText e = .ok s) :
    ∃ text, e.2.print = .ok text ∧ s = e.1.source ++ "," ++ text :=
  of_map_ok h

/-- What a node prints: the sources of its parameters. -/
theorem of_nodeText {n : String × List Value} {s : String} (h : nodeText n = .ok s) :
    ∃ texts, List.Forall₂ (fun x t => source x = .ok t) n.2 texts ∧ s = callText n.1 texts := by
  obtain ⟨texts, htexts, hs⟩ := of_map_ok h
  exact ⟨texts, collect_map_ok.mp htexts, hs⟩

/-- What a chain prints: the texts of its nodes. -/
theorem of_print_changer {nodes : List (String × List Value)} {text : String}
    (h : print (.changer nodes) = .ok text) :
    ∃ texts, List.Forall₂ (fun n s => nodeText n = .ok s) nodes texts ∧ text = String.intercalate "+" texts := by
  rw [print, printNodes_eq_map] at h
  obtain ⟨texts, htexts, hcall⟩ := ok_of_bind h
  exact ⟨texts, collect_map_ok.mp htexts, (Except.ok.inj hcall).symm⟩

/-- What a spread value prints: the source of the value. -/
theorem of_print_spread {v : Value} {text : String} (h : print (.spread v) = .ok text) :
    ∃ s, source v = .ok s ∧ text = "..." ++ s := by
  rw [print] at h
  obtain ⟨s, hs, hcall⟩ := ok_of_bind h
  exact ⟨s, hs, (Except.ok.inj hcall).symm⟩

/-- **A value prints only if its parts do.**  One case for each kind of value that has parts. -/
theorem print_of_mem_parts {v x : Value} {s : String} (h : v.print = .ok s) (hx : x ∈ v.parts) :
    ∃ t, x.print = .ok t := by
  cases v with
  | array items =>
    obtain ⟨texts, htexts, _⟩ := of_print_array h
    obtain ⟨t, _, ht⟩ := exists_of_forall₂ htexts x hx
    exact ⟨t, ht⟩
  | datamap tag entries =>
    -- entries and members are printed in natural order, which is another order of the same
    obtain ⟨ordered, texts, hordered, htexts, _⟩ := of_print_datamap h
    obtain ⟨e, he, rfl⟩ := List.mem_map.mp hx
    obtain ⟨t, _, ht⟩ := exists_of_forall₂ htexts e ((of_sortOn hordered).2.mem_iff.mpr he)
    obtain ⟨text, htext, _⟩ := of_entryText ht
    exact ⟨text, htext⟩
  | dataset tag members =>
    obtain ⟨ordered, texts, hordered, htexts, _⟩ := of_print_dataset h
    obtain ⟨t, _, ht⟩ := exists_of_forall₂ htexts x ((of_sortOn hordered).2.mem_iff.mpr hx)
    exact ⟨t, ht⟩
  | spread v =>
    obtain rfl := List.mem_singleton.mp hx
    obtain ⟨t, ht, _⟩ := of_print_spread h
    exact ⟨t, (source_eq_ok.mp ht).2⟩
  | changer nodes =>
    obtain ⟨texts, htexts, _⟩ := of_print_changer h
    obtain ⟨n, hn, hx⟩ := List.mem_flatMap.mp hx
    obtain ⟨s, _, hs⟩ := exists_of_forall₂ htexts n hn
    obtain ⟨params, hparams, _⟩ := of_nodeText hs
    obtain ⟨t, _, ht⟩ := exists_of_forall₂ hparams x hx
    exact ⟨t, (source_eq_ok.mp ht).2⟩
  | _ => exact absurd hx List.not_mem_nil

/-- A value whose members can be put in order, if it has members. -/
def Keyed : Value → Prop
  | .dataset _ members => ∀ x ∈ members, ∃ key, naturalKey x = .ok key
  | _ => True

/-- What was printed has its members in order, if it has members. -/
theorem keyed_of_print {v : Value} {s : String} (h : v.print = .ok s) : v.Keyed := by
  cases v with
  | dataset tag members =>
    obtain ⟨ordered, _, hordered, _⟩ := of_print_dataset h
    exact (of_sortOn hordered).1
  | _ => exact trivial

/-- **What was printed has keys wherever it was sorted,** at every depth.  By induction on the value, into which
printing goes as far as comparing does. -/
theorem everywhere_keyed {v : Value} {s : String} (h : v.print = .ok s) : v.Everywhere Keyed := by
  refine .intro (keyed_of_print h) fun x hx => ?_
  have hsize := sizeOf_lt_of_mem_parts hx
  obtain ⟨t, ht⟩ := print_of_mem_parts h hx
  exact everywhere_keyed ht
termination_by sizeOf v

end Value

end StoryValues
