import StoryValues.Proofs.Macro.Parameters
import StoryValues.Proofs.Macro.Sorting
import StoryValues.Proofs.Text.Occurrences
import StoryValues.Proofs.Value.Equality
import StoryValues.Proofs.Value.Keys

/-
  COUNT counts what is contained.

  1. **How often** (`Counted`) — a value is counted in an array by the members that equal it, and a text in a text by
     the copies that there can be side by side.
  2. **Pairs** — an array is compared member by member with one value after another.  These are the same comparisons as
     value by value (`countP_pairs`), so the hits of all values add up.
  3. **The macro** (`countIn_counted`) gives the sum if all comparisons answer, and nothing otherwise
     (`exists_countMembers_iff`).
  4. **One value** is counted iff it is contained (`Counted.pos_iff`).
  5. **The call** gives what the macro does, for dispatch lets through whatever can be kept (`call_count`).
-/

namespace StoryValues

namespace StandardMacro

open Value

variable {settings : Settings} {container v : Value} {items values : List Value} {n : Nat}

/-- A value can be counted in an array if each member can be compared with it, and a text in a text unless it is
empty. -/
inductive Countable : Value → Value → Prop
  | member {items : List Value} {v : Value} : (∀ x ∈ items, ∃ yes, equals x v = .ok yes) → Countable (.array items) v
  | text {s t : String} : t ≠ "" → Countable (.string s) (.string t)

/-- **How often a value is there:** as many members of an array equal it, or so many of its copies in a text, and no
more, stand side by side. -/
inductive Counted : Value → Value → Nat → Prop
  | member (items : List Value) (v : Value) : Counted (.array items) v (items.countP fun x => equals x v == .ok true)
  | text {s t : String} {n : Nat} : IsGreatest (SideBySide t.toList s.toList) n → Counted (.string s) (.string t) n

/-- Values that can be compared at all can be counted. -/
theorem countable_of_comparable (hitems : ∀ x ∈ items, x.Everywhere Comparable) (hv : v.Everywhere Comparable) :
    Countable (.array items) v :=
  .member fun x hx => answers_of_comparable (hitems x hx) hv

/-! ## Arrays -/

theorem countP_map_eq_sum {α β : Type} (f : α → β) (p : β → Bool) (xs : List α) :
    (xs.map f).countP p = (xs.map fun x => if p (f x) then 1 else 0).sum := by
  induction xs with
  | nil => rfl
  | cons x xs ih => rw [List.map_cons, List.countP_cons, ih, List.map_cons, List.sum_cons, Nat.add_comm]

/-- **Row by row or column by column,** as many pairs pass a test. -/
theorem countP_pairs {α β γ : Type} (r : α → β → γ) (p : γ → Bool) (xs : List α) (ys : List β) :
    (xs.flatMap fun x => ys.map (r x)).countP p = (ys.map fun y => xs.countP fun x => p (r x y)).sum := by
  induction xs with
  | nil => simp
  | cons x xs ih =>
    rw [List.flatMap_cons, List.countP_append, ih, countP_map_eq_sum, ← List.sum_map_add]
    refine congrArg List.sum (List.map_congr_left fun y _ => ?_)
    rw [List.countP_cons, Nat.add_comm]

/-- Answers that came together hold as many hits as there are comparisons that say yes. -/
theorem length_of_collect {rs : List (Except Fault Bool)} {hits : List Bool} (h : collect rs = .ok hits) :
    (hits.filter id).length = rs.countP (· == .ok true) := by
  rw [← List.map_id rs, collect_map_ok] at h
  induction h with
  | nil => rfl
  | @cons r hit rs hits hr _ ih =>
    obtain rfl : r = .ok hit := hr
    cases hit with
    | true => rw [List.countP_cons_of_pos rfl, ← ih]; rfl
    | false => rw [List.countP_cons_of_neg (by decide), ← ih]; rfl

/-- All answers come together iff there is one to each comparison. -/
theorem exists_hits_iff :
    (∃ hits, collect (items.flatMap fun item => values.map fun v => equals item v) = .ok hits) ↔
      ∀ v ∈ values, Countable (.array items) v := by
  rw [← List.map_id (items.flatMap _), exists_collect_iff]
  constructor
  · intro h v hv
    exact .member fun x hx => h _ (List.mem_flatMap.mpr ⟨x, hx, List.mem_map_of_mem hv⟩)
  · intro h r hr
    obtain ⟨x, hx, hr⟩ := List.mem_flatMap.mp hr
    obtain ⟨v, hv, rfl⟩ := List.mem_map.mp hr
    cases h v hv with
    | member hanswers => exact hanswers x hx

/-- **There is an answer iff each value can be counted.** -/
theorem exists_countMembers_iff :
    (∃ n, countMembers items values = .ok n) ↔ ∀ v ∈ values, Countable (.array items) v := by
  rw [← exists_hits_iff, countMembers]
  cases collect (items.flatMap fun item => values.map fun v => equals item v) with
  | ok hits => exact ⟨fun _ => ⟨hits, rfl⟩, fun _ => ⟨(hits.filter id).length, rfl⟩⟩
  | error f => exact ⟨nofun, nofun⟩

/-- **What is counted for all values** is the sum of what is counted for each. -/
theorem countMembers_eq (h : ∀ v ∈ values, Countable (.array items) v) :
    countMembers items values =
      .ok ((values.map fun v => items.countP fun x => equals x v == .ok true).sum : Nat) := by
  obtain ⟨hits, hhits⟩ := exists_hits_iff.mpr h
  have hlength := length_of_collect hhits
  rw [countP_pairs] at hlength
  rw [countMembers, hhits, ← hlength]
  rfl

/-! ## Texts -/

/-- Texts that are not empty meet no objection. -/
theorem objection?_texts {s : String} (h : ∀ v ∈ values, Countable (.string s) v) :
    Value.objection? isNonEmptyText values = none := by
  refine Value.objection?_of_forall fun v hv => ?_
  cases h v hv with
  | text ht => simpa [isNonEmptyText] using ht

theorem toList_ne_nil {t : String} (h : t ≠ "") : t.toList ≠ [] := fun hnil => h (String.toList_eq_nil_iff.mp hnil)

/-- **In a text,** the scans find the greatest numbers, and these are added up. -/
theorem countTexts_eq {s : String} (h : ∀ v ∈ values, Countable (.string s) v) :
    ∃ counts : List Nat, List.Forall₂ (Counted (.string s)) values counts ∧
      countTexts s values settings = .ok (counts.sum : Nat) := by
  induction values with
  | nil => exact ⟨[], .nil, rfl⟩
  | cons v values ih =>
    obtain ⟨hv, hvalues⟩ := List.forall_mem_cons.mp h
    obtain ⟨counts, hcounts, hrest⟩ := ih hvalues
    cases hv with
    | @text _ t ht =>
      have hfirst : Counted (.string s) (.string t) (countOccurrences t.toList s.toList) :=
        .text (countOccurrences_isGreatest (toList_ne_nil ht))
      refine ⟨countOccurrences t.toList s.toList :: counts, .cons hfirst hcounts, ?_⟩
      rw [countTexts, Check.bind_of_ok hrest, List.sum_cons, Nat.cast_add]
      rfl

/-! ## The macro -/

/-- **Where each value can be counted,** the macro gives the sum. -/
theorem countIn_counted (h : ∀ v ∈ values, Countable container v) :
    ∃ counts : List Nat, List.Forall₂ (Counted container) values counts ∧
      countIn container values settings = .ok (.number (.int counts.sum)) := by
  cases container with
  | string s =>
    obtain ⟨counts, hcounts, htexts⟩ : ∃ counts : List Nat, List.Forall₂ (Counted (.string s)) values counts ∧
        countTexts s values settings = .ok (counts.sum : Nat) := countTexts_eq h
    refine ⟨counts, hcounts, ?_⟩
    rw [countIn, objection?_texts h]
    exact Check.bind_of_ok htexts
  | array items =>
    refine ⟨values.map fun v => items.countP fun x => equals x v == .ok true, ?_, ?_⟩
    · exact List.forall₂_map_right_iff.mpr (List.forall₂_same.mpr fun v _ => .member items v)
    · exact Check.bind_of_ok (Check.lift_eq_ok.mpr (countMembers_eq h))
  | _ =>
    cases values with
    | nil => exact ⟨[], .nil, rfl⟩
    | cons v values => exact nomatch h v List.mem_cons_self

/-- **Where a member cannot be compared with a value,** the macro gives nothing. -/
theorem fault_of_not_countable (hv : v ∈ values) (h : ¬ Countable (.array items) v) :
    ∃ f, countIn (.array items) values settings = .error (.fault f) := by
  cases hmembers : countMembers items values with
  | ok n => exact absurd (exists_countMembers_iff.mp ⟨n, hmembers⟩ v hv) h
  | error f =>
    refine ⟨f, Check.bind_of_error ?_⟩
    show Check.lift (countMembers items values) settings = _
    rw [hmembers]
    rfl

/-- **A value is counted iff it is contained.** -/
theorem Counted.pos_iff (hcountable : Countable container v) (h : Counted container v n) :
    0 < n ↔ Sequence.contains container v settings = .ok true := by
  cases h with
  | member items v =>
    cases hcountable with
    | member hanswers =>
      have hdecides : Decides (isAmong items v) (∃ x ∈ items, equals x v = .ok true) := by
        refine Decides.anyM fun x hx => ?_
        obtain ⟨yes, hyes⟩ := hanswers x hx
        exact Decides.of_answer hyes
      have hcontains : Sequence.contains (.array items) v settings = .ok true ↔ isAmong items v = .ok true :=
        Check.lift_eq_ok
      rw [hcontains, hdecides.iff_ok_true, List.countP_pos_iff]
      simp only [beq_iff_eq]
  | @text s t n hgreatest =>
    cases hcountable with
    | text ht =>
      have hpart := toList_ne_nil ht
      obtain rfl := hgreatest.unique (countOccurrences_isGreatest hpart)
      rw [countOccurrences_pos_iff hpart]
      exact ⟨fun h => congrArg Except.ok h, Except.ok.inj⟩

end StandardMacro

/-! ## The call -/

namespace Registry

open StandardMacro

variable {σ : Type} {settings : Settings} {host : Host σ} {w : World σ}

/-- Whether a macro counts, in a string or an array, one value or more. -/
def countsValues (m : Macro) : Bool :=
  match m.body, m.signature.fixed, m.signature.rest with
  | .standard .count, [.either [.plain "string", .plain "array"]], some (.any, 1) => true
  | _, _, _ => false

/-- The standard library has the macro under its name. -/
theorem exists_count : ∃ m, standard.get? "count" = some m ∧ m.body = .standard .count ∧
    m.signature = ⟨[.either [.string, .array]], some (.any, 1)⟩ := by
  have hfound : (standard.get? "count").map countsValues = some true := by
    rw [standard_eq_listed]
    decide +kernel
  obtain ⟨m, hget, hcounts⟩ := Option.map_eq_some_iff.mp hfound
  obtain ⟨names, body, ⟨fixed, rest⟩, returns⟩ := m
  unfold countsValues at hcounts
  split at hcounts
  · rename_i hbody hfixed hrest
    exact ⟨_, hget, hbody, congrArg₂ Signature.mk hfixed hrest⟩
  · cases hcounts

/-- A string or an array passes the checks, and whatever can be kept. -/
theorem checkFrom_count {name : String} {container : Value} {values : List Value}
    (hcontainer : Entry.accepts container (.either [.string, .array]) settings = .ok true)
    (hfree : ∀ v ∈ container :: values, v.ErrorFree) (hkept : ∀ v ∈ values, v.isUnstorable = false)
    (hsome : values ≠ []) :
    Dispatch.Callee.checkFrom ⟨name, ⟨[.either [.string, .array]], some (.any, 1)⟩⟩ 0 [.either [.string, .array]]
      (container :: values) settings w = (.ok (), w) := by
  obtain ⟨hfirst, hothers⟩ := List.forall_mem_cons.mp hfree
  obtain ⟨v, others, rfl⟩ := List.exists_cons_of_ne_nil hsome
  have hpass : ∀ u ∈ v :: others, u.ErrorFree ∧ Entry.accepts u .any settings = .ok true := by
    intro u hu
    refine ⟨hothers u hu, ?_⟩
    show Except.ok (!u.isUnstorable) = _
    rw [hkept u hu]
    rfl
  rw [Dispatch.Callee.checkFrom, Run.bind_of_ok (CustomMacro.checkOne_accepted hfirst hcontainer)]
  exact CustomMacro.checkRest_accepted hpass 1

/-- **A call is counting,** for arguments that dispatch lets through. -/
theorem call_countIn {r : Registry} {name : String} (hcount : r.get? name = standard.get? "count") {container : Value}
    {values : List Value} (hcontainer : Entry.accepts container (.either [.string, .array]) settings = .ok true)
    (hplain : ∀ v ∈ container :: values, v.Plain) (hkept : ∀ v ∈ values, v.isUnstorable = false) (hsome : values ≠ [])
    {n : Int} (h : countIn container values settings = .ok (.number (.int n))) :
    (r.call host name (container :: values) settings w).1 = .ok (.number (.int n)) := by
  obtain ⟨m, hget, hbody, hsignature⟩ := exists_count
  have hfree : ∀ v ∈ container :: values, v.ErrorFree := fun v hv => (hplain v hv).1
  show _ = Except.ok (Value.adopt w.fresh (.number (.int n))).1
  refine call_of_checked (hcount.trans hget) hfree (Dispatch.Callee.spreadArguments_plain hplain) ?_ fun w' => ?_
  · rw [hsignature]
    exact checkFrom_count hcontainer hfree hkept hsome
  · rw [hbody]
    exact Run.check_eq_ok.mpr ⟨rfl, h⟩

/-- What a value can be counted in is a string or an array. -/
theorem accepts_of_countable {container v : Value} (h : Countable container v) :
    Entry.accepts container (.either [.string, .array]) settings = .ok true := by
  cases h with
  | member _ => rfl
  | text _ => rfl

/-- **Count counts what is contained.**

* Where each value can be counted, the macro gives the sum of how often they are there.
* So does a call under its name, if the arguments stand for themselves and can be kept.
* A single value is counted iff it is contained.
* In an array, all values can be counted that can be compared.  If one of them cannot be, there is no answer. -/
theorem call_count (host : Host σ) (w : World σ) {r : Registry} {name : String}
    (hcount : r.get? name = standard.get? "count") (container : Value) (values : List Value) :
    ((∀ v ∈ values, Countable container v) →
      ∃ counts : List Nat, List.Forall₂ (Counted container) values counts ∧
        countIn container values settings = .ok (.number (.int counts.sum)) ∧
        ((∀ v ∈ container :: values, v.Plain) → (∀ v ∈ values, v.isUnstorable = false) → values ≠ [] →
          (r.call host name (container :: values) settings w).1 = .ok (.number (.int counts.sum))) ∧
        ∀ v, values = [v] → (0 < counts.sum ↔ Sequence.contains container v settings = .ok true)) ∧
    ∀ items, container = .array items →
      ((∀ x ∈ items ++ values, x.Everywhere Value.Comparable) → ∀ v ∈ values, Countable container v) ∧
      ((∃ v ∈ values, ¬ Countable container v) → ∃ f, countIn container values settings = .error (.fault f)) := by
  refine ⟨fun hcountable => ?_, ?_⟩
  · obtain ⟨counts, hcounts, hsum⟩ : ∃ counts : List Nat, List.Forall₂ (Counted container) values counts ∧
        countIn container values settings = .ok (.number (.int counts.sum)) := countIn_counted hcountable
    refine ⟨counts, hcounts, hsum, fun hplain hkept hsome => ?_, ?_⟩
    · obtain ⟨v, hv⟩ := List.exists_mem_of_ne_nil values hsome
      exact call_countIn hcount (accepts_of_countable (hcountable v hv)) hplain hkept hsome hsum
    · rintro v rfl
      -- of a single value the sum is its count
      obtain ⟨n, others, hn, hnone, rfl⟩ := List.forall₂_cons_left_iff.mp hcounts
      obtain rfl := List.forall₂_nil_left_iff.mp hnone
      exact hn.pos_iff (hcountable v (List.mem_singleton.mpr rfl))
  · rintro items rfl
    refine ⟨fun hcomparable v hv => ?_, ?_⟩
    · exact countable_of_comparable (fun x hx => hcomparable x (List.mem_append_left values hx))
        (hcomparable v (List.mem_append_right items hv))
    · rintro ⟨v, hv, hnot⟩
      exact fault_of_not_countable hv hnot

/-- A text that overlaps itself is counted once where it stands twice; strings and datasets are counted in an array. -/
theorem call_count_banana :
    let settings : Settings := Settings.usual
    let w : World Unit := World.start [] ()
    let one : Value := .dataset none [.number (.int 1)]
    standard.get? "Count" = standard.get? "count" ∧
      (standard.call placing "Count" [.string "banana", .string "ana", .string "n"] settings w).1 =
        .ok (.number (.int 3)) ∧
      ∃ n, countIn (.array [.string "a", one]) [one] settings = .ok (.number (.int n)) ∧ 0 < n := by
  intro settings w one
  have hname : insensitiveName "Count" = insensitiveName "count" := by decide +kernel
  have hcount : standard.get? "Count" = standard.get? "count" := congrArg (standard.macros.lookup ·) hname
  have hplain : ∀ s : String, (Value.string s).Plain := fun s => ⟨.other nofun nofun, nofun⟩
  refine ⟨hcount, ?_, ?_⟩
  · let texts : List Value := [.string "ana", .string "n"]
    have hcountable : ∀ v ∈ texts, Countable (.string "banana") v :=
      List.forall_mem_cons.mpr ⟨.text (by decide), List.forall_mem_singleton.mpr (.text (by decide))⟩
    obtain ⟨hcounted, -⟩ := @call_count _ settings placing w _ _ hcount (.string "banana") texts
    obtain ⟨counts, -, hsum, hcall, -⟩ := hcounted hcountable
    -- how often the texts occur is computed, and by the theorem is the answer of the call
    have hthree : countIn (.string "banana") texts settings = .ok (.number (.int 3)) := by decide +kernel
    rw [hsum] at hthree
    rw [← hthree]
    refine hcall ?_ ?_ (List.cons_ne_nil _ _)
    · simp [texts, hplain]
    · simp [texts, Value.isUnstorable]
  · -- the dataset can be compared, so a count of at least one says that it is in the array
    have hone : one.Everywhere Value.Comparable :=
      Value.everywhere_of_parts_one rfl
        (List.forall_mem_singleton.mpr (Value.exists_key_of_isOk (by decide +kernel)))
        (Value.everywhere_of_parts_nil rfl trivial)
    have hcomparable : ∀ x ∈ [.string "a", one] ++ [one], x.Everywhere Value.Comparable := by
      simpa [hone] using Value.everywhere_of_parts_nil rfl trivial
    obtain ⟨hcounted, hcompared⟩ := @call_count _ settings placing w _ _ hcount (.array [.string "a", one]) [one]
    obtain ⟨counts, -, hsum, -, hpos⟩ := hcounted ((hcompared _ rfl).1 hcomparable)
    exact ⟨counts.sum, hsum, Int.natCast_pos.mpr ((hpos one rfl).mpr (by decide +kernel))⟩

/-- Datasets, the second of which cannot be gone through. -/
def oneThenBeyond : List Value := [.dataset none [.number (.int 1)], .dataset none [.number (.int (10 ^ 400))]]

/-- **An integer beyond all doubles stops counting:** the value is contained, and its count is no number. -/
theorem call_count_beyond :
    let settings : Settings := Settings.usual
    let one : Value := .dataset none [.number (.int 1)]
    Sequence.contains (.array oneThenBeyond) one settings = .ok true ∧
      (standard.call placing "count" [.array oneThenBeyond, one] settings (World.start [] ())).1 =
        .error (.fault .integerTooLarge) := by
  rw [standard_eq_listed]
  decide +kernel

end Registry

end StoryValues
