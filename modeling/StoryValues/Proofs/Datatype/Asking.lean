import StoryValues.Proofs.Value.Verdicts

/-
  ASKING A DATATYPE whether it accepts a value.  There are three ways in which no answer comes.

  1. **A look-ahead pattern** (`Value.looksAhead`) refuses to be asked, with a story error.  Nothing else is a
     story error (`stopsOnly_claims`).
  2. **A name that is not listed** has no test.  With that and look-ahead patterns out of the way
     (`Datatype.Usable`), what a datatype says of another datatype is known: only `datatype` and `anything`
     accept one, and they accept all (`accepts_datatype`).
  3. **What is too large to count**: an integer without a nearest double, which cannot be asked whether it is
     whole, and a repetition beyond what a pattern can count up to.  With these out of the way too
     (`Datatype.Ready`, `Value.Measured`) there is always an answer (`answers_accepts`).
-/

namespace StoryValues

variable {settings : Settings}

namespace Value

/-- Whether this is a pattern that only looks ahead. -/
def looksAhead : Value → Bool
  | .datatype (.pattern .notBefore ..) => true
  | _ => false

/-- A value that is no integer without a nearest double. -/
def Measured : Value → Prop
  | .number n => ∃ x, n.toDouble = .ok x
  | _ => True

end Value

namespace Datatype

/-! ## Named datatypes -/

/-- A datatype that can be asked: a listed one, or a pattern that does not only look ahead. -/
def Usable : Datatype → Prop
  | .named name _ => (tests.lookup name).isSome = true
  | .pattern shape .. => shape ≠ .notBefore

/-- A datatype that can be asked and whose repetitions can be counted. -/
def Ready : Datatype → Prop
  | .named name _ => (tests.lookup name).isSome = true
  | .pattern shape parts folded spread => shape ≠ .notBefore ∧ (pattern shape parts folded spread).overflows = false

/-- Whether a datatype accepts datatypes. -/
def holdsTypes : Datatype → Bool
  | .named name _ => name == "datatype" || name == "anything"
  | .pattern .. => false

/-- What is found under a name is a test of that name. -/
theorem mem_of_lookup {α : Type} {table : List (String × α)} {name : String} {a : α}
    (h : table.lookup name = some a) : (name, a) ∈ table := by
  obtain ⟨before, after, rfl, _⟩ := List.lookup_eq_some_iff.mp h
  exact List.mem_append_right before List.mem_cons_self

/-- The tests of the listed datatypes, one group after another.  Proofs about all of them go through the groups and
not through the names. -/
theorem forall_mem_tests {P : String × (Value → Except Fault Bool) → Prop}
    (hkinds : ∀ k ∈ kinds, P (k.1, fun v => .ok (k.2 v)))
    (hinteger : P ("integer", Value.isInteger)) (hparity : ∀ name parity, (name, parity) ∈ [("even", 0), ("odd", 1)] →
      P (name, Value.hasParity parity))
    (hempty : P ("empty", fun v => .ok v.isEmpty)) (hanything : P ("anything", fun v => .ok v.isStorable))
    (hcharacters : ∀ name ∈ characterTypes, P (name, isCharacter name)) : ∀ p ∈ tests, P p := by
  intro p hp
  rcases List.mem_append.mp hp with hp | hp
  · rcases List.mem_append.mp hp with hp | hp
    · obtain ⟨k, hk, rfl⟩ := List.mem_map.mp hp
      exact hkinds k hk
    · simp only [List.mem_cons, List.not_mem_nil, or_false] at hp
      rcases hp with rfl | rfl | rfl | rfl | rfl
      · exact hinteger
      · exact hparity "even" 0 List.mem_cons_self
      · exact hparity "odd" 1 (List.mem_cons_of_mem _ List.mem_cons_self)
      · exact hempty
      · exact hanything
  · obtain ⟨name, hname, rfl⟩ := List.mem_map.mp hp
    exact hcharacters name hname

/-- A pattern that does not only look ahead accepts the strings that it reads whole. -/
theorem accepts_pattern {shape : Shape} {parts : List Fragment} {folded spread : Bool} (h : shape ≠ .notBefore)
    (v : Value) : accepts (.pattern shape parts folded spread) v = match v with
      | .string s => Check.lift ((pattern shape parts folded spread).readsAll s)
      | _ => return false := by
  cases shape with
  | notBefore => exact absurd rfl h
  | _ => rfl

/-! ## What a datatype says of another -/

/-- Of datatypes, only those for datatypes and for anything accept one, and both accept all. -/
theorem test_datatype (e : Datatype) :
    ∀ p ∈ tests, p.2 (.datatype e) = .ok (p.1 == "datatype" || p.1 == "anything") := by
  refine forall_mem_tests (fun k hk => ?_) rfl (fun name parity h => ?_) rfl rfl fun name hname => ?_
  · simp only [kinds, List.mem_cons, List.not_mem_nil, or_false] at hk
    rcases hk with rfl | rfl | rfl | rfl | rfl | rfl | rfl | rfl | rfl | rfl | rfl | rfl <;> cases e <;> rfl
  · simp only [List.mem_cons, List.not_mem_nil, or_false, Prod.mk.injEq] at h
    rcases h with ⟨rfl, rfl⟩ | ⟨rfl, rfl⟩ <;> rfl
  · simp only [characterTypes, List.mem_cons, List.not_mem_nil, or_false] at hname
    rcases hname with rfl | rfl | rfl | rfl | rfl | rfl | rfl <;> rfl

/-- **Only the datatypes `datatype` and `anything` accept datatypes,** and they accept all of them. -/
theorem accepts_datatype {d : Datatype} (h : d.Usable) (e : Datatype) :
    d.accepts (.datatype e) settings = .ok d.holdsTypes := by
  cases d with
  | named name spread =>
    obtain ⟨test, htest⟩ := Option.isSome_iff_exists.mp h
    have hsays : test (.datatype e) = .ok (name == "datatype" || name == "anything") :=
      test_datatype e _ (mem_of_lookup htest)
    rw [accepts]
    simp only [htest]
    exact Check.lift_eq_ok.mpr hsays
  | pattern shape parts folded spread =>
    rw [accepts_pattern h]
    rfl

/-! ## Answers -/

/-- Whether a value is an integer can be asked of one that has a double near it, if it is a number. -/
theorem exists_isInteger {v : Value} (h : v.Measured) : ∃ yes, v.isInteger = .ok yes := by
  cases v with
  | number n =>
    obtain ⟨x, hx⟩ : ∃ x, n.toDouble = .ok x := h
    cases hn : n.isNumber with
    | true => exact ⟨x.isWhole, by rw [Value.isInteger, if_pos hn, Number.isWhole, hx]; rfl⟩
    | false => exact ⟨false, by rw [Value.isInteger, if_neg (by rw [hn]; exact Bool.false_ne_true)]⟩
  | _ => exact ⟨false, rfl⟩

/-- So can whether it is even or odd. -/
theorem exists_hasParity {v : Value} (parity : Nat) (h : v.Measured) : ∃ yes, v.hasParity parity = .ok yes := by
  cases v with
  | number n =>
    obtain ⟨yes, hyes⟩ := exists_isInteger h
    exact ⟨yes && n.truncate.natAbs % 2 == parity, by rw [Value.hasParity, hyes]; rfl⟩
  | _ => exact ⟨false, rfl⟩

/-- And so can all tests. -/
theorem exists_test {v : Value} (h : v.Measured) : ∀ p ∈ tests, ∃ yes, p.2 v = .ok yes := by
  refine forall_mem_tests (fun k _ => ⟨k.2 v, rfl⟩) (exists_isInteger h) (fun _ parity _ => exists_hasParity parity h)
    ⟨v.isEmpty, rfl⟩ ⟨v.isStorable, rfl⟩ fun name _ => ?_
  cases v with
  | string s => exact ⟨_, rfl⟩
  | _ => exact ⟨false, rfl⟩

/-- **A datatype that is ready answers** whatever it is asked about, but for an integer without a double. -/
theorem answers_accepts {d : Datatype} {v : Value} (hd : d.Ready) (hv : v.Measured) :
    Check.Answers settings (d.accepts v) := by
  cases d with
  | named name spread =>
    obtain ⟨test, htest⟩ := Option.isSome_iff_exists.mp hd
    obtain ⟨yes, hyes⟩ := exists_test hv _ (mem_of_lookup htest)
    rw [accepts]
    simp only [htest]
    exact .of_ok (Check.lift_eq_ok.mpr hyes)
  | pattern shape parts folded spread =>
    obtain ⟨hshape, hcounted⟩ := hd
    rw [accepts_pattern hshape]
    cases v with
    | string s =>
      have hreads : ∃ yes, readsAll (.pattern shape parts folded spread) s = .ok yes := by
        rw [readsAll, fullMatch?, if_neg (by rw [hcounted]; exact Bool.false_ne_true)]
        exact ⟨_, rfl⟩
      obtain ⟨yes, hyes⟩ := hreads
      exact .of_ok (Check.lift_eq_ok.mpr hyes)
    | _ => exact .of_ok rfl

/-- **Only a look-ahead pattern answers with a story error.**  A name answers or has no test, and any other pattern
reads or cannot be counted by. -/
theorem stopsOnly_accepts {d : Datatype} (h : (Value.datatype d).looksAhead = false) (v : Value) :
    Check.StopsOnly settings Check.IsFault (d.accepts v) := by
  cases d with
  | named name spread =>
    rw [accepts]
    split
    · exact .of_fault _
    · exact .of_fault (Except.error (.missingKey name))
  | pattern shape parts folded spread =>
    have hshape : shape ≠ .notBefore := by
      rintro rfl
      cases h
    rw [accepts_pattern hshape]
    split
    · exact .of_fault _
    · exact .of_ok rfl

end Datatype

namespace Value

/-! ## Claims -/

/-- A value that answers and can be asked about: a datatype that is ready, or any other value but an integer
without a nearest double. -/
def Askable : Value → Prop
  | .datatype d => d.Ready
  | v => v.Measured

/-- What can be asked has doubles near its numbers. -/
theorem Askable.measured {v : Value} (h : v.Askable) : v.Measured := by
  cases v with
  | datatype d => exact trivial
  | _ => exact h

/-- Values that can be asked say whether they claim one another: a datatype is asked about the other value, and
anything else claims what equals it. -/
theorem answers_claims {l r : Value} (hl : l.Askable) (hr : r.Askable) : Check.Answers settings (l.claims r) := by
  cases l with
  | datatype d => exact Datatype.answers_accepts hl hr.measured
  | _ => exact .of_ok rfl

/-- Unless a look-ahead pattern is asked, all that can stop it is a fault. -/
theorem stopsOnly_claims {l : Value} (h : l.looksAhead = false) (r : Value) :
    Check.StopsOnly settings Check.IsFault (l.claims r) := by
  cases l with
  | datatype d => exact Datatype.stopsOnly_accepts h r
  | _ => exact .of_ok rfl

end Value

end StoryValues
