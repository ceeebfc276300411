import StoryValues.Value.Basic

/-
  STRUCTURAL EQUALITY of values, tags included.  Two values are **alike** if they are built in the
  same way from the same parts; `alike_iff` says that this is equality, which makes equality of
  values decidable.  Values that are compared by identity are compared so.
-/

namespace StoryValues

namespace Value

mutual

/-- Whether two values are built alike. -/
def alike : Value → Value → Bool
  | .nothing, .nothing => true
  | .boolean a, .boolean b => a == b
  | .number a, .number b => a == b
  | .string a, .string b => a == b
  | .array xs, .array ys => alikeList xs ys
  | .datamap s xs, .datamap t ys => s == t && alikeEntries xs ys
  | .dataset s xs, .dataset t ys => s == t && alikeList xs ys
  | .error a, .error b => a == b
  | .datatype a, .datatype b => a == b
  | .typedVar a, .typedVar b => a == b
  | .spread a, .spread b => alike a b
  | .changer xs, .changer ys => alikeNodes xs ys
  | .command s n xs a, .command t m ys b => s == t && n == m && a == b && alikeList xs ys
  | .colour a, .colour b => a == b
  | .gradient a, .gradient b => a == b
  | .hooks a, .hooks b => a == b
  | .lambda a, .lambda b => a == b
  | .custom a, .custom b => a == b
  | .filtered, .filtered => true
  | _, _ => false
termination_by structural v => v

/-- Whether two lists of values are built alike. -/
def alikeList : List Value → List Value → Bool
  | [], [] => true
  | x :: xs, y :: ys => alike x y && alikeList xs ys
  | _, _ => false
termination_by structural vs => vs

/-- Whether two lists of entries are built alike. -/
def alikeEntries : List (Name × Value) → List (Name × Value) → Bool
  | [], [] => true
  | (n, x) :: xs, (m, y) :: ys => n == m && alike x y && alikeEntries xs ys
  | _, _ => false
termination_by structural vs => vs

/-- Whether two chains are built alike. -/
def alikeNodes : List (String × List Value) → List (String × List Value) → Bool
  | [], [] => true
  | (n, x) :: xs, (m, y) :: ys => n == m && alikeList x y && alikeNodes xs ys
  | _, _ => false
termination_by structural vs => vs

end

mutual

/-- Values that are built alike are equal.  By recursion on both, along with the lists in them: items, entries and
nodes have recursions of their own. -/
theorem eq_of_alike (a b : Value) (h : alike a b = true) : a = b := by
  match a, b with
  | .nothing, b => cases b <;> simp_all [alike]
  | .boolean _, b => cases b <;> simp_all [alike]
  | .number _, b => cases b <;> simp_all [alike]
  | .string _, b => cases b <;> simp_all [alike]
  | .array xs, b =>
    cases b <;> simp only [alike, Bool.false_eq_true] at h
    rw [eq_of_alikeList xs _ h]
  | .datamap s xs, b =>
    cases b <;> simp only [alike, Bool.false_eq_true, Bool.and_eq_true, beq_iff_eq] at h
    rw [h.1, eq_of_alikeEntries xs _ h.2]
  | .dataset s xs, b =>
    cases b <;> simp only [alike, Bool.false_eq_true, Bool.and_eq_true, beq_iff_eq] at h
    rw [h.1, eq_of_alikeList xs _ h.2]
  | .error _, b => cases b <;> simp_all [alike]
  | .datatype _, b => cases b <;> simp_all [alike]
  | .typedVar _, b => cases b <;> simp_all [alike]
  | .spread v, b =>
    cases b <;> simp only [alike, Bool.false_eq_true] at h
    rw [eq_of_alike v _ h]
  | .changer xs, b =>
    cases b <;> simp only [alike, Bool.false_eq_true] at h
    rw [eq_of_alikeNodes xs _ h]
  | .command s n xs c, b =>
    cases b <;> simp only [alike, Bool.false_eq_true, Bool.and_eq_true, beq_iff_eq] at h
    obtain ⟨⟨⟨rfl, rfl⟩, rfl⟩, h⟩ := h
    rw [eq_of_alikeList xs _ h]
  | .colour _, b => cases b <;> simp_all [alike]
  | .gradient _, b => cases b <;> simp_all [alike]
  | .hooks _, b => cases b <;> simp_all [alike]
  | .lambda _, b => cases b <;> simp_all [alike]
  | .custom _, b => cases b <;> simp_all [alike]
  | .filtered, b => cases b <;> simp_all [alike]

/-- Lists of values that are alike, one by one, are the same list. -/
theorem eq_of_alikeList (xs ys : List Value) (h : alikeList xs ys = true) : xs = ys := by
  match xs, ys with
  | [], [] => rfl
  | x :: xs, y :: ys =>
    simp only [alikeList, Bool.and_eq_true] at h
    rw [eq_of_alike x y h.1, eq_of_alikeList xs ys h.2]
  | [], _ :: _ => simp [alikeList] at h
  | _ :: _, [] => simp [alikeList] at h

/-- Entries of datamaps that are alike, one by one, are the same entries. -/
theorem eq_of_alikeEntries (xs ys : List (Name × Value)) (h : alikeEntries xs ys = true) :
    xs = ys := by
  match xs, ys with
  | [], [] => rfl
  | (n, x) :: xs, (m, y) :: ys =>
    simp only [alikeEntries, Bool.and_eq_true, beq_iff_eq] at h
    rw [h.1.1, eq_of_alike x y h.1.2, eq_of_alikeEntries xs ys h.2]
  | [], _ :: _ => simp [alikeEntries] at h
  | _ :: _, [] => simp [alikeEntries] at h

/-- Nodes of chains that are alike, one by one, are the same nodes. -/
theorem eq_of_alikeNodes (xs ys : List (String × List Value)) (h : alikeNodes xs ys = true) :
    xs = ys := by
  match xs, ys with
  | [], [] => rfl
  | (n, x) :: xs, (m, y) :: ys =>
    simp only [alikeNodes, Bool.and_eq_true, beq_iff_eq] at h
    rw [h.1.1, eq_of_alikeList x y h.1.2, eq_of_alikeNodes xs ys h.2]
  | [], _ :: _ => simp [alikeNodes] at h
  | _ :: _, [] => simp [alikeNodes] at h

end

mutual

/-- A value is built like itself, by the same recursion. -/
theorem alike_refl (a : Value) : alike a a = true := by
  match a with
  | .array xs => simp [alike, alikeList_refl xs]
  | .datamap _ xs => simp [alike, alikeEntries_refl xs]
  | .dataset _ xs => simp [alike, alikeList_refl xs]
  | .spread v => simp [alike, alike_refl v]
  | .changer xs => simp [alike, alikeNodes_refl xs]
  | .command _ _ xs _ => simp [alike, alikeList_refl xs]
  | .nothing | .boolean _ | .number _ | .string _ | .error _ | .datatype _ | .typedVar _
  | .colour _ | .gradient _ | .hooks _ | .lambda _ | .custom _ | .filtered => simp [alike]

/-- A list of values is like itself. -/
theorem alikeList_refl (xs : List Value) : alikeList xs xs = true := by
  match xs with
  | [] => rfl
  | x :: xs => simp [alikeList, alike_refl x, alikeList_refl xs]

/-- Entries of a datamap are like themselves. -/
theorem alikeEntries_refl (xs : List (Name × Value)) : alikeEntries xs xs = true := by
  match xs with
  | [] => rfl
  | (n, x) :: xs => simp [alikeEntries, alike_refl x, alikeEntries_refl xs]

/-- Nodes of a chain are like themselves. -/
theorem alikeNodes_refl (xs : List (String × List Value)) : alikeNodes xs xs = true := by
  match xs with
  | [] => rfl
  | (n, x) :: xs => simp [alikeNodes, alikeList_refl x, alikeNodes_refl xs]

end

/-- Being built alike is equality.  The `DecidableEq` instance for values is this. -/
theorem alike_iff {a b : Value} : alike a b = true ↔ a = b :=
  ⟨eq_of_alike a b, fun h => h ▸ alike_refl a⟩

instance : DecidableEq Value := fun _ _ => decidable_of_iff _ alike_iff

end Value

end StoryValues
