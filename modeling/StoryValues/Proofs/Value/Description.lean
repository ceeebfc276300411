import StoryValues.Collection.Storable
import StoryValues.Value.Description

/-
  DESCRIPTIONS of values: which values a message can speak of.

  Messages mention few of the numbers that a value holds: a number itself, and the number that a chain of
  styling starts with.  So there is nothing to say of a value exactly if it is, or starts with, an integer
  that is too long to be written (`Value.TooLong`), however long the integers are that it holds elsewhere.
-/

namespace StoryValues

namespace Value

variable {v : Value}

/-- **The values that no message can speak of:** an integer of too many digits, and a chain of styling whose
first node was given one first. -/
inductive TooLong : Value → Prop
  | number {n : Number} : n.isShort = false → TooLong (.number n)
  | changer {name : String} {n : Number} {params : List Value} {nodes : List (String × List Value)} :
      n.isShort = false → TooLong (.changer ((name, .number n :: params) :: nodes))

theorem not_tooLong_number {n : Number} (h : n.isShort = true) : ¬ TooLong (.number n) := by
  rintro (hn | _)
  exact absurd (h.symm.trans hn) (by decide)

/-- What a chain is described by can be written, unless it is an integer that is too long. -/
theorem exists_shownArgument {params : List Value} (h : ∀ n others, params = .number n :: others → n.isShort = true) :
    ∃ text, shownArgument params = .ok text := by
  unfold shownArgument
  split
  · exact ⟨_, rfl⟩
  · exact ⟨_, Number.format_of_isShort (h _ _ rfl)⟩
  · exact ⟨_, rfl⟩
  · exact ⟨_, rfl⟩

/-- With it, so can the description of the whole chain. -/
theorem exists_chainName {name text : String} {params : List Value} {nodes : List (String × List Value)}
    (h : shownArgument params = .ok text) : ∃ text, chainName ((name, params) :: nodes) = .ok text := by
  simp only [chainName, h]
  dsimp only [bind, Except.bind]
  split
  · exact ⟨_, rfl⟩
  · exact ⟨_, rfl⟩

/-- **There is nothing to say of a value that is too long.** -/
theorem TooLong.objectName (h : v.TooLong) : v.objectName = .error .integerTooLong := by
  cases h with
  | @number n hn =>
    have hnumber : n.isNumber = true := by
      cases n with
      | int k => rfl
      | real x => exact nomatch hn
    rw [Value.objectName, if_pos hnumber, Number.format_of_not_isShort hn]
    rfl
  | @changer name n params nodes hn =>
    have harg : shownArgument (.number n :: params) = .error .integerTooLong := Number.format_of_not_isShort hn
    rw [Value.objectName, chainName, harg]
    rfl

/-- **Of any other value there is.** -/
theorem exists_objectName (h : ¬ v.TooLong) : ∃ text, v.objectName = .ok text := by
  cases v with
  | number n =>
    have hn : n.isShort = true := Bool.of_not_eq_false fun hn => h (.number hn)
    rw [objectName, Number.format_of_isShort hn]
    split
    · exact ⟨_, rfl⟩
    · exact ⟨_, rfl⟩
  | changer nodes =>
    cases nodes with
    | nil => exact ⟨_, rfl⟩
    | cons node nodes =>
      obtain ⟨name, params⟩ := node
      have hshort : ∀ n others, params = .number n :: others → n.isShort = true := by
        rintro n others rfl
        exact Bool.of_not_eq_false fun hn => h (.changer hn)
      obtain ⟨text, htext⟩ := exists_shownArgument hshort
      exact exists_chainName htext
  | _ => exact ⟨_, rfl⟩

/-- What is found that can't be stored is a typed variable or a spread value. -/
theorem isUnstorable_of_unstorable? {bad : Value} (h : v.unstorable? = .ok (some bad)) : bad.isUnstorable = true := by
  have hself (hown : (if v.isUnstorable then some v else none) = some bad) : bad.isUnstorable = true := by
    split at hown
    · rename_i hv
      exact Option.some.inj hown ▸ hv
    · cases hown
  cases v with
  | array items => exact List.find?_some (Except.ok.inj h)
  | datamap tag entries => exact List.find?_some (Except.ok.inj h)
  | dataset tag members =>
    rw [unstorable?] at h
    cases hsorted : sorted members with
    | error fault =>
      rw [hsorted] at h
      cases h
    | ok ordered =>
      rw [hsorted] at h
      exact List.find?_some (Except.ok.inj h)
  | _ => exact hself (Except.ok.inj h)

/-- So a message can always speak of it. -/
theorem exists_objectName_of_unstorable? {bad : Value} (h : v.unstorable? = .ok (some bad)) :
    ∃ text, bad.objectName = .ok text := by
  have hbad := isUnstorable_of_unstorable? h
  cases bad with
  | typedVar w => exact ⟨_, rfl⟩
  | spread w => exact ⟨_, rfl⟩
  | _ => cases hbad

end Value

end StoryValues
