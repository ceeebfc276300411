import StoryValues.Proofs.Value.Fitting

/-
  PIECES: arrays that are laid along a pattern with spread datatypes.

  `Value.Cut` follows the search value by value.  Seen as a whole, the values are cut into pieces, one for
  each element of the pattern: a run of values that a spread element accepts, or the one value that any other
  element is matched with.

  1. **The two are the same** (`cut_iff_cutInto`): by induction on the search one way, and on the pattern,
     with each run by itself, the other.
  2. **Where the search stops** (`stopsAt_of_matchAlong`): a check that it came to stopped.  What lies before
     has been cut into pieces, so the check is one that an answer may hang on.
  3. **Matching along spread datatypes** (`isMatch_array_spread`): it says yes iff there are such pieces and
     no otherwise, unless a check that it came to stops.
-/

namespace StoryValues

namespace Value

variable {α β : Type} {settings : Settings}

/-! ## Values cut into pieces -/

section

variable {isSpread : β → Bool} {takes : β → α → Prop} {fits : α → β → Prop} {x : α} {p : β} {xs : List α}
  {ps : List β} {piece : List α}

/-- What an element of a pattern may have: if it is spread, a run of values that it takes, and otherwise one
value that fits it. -/
def IsPiece (isSpread : β → Bool) (takes : β → α → Prop) (fits : α → β → Prop) (p : β) (piece : List α) : Prop :=
  if isSpread p then ∀ x ∈ piece, takes p x else ∃ x, piece = [x] ∧ fits x p

/-- **Values cut into consecutive pieces,** one for each element of a pattern, in order. -/
def CutInto (isSpread : β → Bool) (takes : β → α → Prop) (fits : α → β → Prop) (xs : List α) (ps : List β) : Prop :=
  ∃ pieces : List (List α), pieces.flatten = xs ∧ List.Forall₂ (IsPiece isSpread takes fits) ps pieces

/-- The piece of a spread element is a run of values each of which it takes, perhaps of none. -/
theorem isPiece_spread (h : isSpread p = true) : IsPiece isSpread takes fits p piece ↔ ∀ x ∈ piece, takes p x := by
  rw [IsPiece, if_pos h]

/-- The piece of any other element is one value that fits it. -/
theorem isPiece_one (h : isSpread p = false) :
    IsPiece isSpread takes fits p piece ↔ ∃ x, piece = [x] ∧ fits x p := by
  rw [IsPiece, h, if_neg Bool.false_ne_true]

namespace CutInto

/-- No values are cut into no pieces. -/
theorem nil : CutInto isSpread takes fits [] [] := ⟨[], rfl, .nil⟩

/-- A value that fits the first element is a piece, in front of those of the others. -/
theorem one (hone : isSpread p = false) (hfit : fits x p) (h : CutInto isSpread takes fits xs ps) :
    CutInto isSpread takes fits (x :: xs) (p :: ps) := by
  obtain ⟨pieces, rfl, hpieces⟩ := h
  exact ⟨[x] :: pieces, rfl, .cons ((isPiece_one hone).mpr ⟨x, rfl, hfit⟩) hpieces⟩

/-- An empty piece may stand in front for a spread element. -/
theorem enough (hspread : isSpread p = true) (h : CutInto isSpread takes fits xs ps) :
    CutInto isSpread takes fits xs (p :: ps) := by
  obtain ⟨pieces, rfl, hpieces⟩ := h
  exact ⟨[] :: pieces, rfl, .cons ((isPiece_spread hspread).mpr (List.forall_mem_nil _)) hpieces⟩

/-- The run of a spread element may begin one value earlier.  It is the same piece, made longer at its front. -/
theorem more (hspread : isSpread p = true) (htake : takes p x) (h : CutInto isSpread takes fits xs (p :: ps)) :
    CutInto isSpread takes fits (x :: xs) (p :: ps) := by
  obtain ⟨_, rfl, hall⟩ := h
  cases hall with
  | @cons _ piece _ pieces hpiece hpieces =>
    have hmore := List.forall_mem_cons.mpr ⟨htake, (isPiece_spread hspread).mp hpiece⟩
    exact ⟨(x :: piece) :: pieces, rfl, .cons ((isPiece_spread hspread).mpr hmore) hpieces⟩

end CutInto

/-- A run that a spread element takes may stand before what is laid along the elements after it. -/
theorem Cut.run (hspread : isSpread p = true) (htakes : ∀ x ∈ piece, takes p x)
    (h : Cut isSpread takes fits xs ps) : Cut isSpread takes fits (piece ++ xs) (p :: ps) := by
  induction piece with
  | nil => exact .enough hspread h
  | cons x piece ih =>
    obtain ⟨hx, hpiece⟩ := List.forall_mem_cons.mp htakes
    exact .more hspread hx (ih hpiece)

/-- **Laying a pattern along values is cutting them into pieces.**  One way is by induction on how it is laid, the
other on the pattern, a whole piece at a time. -/
theorem cut_iff_cutInto : Cut isSpread takes fits xs ps ↔ CutInto isSpread takes fits xs ps := by
  constructor
  · intro h
    induction h with
    | done => exact .nil
    | one hone hfit _ ih => exact ih.one hone hfit
    | enough hspread _ ih => exact ih.enough hspread
    | more hspread htake _ ih => exact ih.more hspread htake
  · rintro ⟨pieces, rfl, hpieces⟩
    induction hpieces with
    | nil => exact .done
    | @cons p piece ps pieces hpiece _ ih =>
      rw [List.flatten_cons]
      cases hspread : isSpread p with
      | true => exact ih.run hspread ((isPiece_spread hspread).mp hpiece)
      | false =>
        obtain ⟨x, rfl, hfit⟩ := (isPiece_one hspread).mp hpiece
        exact .one hspread hfit ih

/-! ## Where the search stops -/

variable {accepts : β → α → Check Bool} {test : α → β → Check Bool} {e : Failure}

/-- **The search stops at a check:** what lies before a value has been cut into pieces, and then either the
spread element that took the last of these stopped when it was asked about the value, or the test of the value
with the next element did. -/
def StopsAt (settings : Settings) (isSpread : β → Bool) (accepts : β → α → Check Bool) (test : α → β → Check Bool)
    (e : Failure) (xs : List α) (ps : List β) : Prop :=
  ∃ before x after pbefore p pafter, xs = before ++ x :: after ∧ ps = pbefore ++ p :: pafter ∧
    let laid := CutInto isSpread (fun p x => accepts p x settings = .ok true) (fun x p => test x p settings = .ok true)
    (isSpread p = true ∧ laid before (pbefore ++ [p]) ∧ accepts p x settings = .error e ∨
      isSpread p = false ∧ laid before pbefore ∧ test x p settings = .error e)

/-- A value that fits the first element is cut off. -/
theorem StopsAt.one (hone : isSpread p = false) (hfit : test x p settings = .ok true)
    (h : StopsAt settings isSpread accepts test e xs ps) :
    StopsAt settings isSpread accepts test e (x :: xs) (p :: ps) := by
  obtain ⟨before, x', after, pbefore, p', pafter, rfl, rfl, h⟩ := h
  refine ⟨x :: before, x', after, p :: pbefore, p', pafter, rfl, rfl, ?_⟩
  exact h.imp (And.imp_right (And.imp_left (.one hone hfit))) (And.imp_right (And.imp_left (.one hone hfit)))

/-- The spread element in front takes nothing. -/
theorem StopsAt.enough (hspread : isSpread p = true) (h : StopsAt settings isSpread accepts test e xs ps) :
    StopsAt settings isSpread accepts test e xs (p :: ps) := by
  obtain ⟨before, x', after, pbefore, p', pafter, rfl, rfl, h⟩ := h
  refine ⟨before, x', after, p :: pbefore, p', pafter, rfl, rfl, ?_⟩
  exact h.imp (And.imp_right (And.imp_left (.enough hspread))) (And.imp_right (And.imp_left (.enough hspread)))

/-- The spread element in front takes one more value. -/
theorem StopsAt.more (hspread : isSpread p = true) (htake : accepts p x settings = .ok true)
    (h : StopsAt settings isSpread accepts test e xs (p :: ps)) :
    StopsAt settings isSpread accepts test e (x :: xs) (p :: ps) := by
  obtain ⟨before, x', after, pbefore, p', pafter, rfl, hps, h⟩ := h
  refine ⟨x :: before, x', after, pbefore, p', pafter, rfl, hps, ?_⟩
  cases pbefore with
  | nil =>
    -- it is the element that stops, which is spread
    obtain ⟨rfl, rfl⟩ := List.cons.inj hps
    rcases h with ⟨_, hlaid, hstop⟩ | ⟨hone, _, _⟩
    · exact Or.inl ⟨hspread, hlaid.more hspread htake, hstop⟩
    · exact absurd (hone.symm.trans hspread) Bool.false_ne_true
  | cons _ pbefore =>
    obtain ⟨rfl, _⟩ := List.cons.inj hps
    exact h.imp (And.imp_right (And.imp_left (.more hspread htake)))
      (And.imp_right (And.imp_left (.more hspread htake)))

/-- **If the search stops, then at a check that it came to.**  By induction on values and elements together, as the
search goes; what was tried before in vain leaves no trace. -/
theorem stopsAt_of_matchAlong {xs : List α} {ps : List β}
    (h : matchAlong isSpread accepts test xs ps settings = .error e) :
    StopsAt settings isSpread accepts test e xs ps := by
  match xs, ps with
  | xs, [] =>
    rw [matchAlong] at h
    cases h
  | [], p :: ps =>
    rw [matchAlong] at h
    cases hspread : isSpread p with
    | true =>
      rw [hspread, if_pos rfl] at h
      exact (stopsAt_of_matchAlong h).enough hspread
    | false =>
      rw [hspread, if_neg Bool.false_ne_true] at h
      cases h
  | x :: xs, p :: ps =>
    rw [matchAlong] at h
    cases hspread : isSpread p with
    | true =>
      rw [hspread, if_pos rfl] at h
      -- a spread element is first tried with what it has taken so far, and then asked whether it takes one value more
      rcases Check.bind_eq_error.mp h with h | ⟨enough, _, h⟩
      · exact (stopsAt_of_matchAlong h).enough hspread
      cases enough with
      | true => cases h
      | false =>
        rcases Check.bind_eq_error.mp h with h | ⟨taken, htake, h⟩
        · exact ⟨[], x, xs, [], p, ps, rfl, rfl, Or.inl ⟨hspread, .enough hspread .nil, h⟩⟩
        cases taken with
        | true => exact (stopsAt_of_matchAlong h).more hspread htake
        | false => cases h
    | false =>
      rw [hspread, if_neg Bool.false_ne_true] at h
      -- any other element takes exactly one value
      rcases Check.bind_eq_error.mp h with h | ⟨fit, hfit, h⟩
      · exact ⟨[], x, xs, [], p, ps, rfl, rfl, Or.inr ⟨hspread, .nil, h⟩⟩
      cases fit with
      | true => exact (stopsAt_of_matchAlong h).one hspread hfit
      | false => cases h
termination_by xs.length + ps.length

end

/-! ## Matching along spread datatypes -/

/-- Arrays are no datatypes: matching them is matching their items. -/
theorem isMatch_array (xs ys : List Value) : isMatch (.array xs) (.array ys) = matchItems xs ys := by
  rw [isMatch_eq]
  rfl

/-- **Matching an array along spread datatypes.** It gives an answer, and the answer is yes iff the values can
be cut into consecutive pieces, one for each element of the pattern: a run of zero or more values that a spread
element accepts, and one value that matches any other element.  Or else a check of a value with an element
stops it, one that is come to once the values before have been cut into pieces for the elements before. -/
theorem isMatch_array_spread (settings : Settings) (xs ps : List Value) (h : ps.any isSpreadType = true) :
    (∃ yes, isMatch (.array xs) (.array ps) settings = .ok yes ∧
      (yes = true ↔ CutInto isSpreadType (Claims settings) (Matches settings) xs ps)) ∨
    ∃ e, isMatch (.array xs) (.array ps) settings = .error e ∧
      StopsAt settings isSpreadType claims isMatch e xs ps := by
  have hsearch : isMatch (.array xs) (.array ps) = matchAlong isSpreadType claims isMatch xs ps := by
    rw [isMatch_array, matchItems, if_pos h]
  have hclaims : Check.Says settings (matchAlong isSpreadType claims isMatch xs ps)
      (Cut isSpreadType (Claims settings) (Matches settings) xs ps)
      (Cut isSpreadType (MayClaim settings) (MayMatch settings) xs ps) :=
    says_matchAlong xs ps (fun _ _ _ _ => says_claims _ _) fun _ _ _ _ => says_match _ _
  rw [hsearch]
  cases hrun : matchAlong isSpreadType claims isMatch xs ps settings with
  | error e => exact Or.inr ⟨e, rfl, stopsAt_of_matchAlong hrun⟩
  | ok yes =>
    refine Or.inl ⟨yes, rfl, ?_⟩
    rw [← cut_iff_cutInto]
    cases yes with
    | true => exact ⟨fun _ => hclaims.yes hrun, fun _ => rfl⟩
    | false =>
      -- what says yes does not say no
      refine ⟨fun hyes => absurd hyes Bool.false_ne_true, fun hcut => ?_⟩
      refine absurd (hcut.mono (fun p x hyes hno => ?_) fun x p hyes hno => ?_) (hclaims.no hrun)
      · cases hyes.symm.trans hno
      · cases hyes.symm.trans hno

/-- Any number of values, then a number, then any number of strings: two numbers and a string are cut into one,
one and one, and the greedy way would have left nothing for the number. -/
theorem isMatch_three_spread :
    let settings : Settings := Settings.usual
    let xs : List Value := [.number (.int 1), .number (.int 2), .string "a"]
    let ps : List Value := [.datatype (.named "anything" true), .datatype (.named "number" false),
      .datatype (.named "string" true)]
    ps.any isSpreadType = true ∧ CutInto isSpreadType (Claims settings) (Matches settings) xs ps ∧
      ((∃ yes, isMatch (.array xs) (.array ps) settings = .ok yes ∧
        (yes = true ↔ CutInto isSpreadType (Claims settings) (Matches settings) xs ps)) ∨
      ∃ e, isMatch (.array xs) (.array ps) settings = .error e ∧
        StopsAt settings isSpreadType claims isMatch e xs ps) := by
  intro settings xs ps
  have hnumber : Matches settings (.number (.int 2)) (.datatype (.named "number" false)) := by
    rw [Matches, isMatch_eq]
    rfl
  refine ⟨by decide, ?_, isMatch_array_spread settings xs ps (by decide)⟩
  exact .more rfl rfl (.enough rfl (.one rfl hnumber (.more rfl rfl (.enough rfl .nil))))

end Value

end StoryValues
