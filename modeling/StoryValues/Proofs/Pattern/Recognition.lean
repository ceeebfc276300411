import StoryValues.Datatype.Member
import StoryValues.Error.Limit
import StoryValues.Error.Renderer
import StoryValues.Proofs.Pattern.Built

/-
  A PATTERN RECOGNISES WHAT ITS PARTS SAY.

  `Datatype.spans` reads off a pattern which stretches of a text it describes; `Datatype.accepts` tries
  ways through the text and gives one up for the next.  For everything that can be built in which letter
  case counts, the two agree on whole strings.

  1. **The answer** is yes for the strings that the pattern spans from end to end, and no for the others
     (`Built.accepts_spec`).
  2. **Two refusals.**  A look ahead alone describes no text, and asking it is a story error.  A bound
     that a matcher cannot count up to is a fault of the host, who chose a limit that lets it in
     (`beyond_counting`); under any limit below that no pattern comes to it.
-/

namespace StoryValues

/-- Whether a datatype only looks ahead. -/
def Datatype.isLookAhead : Datatype → Bool
  | .pattern .notBefore .. => true
  | _ => false

namespace Pattern

open Step (literal)

variable {settings : Settings} {d : Datatype}

/-- Asking a look ahead is a story error, whatever it is asked about. -/
theorem accepts_lookAhead (h : d.isLookAhead = true) (v : Value) :
    d.accepts v = Check.fail "operation"
      s!"A ({Shape.notBefore.name}:) datatype must only be used with a (p:) macro." := by
  cases d with
  | named name spread => exact absurd h (by simp [Datatype.isLookAhead])
  | pattern shape parts folded spread =>
    cases shape with
    | notBefore => rfl
    | _ => exact absurd h (by simp [Datatype.isLookAhead])

/-- Any other pattern tries to read all of a string. -/
theorem accepts_string (hpattern : d.isPattern = true) (hahead : d.isLookAhead = false) (s : String) :
    d.accepts (.string s) = Check.lift (d.readsAll s) := by
  cases d with
  | named name spread => exact absurd hpattern (by simp [Datatype.isPattern])
  | pattern shape parts folded spread =>
    cases shape with
    | notBefore => exact absurd hahead (by simp [Datatype.isLookAhead])
    | _ => rfl

/-- Reading all of a string is a fault where a bound cannot be counted up to. -/
theorem readsAll_of_overflows (h : d.overflows = true) (s : String) :
    d.readsAll s = .error .repetitionTooLarge := by
  rw [Datatype.readsAll, Datatype.fullMatch?, if_pos h]
  rfl

/-- Otherwise it says whether there is a way through. -/
theorem readsAll_of_countable (h : d.overflows = false) (s : String) :
    d.readsAll s = .ok ((d.step false false 0).whole s.toList).isSome := by
  rw [Datatype.readsAll, Datatype.fullMatch?, h, if_neg (by decide)]
  rfl

/-- What is built is a pattern. -/
theorem Built.isPattern (h : Built settings d) : d.isPattern = true := by
  refine h.parts_induction (P := fun d => d.isPattern = true) ?_ ?_
  · intro shape parts _ _ _ _
    rfl
  · intro d hd
    cases d with
    | named name spread => exact absurd hd (by simp [Datatype.isPattern])
    | pattern shape parts folded spread => rfl

/-- **What a built pattern says of a string.**  A look ahead alone is refused with a story error, and a
bound beyond counting is a fault, which a limit below that rules out.  In all other cases there is an
answer, and it is yes iff the pattern spans the whole string. -/
theorem Built.accepts_spec (h : Built settings d) (s : String) :
    (d.isLookAhead = true → d.accepts (.string s) settings =
      Check.fail "operation" "A (p-not-before:) datatype must only be used with a (p:) macro."
        settings) ∧
    (d.isLookAhead = false → d.overflows = true →
      d.accepts (.string s) settings = .error (.fault .repetitionTooLarge)) ∧
    (d.isLookAhead = false → d.overflows = false →
      ∃ yes, d.accepts (.string s) settings = .ok yes ∧
        (yes = true ↔ d.spans s.toList 0 s.toList.length)) ∧
    (settings.repeatLimit < Bounds.tooMany → d.overflows = false) := by
  refine ⟨fun hahead => ?_, fun hahead hover => ?_, fun hahead hover => ?_, h.overflows_eq_false⟩
  · rw [accepts_lookAhead hahead]
    rfl
  · rw [accepts_string h.isPattern hahead, readsAll_of_overflows hover]
    rfl
  · refine ⟨_, ?_, Datatype.whole_iff h.plain s⟩
    rw [accepts_string h.isPattern hahead, readsAll_of_countable hover]
    rfl

/-- Any number of letters `a`, each of which may be missing, then no `b` but a `c`. -/
def lettersThenC : Datatype :=
  .pattern .sequence
    [.type (.pattern (.repeated (.atLeast (.int 0)))
        [.type (.pattern .optional [.text "a"] false false)] false false),
      .type (.pattern .notBefore [.text "b"] false false), .text "c"] false false

theorem built_lettersThenC : Built Settings.usual lettersThenC := by
  -- strings bring no pattern; the parts are built one by one, from the inside
  have htext : ∀ s : String, ∀ v ∈ [Value.string s], ∀ e, Brings v e → e.isPattern = true →
      Built Settings.usual e := by
    intro s v hv e he
    obtain rfl := List.mem_singleton.mp hv
    cases he
  have hletter : Built Settings.usual
      (.pattern .optional [.text "a"] false false) :=
    @Built.make _ .optional [.string "a"] _ (by decide) (by decide) (htext "a") (by decide)
  have hahead : Built Settings.usual
      (.pattern .notBefore [.text "b"] false false) :=
    @Built.make _ .notBefore [.string "b"] _ (by decide) (by decide) (htext "b") (by decide)
  have hletters : Built Settings.usual
      (.pattern (.repeated (.atLeast (.int 0)))
        [.type (.pattern .optional [.text "a"] false false)] false false) := by
    refine @Built.repeated _ [.number (.int 0), .datatype (.pattern .optional [.text "a"] false false)]
      _ ?_ (by decide +kernel)
    intro v hv e he _
    rcases List.mem_cons.mp hv with rfl | hv
    · cases he
    · obtain rfl := List.mem_singleton.mp hv
      cases he
      exact hletter
  refine @Built.make _ .sequence
    [.datatype (.pattern (.repeated (.atLeast (.int 0)))
        [.type (.pattern .optional [.text "a"] false false)] false false),
      .datatype (.pattern .notBefore [.text "b"] false false), .string "c"]
    _ (by decide) (by decide) ?_ (by decide)
  intro v hv e he _
  rcases List.mem_cons.mp hv with rfl | hv
  · cases he
    exact hletters
  · rcases List.mem_cons.mp hv with rfl | hv
    · cases he
      exact hahead
    · obtain rfl := List.mem_singleton.mp hv
      cases he

/-- Such a repetition reads `"aac"`, though its turns may read nothing. -/
theorem accepts_lettersThenC :
    Built Settings.usual lettersThenC ∧ lettersThenC.isLookAhead = false ∧
      ∃ yes, lettersThenC.accepts (.string "aac") Settings.usual = .ok yes ∧
        (yes = true ↔ lettersThenC.spans "aac".toList 0 "aac".toList.length) := by
  obtain ⟨_, _, hanswer, hlimit⟩ := built_lettersThenC.accepts_spec "aac"
  exact ⟨built_lettersThenC, rfl, hanswer rfl (hlimit (by decide))⟩

/-- **A bound beyond counting.**  Under a limit that lets it in, a repetition of between none and
`4294967295` letters `a` can be built, and spans `"a"`; but asked about `"a"` it gives no answer. -/
theorem beyond_counting :
    Built { Settings.usual with repeatLimit := 5000000000 } (.pattern
        (.repeated (.between (.int 0) (.int 4294967295))) [.text "a"] false false) ∧
      (Datatype.pattern (.repeated (.between (.int 0) (.int 4294967295))) [.text "a"] false
        false).spans "a".toList 0 "a".toList.length ∧
      (Datatype.pattern (.repeated (.between (.int 0) (.int 4294967295))) [.text "a"] false
        false).accepts (.string "a") { Settings.usual with repeatLimit := 5000000000 } =
          .error (.fault .repetitionTooLarge) := by
  refine ⟨?_, ?_, rfl⟩
  · refine @Built.repeated _ [.number (.int 0), .number (.int 4294967295), .string "a"] _ ?_
      (by decide +kernel)
    intro v hv e he
    simp only [List.mem_cons, List.not_mem_nil, or_false] at hv
    rcases hv with rfl | rfl | rfl <;> cases he
  · have hletter : literal "a".toList "a".toList 0 1 := ⟨by decide, by decide, by decide⟩
    exact ⟨1, ⟨by decide +kernel, by decide +kernel⟩, 1, ⟨1, hletter, rfl⟩, rfl⟩

end Pattern

end StoryValues
