import StoryValues.Proofs.Pattern.Destructured
import StoryValues.Proofs.Pattern.Mismatch

/-
  WHAT A PATTERN TOOK APART CAN BE PUT TOGETHER AGAIN.

  A variable is told its text by a number: captures count from the outside in and from left to right, and
  variables are listed by a walk of their own.  A pattern of texts and typed variables loses nothing on the
  way.  With each of its variables replaced by the variable's text, it is the string that it was given.

  1. **What is captured behind a place** (`Step.CapturesFrom`) has no smaller number.  This holds of the step
     of every datatype, whatever is in it: of a look ahead, which keeps nothing, and of repetition, by
     induction on its turns.
  2. **Tiles** (`Fragment.Tiles`) — texts and captures that make up what the fragments read, in order.  A
     capture is not covered up by those behind it, because they have greater numbers.
  3. **Pairs** — the variable before each text is the one that stands there in the pattern, and the variables
     inside it come between it and the next (`Reassembles`).
-/

namespace StoryValues

/-! ## Where captures are made -/

/-- Captures that are numbered from a base on. -/
def NumberedFrom (base : Nat) (new : Captures) : Prop := ∀ p ∈ new, base ≤ p.1

/-- No captures are numbered from anywhere. -/
theorem NumberedFrom.nil (base : Nat) : NumberedFrom base [] := nofun

/-- Captures of two steps are numbered from a base on when those of each are. -/
theorem NumberedFrom.append {base : Nat} {new new' : Captures} (h : NumberedFrom base new)
    (h' : NumberedFrom base new') : NumberedFrom base (new ++ new') := by
  intro p hp
  exact (List.mem_append.mp hp).elim (h p) (h' p)

/-- No other capture is found under a smaller number.  So a capture made early is still there behind those that were
made later in front of it. -/
theorem NumberedFrom.lookup_append {base index : Nat} {new : Captures} (h : NumberedFrom base new)
    (hindex : index < base) (captures : Captures) :
    (new ++ captures).lookup index = captures.lookup index := by
  have hnone : new.lookup index = none := by
    rw [List.lookup_eq_none_iff]
    intro p hp
    have hle := h p hp
    exact bne_iff_ne.mpr (Nat.ne_of_lt (Nat.lt_of_lt_of_le hindex hle))
  rw [List.lookup_append, hnone, Option.none_or]

namespace Step

/-- Every answer of the step comes about by reading a text from the front and making captures that are
numbered from the base on. -/
def CapturesFrom (base : Nat) (step : Step) : Prop :=
  ∀ s c k found, step s c k = some found → Passage ⊤ (NumberedFrom base) s c k found

variable {first second body : Step} {base : Nat}

/-- What reads without captures makes none anywhere: a capture would belong to a slot, and there is none. -/
theorem Fills.capturesFrom {L : Language Char} (h : body.Fills L 0 []) (base : Nat) : body.CapturesFrom base := by
  intro s c k found hfound
  obtain ⟨u, new, r, hs, _, hnew, hk⟩ := h s c k found hfound
  refine ⟨u, new, r, hs, trivial, fun p hp => ?_, hk⟩
  obtain ⟨_, _, _, hnone, _⟩ := hnew.each p.1 p.2 hp
  exact nomatch hnone

/-- After the first step an answer comes about by what the next one reads and captures.  Stated for any next step, so
that it serves both one step after another and the turns of a repetition. -/
theorem CapturesFrom.passage (h : first.CapturesFrom base) {s : List Char} {c found : Captures}
    {k next : Rest s → Captures → Option Captures}
    (hnext : ∀ (r : Rest s) c, next r c = some found →
      Passage ⊤ (NumberedFrom base) r.1 c (fun r' c => k ⟨r'.1, Nat.le_trans r'.2 r.2⟩ c) found)
    (hfound : first s c next = some found) : Passage ⊤ (NumberedFrom base) s c k found := by
  obtain ⟨u, new, r, hs, _, hnew, hk⟩ := h _ _ _ _ hfound
  obtain ⟨v, new', r', hr, _, hnew', hk⟩ := hnext r _ hk
  refine ⟨u ++ v, new' ++ new, ⟨r'.1, Nat.le_trans r'.2 r.2⟩, ?_, trivial, hnew'.append hnew, ?_⟩
  · rw [List.append_assoc, ← hr]
    exact hs
  · rw [List.append_assoc]
    exact hk

/-- One step after another captures from the base on, if both do. -/
theorem CapturesFrom.andThen (h : first.CapturesFrom base) (h' : second.CapturesFrom base) :
    (Step.andThen first second).CapturesFrom base :=
  fun _ _ _ _ hfound => h.passage (fun r c hk => h' r.1 c _ _ hk) hfound

/-- So does either of two steps. -/
theorem CapturesFrom.orElse (h : first.CapturesFrom base) (h' : second.CapturesFrom base) :
    (Step.orElse first second).CapturesFrom base := by
  intro s c k found hfound
  unfold Step.orElse at hfound
  cases hfirst : first s c k with
  | some answer =>
    rw [hfirst] at hfound
    exact h s c k found (hfirst.trans hfound)
  | none =>
    rw [hfirst] at hfound
    exact h' s c k found hfound

/-- A look ahead keeps no captures: its body is tried and forgotten. -/
theorem capturesFrom_notBefore (body : Step) (base : Nat) : (Step.notBefore body).CapturesFrom base := by
  intro s c k found hfound
  unfold Step.notBefore at hfound
  split at hfound
  · exact absurd hfound (Option.some_ne_none found).symm
  · exact ⟨[], [], _, rfl, trivial, .nil base, hfound⟩

/-- What a step reads is captured, in front of what it captures itself. -/
theorem CapturesFrom.captured {index : Nat} (h : body.CapturesFrom base) {s : List Char} {c found : Captures}
    {k : Rest s → Captures → Option Captures} (hfound : Step.capture index body s c k = some found) :
    ∃ u new, ∃ r : Rest s, s = u ++ r.1 ∧ NumberedFrom base new ∧ k r ((index, u) :: (new ++ c)) = some found := by
  obtain ⟨u, new, r, hs, _, hnew, hk⟩ := h _ _ _ _ hfound
  have hk : k r ((index, s.take (s.length - r.1.length)) :: (new ++ c)) = some found := hk
  rw [take_of_append hs] at hk
  exact ⟨u, new, r, hs, hnew, hk⟩

/-- A capture takes the number of the base, and what it captures inside has the numbers behind that. -/
theorem CapturesFrom.capture (h : body.CapturesFrom (base + 1)) : (Step.capture base body).CapturesFrom base := by
  intro s c k found hfound
  obtain ⟨u, new, r, hs, hnew, hk⟩ := h.captured hfound
  refine ⟨u, (base, u) :: new, r, hs, trivial, List.forall_mem_cons.mpr ⟨Nat.le_refl base, ?_⟩, hk⟩
  exact fun p hp => Nat.le_of_succ_le (hnew p hp)

/-- The turns of a repetition, by induction on them: each is what the body reads, and the further turns. -/
theorem CapturesFrom.turns (h : body.CapturesFrom base) {min : Nat} {max : Option Nat} (count : Nat)
    (last : Option Nat) : (turns body min max count last).CapturesFrom base := by
  intro s c k found hfound
  induction count, last, s, c, k using turns.induct body min max with
  | case1 count last s c k howed ih =>
    rw [Step.turns, if_pos howed] at hfound
    exact h.passage (fun r c => ih r c) hfound
  | case2 count last s c k hfree hgo answer hanswer ih =>
    rw [Step.turns, if_neg hfree, if_pos hgo, hanswer] at hfound
    exact h.passage (fun r c => ih r c) (hanswer.trans hfound)
  | case3 count last s c k hfree hgo hanswer ih =>
    rw [Step.turns, if_neg hfree, if_pos hgo, hanswer] at hfound
    exact ⟨[], [], _, rfl, trivial, .nil base, hfound⟩
  | case4 count last s c k hfree hgo =>
    rw [Step.turns, if_neg hfree, if_neg hgo] at hfound
    exact ⟨[], [], _, rfl, trivial, .nil base, hfound⟩

/-- A spread step captures from where its body does, being a repetition of it. -/
theorem CapturesFrom.spread (h : body.CapturesFrom base) (more : Bool) :
    (if more = true then body.star else body).CapturesFrom base := by
  cases more with
  | true => exact h.turns 0 none
  | false => exact h

/-- Captures numbered from a base on are numbered from any smaller one on. -/
theorem CapturesFrom.mono {base' : Nat} (h : body.CapturesFrom base') (hle : base ≤ base') :
    body.CapturesFrom base := by
  intro s c k found hfound
  obtain ⟨u, new, r, hs, hu, hnew, hk⟩ := h s c k found hfound
  exact ⟨u, new, r, hs, hu, fun p hp => Nat.le_trans hle (hnew p hp), hk⟩

end Step

/-- The step of a name makes no captures, or gives no answer at all when the name says nothing about text. -/
theorem capturesFrom_named (name : String) (spread fold more : Bool) (base : Nat) :
    ((Datatype.named name spread).step fold more base).CapturesFrom base := by
  unfold Datatype.step
  split
  · exact (Step.fills_anything 0).capturesFrom base
  · split
    · next piece hpiece =>
      have hpiece : piece.CapturesFrom base := by
        unfold pieceOf? at hpiece
        split at hpiece
        · exact Option.some.inj hpiece ▸ (Step.fills_newline 0).capturesFrom base
        · obtain ⟨test, _, rfl⟩ := Option.map_eq_some_iff.mp hpiece
          exact (Step.fills_char test 0).capturesFrom base
      exact hpiece.spread _
    · exact fun _ _ _ found hfound => absurd hfound (Option.some_ne_none found).symm

mutual

/-- **The step of a datatype makes captures from its base on.**  By recursion on the datatype along with its
fragments, with no condition on the datatype: look aheads and spread parts are among the cases. -/
theorem Datatype.capturesFrom : (d : Datatype) → ∀ fold more base, (d.step fold more base).CapturesFrom base
  | .named name spread, fold, more, base => capturesFrom_named name spread fold more base
  | .pattern shape parts folded spread, fold, more, base => by
    have hinside := Fragment.capturesFrom_steps parts (fold || folded) base
    unfold Datatype.step
    refine Step.CapturesFrom.spread ?_ _
    cases shape with
    | sequence => exact hinside
    | insensitive => exact hinside
    | either => exact Fragment.capturesFrom_choices parts (fold || folded) base
    | optional => exact hinside.turns 0 none
    | repeated b => exact hinside.turns 0 none
    | notBefore => exact Step.capturesFrom_notBefore _ base

/-- The step of a fragment captures from its base on; a typed variable takes the base itself, and its datatype goes on
from the next number. -/
theorem Fragment.capturesFrom : (f : Fragment) → ∀ fold base, (f.step fold base).CapturesFrom base
  | .text s, fold, base => by
    rw [Fragment.step]
    exact (Step.fills_text 0 _).capturesFrom base
  | .type d, fold, base => by
    rw [Fragment.step]
    exact Datatype.capturesFrom d fold false base
  | .typed d name rest, fold, base => by
    rw [Fragment.step]
    exact (Datatype.capturesFrom d fold rest (base + 1)).capture

/-- Fragments one after another capture from the first one's base on, since later ones have greater bases. -/
theorem Fragment.capturesFrom_steps : (fs : List Fragment) → ∀ fold base,
    (Fragment.steps fold base fs).CapturesFrom base
  | [], fold, base => by
    rw [Fragment.steps]
    exact (Step.fills_done 0).capturesFrom base
  | f :: fs, fold, base => by
    rw [Fragment.steps]
    exact (Fragment.capturesFrom f fold base).andThen
      ((Fragment.capturesFrom_steps fs fold _).mono (Nat.le_add_right base _))

/-- And so do fragments to choose from. -/
theorem Fragment.capturesFrom_choices : (fs : List Fragment) → ∀ fold base,
    (Fragment.choices fold base fs).CapturesFrom base
  | [], fold, base => by
    rw [Fragment.choices]
    exact (Step.fills_done 0).capturesFrom base
  | [f], fold, base => by
    rw [Fragment.choices]
    exact Fragment.capturesFrom f fold base
  | f :: g :: fs, fold, base =>
    (Fragment.capturesFrom f fold base).orElse
      ((Fragment.capturesFrom_choices (g :: fs) fold _).mono (Nat.le_add_right base _))

end

/-! ## Tiles -/

/-- The only text that is read as a literal one, letter by letter, is this text.  By recursion on the letters. -/
theorem eq_of_mem_lettered : ∀ {cs u : List Char}, u ∈ lettered (cs.map (letterTest false)) → u = cs
  | [], _, hu => hu
  | c :: cs, u, hu => by
    rw [List.map_cons, lettered, List.map_cons, List.prod_cons] at hu
    obtain ⟨a, ⟨x, rfl, hx⟩, b, hb, rfl⟩ := Language.mem_mul.mp hu
    rw [eq_of_mem_lettered hb, beq_iff_eq.mp (show (x == c) = true from hx)]
    rfl

namespace Fragment

/-- Whether a fragment is a text or a typed variable, and no datatype alone. -/
def isNamed : Fragment → Bool
  | .type _ => false
  | _ => true

/-- Texts and captures that make up a text: for each fragment in order its own text, or what was captured
for its variable. -/
def Tiles (captures : Captures) : Nat → List Fragment → List Char → Prop
  | _, [], u => u = []
  | base, .text t :: fs, u => ∃ v, u = t.toList ++ v ∧ Tiles captures base fs v
  | base, .type d :: fs, u => ∃ t v, u = t ++ v ∧ Tiles captures (base + d.captures) fs v
  | base, .typed d _ _ :: fs, u =>
    ∃ t v, u = t ++ v ∧ captures.lookup base = some t ∧ Tiles captures (base + (1 + d.captures)) fs v

/-- **Fragments read what they tile.**  The captures that they make tile it together with any that were made before,
since these have smaller numbers or are covered up.  By recursion on the fragments; that captures *before* are
quantified over is what lets the fragments behind be used for the whole. -/
theorem tiles_of_steps : ∀ {fs : List Fragment}, (∀ f ∈ fs, f.isNamed = true) → ∀ {base : Nat} {s : List Char}
    {c found : Captures} {k : Rest s → Captures → Option Captures},
    Fragment.steps false base fs s c k = some found →
    ∃ u new, ∃ r : Rest s, s = u ++ r.1 ∧ NumberedFrom base new ∧
      (∀ before, Tiles (new ++ before) base fs u) ∧ k r (new ++ c) = some found
  | [], _, base, s, c, found, k, h => ⟨[], [], _, rfl, .nil base, fun _ => rfl, h⟩
  | f :: fs, hnamed, base, s, c, found, k, h => by
    obtain ⟨hf, hfs⟩ := List.forall_mem_cons.mp hnamed
    rw [Fragment.steps] at h
    cases f with
    | type d => exact nomatch hf
    | text t =>
      obtain ⟨u, new, r, hs, hu, hnew, hk⟩ := Step.fills_text base _ _ _ _ _ h
      obtain rfl := eq_of_mem_lettered hu
      obtain rfl : new = [] := List.eq_nil_iff_forall_not_mem.mpr fun p hp => by
        obtain ⟨_, _, _, hnone, _⟩ := hnew.each p.1 p.2 hp
        exact nomatch hnone
      obtain ⟨v, new', r', hr, hnew', htiles, hk⟩ := tiles_of_steps hfs hk
      refine ⟨t.toList ++ v, new', ⟨r'.1, Nat.le_trans r'.2 r.2⟩, ?_, hnew', fun before => ⟨v, rfl, htiles before⟩, hk⟩
      rw [List.append_assoc, ← hr]
      exact hs
    | typed d name rest =>
      rw [Fragment.step] at h
      obtain ⟨u, new, r, hs, hnew, hk⟩ := (d.capturesFrom false rest (base + 1)).captured h
      obtain ⟨v, new', r', hr, hnew', htiles, hk⟩ := tiles_of_steps hfs hk
      refine ⟨u ++ v, new' ++ (base, u) :: new, ⟨r'.1, Nat.le_trans r'.2 r.2⟩, ?_, ?_, fun before => ?_, ?_⟩
      · rw [List.append_assoc, ← hr]
        exact hs
      · refine NumberedFrom.append (fun p hp => ?_) (List.forall_mem_cons.mpr ⟨Nat.le_refl base, fun p hp => ?_⟩)
        · exact Nat.le_trans (Nat.le_add_right base _) (hnew' p hp)
        · exact Nat.le_of_succ_le (hnew p hp)
      · rw [List.append_assoc]
        refine ⟨u, v, rfl, ?_, htiles _⟩
        -- the captures behind have greater numbers
        rw [hnew'.lookup_append (by rw [Fragment.captures]; omega), List.cons_append, List.lookup_cons_self]
      · rw [List.append_assoc]
        exact hk

/-- Where a pattern of texts and variables reads a whole string, these tile the string: what follows the fragments
accepts only where nothing is left. -/
theorem tiles_of_fullMatch {parts : List Fragment} (hnamed : ∀ f ∈ parts, f.isNamed = true) {s : String}
    {captures : Captures}
    (h : (Datatype.pattern .sequence parts false false).fullMatch? s = .ok (some captures)) :
    Tiles captures 0 parts s.toList := by
  unfold Datatype.fullMatch? at h
  split at h
  · exact nomatch h
  · have hwhole : Fragment.steps false 0 parts s.toList [] (fun r c => if r.1 = [] then some c else none) =
        some captures := Except.ok.inj h
    obtain ⟨u, new, r, hs, _, htiles, hend⟩ := tiles_of_steps hnamed hwhole
    split at hend
    · next hnil =>
      rw [hnil, List.append_nil] at hs
      obtain rfl := Option.some.inj hend
      exact hs ▸ htiles []
    · exact nomatch hend

/-- A variable among fragments is one of their variables, as it stands there, since around it nothing leaves letter
case out of account. -/
theorem mem_typedVars_self {fs : List Fragment} {d : Datatype} {name : String} {rest : Bool}
    (h : .typed d name rest ∈ fs) : (⟨d, name, rest⟩ : TypedVar) ∈ typedVars false false fs := by
  induction fs with
  | nil => exact absurd h List.not_mem_nil
  | cons f fs ih =>
    rcases List.mem_cons.mp h with rfl | htail
    · exact List.mem_append_left _ List.mem_cons_self
    · cases f with
      | text t => exact ih htail
      | type e => exact List.mem_append_right _ (ih htail)
      | typed e name' rest' => exact List.mem_append_right _ (ih htail)

end Fragment

/-! ## Pairs -/

/-- There are as many variables as captures, whichever way they are reported: both are as many as the slots. -/
theorem Datatype.length_typedVars (d : Datatype) (fold : Bool) : (d.typedVars fold).length = d.captures := by
  rw [← d.map_var_slots fold false, List.length_map, d.length_slots]

namespace Pattern

variable {settings : Settings}

/-- A string is put together again from fragments and from pairs of variables and texts: each text stands for
itself, and each variable for the text in its pair.  The pairs of the variables inside it come next. -/
inductive Reassembles : List Fragment → List (TypedVar × String) → String → Prop
  | nil : Reassembles [] [] ""
  | text {fs : List Fragment} {pairs : List (TypedVar × String)} {s : String} (t : String) :
      Reassembles fs pairs s → Reassembles (.text t :: fs) pairs (t ++ s)
  | typed {fs : List Fragment} {pairs inside : List (TypedVar × String)} {s : String} {d : Datatype}
      (name : String) (rest : Bool) (t : String) : inside.map Prod.fst = d.typedVars false →
      Reassembles fs pairs s →
      Reassembles (.typed d name rest :: fs) ((⟨d, name, rest⟩, t) :: (inside ++ pairs)) (t ++ s)

/-- Pairing variables with captures leaves the variables as they are listed. -/
theorem map_fst_pairsFrom (captures : Captures) (base : Nat) (vars : List TypedVar) :
    (pairsFrom captures base vars).map Prod.fst = vars := by
  rw [pairsFrom, List.map_map]
  exact List.zipIdx_map_fst base vars

/-- **What fragments tile is put together again from the captures.**  By recursion on the fragments: a variable and
those inside it take as many pairs as it makes captures, so the pairs of the next fragment begin at its base. -/
theorem reassembles_of_tiles {captures : Captures} : ∀ {fs : List Fragment}, (∀ f ∈ fs, f.isNamed = true) →
    ∀ {base : Nat} {u : List Char}, Fragment.Tiles captures base fs u →
    Reassembles fs (pairsFrom captures base (Fragment.typedVars false false fs)) (String.ofList u)
  | [], _, base, u, h => by
    obtain rfl : u = [] := h
    exact .nil
  | f :: fs, hnamed, base, u, h => by
    obtain ⟨hf, hfs⟩ := List.forall_mem_cons.mp hnamed
    cases f with
    | type d => exact nomatch hf
    | text t =>
      obtain ⟨v, rfl, hv⟩ := h
      rw [String.ofList_append, String.ofList_toList]
      exact .text t (reassembles_of_tiles hfs hv)
    | typed d name rest =>
      obtain ⟨t, v, rfl, ht, hv⟩ := h
      have hcaptured : captured captures base = String.ofList t := by rw [captured, ht, Option.getD_some]
      -- one pair for the variable, those of the variables inside, and those of the other fragments
      have hpairs : pairsFrom captures base (Fragment.typedVars false false (.typed d name rest :: fs)) =
          (⟨d, name, rest⟩, String.ofList t) :: (pairsFrom captures (base + 1) (d.typedVars false) ++
            pairsFrom captures (base + (1 + d.captures)) (Fragment.typedVars false false fs)) := by
        rw [Fragment.typedVars, if_neg Bool.false_ne_true, List.cons_append, pairsFrom, List.zipIdx_cons,
          List.zipIdx_append, List.map_cons, List.map_append, hcaptured, d.length_typedVars, Nat.add_assoc]
        rfl
      rw [hpairs, String.ofList_append]
      exact .typed name rest (String.ofList t) (map_fst_pairsFrom _ _ _) (reassembles_of_tiles hfs hv)

/-- The pattern of some fragments has these: each argument is the value of its fragment, and a value stands for one
fragment. -/
theorem eq_of_make_toValue {shape : Shape} {parts : List Fragment} {d : Datatype}
    (h : make shape (parts.map Fragment.toValue) settings = .ok d) :
    d = .pattern shape parts (shape == .insensitive) false := by
  obtain ⟨parts', rfl, hall⟩ := of_make h
  rw [List.forall₂_map_left_iff] at hall
  have hsame : List.Forall₂ Eq parts parts' := by
    refine hall.imp fun f f' hf => ?_
    have hvalue := congrArg Fragment.ofValue? (eq_toValue_of_fragment hf)
    rw [Fragment.ofValue?_toValue, Fragment.ofValue?_toValue] at hvalue
    exact Option.some.inj hvalue
  rw [List.forall₂_eq_eq_eq] at hsame
  rw [hsame]

/-- **De-structuring loses no text.**  Let a pattern be made as a sequence of texts and typed variables, with
one variable at least, whatever patterns there are in these.  Each string that it accepts it takes apart, into
one pair for each typed variable in it, in the order in which they are listed; there are as many captures as
that.  And the fragments, each variable replaced by its own text, make up the string. -/
theorem destructure_reassembles {parts : List Fragment} {d : Datatype}
    (hmake : make .sequence (parts.map Fragment.toValue) settings = .ok d)
    (hnamed : ∀ f ∈ parts, f.isNamed = true) (hvar : ∃ e name rest, .typed e name rest ∈ parts) {s : String}
    (haccepts : d.accepts (.string s) settings = .ok true) :
    ∃ pairs, destructure d (.string s) settings = .ok pairs ∧ pairs.map Prod.fst = d.typedVars false ∧
      (d.typedVars false).length = d.captures ∧ Reassembles parts pairs s := by
  obtain rfl : d = .pattern .sequence parts false false := eq_of_make_toValue hmake
  have hvars : (Datatype.pattern .sequence parts false false).typedVars false ≠ [] := by
    obtain ⟨e, name, rest, hmem⟩ := hvar
    exact List.ne_nil_of_mem (Fragment.mem_typedVars_self hmem)
  rw [accepts_eq rfl rfl] at haccepts
  rw [destructure_of_vars hvars]
  cases hmatch : (Datatype.pattern .sequence parts false false).fullMatch? s with
  | error fault =>
    rw [hmatch] at haccepts
    exact nomatch haccepts
  | ok captures? =>
    rw [hmatch] at haccepts
    obtain ⟨captures, rfl⟩ := Option.isSome_iff_exists.mp (Except.ok.inj haccepts)
    refine ⟨_, rfl, map_fst_pairsFrom _ _ _, Datatype.length_typedVars _ _, ?_⟩
    have htiles := Fragment.tiles_of_fullMatch hnamed hmatch
    have hreassembles := reassembles_of_tiles hnamed htiles
    rwa [String.ofList_toList] at hreassembles

/-- A word for one variable, with its first letter for another. -/
def wordFromFirst : Datatype :=
  .pattern .sequence [.typed (.named "alphanumeric" false) "first" false, .type (.named "string" false)] false false

/-- A word, a blank, and a digit: one variable in the other has its text from inside the other's. -/
theorem destructure_reassembles_word :
    let settings : Settings := Settings.usual
    let parts : List Fragment :=
      [.typed wordFromFirst "word" false, .text " ", .typed (.named "digit" false) "place" false]
    let d : Datatype := .pattern .sequence parts false false
    make .sequence (parts.map Fragment.toValue) settings = .ok d ∧
      d.accepts (.string "hello 4") settings = .ok true ∧
      ∃ pairs, destructure d (.string "hello 4") settings = .ok pairs ∧
        pairs.map (fun p => (p.1.name, p.2)) = [("word", "hello"), ("first", "h"), ("place", "4")] ∧
        Reassembles parts pairs "hello 4" := by
  intro settings parts d
  have hmake : make .sequence (parts.map Fragment.toValue) settings = .ok d := by decide +kernel
  have haccepts : d.accepts (.string "hello 4") settings = .ok true := by decide +kernel
  have hpairs : destructure d (.string "hello 4") settings =
      .ok [(⟨wordFromFirst, "word", false⟩, "hello"), (⟨.named "alphanumeric" false, "first", false⟩, "h"),
        (⟨.named "digit" false, "place", false⟩, "4")] := by decide +kernel
  obtain ⟨pairs, hsame, _, _, hreassembles⟩ :=
    destructure_reassembles hmake (by decide) ⟨_, _, _, List.mem_cons_self⟩ haccepts
  obtain rfl := Except.ok.inj (hpairs.symm.trans hsame)
  exact ⟨hmake, haccepts, _, hpairs, rfl, hreassembles⟩

end Pattern

end StoryValues
