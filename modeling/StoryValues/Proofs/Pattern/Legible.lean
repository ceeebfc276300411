import StoryValues.Proofs.Pattern.Destructured
import StoryValues.Proofs.Value.Unambiguous

/-
  READING A PATTERN OFF ITS SOURCE.

  Patterns are compared by their source text.  Two datatypes that are written alike agree in everything
  that reading depends on, except for letter case, which the source does not show.

  1. **Same form** — `Datatype.SameForm`: the same shapes and texts in the same places, with bounds that
     count alike.  A typed variable is spread itself or has a spread datatype, which comes to the same.
  2. **Legible datatypes** — `Datatype.Legible`: their names say something about text, their bounds are
     counts, and the names of their variables have no comma and no closing parenthesis.  What is behind
     the name of a variable could otherwise be taken for a part of it.
  3. **One text, one form** (`sameForm_of_source`).  Two texts are read from the left with something
     behind each, as those of data are, by induction on the first datatype: a quote starts a text, dots
     start something spread, a letter starts a name, a parenthesis starts a pattern, and a digit, a sign
     or the letter of infinity a bound (`Fragment.starts`).
-/

namespace StoryValues

/-! ## Same form -/

/-- The shapes are the same, and repetitions have the same bounds once they are counted. -/
def Shape.SameForm : Shape → Shape → Prop
  | .repeated b, .repeated c => b.least = c.least ∧ b.most = c.most
  | shape, shape' => shape = shape'

mutual

/-- Two datatypes that differ only in letter case, and in whether they are spread themselves. -/
inductive Datatype.SameForm : Datatype → Datatype → Prop
  | named {name : String} {s t : Bool} : Datatype.SameForm (.named name s) (.named name t)
  | pattern {shape shape' : Shape} {ps qs : List Fragment} {f g s t : Bool} : shape.SameForm shape' →
      List.Forall₂ Fragment.SameForm ps qs →
      Datatype.SameForm (.pattern shape ps f s) (.pattern shape' qs g t)

/-- Two fragments that differ only in letter case, in the names of variables, and in which way these
are spread. -/
inductive Fragment.SameForm : Fragment → Fragment → Prop
  | text {s : String} : Fragment.SameForm (.text s) (.text s)
  | type {d e : Datatype} : d.isSpread = e.isSpread → Datatype.SameForm d e →
      Fragment.SameForm (.type d) (.type e)
  | typed {d e : Datatype} {n m : String} {r q : Bool} : (d.isSpread || r) = (e.isSpread || q) →
      Datatype.SameForm d e → Fragment.SameForm (.typed d n r) (.typed e m q)

end

/-! ## Legible datatypes -/

/-- A name that shows where it ends. -/
def IsDelimited (name : String) : Prop := ∀ c ∈ name.toList, c ≠ ',' ∧ c ≠ ')'

mutual

/-- A legible datatype: its names say something about text, and its bounds are counts. -/
def Datatype.Legible : Datatype → Prop
  | .named name _ => isTextName name = true
  | .pattern shape parts _ _ =>
    (∀ b, shape = .repeated b → ∃ limit, b.WellMade limit) ∧ Fragment.AllLegible parts

/-- A fragment with a legible datatype, or none, and a name that shows where it ends. -/
def Fragment.Legible : Fragment → Prop
  | .text _ => True
  | .type d => d.Legible
  | .typed d name _ => IsDelimited name ∧ d.Legible

/-- Legible fragments. -/
def Fragment.AllLegible : List Fragment → Prop
  | [] => True
  | f :: fs => f.Legible ∧ Fragment.AllLegible fs

end

/-- Fragments are legible one by one. -/
theorem Fragment.allLegible_iff {fs : List Fragment} :
    Fragment.AllLegible fs ↔ ∀ f ∈ fs, f.Legible := by
  induction fs with
  | nil => exact ⟨fun _ f hf => absurd hf List.not_mem_nil, fun _ => trivial⟩
  | cons f fs ih => rw [Fragment.AllLegible, ih, List.forall_mem_cons]

/-! ## Bounds -/

namespace Number

variable {x y : Number} {a : Nat}

/-- An infinite number has not the value of a count: the two lie on different sides of the finite numbers. -/
theorem isInfinite_of_sameValue (h : x.sameValue y = true) (hx : x.isInfinite = true) :
    ¬ y.IsCount a := by
  intro hy
  obtain ⟨_, _, hside, _⟩ := sameValue_iff.mp h
  rw [hy.side] at hside
  cases x with
  | int n => exact nomatch hx
  | real d =>
    cases d with
    | infinite negative => cases negative <;> exact absurd hside (by decide)
    | finite => exact nomatch hx
    | nan => exact nomatch hx

end Number

namespace Bounds

variable {b c : Bounds} {l m : Int}

/-- Counts of one value count alike, whichever kinds of number they are written as. -/
theorem truncate_of_sameValue {x y : Number} {i j : Nat} (hx : x.IsCount i) (hy : y.IsCount j)
    (h : x.sameValue y = true) : x.truncate.toNat = y.truncate.toNat := by
  rw [least_of_isCount hx, least_of_isCount hy, (hx.sameValue_iff hy).mp h]

/-- Bounds are numbers: counts are, and an upper bound without end is above zero, so it can be compared. -/
theorem WellMade.isNumber (h : b.WellMade l) : ∀ n ∈ b.numbers, n.isNumber = true := by
  cases b with
  | once => exact fun n hn => absurd hn List.not_mem_nil
  | atLeast min =>
    obtain ⟨_, hmin, _⟩ := h
    exact List.forall_mem_singleton.mpr hmin.isNumber
  | between min max =>
    obtain ⟨_, hmin, _, ⟨hinf, hpos⟩ | ⟨_, hmax, _⟩⟩ := h
    · rw [Number.lt, Bool.and_eq_true, Bool.and_eq_true] at hpos
      exact List.forall_mem_cons.mpr ⟨hmin.isNumber, List.forall_mem_singleton.mpr hpos.1.2⟩
    · exact List.forall_mem_cons.mpr ⟨hmin.isNumber, List.forall_mem_singleton.mpr hmax.isNumber⟩

/-- **Bounds of the same values count alike.**  There must be as many of them in both.  Upper bounds of one value are
both without end or both counts. -/
theorem counted_of_sameValue (hb : b.WellMade l) (hc : c.WellMade m)
    (h : List.Forall₂ (fun x y => Number.sameValue x y = true) b.numbers c.numbers) :
    b.least = c.least ∧ b.most = c.most := by
  cases b with
  | once =>
    cases c with
    | once => exact ⟨rfl, rfl⟩
    | atLeast _ => exact nomatch h
    | between _ _ => exact nomatch h
  | atLeast x =>
    cases c with
    | once => exact nomatch h
    | atLeast y =>
      obtain ⟨_, hx, _⟩ := hb
      obtain ⟨_, hy, _⟩ := hc
      obtain ⟨hxy, _⟩ := List.forall₂_cons.mp h
      exact ⟨truncate_of_sameValue hx hy hxy, rfl⟩
    | between _ _ =>
      obtain ⟨_, h⟩ := List.forall₂_cons.mp h
      exact nomatch h
  | between x x' =>
    cases c with
    | once => exact nomatch h
    | atLeast _ =>
      obtain ⟨_, h⟩ := List.forall₂_cons.mp h
      exact nomatch h
    | between y y' =>
      obtain ⟨_, hx, _, hx'⟩ := hb
      obtain ⟨_, hy, _, hy'⟩ := hc
      obtain ⟨hxy, h⟩ := List.forall₂_cons.mp h
      obtain ⟨hxy', _⟩ := List.forall₂_cons.mp h
      refine ⟨truncate_of_sameValue hx hy hxy, ?_⟩
      -- upper bounds of one value are both without end or both counts
      rcases hx' with ⟨hinf, _⟩ | ⟨_, hx', _⟩
      · rcases hy' with ⟨hinf', _⟩ | ⟨_, hy', _⟩
        · rw [most, most, if_pos hinf, if_pos hinf']
        · exact absurd hy' (Number.isInfinite_of_sameValue hxy' hinf)
      · rcases hy' with ⟨hinf', _⟩ | ⟨_, hy', _⟩
        · exact absurd hx' (Number.isInfinite_of_sameValue (Number.sameValue_symm hxy') hinf')
        · rw [most, most, hx'.isInfinite, hy'.isInfinite, truncate_of_sameValue hx' hy' hxy']

end Bounds

/-! ## Texts -/

/-- The source of a datatype without the mark of something spread. -/
def Datatype.core : Datatype → String
  | .named name _ => name
  | .pattern shape parts _ _ =>
    Value.callText shape.name (shape.bounds.map Number.written ++ Fragment.sources parts)

/-- The source of a datatype is the mark of something spread, if it is, and its core. -/
theorem Datatype.source_eq (d : Datatype) : d.source = dots d.isSpread ++ d.core := by
  cases d with
  | named name spread => rw [source, isSpread, core]
  | pattern shape parts folded spread =>
    rw [source, isSpread, core, Value.callText, String.append_assoc, String.append_assoc,
      String.append_assoc, String.append_assoc, String.append_assoc, String.append_assoc,
      String.append_assoc]

/-- A name that says something about text is a word in small letters.  It is one of a fixed list, and the list is gone
through. -/
theorem isLower_textName {name : String} (h : isTextName name = true) :
    (∃ c cs, name.toList = c :: cs) ∧ ∀ c ∈ name.toList, c.isLower = true := by
  have hall : ("string" :: Datatype.characterTypes).all
      (fun n => !n.toList.isEmpty && n.toList.all Char.isLower) = true := by decide
  have hmem : name ∈ "string" :: Datatype.characterTypes := by
    rcases textName_cases h with rfl | h
    · exact List.mem_cons_self
    · exact List.mem_cons_of_mem _ h
  obtain ⟨hne, hlower⟩ := Bool.and_eq_true_iff.mp (List.all_eq_true.mp hall name hmem)
  refine ⟨List.exists_cons_of_ne_nil ?_, List.all_eq_true.mp hlower⟩
  simpa using hne

/-- The character that the source of a datatype starts with, dots apart: a small letter, or a parenthesis.  With it
names and patterns are told apart, and both from the dots in front of them. -/
theorem Datatype.head_core {d : Datatype} (h : d.Legible) :
    ∃ c cs, d.core.toList = c :: cs ∧ (c.isLower = true ∨ c = '(') := by
  cases d with
  | named name spread =>
    obtain ⟨⟨c, cs, hname⟩, hlower⟩ := isLower_textName h
    exact ⟨c, cs, hname, Or.inl (hlower c (hname ▸ List.mem_cons_self))⟩
  | pattern shape parts folded spread =>
    have htext := Value.toList_callText shape.name
      (shape.bounds.map Number.written ++ Fragment.sources parts) []
    rw [List.append_nil] at htext
    exact ⟨'(', _, htext, Or.inr rfl⟩

namespace Fragment

/-- The characters that a datatype in a pattern starts with. -/
def starts (c : Char) : Bool := c == '.' || c == '(' || c.isLower

/-- No digit is among them, so that a bound is no datatype. -/
theorem not_isDigit_of_starts {c : Char} (h : starts c = true) : ¬ c.isDigit = true := by
  intro hdigit
  simp only [starts, Bool.or_eq_true, beq_iff_eq] at h
  rcases h with (rfl | rfl) | hlower
  · exact absurd hdigit (by decide)
  · exact absurd hdigit (by decide)
  · obtain ⟨-, hnine⟩ := (Bool.and_eq_true _ _).mp hdigit
    obtain ⟨hletter, -⟩ := (Bool.and_eq_true _ _).mp hlower
    have hbelow : 'a'.val ≤ '9'.val := UInt32.le_trans (of_decide_eq_true hletter) (of_decide_eq_true hnine)
    exact absurd hbelow (by decide)

/-- With dots in front or without, a text that starts like a datatype still does. -/
theorem starts_dots (r : Bool) (rest : List Char) (h : ∃ c cs, rest = c :: cs ∧ starts c = true) :
    ∃ c cs, (dots r).toList ++ rest = c :: cs ∧ starts c = true := by
  cases r with
  | false => exact h
  | true => exact ⟨'.', _, rfl, rfl⟩

/-- The core of a datatype starts like one, whatever is behind it. -/
theorem starts_core {d : Datatype} (h : d.Legible) (rest : List Char) :
    ∃ c cs, d.core.toList ++ rest = c :: cs ∧ starts c = true := by
  obtain ⟨c, cs, hcore, hc⟩ := d.head_core h
  refine ⟨c, cs ++ rest, by rw [hcore, List.cons_append], ?_⟩
  rcases hc with hc | rfl
  · rw [starts, hc, Bool.or_true]
  · rfl

/-- A fragment starts with a quote or like a datatype.  A parenthesis that closes does neither, and neither does a
number. -/
theorem head_source {f : Fragment} (h : f.Legible) (rest : List Char) :
    ∃ c cs, f.source.toList ++ rest = c :: cs ∧ (c = '"' ∨ starts c = true) := by
  cases f with
  | text s =>
    rw [source, toList_quoted]
    exact ⟨'"', _, rfl, Or.inl rfl⟩
  | type d =>
    rw [source, d.source_eq, String.toList_append, List.append_assoc]
    obtain ⟨c, cs, hcs, hc⟩ := starts_dots d.isSpread _ (starts_core h rest)
    exact ⟨c, cs, hcs, Or.inr hc⟩
  | typed d name r =>
    rw [source, d.source_eq]
    simp only [String.toList_append, List.append_assoc]
    obtain ⟨c, cs, hcs, hc⟩ := starts_dots r _ (starts_dots d.isSpread _ (starts_core h.2 _))
    exact ⟨c, cs, hcs, Or.inr hc⟩

end Fragment

/-! ## One text, one form -/

/-- What may stand behind the core of a datatype: an end, or the hyphen before the name of a variable. -/
def Follows (p : List Char) : Prop := ∀ c ∈ p.head?, c.isLower = false

/-- An end may stand behind a core: no end is a letter. -/
theorem Value.Ends.follows {p : List Char} (h : Value.Ends p) : Follows p := by
  cases h with
  | nothing => exact nofun
  | comma rest => exact fun c hc => Option.some.inj hc ▸ rfl
  | close rest => exact fun c hc => Option.some.inj hc ▸ rfl

/-- The core of a datatype, with something behind it, is the core of another only if the two have the same
form, and so has what is behind them. -/
def Datatype.CoreApart (d : Datatype) : Prop :=
  ∀ e p q, e.Legible → Follows p → Follows q → d.core.toList ++ p = e.core.toList ++ q →
    d.SameForm e ∧ p = q

/-- What the items of a pattern's source are: bounds, and then fragments. -/
abbrev Item := Number ⊕ Fragment

namespace Item

/-- The text of an item. -/
def text : Item → String := Sum.elim Number.written Fragment.source

/-- An item is a number or a legible fragment. -/
def Legible : Item → Prop := Sum.elim (fun n => n.isNumber = true) Fragment.Legible

/-- Bounds of one value, or fragments of the same form. -/
abbrev SameForm : Item → Item → Prop := Sum.LiftRel (fun m n => m.sameValue n = true) Fragment.SameForm

/-- The items of a pattern. -/
def all (shape : Shape) (parts : List Fragment) : List Item :=
  shape.bounds.map Sum.inl ++ parts.map Sum.inr

/-- The texts of the items are what the source of a pattern has inside: bounds, and then fragments. -/
theorem map_text_all (shape : Shape) (parts : List Fragment) :
    (all shape parts).map text = shape.bounds.map Number.written ++ Fragment.sources parts := by
  have hsources : Fragment.sources parts = parts.map Fragment.source := by
    induction parts with
    | nil => rfl
    | cons f fs ih => rw [Fragment.sources, ih, List.map_cons]
  rw [all, List.map_append, List.map_map, List.map_map, hsources]
  rfl

/-- Bounds come before fragments, so they agree among themselves.  Where one pattern has more bounds than the other,
one of them would face a fragment, which no bound has the form of. -/
theorem forall₂_all {ms ns : List Number} {fs gs : List Fragment}
    (h : List.Forall₂ SameForm (ms.map Sum.inl ++ fs.map Sum.inr) (ns.map Sum.inl ++ gs.map Sum.inr)) :
    List.Forall₂ (fun m n => m.sameValue n = true) ms ns ∧ List.Forall₂ Fragment.SameForm fs gs := by
  induction ms generalizing ns with
  | nil =>
    cases ns with
    | nil =>
      refine ⟨.nil, ?_⟩
      rw [List.map_nil, List.nil_append, List.nil_append, List.forall₂_map_left_iff,
        List.forall₂_map_right_iff] at h
      exact h.imp fun _ _ hfg => Sum.liftRel_inr_inr.mp hfg
    | cons n ns =>
      cases fs with
      | nil => exact nomatch h
      | cons f fs => exact absurd (List.forall₂_cons.mp h).1 Sum.not_liftRel_inr_inl
  | cons m ms ih =>
    cases ns with
    | nil =>
      cases gs with
      | nil => exact nomatch h
      | cons g gs => exact absurd (List.forall₂_cons.mp h).1 Sum.not_liftRel_inl_inr
    | cons n ns =>
      obtain ⟨hmn, h⟩ := List.forall₂_cons.mp h
      obtain ⟨hnumbers, hfragments⟩ := ih h
      cases hmn with
      | inl hmn => exact ⟨.cons hmn hnumbers, hfragments⟩

/-- No item starts with a parenthesis that closes, which is what `Value.inside_cancel` asks of items. -/
theorem text_ne_close (i : Item) (s : String) (p r : List Char) (hi : i.Legible)
    (hs : (Except.ok i.text : Except Fault String) = .ok s) : s.toList ++ p ≠ ')' :: r := by
  obtain rfl := Except.ok.inj hs
  intro hclose
  cases i with
  | inl n =>
    obtain ⟨c, cs, hcs, hc⟩ := (Number.shown_written hi).head
    have hcs : n.written.toList = c :: cs := hcs
    rw [show (text (Sum.inl n)).toList = n.written.toList from rfl, hcs] at hclose
    obtain rfl := (List.cons.inj hclose).1
    rcases hc with hc | hc | hc <;> exact absurd hc (by decide)
  | inr f =>
    obtain ⟨c, cs, hcs, hc⟩ := Fragment.head_source hi p
    rw [show (text (Sum.inr f)).toList = f.source.toList from rfl, hcs] at hclose
    obtain rfl := (List.cons.inj hclose).1
    rcases hc with hc | hc <;> exact absurd hc (by decide)

/-- The text of an item, with an end behind it, is the text of another only if the two have the same form. -/
abbrev Apart (i : Item) : Prop := Value.Apart Legible (fun i => .ok i.text) SameForm i

/-- Numbers start with other characters than fragments: a digit, a sign or the letter of infinity. -/
theorem number_ne_fragment {n : Number} {f : Fragment} {p q : List Char} (hn : n.isNumber = true)
    (hf : f.Legible) : n.written.toList ++ p ≠ f.source.toList ++ q := by
  intro h
  obtain ⟨c, cs, hcs, hc⟩ := (Number.shown_written hn).head
  obtain ⟨c', cs', hcs', hc'⟩ := Fragment.head_source hf q
  rw [hcs, hcs', List.cons_append] at h
  obtain rfl := (List.cons.inj h).1
  rcases hc with hc | rfl | rfl
  · rcases hc' with rfl | hc'
    · exact absurd hc (by decide)
    · exact absurd hc (Fragment.not_isDigit_of_starts hc')
  · rcases hc' with hc' | hc' <;> exact absurd hc' (by decide)
  · rcases hc' with hc' | hc' <;> exact absurd hc' (by decide)

/-- The text of a number ends where no number goes on, and numbers with one text have one value. -/
theorem apart_number {n : Number} (hn : n.isNumber = true) : Apart (.inl n) := by
  intro i s t p q hi hs ht hp hq h
  obtain rfl := Except.ok.inj hs
  obtain rfl := Except.ok.inj ht
  cases i with
  | inl m =>
    obtain ⟨hformat, hpq⟩ := Value.undelimited_cancel (Number.shown_written hn).undelimited
      (Number.shown_written hi).undelimited hp hq h
    exact ⟨.inl ((Number.written_eq_iff hn hi).mp (String.toList_inj.mp hformat)), hpq⟩
  | inr f => exact absurd h (number_ne_fragment hn hi)

/-- Each item is written as its text. -/
theorem forall₂_text (items : List Item) :
    List.Forall₂ (fun i s => (Except.ok i.text : Except Fault String) = .ok s) items (items.map text) := by
  rw [List.forall₂_map_right_iff, List.forall₂_same]
  exact fun _ _ => rfl

/-- The items of a legible pattern are legible.  Only repetitions have bounds, and these are numbers. -/
theorem legible_all {shape : Shape} {parts : List Fragment} {folded spread : Bool}
    (h : (Datatype.pattern shape parts folded spread).Legible) : ∀ i ∈ all shape parts, i.Legible := by
  refine List.forall_mem_append.mpr ⟨List.forall_mem_map.mpr fun n hn => ?_,
    List.forall_mem_map.mpr (Fragment.allLegible_iff.mp h.2)⟩
  cases shape with
  | repeated b =>
    obtain ⟨_, hb⟩ := h.1 b rfl
    exact hb.isNumber n hn
  | _ => exact absurd hn List.not_mem_nil

/-- They are apart if the fragments are, which is the induction hypothesis of `Datatype.coreApart`. -/
theorem all_apart {shape : Shape} {parts : List Fragment} {folded spread : Bool}
    (h : (Datatype.pattern shape parts folded spread).Legible) (hparts : ∀ f ∈ parts, Apart (.inr f)) :
    ∀ i ∈ all shape parts, i.Legible ∧ Apart i := by
  intro i hi
  have hlegible := legible_all h i hi
  refine ⟨hlegible, ?_⟩
  cases i with
  | inl n => exact apart_number hlegible
  | inr f =>
    rcases List.mem_append.mp hi with hi | hi
    · obtain ⟨n, _, hn⟩ := List.mem_map.mp hi
      exact nomatch hn
    · obtain ⟨g, hg, hgf⟩ := List.mem_map.mp hi
      exact Sum.inr.inj hgf ▸ hparts g hg

end Item

/-- Different shapes have different names, but for the bounds of a repetition, and these count alike when they have
the same values. -/
theorem Shape.sameForm_of_name {shape shape' : Shape} (h : shape.name = shape'.name)
    (hb : ∀ b, shape = .repeated b → ∃ limit, b.WellMade limit)
    (hc : ∀ c, shape' = .repeated c → ∃ limit, c.WellMade limit)
    (hbounds : List.Forall₂ (fun m n => Number.sameValue m n = true) shape.bounds shape'.bounds) :
    shape.SameForm shape' := by
  cases shape with
  | repeated b =>
    cases shape' with
    | repeated c =>
      obtain ⟨_, hb⟩ := hb b rfl
      obtain ⟨_, hc⟩ := hc c rfl
      exact Bounds.counted_of_sameValue hb hc hbounds
    | _ => exact absurd h (by simp [name])
  | _ =>
    cases shape' with
    | repeated c => exact absurd h (by simp [name])
    | _ => first | rfl | exact absurd h (by decide)

/-- Names of shapes end at the colon, which is in none of them. -/
theorem Shape.name_cancel {shape shape' : Shape} {p q : List Char}
    (h : shape.name.toList ++ ':' :: p = shape'.name.toList ++ ':' :: q) : shape.name = shape'.name ∧ p = q := by
  have hname : ∀ shape : Shape, ∀ c ∈ shape.name.toList, (c != ':') = true := by
    intro shape
    have hall : shape.name.toList.all (· != ':') = true := by
      unfold name
      split <;> decide
    exact List.all_eq_true.mp hall
  obtain ⟨hnames, hpq⟩ := run_cancel (hname shape) (hname shape') (by simp) (by simp) h
  exact ⟨String.toList_inj.mp hnames, (List.cons.inj hpq).2⟩

/-- Marks of something spread end where the core of a datatype starts, since no core starts with a dot.  This carries
`CoreApart` over to sources, of datatypes and of variables. -/
theorem Datatype.CoreApart.marked {d e : Datatype} (hd : d.CoreApart) (hdl : d.Legible) (hel : e.Legible)
    {xs ys p q : List Char} (hxs : ∀ c ∈ xs, (c == '.') = true) (hys : ∀ c ∈ ys, (c == '.') = true)
    (hp : Follows p) (hq : Follows q) (h : xs ++ (d.core.toList ++ p) = ys ++ (e.core.toList ++ q)) :
    xs = ys ∧ d.SameForm e ∧ p = q := by
  have hstart : ∀ d : Datatype, d.Legible → ∀ p, ∀ c ∈ (d.core.toList ++ p).head?, (c == '.') = false := by
    intro d hd p c hc
    obtain ⟨c', cs, hcs, hc'⟩ := d.head_core hd
    rw [hcs, List.cons_append, List.head?_cons] at hc
    obtain rfl := Option.some.inj hc
    rw [beq_eq_false_iff_ne]
    rintro rfl
    rcases hc' with hc' | hc' <;> exact absurd hc' (by decide)
  obtain ⟨hmarks, hrest⟩ := run_cancel hxs hys (hstart d hdl p) (hstart e hel q) h
  exact ⟨hmarks, hd e p q hel hp hq hrest⟩

/-! ## Fragments -/

/-- What stands between the datatype and the name of a variable, with the name and something behind it. -/
def variableTail (name : String) (p : List Char) : List Char :=
  '-' :: ("type ".toList ++ (name.toList ++ p))

/-- The hyphen before the name of a variable may stand behind a core. -/
theorem follows_variable (name : String) (p : List Char) : Follows (variableTail name p) :=
  fun _ hc => Option.some.inj hc ▸ rfl

/-- No end starts with this hyphen, so a datatype is not taken for a variable. -/
theorem Value.Ends.ne_variable {p q : List Char} (h : Value.Ends p) {name : String} : p ≠ variableTail name q := by
  rintro rfl
  cases h

/-- The mark of something spread is all dots, or nothing. -/
theorem marks_dots (r : Bool) : ∀ c ∈ (dots r).toList, (c == '.') = true := by
  have hall : (dots r).toList.all (· == '.') = true := by cases r <;> decide
  exact List.all_eq_true.mp hall

/-- So are two such marks. -/
theorem marks_append (r s : Bool) : ∀ c ∈ (dots r).toList ++ (dots s).toList, (c == '.') = true :=
  List.forall_mem_append.mpr ⟨marks_dots r, marks_dots s⟩

/-- Dots show whether something is spread. -/
theorem eq_of_dots {s t : Bool} (h : (dots s).toList = (dots t).toList) : s = t := by
  cases s <;> cases t <;> first | rfl | exact absurd h (by decide)

/-- The dots of two things, written one behind the other, show whether any of the two is spread. -/
theorem or_eq_of_dots {r s q t : Bool}
    (h : (dots r).toList ++ (dots s).toList = (dots q).toList ++ (dots t).toList) : (s || r) = (t || q) := by
  cases r <;> cases s <;> cases q <;> cases t <;> first | rfl | exact absurd h (by decide)

/-- A quote is neither a mark nor the start of a core, so a text is taken for no other fragment. -/
theorem text_ne_marked {d : Datatype} (hd : d.Legible) {s : String} {xs p q : List Char}
    (hxs : ∀ c ∈ xs, (c == '.') = true) : (quoted s).toList ++ p ≠ xs ++ (d.core.toList ++ q) := by
  intro h
  rw [toList_quoted] at h
  cases xs with
  | nil =>
    obtain ⟨c, cs, hcs, hc⟩ := d.head_core hd
    rw [hcs] at h
    obtain rfl := (List.cons.inj h).1
    rcases hc with hc | hc <;> exact absurd hc (by decide)
  | cons x xs =>
    have hx := hxs x List.mem_cons_self
    rw [← (List.cons.inj h).1] at hx
    exact absurd hx (by decide)

/-- The source of a datatype in a pattern, with something behind it: the marks, the core, and this. -/
theorem toList_type (d : Datatype) (p : List Char) :
    (Fragment.type d).source.toList ++ p = (dots d.isSpread).toList ++ (d.core.toList ++ p) := by
  rw [Fragment.source, d.source_eq, String.toList_append, List.append_assoc]

/-- The source of a variable, with something behind it: the marks of the variable and of its datatype, the core, and
the hyphen with the name. -/
theorem toList_typed (d : Datatype) (name : String) (r : Bool) (p : List Char) :
    (Fragment.typed d name r).source.toList ++ p =
      ((dots r).toList ++ (dots d.isSpread).toList) ++ (d.core.toList ++ variableTail name p) := by
  have hmark : "-type ".toList = '-' :: "type ".toList := by decide
  rw [Fragment.source, d.source_eq, variableTail]
  simp only [String.toList_append, List.append_assoc, hmark, List.cons_append]

/-- The text of a fragment is apart from that of all items if it is from that of all fragments: numbers it is apart
from anyway. -/
theorem Item.apart_fragment {f : Fragment} (hf : f.Legible)
    (h : ∀ g p q, g.Legible → Value.Ends p → Value.Ends q →
      f.source.toList ++ p = g.source.toList ++ q → f.SameForm g ∧ p = q) : Item.Apart (.inr f) := by
  intro i s t p q hi hs ht hp hq heq
  obtain rfl := Except.ok.inj hs
  obtain rfl := Except.ok.inj ht
  cases i with
  | inl n => exact absurd heq.symm (number_ne_fragment hi hf)
  | inr g =>
    obtain ⟨hform, hpq⟩ := h g p q hi hp hq heq
    exact ⟨.inr hform, hpq⟩

mutual

/-- **The core of a datatype ends in one place, and belongs to no datatype of another form.**  By recursion on the
datatype along with its fragments.  Names end where no small letter follows; patterns have their names, which end at
the colon, and then their items, which are apart by the recursion. -/
theorem Datatype.coreApart : (d : Datatype) → d.Legible → d.CoreApart
  | .named name spread, hd => by
    intro e p q he hp hq h
    cases e with
    | named name' spread' =>
      obtain ⟨hnames, hpq⟩ := run_cancel (isLower_textName hd).2 (isLower_textName he).2 hp hq h
      obtain rfl := String.toList_inj.mp hnames
      exact ⟨.named, hpq⟩
    | pattern shape' parts' folded' spread' =>
      obtain ⟨⟨c, cs, hname⟩, hlower⟩ := isLower_textName hd
      -- a name starts with a small letter, a pattern with a parenthesis
      have hc := hlower c (hname ▸ List.mem_cons_self)
      rw [Datatype.core, Datatype.core, hname, Value.toList_callText] at h
      rw [(List.cons.inj h).1] at hc
      exact absurd hc (by decide)
  | .pattern shape parts folded spread, hd => by
    intro e p q he hp hq h
    cases e with
    | named name' spread' =>
      obtain ⟨⟨c, cs, hname⟩, hlower⟩ := isLower_textName he
      have hc := hlower c (hname ▸ List.mem_cons_self)
      rw [Datatype.core, Datatype.core, hname, Value.toList_callText] at h
      rw [← (List.cons.inj h).1] at hc
      exact absurd hc (by decide)
    | pattern shape' parts' folded' spread' =>
      rw [Datatype.core, Datatype.core, Value.toList_callText, Value.toList_callText] at h
      -- the name settles the shape, and what follows the colon is read item by item
      obtain ⟨hname, hinside⟩ := Shape.name_cancel (List.cons.inj h).2
      rw [← Item.map_text_all, ← Item.map_text_all] at hinside
      obtain ⟨hsame, hpq⟩ := Value.inside_cancel Item.text_ne_close (Item.all_apart hd (Fragment.allApart parts hd.2))
        (Item.legible_all he) (Item.forall₂_text _) (Item.forall₂_text _) hinside
      obtain ⟨hbounds, hparts⟩ := Item.forall₂_all hsame
      exact ⟨.pattern (Shape.sameForm_of_name hname hd.1 he.1 hbounds) hparts, hpq⟩

/-- The source of a fragment ends in one place, and belongs to no fragment of another form.  The nine cases are those
of two fragments; a variable is told from its datatype alone by the hyphen behind the core. -/
theorem Fragment.apart : (f : Fragment) → f.Legible → Item.Apart (.inr f)
  | .text s, hf => by
    refine Item.apart_fragment hf fun g p q hg hp hq h => ?_
    cases g with
    | text t =>
      obtain ⟨rfl, hpq⟩ := quoted_cancel h
      exact ⟨.text, hpq⟩
    | type e =>
      rw [toList_type] at h
      -- a text starts with a quote, and a core does not
      exact absurd h (text_ne_marked hg (marks_dots _))
    | typed e m q' =>
      rw [toList_typed] at h
      exact absurd h (text_ne_marked hg.2 (marks_append _ _))
  | .type d, hf => by
    refine Item.apart_fragment hf fun g p q hg hp hq h => ?_
    rw [toList_type] at h
    cases g with
    | text t => exact absurd h.symm (text_ne_marked hf (marks_dots _))
    | type e =>
      rw [toList_type] at h
      obtain ⟨hmarks, hform, hpq⟩ := (Datatype.coreApart d hf).marked hf hg (marks_dots _) (marks_dots _)
        hp.follows hq.follows h
      exact ⟨.type (eq_of_dots hmarks) hform, hpq⟩
    | typed e m q' =>
      rw [toList_typed] at h
      obtain ⟨_, _, hpq⟩ := (Datatype.coreApart d hf).marked hf hg.2 (marks_dots _) (marks_append _ _)
        hp.follows (follows_variable m q) h
      -- both are cut at the same core, so the hyphen would follow the type as well
      exact absurd hpq hp.ne_variable
  | .typed d name r, hf => by
    refine Item.apart_fragment hf fun g p q hg hp hq h => ?_
    rw [toList_typed] at h
    cases g with
    | text t => exact absurd h.symm (text_ne_marked hf.2 (marks_append _ _))
    | type e =>
      rw [toList_type] at h
      obtain ⟨_, _, hpq⟩ := (Datatype.coreApart d hf.2).marked hf.2 hg (marks_append _ _) (marks_dots _)
        (follows_variable name p) hq.follows h
      exact absurd hpq.symm hq.ne_variable
    | typed e m q' =>
      rw [toList_typed] at h
      obtain ⟨hmarks, hform, hrest⟩ := (Datatype.coreApart d hf.2).marked hf.2 hg.2 (marks_append _ _)
        (marks_append _ _) (follows_variable name p) (follows_variable m q) h
      -- behind the core and the hyphen there is the name
      obtain ⟨_, hpq⟩ := Value.undelimited_cancel hf.1 hg.1 hp hq
        (List.append_cancel_left (List.cons.inj hrest).2)
      exact ⟨.typed (or_eq_of_dots hmarks) hform, hpq⟩

/-- So do the sources of several fragments, by recursion on the list. -/
theorem Fragment.allApart : (fs : List Fragment) → Fragment.AllLegible fs → ∀ f ∈ fs, Item.Apart (.inr f)
  | [], _ => by simp
  | f :: fs, h => List.forall_mem_cons.mpr ⟨Fragment.apart f h.1, Fragment.allApart fs h.2⟩

end

/-- **Legible datatypes that are written alike have the same form,** and both are spread or neither is: the source is
the core with its marks, and nothing behind. -/
theorem Datatype.sameForm_of_source {d e : Datatype} (hd : d.Legible) (he : e.Legible)
    (h : d.source = e.source) : d.isSpread = e.isSpread ∧ d.SameForm e := by
  have htext : (dots d.isSpread).toList ++ (d.core.toList ++ []) =
      (dots e.isSpread).toList ++ (e.core.toList ++ []) := by
    rw [List.append_nil, List.append_nil, ← String.toList_append, ← String.toList_append, ← d.source_eq,
      ← e.source_eq, h]
  obtain ⟨hmarks, hform, _⟩ := (d.coreApart hd).marked hd he (marks_dots _) (marks_dots _)
    Value.Ends.nothing.follows Value.Ends.nothing.follows htext
  exact ⟨eq_of_dots hmarks, hform⟩

end StoryValues
