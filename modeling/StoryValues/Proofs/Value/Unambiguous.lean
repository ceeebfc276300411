import StoryValues.Proofs.Collection.Names
import StoryValues.Proofs.Number.Format
import StoryValues.Proofs.Text.Quoted
import StoryValues.Proofs.Value.Equality
import StoryValues.Proofs.Value.Printing

/-
  SOURCE TEXT IS UNAMBIGUOUS.  Data that print the same text are equal (`equal_of_source_eq`): numbers,
  booleans, strings, and arrays, datamaps and datasets of such.

  The proof reads two equal texts from the left, with something behind each: text that ends a value is
  followed by nothing, a comma or a parenthesis, and then both the values and what is behind them are the
  same (`Apart`).  Put that way it goes through by induction on the first value.  The first characters tell
  the kind (`Shape`), a string ends at its first bare quote, a number at the first character that no number
  has, and a collection ends where its items do (`inside_cancel`).
-/

namespace StoryValues

/-- Runs of characters of a class, each followed by something that does not go on with one, are the same if
the texts are. -/
theorem run_cancel {test : Char → Bool} {xs ys p q : List Char} (hxs : ∀ c ∈ xs, test c = true)
    (hys : ∀ c ∈ ys, test c = true) (hp : ∀ c ∈ p.head?, test c = false)
    (hq : ∀ c ∈ q.head?, test c = false) (h : xs ++ p = ys ++ q) : xs = ys ∧ p = q := by
  induction xs generalizing ys with
  | nil =>
    cases ys with
    | nil => exact ⟨rfl, h⟩
    | cons y ys =>
      have hy := hys y List.mem_cons_self
      rw [List.nil_append] at h
      rw [hp y (by rw [h]; rfl)] at hy
      exact nomatch hy
  | cons x xs ih =>
    cases ys with
    | nil =>
      have hx := hxs x List.mem_cons_self
      rw [List.nil_append] at h
      rw [hq x (by rw [← h]; rfl)] at hx
      exact nomatch hx
    | cons y ys =>
      obtain ⟨rfl, hrest⟩ := List.cons.inj h
      obtain ⟨rfl, hpq⟩ := ih (fun c hc => hxs c (List.mem_cons_of_mem x hc))
        (fun c hc => hys c (List.mem_cons_of_mem x hc)) hrest
      exact ⟨rfl, hpq⟩

namespace Value

/-- Data: numbers, booleans, strings and collections, where the names of a datamap are all different, as any
operation leaves them. -/
def IsData : Value → Prop
  | .number n => n.isNumber = true
  | .datamap _ entries => Datamap.WellNamed entries
  | .boolean _ | .string _ | .array _ | .dataset .. => True
  | _ => False

/-! ## Where a text ends -/

/-- What may stand behind the text of a value: nothing, a comma, or a parenthesis. -/
inductive Ends : List Char → Prop
  | nothing : Ends []
  | comma (rest : List Char) : Ends (',' :: rest)
  | close (rest : List Char) : Ends (')' :: rest)

/-- Whether a character neither separates items nor closes. -/
def undelimiting (c : Char) : Bool := c != ',' && c != ')'

/-- A character delimits nothing when it is no comma and no closing parenthesis: the two characters that end a value
inside a call. -/
theorem undelimiting_iff {c : Char} : undelimiting c = true ↔ c ≠ ',' ∧ c ≠ ')' := by
  rw [undelimiting, Bool.and_eq_true, bne_iff_ne, bne_iff_ne]

/-- What stands behind a value starts, if it starts at all, with a delimiter.  So a scan over characters that delimit
nothing stops there. -/
theorem Ends.undelimiting {p : List Char} (h : Ends p) : ∀ c ∈ p.head?, undelimiting c = false := by
  cases h with
  | nothing => exact nofun
  | comma rest => exact fun c hc => Option.some.inj hc ▸ rfl
  | close rest => exact fun c hc => Option.some.inj hc ▸ rfl

/-- A text without commas and parentheses ends at the first one: it is the run of characters that delimit nothing, and
such a run is the same in equal texts (`run_cancel`). -/
theorem undelimited_cancel {xs ys p q : List Char} (hxs : ∀ c ∈ xs, c ≠ ',' ∧ c ≠ ')')
    (hys : ∀ c ∈ ys, c ≠ ',' ∧ c ≠ ')') (hp : Ends p) (hq : Ends q) (h : xs ++ p = ys ++ q) :
    xs = ys ∧ p = q :=
  run_cancel (fun c hc => undelimiting_iff.mpr (hxs c hc)) (fun c hc => undelimiting_iff.mpr (hys c hc))
    hp.undelimiting hq.undelimiting h

/-! ## Items -/

/-- The rest of a call after one of its items. -/
def after : List String → List Char → List Char
  | [], rest => ')' :: rest
  | s :: texts, rest => ',' :: (s.toList ++ after texts rest)

/-- The rest of a call after its colon. -/
def inside : List String → List Char → List Char
  | [], rest => ')' :: rest
  | s :: texts, rest => s.toList ++ after texts rest

/-- The rest of a call after one of its items is an end: the next item comes after a comma, and the last one is
followed by a parenthesis. -/
theorem ends_after (texts : List String) (rest : List Char) : Ends (after texts rest) := by
  cases texts with
  | nil => exact .close _
  | cons s texts => exact .comma _

/-- Texts with commas between them and a parenthesis behind are the first text and what comes after an item.  This
turns what `callText` writes into the shape that the induction on the items reads. -/
theorem intercalate_append (s : String) (texts : List String) (rest : List Char) :
    List.intercalate [','] ((s :: texts).map String.toList) ++ ')' :: rest = s.toList ++ after texts rest := by
  induction texts generalizing s with
  | nil => simp [List.intercalate, after]
  | cons t texts ih =>
    have hstep : List.intercalate [','] ((s :: t :: texts).map String.toList) =
        s.toList ++ ',' :: List.intercalate [','] ((t :: texts).map String.toList) := by
      simp [List.intercalate]
    rw [hstep, List.append_assoc, List.cons_append, ih]
    rfl

/-- A call with something behind it: the parenthesis, the name, the colon and the inside.  The two cases are those of
no items, where no comma is written, and of some. -/
theorem toList_callText (name : String) (texts : List String) (rest : List Char) :
    (callText name texts).toList ++ rest = '(' :: (name.toList ++ ':' :: inside texts rest) := by
  have hinside : List.intercalate [','] (texts.map String.toList) ++ ')' :: rest = inside texts rest := by
    cases texts with
    | nil => rfl
    | cons s texts => exact intercalate_append s texts rest
  rw [← hinside]
  simp [callText, String.toList_append, String.toList_intercalate]

/-- Calls of one name have one inside.  The name and its colon are taken off the front of both. -/
theorem callText_cancel {name : String} {ss ts : List String} {p q : List Char}
    (h : (callText name ss).toList ++ p = (callText name ts).toList ++ q) : inside ss p = inside ts q := by
  rw [toList_callText, toList_callText] at h
  exact (List.cons.inj (List.append_cancel_left (List.cons.inj h).2)).2

section

variable {α : Type} (D : α → Prop) (write : α → Except Fault String) (same : α → α → Prop)

/-- The text of one thing, with an end behind it, is the text of another such thing only if the two are the
same, and so are the ends. -/
def Apart (a : α) : Prop :=
  ∀ b s t p q, D b → write a = .ok s → write b = .ok t → Ends p → Ends q → s.toList ++ p = t.toList ++ q →
    same a b ∧ p = q

variable {D write same} {xs ys : List α} {ss ts : List String} {p q : List Char}

/-- The items that follow one another, by induction on them.  Each item ends where the other one does, since what
stands behind both is an end, and a list that is over shows its parenthesis where the other shows a comma. -/
theorem after_cancel (hxs : ∀ x ∈ xs, Apart D write same x) (hys : ∀ y ∈ ys, D y)
    (hss : List.Forall₂ (fun x s => write x = .ok s) xs ss) (hts : List.Forall₂ (fun y t => write y = .ok t) ys ts)
    (h : after ss p = after ts q) : List.Forall₂ same xs ys ∧ p = q := by
  induction hss generalizing ys ts with
  | nil =>
    cases hts with
    | nil => exact ⟨.nil, (List.cons.inj h).2⟩
    | cons _ _ => exact absurd (List.cons.inj h).1 (by decide)
  | cons hs _ ih =>
    cases hts with
    | nil => exact absurd (List.cons.inj h).1 (by decide)
    | cons ht hts =>
      obtain ⟨hx, hxs⟩ := List.forall_mem_cons.mp hxs
      obtain ⟨hy, hys⟩ := List.forall_mem_cons.mp hys
      obtain ⟨hsame, hrest⟩ := hx _ _ _ _ _ hy hs ht (ends_after _ _) (ends_after _ _) (List.cons.inj h).2
      obtain ⟨hsames, hpq⟩ := ih hxs hys hts hrest
      exact ⟨.cons hsame hsames, hpq⟩

/-- **The items of a call and its end,** where no item starts with a parenthesis that closes.  The condition is what
tells a call without items from one with some; the rest is `after_cancel`. -/
theorem inside_cancel (hstart : ∀ x s p r, D x → write x = .ok s → s.toList ++ p ≠ ')' :: r)
    (hxs : ∀ x ∈ xs, D x ∧ Apart D write same x) (hys : ∀ y ∈ ys, D y)
    (hss : List.Forall₂ (fun x s => write x = .ok s) xs ss) (hts : List.Forall₂ (fun y t => write y = .ok t) ys ts)
    (h : inside ss p = inside ts q) : List.Forall₂ same xs ys ∧ p = q := by
  cases hss with
  | nil =>
    cases hts with
    | nil => exact ⟨.nil, (List.cons.inj h).2⟩
    | cons ht _ => exact absurd h.symm (hstart _ _ _ _ (hys _ List.mem_cons_self) ht)
  | cons hs hss =>
    cases hts with
    | nil => exact absurd h (hstart _ _ _ _ (hxs _ List.mem_cons_self).1 hs)
    | cons ht hts =>
      obtain ⟨hx, hxs⟩ := List.forall_mem_cons.mp hxs
      obtain ⟨hy, hys⟩ := List.forall_mem_cons.mp hys
      obtain ⟨hsame, hrest⟩ := hx.2 _ _ _ _ _ hy hs ht (ends_after _ _) (ends_after _ _) h
      obtain ⟨hsames, hpq⟩ := after_cancel (fun x hx => (hxs x hx).2) hys hss hts hrest
      exact ⟨.cons hsame hsames, hpq⟩

end

/-! ## Kinds -/

/-- The kinds of data. -/
inductive Shape where
  | number
  | truth
  | text
  | array
  | datamap
  | dataset

/-- The kind of a value, if it is data. -/
def shape? : Value → Option Shape
  | .number _ => some .number
  | .boolean _ => some .truth
  | .string _ => some .text
  | .array _ => some .array
  | .datamap .. => some .datamap
  | .dataset .. => some .dataset
  | _ => none

/-- Data have a kind.  Only the kinds of value that are data have one, so this is `IsData` read once more. -/
theorem exists_shape {v : Value} (hv : v.IsData) : ∃ k, v.shape? = some k := by
  cases v <;> first | exact ⟨_, rfl⟩ | exact hv.elim

/-- The kind of data that a text starts with, unless it starts with an end. -/
def Shape.read? : List Char → Option Shape
  | [] => none
  | ')' :: _ => none
  | '"' :: _ => some .text
  | 't' :: _ => some .truth
  | 'f' :: _ => some .truth
  | '(' :: 'a' :: _ => some .array
  | '(' :: 'd' :: 'm' :: _ => some .datamap
  | '(' :: _ => some .dataset
  | _ => some .number

/-- What starts with a digit, a sign or the letter of infinity is read as a number.  None of these is a quote, a
parenthesis or the first letter of a truth value. -/
theorem Shape.read?_number {c : Char} (hc : c.isDigit = true ∨ c = '-' ∨ c = 'I') (rest : List Char) :
    Shape.read? (c :: rest) = some .number := by
  have hne (c' : Char) (h : (c'.isDigit || c' == '-' || c' == 'I') = false) : c ≠ c' := by
    rintro rfl
    simp only [Bool.or_eq_false_iff, beq_eq_false_iff_ne] at h
    rcases hc with hc | hc | hc
    · rw [hc] at h
      exact nomatch h.1.1
    · exact h.1.2 hc
    · exact h.2 hc
  have hclose := hne ')' rfl
  have hquote := hne '"' rfl
  have ht := hne 't' rfl
  have hf := hne 'f' rfl
  have hopen := hne '(' rfl
  unfold Shape.read?
  split <;> simp_all

/-- The text of a number starts like one: with its sign, or with the first digit of its whole part, or with the letter
of infinity. -/
theorem read?_written {n : Number} (hn : n.isNumber = true) (p : List Char) :
    Shape.read? (n.written.toList ++ p) = (number n).shape? := by
  obtain ⟨c, cs, hcs, hc⟩ := (Number.shown_written hn).head
  rw [hcs]
  exact Shape.read?_number hc _

/-- A text that stands in quotes starts like one, with the quote that opens it. -/
theorem read?_quoted (t : String) (p : List Char) : Shape.read? ((quoted t).toList ++ p) = (string t).shape? := by
  rw [toList_quoted]
  rfl

/-- **The text of data starts like its kind,** whatever is behind it.  So two texts that agree from the left are texts
of one kind, and only values of one kind need to be compared. -/
theorem read?_print {v : Value} {s : String} (hv : v.IsData) (h : v.print = .ok s) (p : List Char) :
    Shape.read? (s.toList ++ p) = v.shape? := by
  cases v with
  | boolean b =>
    obtain rfl := Except.ok.inj h
    cases b <;> rfl
  | number n =>
    obtain ⟨-, rfl⟩ := Number.format_eq_ok.mp h
    exact read?_written hv p
  | string t =>
    obtain rfl := Except.ok.inj h
    exact read?_quoted t p
  | array items =>
    obtain ⟨texts, _, rfl⟩ := of_print_array h
    rw [toList_callText]
    rfl
  | datamap tag entries =>
    obtain ⟨_, texts, _, _, rfl⟩ := of_print_datamap h
    rw [toList_callText]
    rfl
  | dataset tag members =>
    obtain ⟨_, texts, _, _, rfl⟩ := of_print_dataset h
    rw [toList_callText]
    rfl
  | _ => exact hv.elim

/-! ## Names -/

/-- The value that a name is made of is data: names are numbers and texts. -/
theorem isData_ofName {name : Name} (h : name.Proper) : (ofName name).IsData := by
  cases name with
  | text s => exact trivial
  | number n => exact h

/-- The source of a name starts like that of the value which makes it, so a numeric name is not taken for text that
looks like it. -/
theorem read?_source {name : Name} (h : name.Proper) (p : List Char) :
    Shape.read? (name.source.toList ++ p) = (ofName name).shape? := by
  cases name with
  | text s => exact read?_quoted s p
  | number n => exact read?_written h p

/-- A name, which may be text or a number, ends in one place.  Names in quotes end at their closing quote and numbers
at the first character that no number has. -/
theorem name_cancel {m n : Name} {p q : List Char} (hm : m.Proper) (hn : n.Proper) (hp : Ends p) (hq : Ends q)
    (h : m.source.toList ++ p = n.source.toList ++ q) : m.same n = true ∧ p = q := by
  have hshape : (ofName m).shape? = (ofName n).shape? := by
    rw [← read?_source hm p, h, read?_source hn q]
  cases m with
  | text s =>
    cases n with
    | text t =>
      obtain ⟨rfl, hpq⟩ := quoted_cancel h
      exact ⟨Name.same_refl trivial, hpq⟩
    | number n => exact nomatch hshape
  | number m =>
    cases n with
    | text t => exact nomatch hshape
    | number n =>
      obtain ⟨hformat, hpq⟩ := undelimited_cancel (Number.shown_written hm).undelimited
        (Number.shown_written hn).undelimited hp hq h
      exact ⟨(Number.written_eq_iff hm hn).mp (String.toList_inj.mp hformat), hpq⟩

/-- No truth value starts like the other, so neither can be the front of a longer text that the other begins. -/
theorem boolean_cancel {x y : Bool} {p q : List Char}
    (h : (if x then "true" else "false").toList ++ p = (if y then "true" else "false").toList ++ q) :
    x = y ∧ p = q := by
  cases x with
  | false =>
    cases y with
    | false => exact ⟨rfl, List.append_cancel_left h⟩
    | true => exact absurd (List.cons.inj h).1 (by decide)
  | true =>
    cases y with
    | false => exact absurd (List.cons.inj h).1 (by decide)
    | true => exact ⟨rfl, List.append_cancel_left h⟩

/-! ## Entries -/

variable {a b : Value}

/-- Two values are equal, whichever is asked first. -/
def EqualBoth (a b : Value) : Prop := Equal a b ∧ Equal b a

/-- An entry of data: a name that is no double without a number, and a value. -/
def IsEntry (e : Name × Value) : Prop := e.1.Proper ∧ e.2.Everywhere IsData

/-- An entry ends where its value does.  Its name ends at the comma behind it, and the value behind that comma is told
apart by hypothesis. -/
theorem apart_entry {e : Name × Value} (hname : e.1.Proper)
    (hvalue : Apart (Everywhere IsData) print EqualBoth e.2) :
    Apart IsEntry entryText (fun e e' => e.1.same e'.1 = true ∧ EqualBoth e.2 e'.2) e := by
  intro e' s t p q he' hs ht hp hq h
  obtain ⟨text, htext, rfl⟩ := of_entryText hs
  obtain ⟨text', htext', rfl⟩ := of_entryText ht
  have hcomma : ",".toList = [','] := rfl
  simp only [String.toList_append, hcomma, List.append_assoc, List.cons_append, List.nil_append] at h
  obtain ⟨hsame, hrest⟩ := name_cancel hname he'.1 (.comma _) (.comma _) h
  obtain ⟨hequal, hpq⟩ := hvalue _ _ _ _ _ he'.2 htext htext' hp hq (List.cons.inj hrest).2
  exact ⟨⟨hsame, hequal⟩, hpq⟩

/-- No value starts with a parenthesis that closes, for what it starts like is its kind (`read?_print`) and an end has
none. -/
theorem print_ne_close (v : Value) (s : String) (p r : List Char) (hv : v.Everywhere IsData)
    (h : v.print = .ok s) : s.toList ++ p ≠ ')' :: r := by
  intro hclose
  obtain ⟨k, hk⟩ := exists_shape hv.here
  have hread := read?_print hv.here h p
  rw [hclose, hk] at hread
  exact nomatch hread

/-- No entry starts with a parenthesis that closes, since it starts with its name.  With `print_ne_close`, a call
without items cannot be mistaken for one with some. -/
theorem entryText_ne_close (e : Name × Value) (s : String) (p r : List Char) (he : IsEntry e)
    (h : entryText e = .ok s) : s.toList ++ p ≠ ')' :: r := by
  obtain ⟨text, _, rfl⟩ := of_entryText h
  rw [String.toList_append, String.toList_append, List.append_assoc, List.append_assoc]
  intro hclose
  obtain ⟨k, hk⟩ := exists_shape (isData_ofName he.1)
  have hread := read?_source he.1 (",".toList ++ (text.toList ++ p))
  rw [hclose, hk] at hread
  exact nomatch hread

/-! ## Values -/

/-- Data that have been printed can be compared: what was sorted had keys, since otherwise sorting would have been the
fault of printing. -/
theorem comparable_of_print (ha : a.Everywhere IsData) {s : String} (h : a.print = .ok s) :
    a.Everywhere Comparable := by
  refine (ha.and (everywhere_keyed h)).mono fun {v} hv => ?_
  cases v with
  | datamap tag entries => exact hv.1.2
  | dataset tag members => exact hv.2
  | _ => exact trivial

/-! ## Collections -/

section

variable {s t : String} {p q : List Char}

/-- Arrays whose items are told apart are.  The items come pairwise equal out of `inside_cancel`, and that is what
equality of arrays asks. -/
theorem array_cancel {xs ys : List Value}
    (hxs : ∀ x ∈ xs, x.Everywhere IsData ∧ Apart (Everywhere IsData) print EqualBoth x)
    (hys : ∀ y ∈ ys, y.Everywhere IsData) (hs : print (.array xs) = .ok s) (ht : print (.array ys) = .ok t)
    (h : s.toList ++ p = t.toList ++ q) :
    (Agree Equal (.array xs) (.array ys) ∧ Agree Equal (.array ys) (.array xs)) ∧ p = q := by
  obtain ⟨ss, hss, rfl⟩ := of_print_array hs
  obtain ⟨ts, hts, rfl⟩ := of_print_array ht
  obtain ⟨hsame, hpq⟩ := inside_cancel print_ne_close hxs hys hss hts (callText_cancel h)
  exact ⟨⟨.array (hsame.imp fun _ _ h => h.1), .array (hsame.imp fun _ _ h => h.2).flip⟩, hpq⟩

/-- So are datamaps.  Their entries are printed in the order of their names, so the pairing is that of the sorted
entries; since names differ, equal sorted entries make equal datamaps. -/
theorem datamap_cancel {tag tag' : Tag} {xs ys : List (Name × Value)}
    (hxs : ∀ e ∈ xs, IsEntry e ∧ Apart (Everywhere IsData) print EqualBoth e.2) (hys : ∀ e ∈ ys, IsEntry e)
    (hs : print (.datamap tag xs) = .ok s) (ht : print (.datamap tag' ys) = .ok t)
    (h : s.toList ++ p = t.toList ++ q) :
    (Agree Equal (.datamap tag xs) (.datamap tag' ys) ∧ Agree Equal (.datamap tag' ys) (.datamap tag xs)) ∧
      p = q := by
  obtain ⟨os, ss, hos, hss, rfl⟩ := of_print_datamap hs
  obtain ⟨ot, ts, hot, hts, rfl⟩ := of_print_datamap ht
  have hpermx := (of_sortOn hos).2
  have hpermy := (of_sortOn hot).2
  have happart : ∀ e ∈ os, IsEntry e ∧
      Apart IsEntry entryText (fun e e' => e.1.same e'.1 = true ∧ EqualBoth e.2 e'.2) e := by
    intro e he
    obtain ⟨hentry, hvalue⟩ := hxs e (hpermx.mem_iff.mp he)
    exact ⟨hentry, apart_entry hentry.1 hvalue⟩
  obtain ⟨hsame, hpq⟩ := inside_cancel entryText_ne_close happart (fun e he => hys e (hpermy.mem_iff.mp he))
    hss hts (callText_cancel h)
  have hlength := (hpermx.symm.length_eq.trans hsame.length_eq).trans hpermy.length_eq
  refine ⟨⟨.datamap hlength fun e he => ?_, .datamap hlength.symm fun e he => ?_⟩, hpq⟩
  · obtain ⟨e', he', hname, hequal, _⟩ := exists_of_forall₂ hsame e (hpermx.mem_iff.mpr he)
    exact ⟨e', hpermy.mem_iff.mp he', Name.same_symm hname, hequal⟩
  · obtain ⟨e', he', hname, _, hequal⟩ := exists_of_forall₂ hsame.flip e (hpermy.mem_iff.mpr he)
    exact ⟨e', hpermx.mem_iff.mp he', hname, hequal⟩

/-- And datasets.  Here too the pairing is that of the sorted members, and equality of datasets does not ask for an
order. -/
theorem dataset_cancel {tag tag' : Tag} {xs ys : List Value}
    (hxs : ∀ x ∈ xs, x.Everywhere IsData ∧ Apart (Everywhere IsData) print EqualBoth x)
    (hys : ∀ y ∈ ys, y.Everywhere IsData) (hs : print (.dataset tag xs) = .ok s)
    (ht : print (.dataset tag' ys) = .ok t) (h : s.toList ++ p = t.toList ++ q) :
    (Agree Equal (.dataset tag xs) (.dataset tag' ys) ∧ Agree Equal (.dataset tag' ys) (.dataset tag xs)) ∧
      p = q := by
  obtain ⟨os, ss, hos, hss, rfl⟩ := of_print_dataset hs
  obtain ⟨ot, ts, hot, hts, rfl⟩ := of_print_dataset ht
  have hpermx := (of_sortOn hos).2
  have hpermy := (of_sortOn hot).2
  obtain ⟨hsame, hpq⟩ := inside_cancel print_ne_close (fun x hx => hxs x (hpermx.mem_iff.mp hx))
    (fun y hy => hys y (hpermy.mem_iff.mp hy)) hss hts (callText_cancel h)
  have hlength := (hpermx.symm.length_eq.trans hsame.length_eq).trans hpermy.length_eq
  refine ⟨⟨.dataset hlength fun x hx => ?_, .dataset hlength.symm fun y hy => ?_⟩, hpq⟩
  · obtain ⟨y, hy, _, hyx⟩ := exists_of_forall₂ hsame x (hpermx.mem_iff.mpr hx)
    exact ⟨y, hpermy.mem_iff.mp hy, hyx⟩
  · obtain ⟨x, hx, hxy, _⟩ := exists_of_forall₂ hsame.flip y (hpermy.mem_iff.mpr hy)
    exact ⟨x, hpermx.mem_iff.mp hx, hxy⟩

end

/-! ## The whole -/

/-- The entries of a datamap all of whose parts are data are entries of data.  The names are proper by the condition
on the datamap itself, and the values are parts of it. -/
theorem isEntry_of_isData {tag : Tag} {entries : List (Name × Value)}
    (h : (Value.datamap tag entries).Everywhere IsData) : ∀ e ∈ entries, IsEntry e :=
  fun e he => ⟨h.here.1 e he, h.inside (List.mem_map_of_mem he)⟩

/-- **The text of data ends in one place, and belongs to no other data,** by induction on the data. -/
theorem apart_of_isData (ha : a.Everywhere IsData) : Apart (Everywhere IsData) print EqualBoth a := by
  induction ha with
  | @intro v hv hparts ih =>
    intro b s t p q hb hs ht hp hq h
    have ha := Everywhere.intro hv hparts
    have hca := comparable_of_print ha hs
    have hcb := comparable_of_print hb ht
    rw [EqualBoth, equal_iff_agree hca hcb, equal_iff_agree hcb hca]
    -- the two are of one kind
    have hshape : v.shape? = b.shape? := by
      rw [← read?_print hv hs p, h, read?_print hb.here ht q]
    cases v with
    | number m =>
      cases b with
      | number n =>
        obtain ⟨-, rfl⟩ := Number.format_eq_ok.mp hs
        obtain ⟨-, rfl⟩ := Number.format_eq_ok.mp ht
        obtain ⟨hsame, hpq⟩ := name_cancel (m := .number m) (n := .number n) hv hb.here hp hq h
        have hdatum := Number.sameDatum_iff.mpr (Or.inl hsame)
        exact ⟨⟨.number hdatum, .number (Number.sameDatum_equivalence.symm hdatum)⟩, hpq⟩
      | _ => exact nomatch hshape
    | boolean x =>
      cases b with
      | boolean y =>
        obtain rfl := Except.ok.inj hs
        obtain rfl := Except.ok.inj ht
        obtain ⟨rfl, hpq⟩ := boolean_cancel h
        exact ⟨⟨.individual rfl, .individual rfl⟩, hpq⟩
      | _ => exact nomatch hshape
    | string x =>
      cases b with
      | string y =>
        obtain rfl := Except.ok.inj hs
        obtain rfl := Except.ok.inj ht
        obtain ⟨rfl, hpq⟩ := quoted_cancel h
        exact ⟨⟨.individual rfl, .individual rfl⟩, hpq⟩
      | _ => exact nomatch hshape
    | array xs =>
      cases b with
      | array ys => exact array_cancel (fun x hx => ⟨hparts x hx, ih x hx⟩) (fun y hy => hb.inside hy) hs ht h
      | _ => exact nomatch hshape
    | datamap tag xs =>
      cases b with
      | datamap tag' ys =>
        have hentries := isEntry_of_isData ha
        exact datamap_cancel (fun e he => ⟨hentries e he, ih _ (List.mem_map_of_mem he)⟩) (isEntry_of_isData hb)
          hs ht h
      | _ => exact nomatch hshape
    | dataset tag xs =>
      cases b with
      | dataset tag' ys =>
        exact dataset_cancel (fun x hx => ⟨hparts x hx, ih x hx⟩) (fun y hy => hb.inside hy) hs ht h
      | _ => exact nomatch hshape
    | _ => exact hv.elim

/-- **Data that print alike are equal.**  By induction on the first value every part of it is `Apart`; at the top
nothing stands behind either text, and nothing is an end. -/
theorem equal_of_source_eq (ha : a.Everywhere IsData) (hb : b.Everywhere IsData) {s t : String}
    (hs : a.source = .ok s) (ht : b.source = .ok t) (h : s = t) : equals a b = .ok true :=
  (apart_of_isData ha b s t [] [] hb (source_eq_ok.mp hs).2 (source_eq_ok.mp ht).2 .nothing .nothing
    (h ▸ rfl)).1.1

/-- A list of a datamap and a dataset, with a text that looks like the end of both. -/
def nestedList : Value :=
  .array [.datamap (some 1) [(.number (.int 1), .string "a,1))")], .dataset (some 2) [.boolean true]]

/-- The same once more, with the name as a double. -/
def nestedListAgain : Value :=
  .array [.datamap (some 3) [(.number (.real (Double.ofIndex false (1023 * twoTo 52))), .string "a,1))")],
    .dataset (some 4) [.boolean true]]

/-- A list with a datamap and a dataset in it is data as soon as the name is.  The text in the datamap has a comma, a
digit and parentheses, so that it looks like the end of both. -/
theorem everywhere_nested {s t : Tag} {name : Name} (hname : name.Proper) :
    (Value.array [.datamap s [(name, .string "a,1))")], .dataset t [.boolean true]]).Everywhere IsData := by
  have hdatamap : (Value.datamap s [(name, .string "a,1))")]).Everywhere IsData :=
    .intro ⟨List.forall_mem_singleton.mpr hname, List.pairwise_singleton _ _⟩
      (List.forall_mem_singleton.mpr (everywhere_of_parts_nil rfl trivial))
  have hdataset : (Value.dataset t [.boolean true]).Everywhere IsData :=
    .intro trivial (List.forall_mem_singleton.mpr (everywhere_of_parts_nil rfl trivial))
  exact .intro trivial (List.forall_mem_cons.mpr ⟨hdatamap, List.forall_mem_singleton.mpr hdataset⟩)

theorem equal_nestedList :
    nestedList.Everywhere IsData ∧ nestedListAgain.Everywhere IsData ∧
      nestedList.source = .ok "(a:(dm:1,\"a,1))\"),(ds:true))" ∧
      nestedListAgain.source = .ok "(a:(dm:1,\"a,1))\"),(ds:true))" ∧
      equals nestedList nestedListAgain = .ok true := by
  have ha : nestedList.Everywhere IsData := everywhere_nested rfl
  have hone : (Double.ofIndex false (1023 * twoTo 52)).isNumber = true := Double.isNumber_ofIndex _ _
  have hb : nestedListAgain.Everywhere IsData := everywhere_nested hone
  have hs : nestedList.source = .ok "(a:(dm:1,\"a,1))\"),(ds:true))" := by decide +kernel
  have ht : nestedListAgain.source = .ok "(a:(dm:1,\"a,1))\"),(ds:true))" := by decide +kernel
  exact ⟨ha, hb, hs, ht, equal_of_source_eq ha hb hs ht rfl⟩

end Value

end StoryValues
