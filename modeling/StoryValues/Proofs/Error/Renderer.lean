import Mathlib.Data.List.Basic
import StoryValues.Error.Renderer
import StoryValues.Proofs.Error.Markup

/-
  THE RENDERER DOES WHAT IS DOCUMENTED.

  1. **Where the cutting stands** (`Progress`) — what is left of the fuel, the text that was gathered, and the parts
     before it.  Cutting goes from one such place to another and reads a stretch of the template (`Reads`).
  2. **Each part is read,** and what it is filled with goes behind the text so far: a literal (`reads_literal`), a tag
     (`run_tag`), and by induction all of it (`reads_written`).  On one line no section tag takes the line with it: what
     opens a section has something behind it, and what closes one does not begin the line.
  3. **So what is written is filled** (`render_written`), and each thing that is documented is a case of it
     (`documented_render`).
-/

namespace StoryValues

namespace Template

/-- The mark in front of the name in a tag of some kind. -/
def TagKind.mark : TagKind → List Char
  | field => []
  | ifSet => ['#']
  | ifUnset => ['^']
  | close => ['/']

/-- The kind of the tag that opens a section. -/
def openingKind (inverted : Bool) : TagKind := if inverted then .ifUnset else .ifSet

/-- The mark that opens a section is the one that is read as opening it. -/
theorem mark_openingKind (inverted : Bool) : (openingKind inverted).mark = opening inverted := by
  cases inverted <;> rfl

/-! ## Tags -/

/-- The letters and digits that a name may have are in the first half of a byte. -/
theorem toNat_lt_of_isAlphanum {c : Char} (h : c.isAlphanum = true) : c.toNat < 128 := by
  delta Char.isAlphanum Char.isAlpha Char.isUpper Char.isLower Char.isDigit at h
  simp only [Bool.or_eq_true, Bool.and_eq_true, decide_eq_true_eq, ge_iff_le, UInt32.le_iff_toNat_le,
    Char.reduceVal, UInt32.reduceToNat] at h
  rw [← Char.toNat_val]
  omega

/-- No character of a name in the first half of a byte is blank, a brace or the mark of a tag, as going through all of
them shows. -/
theorem isNameChar_ascii : ∀ code < 128, isNameChar (Char.ofNat code) = true →
    isBlank (Char.ofNat code) = false ∧ Char.ofNat code ≠ '}' ∧ tagKind? (Char.ofNat code) = none := by
  decide +kernel

/-- A character of a name is no blank, and none that a tag is made of. -/
theorem of_isNameChar {c : Char} (h : isNameChar c = true) : isBlank c = false ∧ c ≠ '}' ∧ tagKind? c = none := by
  by_cases hascii : c.toNat < 128
  · have hall := isNameChar_ascii c.toNat hascii
    rw [Char.ofNat_toNat] at hall
    exact hall h
  · have hother : ∀ d : Char, d.toNat < 128 → c ≠ d := by
      rintro d hd rfl
      exact hascii hd
    simp only [isNameChar, Bool.or_eq_true, Bool.and_eq_true, beq_iff_eq, Bool.not_eq_true'] at h
    rcases h with (h | h) | h
    · exact absurd (toNat_lt_of_isAlphanum h) hascii
    · exact absurd h (hother _ (by decide))
    · refine ⟨h.2, hother _ (by decide), ?_⟩
      unfold tagKind?
      split
      · exact absurd rfl (hother '#' (by decide))
      · exact absurd rfl (hother '^' (by decide))
      · exact absurd rfl (hother '/' (by decide))
      · rfl

variable {kind : TagKind} {rest : List Char}

/-- A tag does not end before a character of its name. -/
theorem tagEnd?_of_isNameChar {c : Char} (h : isNameChar c = true) (cs : List Char) : tagEnd? (c :: cs) = none := by
  obtain ⟨hblank, hbrace, -⟩ := of_isNameChar h
  unfold tagEnd?
  rw [List.dropWhile_cons_of_neg (by simp [hblank])]
  split
  · rename_i heq
    exact absurd (List.cons.inj heq).1 hbrace
  · rfl

/-- **A name is read up to the end of its tag,** by induction on the name. -/
theorem tagName?_of_named {cs : List Char} (hsome : cs ≠ []) (h : ∀ c ∈ cs, isNameChar c = true) (rest : List Char) :
    tagName? (cs ++ '}' :: '}' :: rest) = some (cs, rest) := by
  induction cs with
  | nil => exact absurd rfl hsome
  | cons c cs ih =>
    obtain ⟨-, hcs⟩ := List.forall_mem_cons.mp h
    rw [List.cons_append, tagName?]
    cases cs with
    | nil => rfl
    | cons d cs =>
      rw [List.cons_append, tagEnd?_of_isNameChar (hcs d List.mem_cons_self), ← List.cons_append,
        ih (List.cons_ne_nil _ _) hcs]
      rfl

/-- Nothing blank stands in front of a name. -/
theorem dropWhile_name (name : Identifier) (cs : List Char) :
    (name.chars ++ cs).dropWhile isBlank = name.chars ++ cs := by
  obtain ⟨c, chars, hchars⟩ := List.exists_cons_of_ne_nil name.nonempty
  have hc := (of_isNameChar (name.named c (hchars ▸ List.mem_cons_self))).1
  rw [hchars, List.cons_append, List.dropWhile_cons_of_neg (by simp [hc])]

/-- A tag with a name and nothing else in it. -/
theorem tagBody?_name (name : Identifier) (rest : List Char) :
    tagBody? (name.chars ++ '}' :: '}' :: rest) = some (name.chars, rest) := by
  rw [tagBody?, dropWhile_name, tagName?_of_named name.nonempty name.named]
  rfl

/-- A mark in front of a name decides the kind of the tag. -/
theorem tag?_marked {mark : Char} {cs name : List Char} (hblank : isBlank mark = false)
    (hkind : tagKind? mark = some kind) (hbody : tagBody? cs = some (name, rest)) :
    tag? (mark :: cs) = some (kind, name, rest) := by
  have hdrop : (mark :: cs).dropWhile isBlank = mark :: cs := List.dropWhile_cons_of_neg (by simp [hblank])
  simp [tag?, hdrop, hkind, hbody]

/-- **A tag is read as it is written.** -/
theorem tag?_tagged (kind : TagKind) (name : Identifier) (rest : List Char) :
    tag? (kind.mark ++ (name.chars ++ '}' :: '}' :: rest)) = some (kind, name.chars, rest) := by
  have hbody := tagBody?_name name rest
  cases kind with
  | field =>
    obtain ⟨c, chars, hchars⟩ := List.exists_cons_of_ne_nil name.nonempty
    have hkind : tagKind? c = none := (of_isNameChar (name.named c (hchars ▸ List.mem_cons_self))).2.2
    have hdrop := dropWhile_name name ('}' :: '}' :: rest)
    simp only [tag?, TagKind.mark, List.nil_append, hdrop, hbody]
    rw [hchars]
    simp [hkind]
  | ifSet => exact tag?_marked (by decide) rfl hbody
  | ifUnset => exact tag?_marked (by decide) rfl hbody
  | close => exact tag?_marked (by decide) rfl hbody

/-! ## Where the cutting stands -/

/-- **A place in the cutting of a template:** the fuel that is left, whether a line starts where the text was gathered,
that text in reverse, and the parts before it in reverse. -/
structure Progress where
  fuel : Nat
  fresh : Bool
  gathered : List Char
  done : List Segment

namespace Progress

/-- What comes of the characters that are left. -/
def run (p : Progress) (stack : List Opened) (cs : List Char) : Except Fault (List Segment) :=
  nest stack p.done (tokensFrom p.fuel p.fresh p.gathered cs)

/-- The text so far. -/
def text (p : Progress) (escape : String → String) (params : List (String × Param)) : String :=
  fillSegments escape params p.done.reverse ++ String.ofList p.gathered.reverse

/-- The fuel is enough, and the text was gathered on one line. -/
structure Ready (p : Progress) (cs : List Char) : Prop where
  enough : cs.length ≤ p.fuel
  inline : ∀ c ∈ p.gathered, isLineEnd c = false

/-- The parts with the text that was gathered among them. -/
def flushed (p : Progress) : List Segment :=
  if p.gathered.isEmpty then p.done else .text (String.ofList p.gathered.reverse) :: p.done

end Progress

/-- Parts are filled one after another. -/
theorem fillSegments_append (escape : String → String) (params : List (String × Param)) (ss ts : List Segment) :
    fillSegments escape params (ss ++ ts) = fillSegments escape params ss ++ fillSegments escape params ts := by
  induction ss with
  | nil => exact String.empty_append.symm
  | cons s ss ih => rw [List.cons_append, fillSegments, fillSegments, ih, String.append_assoc]

/-- One part more says its text. -/
theorem fillSegments_snoc (escape : String → String) (params : List (String × Param)) (ss : List Segment)
    (s : Segment) :
    fillSegments escape params (ss ++ [s]) = fillSegments escape params ss ++ fillSegment escape params s := by
  rw [fillSegments_append, fillSegments, fillSegments, String.append_empty]

namespace Progress

variable {p q : Progress} {cs : List Char}

/-- What was gathered so far may be noted as a part, or not, before the next part is read. -/
theorem nest_flush (stack : List Opened) (toks : List Token) :
    nest stack p.done (flush p.gathered ++ toks) = nest stack p.flushed toks := by
  unfold flush flushed
  cases p.gathered.isEmpty <;> rfl

/-- The text is the same, gathered or among the parts. -/
theorem fill_flushed (escape : String → String) (params : List (String × Param)) :
    fillSegments escape params p.flushed.reverse = p.text escape params := by
  unfold flushed text
  cases hgathered : p.gathered with
  | nil => exact String.append_empty.symm
  | cons c cs =>
    show fillSegments _ _ ((_ :: p.done).reverse) = _
    rw [List.reverse_cons, fillSegments_snoc]
    rfl

end Progress

/-- **Cutting reads a stretch** of a template on its way from one place to another, and what the stretch is filled with
goes behind the text so far. -/
structure Reads (p : Progress) (cs : List Char) (filled : (String → String) → List (String × Param) → String)
    (q : Progress) (rest : List Char) : Prop where
  ready : q.Ready rest
  stale : p.fresh = false → q.fresh = false
  same : ∀ stack, p.run stack (cs ++ rest) = q.run stack rest
  tells : ∀ escape params, q.text escape params = p.text escape params ++ filled escape params

variable {p q r : Progress} {cs ds : List Char} {filled filled' : (String → String) → List (String × Param) → String}

/-- Nothing is read on the way from a place to itself. -/
theorem Reads.nil (h : p.Ready rest) : Reads p [] (fun _ _ => "") p rest where
  ready := h
  stale := id
  same _ := rfl
  tells _ _ := String.append_empty.symm

/-- One stretch after another: the places meet, and the texts are joined. -/
theorem Reads.append (h : Reads p cs filled q (ds ++ rest)) (h' : Reads q ds filled' r rest) :
    Reads p (cs ++ ds) (fun escape params => filled escape params ++ filled' escape params) r rest where
  ready := h'.ready
  stale := fun hp => h'.stale (h.stale hp)
  same stack := by rw [List.append_assoc, h.same, h'.same]
  tells escape params := by rw [h'.tells, h.tells, String.append_assoc]

/-! ## Reading the parts -/

/-- There is fuel for one character more. -/
theorem Progress.Ready.exists_fuel {c : Char} (h : p.Ready (c :: cs)) :
    ∃ fuel, p.fuel = fuel + 1 ∧ cs.length ≤ fuel := by
  obtain ⟨extra, hextra⟩ := Nat.exists_eq_add_of_le h.enough
  rw [List.length_cons] at hextra
  exact ⟨cs.length + extra, by omega, by omega⟩

/-- A character that is no brace is gathered. -/
theorem tokensFrom_cons {c : Char} (hc : c ≠ '{') (fuel : Nat) (fresh : Bool) (gathered cs : List Char) :
    tokensFrom (fuel + 1) fresh gathered (c :: cs) = tokensFrom fuel fresh (c :: gathered) cs := by
  rw [tokensFrom]
  exact fun _ hbrace _ => hc hbrace

/-- A character of a literal opens no tag and ends no line. -/
theorem of_isPlain {c : Char} (h : isPlain c = true) : c ≠ '{' ∧ isLineEnd c = false := by
  simp only [isPlain, Bool.and_eq_true, bne_iff_ne] at h
  simp [isLineEnd, h]

/-- **A literal is gathered as it is,** by induction on its characters, each of which uses up one step of the fuel. -/
theorem reads_literal (hcs : ∀ c ∈ cs, isPlain c = true) (h : p.Ready (cs ++ rest)) :
    ∃ q, Reads p cs (fun _ _ => String.ofList cs) q rest := by
  induction cs generalizing p with
  | nil => exact ⟨p, .nil h⟩
  | cons c cs ih =>
    obtain ⟨hc, hcs⟩ := List.forall_mem_cons.mp hcs
    obtain ⟨fuel, hfuel, hlength⟩ := h.exists_fuel
    let next : Progress := { p with fuel := fuel, gathered := c :: p.gathered }
    have hnext : next.Ready (cs ++ rest) := ⟨hlength, List.forall_mem_cons.mpr ⟨(of_isPlain hc).2, h.inline⟩⟩
    have hone : Reads p [c] (fun _ _ => String.ofList [c]) next (cs ++ rest) := by
      refine ⟨hnext, id, fun stack => ?_, fun escape params => ?_⟩
      · rw [Progress.run, hfuel, List.singleton_append, tokensFrom_cons (of_isPlain hc).1]
        rfl
      · simp only [Progress.text, next, List.reverse_cons, String.ofList_append, String.append_assoc]
    obtain ⟨q, hq⟩ := ih hcs hnext
    exact ⟨q, by simpa only [← String.ofList_append, List.singleton_append] using hone.append hq⟩

/-- **A tag that does not take its line with it** is noted behind the text that was gathered. -/
theorem run_tag (kind : TagKind) (name : Identifier) (h : p.Ready (tagged kind.mark name ++ rest))
    (halone : kind = .field ∨ p.fresh = false ∨ ∃ c cs, rest = c :: cs ∧ isLineEnd c = false) :
    ∃ fuel, rest.length ≤ fuel ∧ ∀ stack, p.run stack (tagged kind.mark name ++ rest) =
      nest stack p.flushed (.tag kind name.chars :: tokensFrom fuel false [] rest) := by
  have hchars : tagged kind.mark name ++ rest = '{' :: '{' :: (kind.mark ++ (name.chars ++ '}' :: '}' :: rest)) := by
    simp [tagged]
  rw [hchars] at h
  obtain ⟨fuel, hfuel, hlength⟩ := h.exists_fuel
  refine ⟨fuel, ?_, fun stack => ?_⟩
  · simp only [List.length_cons, List.length_append] at hlength
    omega
  · rw [Progress.run, hfuel, hchars, tokensFrom]
    simp only [tag?_tagged]
    rw [if_neg, Progress.nest_flush]
    rintro ⟨hkind, hbegins, hends⟩
    rcases halone with hfield | hstale | ⟨c, cs, rfl, hc⟩
    · exact hkind hfield
    · -- the line does not start here, and no line ends in what was gathered
      cases hbefore : p.gathered.dropWhile isInlineBlank with
      | nil =>
        rw [hbefore] at hbegins
        exact Bool.false_ne_true (hstale.symm.trans hbegins)
      | cons b before =>
        have hb : b ∈ p.gathered := (List.dropWhile_suffix _).subset (hbefore ▸ List.mem_cons_self)
        rw [hbefore] at hbegins
        exact Bool.false_ne_true ((h.inline b hb).symm.trans hbegins)
    · exact Bool.false_ne_true (hc.symm.trans hends)

/-- Parts behind which nothing was gathered tell what they are filled with. -/
theorem text_of_done (fuel : Nat) (fresh : Bool) (ss : List Segment) (s : Segment) (escape : String → String)
    (params : List (String × Param)) :
    (Progress.mk fuel fresh [] (s :: ss)).text escape params =
      fillSegments escape params ss.reverse ++ fillSegment escape params s := by
  rw [Progress.text, List.reverse_cons, fillSegments_snoc]
  exact String.append_empty

/-- A field is noted, and what it is filled with is the escaped text of its parameter. -/
theorem reads_field (name : Identifier) (h : p.Ready (tagged [] name ++ rest)) :
    ∃ q, Reads p (tagged [] name) (fun escape params => escape (Param.shown (params.lookup name.text))) q rest := by
  obtain ⟨fuel, hfuel, hrun⟩ := run_tag .field name h (.inl rfl)
  refine ⟨⟨fuel, false, [], .field name.text :: p.flushed⟩, ⟨hfuel, nofun⟩, fun _ => rfl, fun stack => hrun stack, ?_⟩
  intro escape params
  rw [text_of_done, Progress.fill_flushed, fillSegment]

/-- A template does not begin with the end of a line, if what stands behind it does not. -/
theorem exists_first (m : Markup) (h : ∃ c cs, rest = c :: cs ∧ isLineEnd c = false) :
    ∃ c cs, m.written ++ rest = c :: cs ∧ isLineEnd c = false := by
  induction m with
  | done => exact h
  | literal l m ih =>
    obtain ⟨chars, hplain⟩ := l
    cases chars with
    | nil => exact ih
    | cons c chars =>
      exact ⟨c, _, rfl, (of_isPlain (hplain c List.mem_cons_self)).2⟩
  | field name m ih => exact ⟨'{', _, rfl, rfl⟩
  | group inverted name body m ihbody ih => exact ⟨'{', _, rfl, rfl⟩

/-- **A section is read,** if its body is: the body has a place of its own, and becomes one part when it is closed. -/
theorem reads_group (inverted : Bool) (name : Identifier) (body : Markup)
    (hbody : ∀ {p : Progress} {rest : List Char}, p.Ready (body.written ++ rest) →
      ∃ q, Reads p body.written (fun escape params => body.filled escape params) q rest)
    (h : p.Ready (tagged (opening inverted) name ++ (body.written ++ (tagged ['/'] name ++ rest)))) :
    ∃ q, Reads p (tagged (opening inverted) name ++ (body.written ++ tagged ['/'] name))
      (fun escape params =>
        if Param.isSet (params.lookup name.text) != inverted then body.filled escape params else "") q rest := by
  rw [← mark_openingKind] at h ⊢
  obtain ⟨fuel, hfuel, hopen⟩ := run_tag (openingKind inverted) name h
    (.inr (.inr (exists_first body ⟨'{', _, rfl, rfl⟩)))
  -- behind the opening tag the body starts afresh, with no parts and not at the start of a line
  let inside : Progress := ⟨fuel, false, [], []⟩
  have hinside : inside.Ready (body.written ++ (tagged ['/'] name ++ rest)) := ⟨hfuel, nofun⟩
  obtain ⟨q, hq⟩ := hbody hinside
  obtain ⟨fuel', hfuel', hclose⟩ := run_tag .close name hq.ready (.inr (.inl (hq.stale rfl)))
  refine ⟨⟨fuel', false, [], .group inverted name.text q.flushed.reverse :: p.flushed⟩, ⟨hfuel', nofun⟩, fun _ => rfl,
    fun stack => ?_, fun escape params => ?_⟩
  · -- the opening tag goes on the stack, and the closing tag takes it off
    let opened : Opened := ⟨inverted, name.chars, p.flushed⟩
    calc p.run stack (tagged (openingKind inverted).mark name ++ (body.written ++ tagged ['/'] name) ++ rest)
      _ = inside.run (opened :: stack) (body.written ++ (tagged ['/'] name ++ rest)) := by
        rw [List.append_assoc, List.append_assoc, hopen]
        cases inverted <;> rfl
      _ = q.run (opened :: stack) (tagged ['/'] name ++ rest) := hq.same _
      _ = nest stack (.group inverted name.text q.flushed.reverse :: p.flushed) (tokensFrom fuel' false [] rest) := by
        refine (hclose (opened :: stack)).trans ?_
        rw [nest, if_pos rfl]
        rfl
  · have hinner : fillSegments escape params q.flushed.reverse = body.filled escape params := by
      rw [Progress.fill_flushed, hq.tells]
      exact String.empty_append
    rw [text_of_done, Progress.fill_flushed, fillSegment, hinner]

/-- **All of a template is read,** by induction on its parts.  A section is read with its own parts on the stack in
between; its closing tag does not take the line with it because the section has something in front. -/
theorem reads_written (m : Markup) : ∀ {p : Progress} {rest : List Char}, p.Ready (m.written ++ rest) →
    ∃ q, Reads p m.written (fun escape params => m.filled escape params) q rest := by
  induction m with
  | done => exact fun h => ⟨_, .nil h⟩
  | literal l m ih =>
    intro p rest h
    rw [Markup.written, List.append_assoc] at h
    obtain ⟨q, hq⟩ := reads_literal l.plain h
    obtain ⟨r, hr⟩ := ih hq.ready
    exact ⟨r, hq.append hr⟩
  | field name m ih =>
    intro p rest h
    rw [Markup.written, List.append_assoc] at h
    obtain ⟨q, hq⟩ := reads_field name h
    obtain ⟨r, hr⟩ := ih hq.ready
    exact ⟨r, hq.append hr⟩
  | group inverted name body m ihbody ih =>
    intro p rest h
    have hwritten : (Markup.group inverted name body m).written =
        tagged (opening inverted) name ++ (body.written ++ tagged ['/'] name) ++ m.written := by
      simp only [Markup.written, List.append_assoc]
    rw [hwritten]
    simp only [hwritten, List.append_assoc] at h
    obtain ⟨q, hq⟩ := reads_group inverted name body ihbody h
    obtain ⟨r, hr⟩ := ih hq.ready
    exact ⟨r, hq.append hr⟩

/-- **A template that is written can be read,** and is filled part by part. -/
theorem read_written (m : Markup) : ∃ t, Template.read m.source = .ok t ∧
    ∀ escape params, t.fill escape params = m.filled escape params := by
  let start : Progress := ⟨m.written.length, true, [], []⟩
  have hstart : start.Ready (m.written ++ []) := ⟨Nat.le_of_eq (congrArg List.length (List.append_nil _)), nofun⟩
  obtain ⟨q, hq⟩ := reads_written m hstart
  refine ⟨⟨q.flushed.reverse⟩, ?_, fun escape params => ?_⟩
  · have hend : q.run [] [] = .ok q.flushed.reverse := by
      have hnest := Progress.nest_flush (p := q) [] []
      rw [List.append_nil] at hnest
      rw [Progress.run, tokensFrom, hnest, nest]
    have hrun := hq.same []
    rw [List.append_nil, hend] at hrun
    rw [Markup.source, read, tokens, String.toList_ofList, String.length_ofList]
    show (start.run [] m.written).map Template.mk = _
    rw [hrun]
    rfl
  · rw [fill, Progress.fill_flushed, hq.tells]
    exact String.empty_append

/-- Rendering what is written fills it part by part. -/
theorem render_written (escape : String → String) (m : Markup) (params : List (String × Param)) :
    render escape m.source params = .ok (m.filled escape params) := by
  obtain ⟨t, hread, hfill⟩ := read_written m
  rw [render, hread]
  exact congrArg Except.ok (hfill escape params)

/-! ## What is documented -/

namespace Markup

/-- One template behind another. -/
def append : Markup → Markup → Markup
  | done, m => m
  | literal l rest, m => literal l (rest.append m)
  | field name rest, m => field name (rest.append m)
  | group inverted name body rest, m => group inverted name body (rest.append m)

variable {escape : String → String} {params : List (String × Param)}

/-- Parts that are put together are written one after another. -/
theorem written_append (first m : Markup) : (first.append m).written = first.written ++ m.written := by
  induction first with
  | done => rfl
  | literal l rest ih => rw [append, written, written, ih, List.append_assoc]
  | field name rest ih => rw [append, written, written, ih, List.append_assoc]
  | group inverted name body rest _ ih =>
    rw [append, written, written, ih]
    simp only [List.append_assoc]

/-- Parts that are put together are filled one after another. -/
theorem filled_append (first m : Markup) :
    (first.append m).filled escape params = first.filled escape params ++ m.filled escape params := by
  induction first with
  | done => exact String.empty_append.symm
  | literal l rest ih => rw [append, filled, filled, ih, String.append_assoc]
  | field name rest ih => rw [append, filled, filled, ih, String.append_assoc]
  | group inverted name body rest _ ih => rw [append, filled, filled, ih, String.append_assoc]

end Markup

/-- **The renderer does what is documented.**  Each field of `Documented` is a template of its own kind, written and
filled. -/
theorem documented_render : Renderer.Documented render where
  literal escape l params := by
    have hone := render_written escape (.literal l .done) params
    rwa [Markup.source, Markup.written, Markup.written, List.append_nil, Markup.filled, Markup.filled,
      String.append_empty] at hone
  field escape name params := by
    rw [render_written, Markup.filled, Markup.filled, String.append_empty]
  group escape inverted name body params := by
    rw [render_written, render_written, Markup.filled, Markup.filled, String.append_empty, apply_ite Except.ok]
  append escape first rest params := by
    have hboth := render_written escape (first.append rest) params
    rw [Markup.source, Markup.written_append, Markup.filled_append] at hboth
    rw [hboth, render_written, render_written]
    rfl

end Template

end StoryValues
