import StoryValues.Proofs.Number.Format
import StoryValues.Proofs.Value.Equality
import StoryValues.Proofs.Value.Sorted
import StoryValues.Value.Naming

/-
  SOURCE TEXT IS CANONICAL where order is settled.  Equal values print the same text, in whatever order
  their names and members were added, provided that no two names of a datamap and no two members of a dataset
  tie in the natural order, and that hook names stand alone (`Value.Settled`, `source_canonical`).

  The condition is there because printing is finer than what it goes by.  Members are sorted by their natural
  keys, and unequal members may tie: integers too large for a double are rounded to one, and a value that is
  no string ties with the string that is its source.  Members that tie stay in the order in which they were
  added (`sortOn_perm_iff`), which equality does not look at (`twoLarge_not_canonical`).  Hook names are
  printed in their order and compared as sets.

  1. **What is compared by a test** is printed alike if the test says yes: numbers, names, datatypes, colours
     and gradients.
  2. **Equal members tie** (`tied_of_agree`), so sorting puts them in the same places (`forall₂_sortOn`).
  3. **The whole** (`print_canonical`) is by induction on the first value.
-/

namespace StoryValues

/-! ## Tests of sameness -/

namespace Number

variable {m n : Number}

/-- Numbers of one value are written alike, whichever kind each is: whole values show digits alone. -/
theorem written_of_sameValue (h : m.sameValue n = true) : m.written = n.written := by
  obtain ⟨hm, hn, _⟩ := sameValue_iff.mp h
  exact (written_eq_iff hm hn).mpr h

/-- Numbers of one value are written alike, or both of them are too long for that. -/
theorem format_of_sameValue (h : m.sameValue n = true) : m.format = n.format := by
  have hshort : m.isShort = n.isShort :=
    Bool.eq_iff_iff.mpr ⟨isShort_of_sameValue h, isShort_of_sameValue (sameValue_symm h)⟩
  rw [format, format, hshort, written_of_sameValue h]

/-- So it is for numbers that are the same datum; one that is no number is written as itself. -/
theorem format_of_sameDatum (h : m.sameDatum n = true) : m.format = n.format := by
  rcases sameDatum_iff.mp h with hsame | ⟨_, rfl⟩
  · exact format_of_sameValue hsame
  · rfl

end Number

/-- Names that are the same have one source. -/
theorem Name.source_of_same {m n : Name} (h : m.same n = true) : m.source = n.source := by
  cases m with
  | text s =>
    cases n with
    | text t =>
      have hst : s = t := beq_iff_eq.mp h
      rw [hst]
    | number n => exact nomatch h
  | number m =>
    cases n with
    | text t => exact nomatch h
    | number n => exact Number.written_of_sameValue h

/-- Datatypes that are the same have one source, as they are compared by it. -/
theorem Datatype.source_of_same {d e : Datatype} (h : d.same e = true) : d.source = e.source := by
  cases d with
  | named n s =>
    cases e with
    | named m t =>
      obtain ⟨rfl, rfl⟩ : n = m ∧ s = t := by simpa [Datatype.same] using h
      rfl
    | pattern => exact absurd h Bool.false_ne_true
  | pattern =>
    cases e with
    | named => exact absurd h Bool.false_ne_true
    | pattern =>
      simp only [Datatype.same, Bool.and_eq_true, beq_iff_eq] at h
      exact h.2

/-- So do typed variables, by their parts. -/
theorem TypedVar.source_of_same {v w : TypedVar} (h : v.same w = true) : v.source = w.source := by
  simp only [TypedVar.same, Bool.and_eq_true, beq_iff_eq] at h
  obtain ⟨⟨hname, hrest⟩, hdatatype⟩ := h
  rw [TypedVar.source, TypedVar.source, hname, hrest, Datatype.source_of_same hdatatype]

/-- Colours that are the same are written alike, as each of their channels is. -/
theorem Colour.source_of_same {c d : Colour} (h : c.same d = true) : c.source = d.source := by
  simp only [Colour.same, Bool.and_eq_true] at h
  obtain ⟨⟨⟨hred, hgreen⟩, hblue⟩, halpha⟩ := h
  have hchannels : c.channels.mapM Number.format = d.channels.mapM Number.format := by
    simp only [Colour.channels, List.mapM_cons, Number.format_of_sameDatum hred,
      Number.format_of_sameDatum hgreen, Number.format_of_sameDatum hblue, Number.format_of_sameDatum halpha]
  rw [Colour.source, Colour.source, hchannels]

/-- Stops that are the same place by place are written alike. -/
theorem Gradient.stops_eq {ss ts : List (Number × Colour)}
    (h : List.Forall₂ (fun s t => s.1.sameValue t.1 = true ∧ s.2.same t.2 = true) ss ts) :
    ss.mapM stopTexts = ts.mapM stopTexts := by
  induction h with
  | nil => rfl
  | @cons s t _ _ hst _ ih =>
    have hst : stopTexts s = stopTexts t := by
      rw [stopTexts, stopTexts, Number.format_of_sameValue hst.1, Colour.source_of_same hst.2]
    rw [List.mapM_cons, List.mapM_cons, hst, ih]

/-- So are gradients, by their angles and stops. -/
theorem Gradient.source_of_same {g k : Gradient} (h : g.same k = true) : g.source = k.source := by
  obtain ⟨hangle, hstops⟩ := Gradient.same_iff.mp h
  rw [source, source, Number.format_of_sameValue hangle, stops_eq hstops]

/-- A hook name that stands alone is the same set only as itself.  More names could stand in another order, which is
printed but not compared. -/
theorem eq_of_sameHooks {ns ms : List String} (hns : ns.length ≤ 1) (hms : ms.Nodup)
    (h : sameHooks ns ms = true) : ns = ms := by
  have hmem := sameHooks_iff.mp h
  match ns, hns with
  | [], _ =>
    have hnone : ∀ name, name ∉ ms := fun name hname => absurd ((hmem name).mpr hname) List.not_mem_nil
    exact (List.eq_nil_iff_forall_not_mem.mpr hnone).symm
  | [n], _ =>
    have honly : ∀ name ∈ ms, name = n := fun name hname => List.mem_singleton.mp ((hmem name).mpr hname)
    have hn : n ∈ ms := (hmem n).mp (List.mem_singleton.mpr rfl)
    match ms, hms with
    | [], _ => exact absurd hn List.not_mem_nil
    | [m], _ => rw [honly m (List.mem_singleton.mpr rfl)]
    | m :: m' :: _, hms =>
      have hm := honly m List.mem_cons_self
      have hm' := honly m' (List.mem_cons_of_mem _ List.mem_cons_self)
      exact absurd (hm.trans hm'.symm) fun heq => (List.nodup_cons.mp hms).1 (heq ▸ List.mem_cons_self)

namespace Value

variable {a b x y : Value}

/-! ## Settled values -/

/-- A value whose names, members and hook names are all different, as any operation leaves them. -/
def Distinct : Value → Prop
  | .datamap _ entries => entries.Pairwise fun e e' => ¬ e.1.same e'.1 = true
  | .dataset _ members => members.Pairwise fun x y => ¬ Equal x y
  | .hooks names => names.Nodup
  | _ => True

/-- A value whose order of printing follows from what it holds: no names or members tie, and a hook name
stands alone. -/
def Settled : Value → Prop
  | .datamap _ entries => entries.Pairwise fun e e' => ¬ Tied (fun e => e.1.key) e e'
  | .dataset _ members => members.Pairwise fun x y => ¬ Tied naturalKey x y
  | .hooks names => names.length ≤ 1
  | _ => True

/-- What has been printed can be compared, and each side may come first: datasets were put in order for the text
already. -/
theorem orderly_of_print {s : String} (ha : a.Everywhere Distinct) (h : a.print = .ok s) :
    a.Everywhere Orderly := by
  refine (ha.and (everywhere_keyed h)).mono fun {v} hv => ?_
  cases v with
  | datamap tag entries => exact hv.1
  | dataset tag members => exact ⟨hv.2, hv.1⟩
  | _ => exact trivial

/-- Values that have been printed are equal iff they agree. -/
theorem equal_iff_agree_of_print {s t : String} (ha : a.Everywhere Distinct) (hb : b.Everywhere Distinct)
    (hs : a.print = .ok s) (ht : b.print = .ok t) : Equal a b ↔ Agree Equal a b :=
  equal_iff_agree (orderly_of_print ha hs).comparable (orderly_of_print hb ht).comparable

/-- What has a key has a source, and can be compared either way round.  This is how the members of a dataset come
under the induction. -/
theorem orderly_of_key (ha : a.Everywhere Distinct) (h : ∃ k, naturalKey a = .ok k) :
    (∃ s, a.source = .ok s) ∧ a.Everywhere Orderly := by
  obtain ⟨k, hk⟩ := h
  obtain ⟨s, hs⟩ := source_of_naturalKey hk
  exact ⟨⟨s, hs⟩, orderly_of_print ha (source_eq_ok.mp hs).2⟩

/-! ## Texts -/

/-- What is written place by place is written alike, if partners are.  The texts are given, as writing may fail. -/
theorem texts_eq {α : Type} {R : α → α → Prop} {write : α → Except Fault String} {xs ys : List α}
    {ss ts : List String} (hxy : List.Forall₂ R xs ys)
    (hwrite : ∀ x ∈ xs, ∀ y ∈ ys, R x y → ∀ s t, write x = .ok s → write y = .ok t → s = t)
    (hs : List.Forall₂ (fun x s => write x = .ok s) xs ss) (ht : List.Forall₂ (fun y t => write y = .ok t) ys ts) :
    ss = ts := by
  induction hxy generalizing ss ts with
  | nil =>
    cases hs
    cases ht
    rfl
  | @cons x y xs ys hR _ ih =>
    cases hs with
    | @cons _ s _ _ hxs hs =>
      cases ht with
      | @cons _ t _ _ hyt ht =>
        have hhead : s = t := hwrite x List.mem_cons_self y List.mem_cons_self hR s t hxs hyt
        have htail := ih (fun x' hx' y' hy' => hwrite x' (List.mem_cons_of_mem x hx') y' (List.mem_cons_of_mem y hy'))
          hs ht
        rw [hhead, htail]

/-- Whatever is equal to a value prints the same text. -/
def Canonical (a : Value) : Prop :=
  ∀ b, b.Everywhere Distinct → Equal a b → ∀ s t, a.print = .ok s → b.print = .ok t → s = t

section

variable {xs ys : List Value} {s t : String}

/-- **Members in natural order** are equal place by place, if the members of two datasets are. -/
theorem sorted_canonical {os ot : List Value} (hxs : ∀ x ∈ xs, x.Everywhere Distinct ∧ Canonical x)
    (hys : ∀ y ∈ ys, y.Everywhere Distinct) (hsettled : xs.Pairwise fun x y => ¬ Tied naturalKey x y)
    (hlength : xs.length = ys.length) (hpartner : ∀ x ∈ xs, ∃ y ∈ ys, Equal y x) (hos : sorted xs = .ok os)
    (hot : sorted ys = .ok ot) : List.Forall₂ Equal os ot := by
  have hkeys := (of_sortOn hos).1
  have hkeys' := (of_sortOn hot).1
  -- what has a key was printed, and so it can be compared either way round
  have hx : ∀ x ∈ xs, (∃ s, x.source = .ok s) ∧ x.Everywhere Orderly := fun x hmem =>
    orderly_of_key (hxs x hmem).1 (hkeys x hmem)
  have hy : ∀ y ∈ ys, (∃ t, y.source = .ok t) ∧ y.Everywhere Orderly := fun y hmem =>
    orderly_of_key (hys y hmem) (hkeys' y hmem)
  refine forall₂_sortOn hos hot hlength hsettled (fun x hmem => ?_) (fun x hmem y hmem' hequal => ?_)
  · obtain ⟨y, hmem', hequal⟩ := hpartner x hmem
    exact ⟨y, hmem', Orderly.equal_symm (hy y hmem').2 (hx x hmem).2 hequal⟩
  · obtain ⟨⟨s, hs⟩, hxo⟩ := hx x hmem
    obtain ⟨⟨t, ht⟩, hyo⟩ := hy y hmem'
    have hst : s = t := (hxs x hmem).2 y (hys y hmem') hequal s t (source_eq_ok.mp hs).2 (source_eq_ok.mp ht).2
    have hsource : x.source = y.source := by rw [hs, ht, hst]
    have hagree : Agree Equal x y := (equal_iff_agree hxo.comparable hyo.comparable).mp hequal
    exact tied_of_agree hagree (hkeys x hmem) (hkeys' y hmem') hsource

/-- Datasets whose members print like their equals do so too: sorting puts equals in the same places, and no two
members tie. -/
theorem dataset_canonical {tag tag' : Tag} (hxs : ∀ x ∈ xs, x.Everywhere Distinct ∧ Canonical x)
    (hys : ∀ y ∈ ys, y.Everywhere Distinct) (hsettled : (Value.dataset tag xs).Settled)
    (hagree : Agree Equal (.dataset tag xs) (.dataset tag' ys)) (hs : print (.dataset tag xs) = .ok s)
    (ht : print (.dataset tag' ys) = .ok t) : s = t := by
  obtain ⟨os, ss, hos, hss, rfl⟩ := of_print_dataset hs
  obtain ⟨ot, ts, hot, hts, rfl⟩ := of_print_dataset ht
  obtain ⟨hlength, hpartner⟩ := Agree.dataset_iff.mp hagree
  have hperm := (of_sortOn hos).2
  have hperm' := (of_sortOn hot).2
  have hequal : List.Forall₂ Equal os ot := sorted_canonical hxs hys hsettled hlength hpartner hos hot
  have htexts : ss = ts := by
    refine texts_eq hequal (fun x hx y hy h => ?_) hss hts
    exact (hxs x (hperm.mem_iff.mp hx)).2 y (hys y (hperm'.mem_iff.mp hy)) h
  rw [htexts]

/-- Datamaps whose values print like their equals do so too: names tie with none but their partners. -/
theorem datamap_canonical {tag tag' : Tag} {xs ys : List (Name × Value)} (hxs : ∀ e ∈ xs, Canonical e.2)
    (hys : ∀ e ∈ ys, e.2.Everywhere Distinct) (hsettled : (Value.datamap tag xs).Settled)
    (hagree : Agree Equal (.datamap tag xs) (.datamap tag' ys)) (hs : print (.datamap tag xs) = .ok s)
    (ht : print (.datamap tag' ys) = .ok t) : s = t := by
  obtain ⟨os, ss, hos, hss, rfl⟩ := of_print_datamap hs
  obtain ⟨ot, ts, hot, hts, rfl⟩ := of_print_datamap ht
  obtain ⟨hlength, hpartner⟩ := Agree.datamap_iff.mp hagree
  obtain ⟨hkeys, hperm⟩ := of_sortOn hos
  obtain ⟨hkeys', hperm'⟩ := of_sortOn hot
  have hequal := forall₂_sortOn hos hot hlength hsettled hpartner fun e he e' he' h =>
    tied_of_same h.1 (hkeys e he) (hkeys' e' he')
  have htexts : ss = ts := by
    refine texts_eq hequal (fun e he e' he' h s t hs ht => ?_) hss hts
    obtain ⟨hsame, hvalues⟩ := h
    obtain ⟨u, hu, rfl⟩ := of_entryText hs
    obtain ⟨u', hu', rfl⟩ := of_entryText ht
    have huu : u = u' := hxs e (hperm.mem_iff.mp he) e'.2 (hys e' (hperm'.mem_iff.mp he')) hvalues u u' hu hu'
    rw [huu, Name.source_of_same hsame]
  rw [htexts]

/-- Chains whose parameters print like their equals do so too, place by place. -/
theorem changer_canonical {xs ys : List (String × List Value)} (hxs : ∀ n ∈ xs, ∀ x ∈ n.2, Canonical x)
    (hys : ∀ n ∈ ys, ∀ y ∈ n.2, y.Everywhere Distinct) (hagree : Agree Equal (.changer xs) (.changer ys))
    (hs : print (.changer xs) = .ok s) (ht : print (.changer ys) = .ok t) : s = t := by
  obtain ⟨ss, hss, rfl⟩ := of_print_changer hs
  obtain ⟨ts, hts, rfl⟩ := of_print_changer ht
  have htexts : ss = ts := by
    refine texts_eq (Agree.changer_iff.mp hagree) (fun n hn m hm h s t hs ht => ?_) hss hts
    obtain ⟨hname, hparams⟩ := h
    obtain ⟨us, hus, rfl⟩ := of_nodeText hs
    obtain ⟨us', hus', rfl⟩ := of_nodeText ht
    have huu : us = us' := by
      refine texts_eq hparams (fun x hx y hy hequal u u' hu hu' => ?_) hus hus'
      exact hxs n hn x hx y (hys m hm y hy) hequal u u' (source_eq_ok.mp hu).2 (source_eq_ok.mp hu').2
    rw [huu, hname]
  rw [htexts]

end

/-- **What is settled prints like all that is equal to it,** by induction on it.  The cases are those of agreement. -/
theorem print_canonical (ha : a.Everywhere fun v => v.Distinct ∧ v.Settled) : Canonical a := by
  induction ha with
  | @intro v hv hparts ih =>
    intro b hb hequal s t hs ht
    have hdistinct : v.Everywhere Distinct := (Everywhere.intro hv hparts).mono And.left
    -- both print, so being equal is agreeing part by part
    have hagree : Agree Equal v b := (equal_iff_agree_of_print hdistinct hb hs ht).mp hequal
    cases hagree with
    | individual _ => exact Except.ok.inj (hs.symm.trans ht)
    | number hsame => exact Except.ok.inj (hs.symm.trans ((Number.format_of_sameDatum hsame).trans ht))
    | @array xs ys hitems =>
      obtain ⟨ss, hss, rfl⟩ := of_print_array hs
      obtain ⟨ts, hts, rfl⟩ := of_print_array ht
      have htexts : ss = ts := texts_eq hitems (fun x hx y hy => ih x hx y (hb.inside hy)) hss hts
      rw [htexts]
    | datamap hlength hpartner =>
      exact datamap_canonical (fun e he => ih e.2 (List.mem_map_of_mem he))
        (fun e he => hb.inside (List.mem_map_of_mem he)) hv.2 (.datamap hlength hpartner) hs ht
    | dataset hlength hpartner =>
      exact dataset_canonical (fun x hx => ⟨hdistinct.inside hx, ih x hx⟩) (fun y hy => hb.inside hy) hv.2
        (.dataset hlength hpartner) hs ht
    | datatype hsame =>
      obtain rfl := Except.ok.inj hs
      obtain rfl := Except.ok.inj ht
      exact Datatype.source_of_same hsame
    | typedVar hsame =>
      obtain rfl := Except.ok.inj hs
      obtain rfl := Except.ok.inj ht
      exact TypedVar.source_of_same hsame
    | @spread v w hvw =>
      obtain ⟨u, hu, rfl⟩ := of_print_spread hs
      obtain ⟨u', hu', rfl⟩ := of_print_spread ht
      have huu : u = u' := ih v (List.mem_singleton.mpr rfl) w (hb.inside (List.mem_singleton.mpr rfl)) hvw u u'
        (source_eq_ok.mp hu).2 (source_eq_ok.mp hu').2
      rw [huu]
    | changer hnodes =>
      exact changer_canonical (fun n hn x hx => ih x (List.mem_flatMap.mpr ⟨n, hn, hx⟩))
        (fun m hm y hy => hb.inside (List.mem_flatMap.mpr ⟨m, hm, hy⟩)) (.changer hnodes) hs ht
    | colour hsame => exact Except.ok.inj (hs.symm.trans ((Colour.source_of_same hsame).trans ht))
    | gradient hsame => exact Except.ok.inj (hs.symm.trans ((Gradient.source_of_same hsame).trans ht))
    | hooks hsame =>
      obtain rfl := Except.ok.inj hs
      obtain rfl := Except.ok.inj ht
      rw [eq_of_sameHooks hv.2 hb.here hsame]

/-! ## Datasets of two -/

/-- A dataset of two members that differ. -/
theorem everywhere_pair_distinct {tag : Tag} (hx : x.Everywhere Distinct) (hy : y.Everywhere Distinct)
    (hne : ¬ Equal x y) : (Value.dataset tag [x, y]).Everywhere Distinct :=
  everywhere_of_parts_two rfl (List.pairwise_pair.mpr hne) hx hy

/-- Datasets of the same two members are equal, if these are what they are and can be put in order, whichever of them
was added first. -/
theorem equals_swap {tag tag' : Tag} {x' y' : Value} {s t : String}
    (ha : (Value.dataset tag [x, y]).Everywhere Distinct) (hb : (Value.dataset tag' [y', x']).Everywhere Distinct)
    (hs : (Value.dataset tag [x, y]).source = .ok s) (ht : (Value.dataset tag' [y', x']).source = .ok t)
    (hx : Equal x' x) (hy : Equal y' y) : equals (.dataset tag [x, y]) (.dataset tag' [y', x']) = .ok true := by
  have hiff := equal_iff_agree_of_print ha hb (source_eq_ok.mp hs).2 (source_eq_ok.mp ht).2
  refine hiff.mpr (.dataset rfl fun v hv => ?_)
  rcases List.mem_pair.mp hv with rfl | rfl
  · exact ⟨x', List.mem_pair.mpr (Or.inr rfl), hx⟩
  · exact ⟨y', List.mem_pair.mpr (Or.inl rfl), hy⟩

/-- Numbers that are the same datum are equal values. -/
theorem equal_number {m n : Number} (h : m.sameDatum n = true) : Equal (.number m) (.number n) := by
  have hm : (Value.number m).Everywhere Comparable := everywhere_of_parts_nil rfl trivial
  have hn : (Value.number n).Everywhere Comparable := everywhere_of_parts_nil rfl trivial
  exact (equal_iff_agree hm hn).mpr (.number h)

/-! ## The whole -/

/-- **Equal values print the same text if the order in the first is settled,** and the members of equal
datasets come in the same order. -/
theorem source_canonical (ha : a.Everywhere Distinct) (hb : b.Everywhere Distinct) (hsettled : a.Everywhere Settled)
    {s t : String} (hs : a.source = .ok s) (ht : b.source = .ok t) (h : equals a b = .ok true) :
    s = t ∧ ∀ tag tag' xs ys, a = .dataset tag xs → b = .dataset tag' ys →
      ∃ os ot, sorted xs = .ok os ∧ sorted ys = .ok ot ∧ List.Forall₂ Equal os ot := by
  have hsprint : a.print = .ok s := (source_eq_ok.mp hs).2
  have htprint : b.print = .ok t := (source_eq_ok.mp ht).2
  refine ⟨print_canonical (ha.and hsettled) b hb h s t hsprint htprint, ?_⟩
  rintro tag tag' xs ys rfl rfl
  have hagree := (equal_iff_agree_of_print ha hb hsprint htprint).mp h
  obtain ⟨hlength, hpartner⟩ := Agree.dataset_iff.mp hagree
  obtain ⟨os, _, hos, _, _⟩ := of_print_dataset hsprint
  obtain ⟨ot, _, hot, _, _⟩ := of_print_dataset htprint
  refine ⟨os, ot, hos, hot, ?_⟩
  exact sorted_canonical (fun x hx => ⟨ha.inside hx, print_canonical ((ha.inside hx).and (hsettled.inside hx))⟩)
    (fun y hy => hb.inside hy) hsettled.here hlength hpartner hos hot

/-- A list of one string has nothing that could be there twice. -/
theorem everywhere_distinct_list : (Value.array [.string "x"]).Everywhere Distinct :=
  everywhere_of_parts_one rfl trivial (everywhere_of_parts_nil rfl trivial)

/-- A number does not tie with a list: one is sorted as a number, the other as text. -/
theorem not_tied_list {n : Number} (hn : n.isNumber = true) : ¬ Tied naturalKey (.number n) (.array [.string "x"]) :=
  fun h => absurd (h.isNumber_eq.symm.trans hn) Bool.false_ne_true

/-- A number and a list come in one order, whichever was added first and of whichever kind the number is. -/
theorem source_oneThenList :
    oneThenList.Everywhere Distinct ∧ listThenOne.Everywhere Distinct ∧ oneThenList.Everywhere Settled ∧
      equals oneThenList listThenOne = .ok true ∧ oneThenList.source = .ok "(ds:1,(a:\"x\"))" ∧
      listThenOne.source = .ok "(ds:1,(a:\"x\"))" ∧
      ∃ os ot, sorted [.number (.int 1), .array [.string "x"]] = .ok os ∧
        sorted [.array [.string "x"], .number (.real (.finite false ⟨1023, by decide⟩ ⟨0, twoTo_pos 52⟩))] = .ok ot ∧
        List.Forall₂ Equal os ot := by
  have ha : oneThenList.Everywhere Distinct :=
    everywhere_pair_distinct (everywhere_of_parts_nil rfl trivial) everywhere_distinct_list
      (not_equal_of_samePlain rfl rfl)
  have hb : listThenOne.Everywhere Distinct :=
    everywhere_pair_distinct everywhere_distinct_list (everywhere_of_parts_nil rfl trivial)
      (not_equal_of_samePlain rfl rfl)
  have hsettled : oneThenList.Everywhere Settled :=
    everywhere_of_parts_two rfl (List.pairwise_pair.mpr (not_tied_list rfl)) (everywhere_of_parts_nil rfl trivial)
      (everywhere_of_parts_one rfl trivial (everywhere_of_parts_nil rfl trivial))
  -- each dataset is put in the one order, from the two orders in which the members were added
  have hsorted : sorted [.number (.int 1), .array [.string "x"]] =
      .ok [.number (.int 1), .array [.string "x"]] := sorted_pair (by decide +kernel)
  have hsorted' : sorted [.array [.string "x"], .number (.real (.finite false ⟨1023, by decide⟩ ⟨0, twoTo_pos 52⟩))] =
      .ok [.number (.real (.finite false ⟨1023, by decide⟩ ⟨0, twoTo_pos 52⟩)), .array [.string "x"]] :=
    sorted_swap (by decide +kernel) (not_tied_list rfl)
  have hs : oneThenList.source = .ok "(ds:1,(a:\"x\"))" := source_dataset hsorted (by decide +kernel)
  have ht : listThenOne.source = .ok "(ds:1,(a:\"x\"))" := source_dataset hsorted' (by decide +kernel)
  have hequal : equals oneThenList listThenOne = .ok true :=
    equals_swap ha hb hs ht (equal_number (by decide +kernel)) (equal_refl everywhere_list)
  exact ⟨ha, hb, hsettled, hequal, hs, ht, (source_canonical ha hb hsettled hs ht hequal).2 _ _ _ _ rfl rfl⟩

/-- A dataset of the first integer that no double holds and the one before it. -/
def twoLarge : Value := .dataset (some 1) [.number (.int 9007199254740992), .number (.int 9007199254740993)]

/-- The same integers added the other way round. -/
def twoLargeBack : Value := .dataset (some 2) [.number (.int 9007199254740993), .number (.int 9007199254740992)]

/-- The two integers tie, so **equal datasets are printed in two orders**. -/
theorem twoLarge_not_canonical :
    twoLarge.Everywhere Distinct ∧ twoLargeBack.Everywhere Distinct ∧ equals twoLarge twoLargeBack = .ok true ∧
      twoLarge.source = .ok "(ds:9007199254740992,9007199254740993)" ∧
      twoLargeBack.source = .ok "(ds:9007199254740993,9007199254740992)" := by
  have hsorted : sorted [.number (.int 9007199254740992), .number (.int 9007199254740993)] =
      .ok [.number (.int 9007199254740992), .number (.int 9007199254740993)] := sorted_pair (by decide +kernel)
  have hsorted' : sorted [.number (.int 9007199254740993), .number (.int 9007199254740992)] =
      .ok [.number (.int 9007199254740993), .number (.int 9007199254740992)] := sorted_pair (by decide +kernel)
  have hs : twoLarge.source = .ok "(ds:9007199254740992,9007199254740993)" :=
    source_dataset hsorted (by decide +kernel)
  have ht : twoLargeBack.source = .ok "(ds:9007199254740993,9007199254740992)" :=
    source_dataset hsorted' (by decide +kernel)
  have ha : twoLarge.Everywhere Distinct :=
    everywhere_pair_distinct (everywhere_of_parts_nil rfl trivial) (everywhere_of_parts_nil rfl trivial)
      (not_equal_of_samePlain rfl (by decide +kernel))
  have hb : twoLargeBack.Everywhere Distinct :=
    everywhere_pair_distinct (everywhere_of_parts_nil rfl trivial) (everywhere_of_parts_nil rfl trivial)
      (not_equal_of_samePlain rfl (by decide +kernel))
  have hsame (n : Number) : Equal (.number n) (.number n) := equal_number (Number.sameDatum_equivalence.refl n)
  exact ⟨ha, hb, equals_swap ha hb hs ht (hsame _) (hsame _), hs, ht⟩

end Value

end StoryValues
