import StoryValues.Proofs.Macro.SortedNumbers
import StoryValues.Proofs.Value.Ranking

/-
  SORTED TEXTS come out the same, in whatever order they went in.

  A stable sort keeps values that tie in the order that they had; texts tie only with themselves, so that order does not
  show.  Sorting texts always gives an array (`exists_sortByKeys`): of the texts, each of which precedes those behind it
  (`sortByKeys_texts`).  There is one such list of the same texts only (`eq_of_precedes`).

  With what ranking does to a text and to any two values, this is the natural order of texts
  (`Registry.natural_order_of_texts`).
-/

namespace StoryValues

variable {σ : Type} {settings : Settings} {host : Host σ} {w : World σ}

namespace Value

/-- Lists of the same texts, each of which precedes those behind it, are one list. -/
theorem eq_of_precedes {ss ts : List String} (hss : ss.Pairwise fun s t => Precedes (.string s) (.string t))
    (hts : ts.Pairwise fun s t => Precedes (.string s) (.string t)) (hperm : ss.Perm ts) : ss = ts :=
  List.Perm.eq_of_pairwise (fun _ _ _ _ => precedes_antisymm) hss hts hperm

end Value

namespace StandardMacro

open Value (Before Precedes Rankable naturalKey)

variable {values keys : List Value}

/-- **Values are sorted** if their keys are of the right kinds and can be ranked. -/
theorem exists_sortByKeys (hlength : keys.length = values.length) (hsortable : Value.objection? isSortable keys = none)
    (hkeys : ∀ k ∈ keys, k.Rankable) :
    ∃ out, ∀ settings, sortByKeys values keys settings = .ok (.array out) ∧ StablySorted keys values out := by
  have hpairs : ∀ pair ∈ keys.zip values, ∃ j, naturalKey pair.1 = .ok j := fun pair hpair =>
    Value.rankable_iff.mp (hkeys pair.1 (List.of_mem_zip hpair).1)
  obtain ⟨sorted, hsorted, -⟩ := sortOn_perm hpairs
  refine ⟨sorted.map Prod.snd, fun settings => ?_⟩
  have hsorts : sortByKeys values keys settings = .ok (.array (sorted.map Prod.snd)) := by
    unfold sortByKeys
    rw [hsortable]
    exact Check.bind_of_ok (Check.lift_eq_ok.mpr hsorted)
  obtain ⟨out, heq, hstable⟩ := stable_of_sortByKeys hlength hsorts
  obtain rfl := Value.array.inj heq
  exact ⟨hsorts, hstable⟩

/-- What was sorted by itself is in order. -/
theorem StablySorted.before {out : List Value} (h : StablySorted values values out) :
    out.Pairwise (Before naturalKey) :=
  (h.pairwise_iff fun _ _ _ _ hbefore _ => hbefore).mpr (List.pairwise_of_forall fun _ _ => Value.Tied.before)

/-- **Texts are sorted:** each precedes those behind it. -/
theorem sortByKeys_texts (ss : List String) :
    ∃ os : List String, os.Perm ss ∧ (os.Pairwise fun s t => Precedes (.string s) (.string t)) ∧
      ∀ settings, sortByKeys (ss.map .string) (ss.map .string) settings = .ok (.array (os.map .string)) := by
  have hsortable : Value.objection? isSortable (ss.map .string) = none :=
    Value.objection?_of_forall (List.forall_mem_map.mpr fun _ _ => rfl)
  have hrankable : ∀ v ∈ ss.map Value.string, v.Rankable := List.forall_mem_map.mpr fun s _ => .text s
  obtain ⟨out, hout⟩ := exists_sortByKeys rfl hsortable hrankable
  obtain ⟨-, hstable⟩ := hout Settings.usual
  -- what comes out are the texts again, in some order
  obtain ⟨os, rfl⟩ : out ∈ Set.range (List.map Value.string) := by
    rw [Set.range_list_map]
    intro v hv
    obtain ⟨s, -, rfl⟩ := List.mem_map.mp (hstable.perm.mem_iff.mp hv)
    exact ⟨s, rfl⟩
  refine ⟨os, (List.map_perm_map_iff fun _ _ => Value.string.inj).mp hstable.perm, ?_, fun settings => (hout settings).1⟩
  refine (List.pairwise_map.mp hstable.before).imp fun {s t} hbefore => ?_
  exact Value.precedes_texts_iff.mpr (hbefore _ _ rfl rfl)

end StandardMacro

/-! ## Calls -/

namespace Registry

open StandardMacro
open Value (Precedes Rankable naturalKey)
open NaturalKey (Cut)

/-- A call with texts gives texts, which get no tags. -/
theorem call_sortByKeys {r : Registry} {name : String} (hsorted : r.get? name = standard.get? "sorted")
    {ss os : List String}
    (h : sortByKeys (ss.map .string) (ss.map .string) settings = .ok (.array (os.map .string))) :
    (r.call host name (ss.map .string) settings w).1 = .ok (.array (os.map .string)) := by
  have hadopt : Value.adoptAll w.fresh (os.map .string) = (os.map .string, w.fresh) :=
    Value.adoptAll_eq_self (List.forall_mem_map.mpr fun _ _ _ => rfl) w.fresh
  rw [call_of_sortByKeys hsorted (List.forall_mem_map.mpr fun _ _ => rfl) h host w, hadopt]

/-- **The natural order of texts.**

* A text has one cut, which is its key.  The texts of the parts, which are their third components, make up the text when
  they are joined.  No two neighbours are both words.
* Texts of one key are one text, and so are texts whose keys do not differ when they are compared.
* Any two values that can be ranked have keys that can be compared: where one has a number, so has the other.
* So ranking is reflexive, transitive and total, and texts that precede each other are one text.
* Sorting the same texts gives the same array, whatever their order. -/
theorem natural_order_of_texts (host : Host σ) (settings : Settings) (w : World σ) {r : Registry} {name : String}
    (hsorted : r.get? name = standard.get? "sorted") :
    (∀ s : String, ∃ key, naturalKey (.string s) = .ok key ∧ (∀ cut, Cut s.toList cut ↔ cut = key) ∧
      String.join (key.map KeyPart.text) = s ∧ key.IsChain fun p q => ¬ (p.isWords = true ∧ q.isWords = true)) ∧
    (∀ s t : String, ∃ j k, naturalKey (.string s) = .ok j ∧ naturalKey (.string t) = .ok k ∧ (j = k ↔ s = t) ∧
      (j.compare? k = some .eq ↔ s = t)) ∧
    (∀ v u : Value, v.Rankable → u.Rankable →
      ∃ j k, naturalKey v = .ok j ∧ naturalKey u = .ok k ∧ j.compare? k = some (j.order k)) ∧
    (∀ v : Value, v.Rankable → Precedes v v) ∧
    (∀ v u x : Value, Precedes v u → Precedes u x → Precedes v x) ∧
    (∀ v u : Value, v.Rankable → u.Rankable → Precedes v u ∨ Precedes u v) ∧
    (∀ s t : String, Precedes (.string s) (.string t) → Precedes (.string t) (.string s) → s = t) ∧
    ∀ ss : List String, ∃ os : List String, os.Perm ss ∧ (os.Pairwise fun s t => Precedes (.string s) (.string t)) ∧
      ∀ ts : List String, ts.Perm ss →
        (r.call host name (ts.map .string) settings w).1 = .ok (.array (os.map .string)) := by
  refine ⟨fun s => ?_, fun _ _ => ⟨_, _, rfl, rfl, NaturalKey.ofText_inj, NaturalKey.compare?_ofText_iff⟩,
    fun _ _ => Rankable.exists_compare?, fun _ => Value.precedes_refl, fun _ _ _ => Precedes.trans,
    fun _ _ => Value.precedes_total, fun _ _ => Value.precedes_antisymm, fun ss => ?_⟩
  · refine ⟨NaturalKey.ofText s, rfl, fun cut => NaturalKey.cut_iff.trans eq_comm, NaturalKey.join_ofText s, ?_⟩
    refine (NaturalKey.cut_ofChars s.toList).takes_turns.imp fun p q hturn hboth => ?_
    rw [hboth.1, hboth.2] at hturn
    exact nomatch hturn
  · obtain ⟨os, hos, horder, -⟩ := sortByKeys_texts ss
    refine ⟨os, hos, horder, fun ts hts => ?_⟩
    obtain ⟨ot, hot, horder', hsorts⟩ := sortByKeys_texts ts
    -- both results are in order and have the same texts, and texts that precede each other are one
    obtain rfl : ot = os := Value.eq_of_precedes horder' horder (hot.trans (hts.trans hos.symm))
    exact call_sortByKeys hsorted (hsorts settings)

/-- **Numerals in a text count as numbers:** in whatever order texts are given, two comes before ten.  A number comes
before the text that it has. -/
theorem natural_order_of_numbered :
    let settings : Settings := Settings.usual
    standard.get? "Sorted" = standard.get? "sorted" ∧
      (∃ j k, naturalKey (.number (.int 10)) = .ok j ∧ naturalKey (.string "10") = .ok k ∧ j.compare? k = some .lt) ∧
      ∀ ts : List String, ts.Perm ["b", "A", "a10", "a2"] →
        (standard.call placing "Sorted" (ts.map .string) settings (World.start [] ())).1 =
          .ok (.array (["A", "a2", "a10", "b"].map .string)) := by
  intro settings
  have hname : insensitiveName "Sorted" = insensitiveName "sorted" := by decide +kernel
  have hsorted : standard.get? "Sorted" = standard.get? "sorted" := congrArg (standard.macros.lookup ·) hname
  obtain ⟨-, -, hcompares, -, -, -, -, hcalls⟩ := natural_order_of_texts placing settings (World.start [] ()) hsorted
  refine ⟨hsorted, ?_, fun ts hts => ?_⟩
  · have hdouble : (Number.int 10).toDouble = .ok (.ofRatio false 10 1) := by decide +kernel
    obtain ⟨j, k, hj, hk, hcompare⟩ := hcompares (.number (.int 10)) (.string "10") (.number rfl hdouble) (.text "10")
    -- the two keys tie by their doubles, and the number has no text
    have horder : (do
        return (← naturalKey (.number (.int 10))).order (← naturalKey (.string "10")) : Except Fault Ordering) =
          .ok .lt := by decide +kernel
    rw [hj, hk] at horder
    have hlt : j.order k = .lt := Except.ok.inj horder
    exact ⟨j, k, hj, hk, hlt ▸ hcompare⟩
  · obtain ⟨os, hos, hprecedes, hcall⟩ := hcalls ["b", "A", "a10", "a2"]
    -- texts in order are the only ones that sorting can give
    have hbefore : ["A", "a2", "a10", "b"].Pairwise fun s t =>
        (NaturalKey.ofText s).le (NaturalKey.ofText t) = true := by decide +kernel
    have hexpected : ["A", "a2", "a10", "b"].Perm ["b", "A", "a10", "a2"] := by decide
    obtain rfl := Value.eq_of_precedes hprecedes (hbefore.imp Value.precedes_texts_iff.mpr) (hos.trans hexpected.symm)
    exact hcall ts hts

end Registry

end StoryValues
