import StoryValues.Proofs.Error.Faultless
import StoryValues.Proofs.Number.Rounding
import StoryValues.Proofs.Value.Copying
import StoryValues.Proofs.Value.Description
import StoryValues.Proofs.Value.Keys

/-
  SOUND VALUES, about which nothing can go wrong that is not the story's own doing.

  What makes a value unfit to be asked, compared, sorted or written as source is always one of these: an integer
  without a nearest double; in a colour or a gradient, whose numbers are never turned into doubles, an integer that
  is too long to be written; an error where there should be a value, in a dataset, behind dots, or in a chain or
  command; names of a datamap that are not all different; and a datatype in a lambda that is not listed or cannot
  count so far.  `Value.Sound` rules them out, one constructor for each kind of value, and at every depth.

  1. **Sound values print**, and sort unless they are errors (`Sound.prints`, `Sound.exists_key`), by induction on
     the value: only a dataset sorts what it holds, and it holds no errors.  Messages can speak of them
     (`Sound.exists_objectName`).
  2. **So they can be compared, stored and asked about** (`Sound.comparable`, `Sound.exists_unstorable?`,
     `Sound.measured`).
  3. **Tags play no part**, so copies are sound and so is what the world takes in (`Sound.clone`, `Sound.adopt`).
-/

namespace StoryValues

variable {settings : Settings}

/-- A datatype that can be asked, or that says why not: a listed one, or a pattern that counts no further than a
matcher can. -/
def Datatype.Sound : Datatype → Prop
  | .named name _ => (tests.lookup name).isSome = true
  | .pattern shape parts folded spread =>
    shape = .notBefore ∨ (Datatype.pattern shape parts folded spread).overflows = false

instance : DecidablePred Datatype.Sound
  | .named name _ => inferInstanceAs (Decidable ((Datatype.tests.lookup name).isSome = true))
  | .pattern .. => inferInstanceAs (Decidable (_ ∨ _))

/-- The datatypes of the variables of a lambda can be asked. -/
def Lambda.Sound (l : Lambda) : Prop :=
  ∀ v, l.loop = some v ∨ l.making = some v → ∀ d, v.datatype = some d → d.Sound

/-- Asking a sound datatype is no fault, but for an integer without a double, which a test for whole or even numbers
needs.  A lookahead that is asked by itself answers with a story error. -/
theorem Datatype.Sound.faultless_accepts {d : Datatype} {v : Value} (hd : d.Sound) (hv : v.Measured)
    (hsettings : settings.catalogue = Catalogue.bundled) : Check.Faultless settings (d.accepts v) := by
  cases d with
  | named name spread => exact (answers_accepts (d := .named name spread) hd hv).faultless
  | pattern shape parts folded spread =>
    by_cases hshape : shape = .notBefore
    · subst hshape
      exact Check.faultless_fail hsettings (by decide) (by decide)
    · have hready : (pattern shape parts folded spread).Ready := ⟨hshape, hd.resolve_left hshape⟩
      exact (answers_accepts hready hv).faultless

/-- Whether a number is whole can be told from the double next to it. -/
theorem Number.exists_isWhole {n : Number} (h : ∃ x, n.toDouble = .ok x) : ∃ whole, n.isWhole = .ok whole := by
  obtain ⟨x, hx⟩ := h
  exact ⟨x.isWhole, by rw [isWhole, hx]; rfl⟩

/-! ## Colours and gradients -/

/-- A colour none of whose channels is too long to be written. -/
def Colour.Short (c : Colour) : Prop := ∀ n ∈ c.channels, n.isShort = true

/-- A gradient none of whose numbers is too long to be written, the channels of its colours among them. -/
def Gradient.Short (g : Gradient) : Prop :=
  g.angle.isShort = true ∧ ∀ stop ∈ g.stops, stop.1.isShort = true ∧ stop.2.Short

/-- A colour of short channels can be written as source. -/
theorem Colour.Short.exists_source {c : Colour} (h : c.Short) : ∃ text, c.source = .ok text := by
  obtain ⟨channels, hchannels⟩ := exists_mapM fun n hn => ⟨n.written, Number.format_of_isShort (h n hn)⟩
  exact ⟨_, by rw [source, hchannels]; rfl⟩

/-- A tag that a number gets is no part of its text. -/
theorem Number.isShort_adopt {n : Number} (h : n.isShort = true) (next : Nat) : (n.adopt next).1.isShort = true := by
  cases n with
  | int k => exact h
  | real x => cases x <;> rfl

/-- So can it with the tags that its channels get. -/
theorem Colour.Short.adopt {c : Colour} (h : c.Short) (next : Nat) : (c.adopt next).1.Short := by
  simp only [Short, channels, List.forall_mem_cons] at h ⊢
  obtain ⟨hred, hgreen, hblue, halpha, _⟩ := h
  exact ⟨Number.isShort_adopt hred _, Number.isShort_adopt hgreen _, Number.isShort_adopt hblue _,
    Number.isShort_adopt halpha _, List.forall_mem_nil _⟩

/-- A gradient can be written as source, if its angle, the places of its stops and the channels of their colours are
short. -/
theorem Gradient.Short.exists_source {g : Gradient} (h : g.Short) : ∃ text, g.source = .ok text := by
  obtain ⟨hangle, hstops⟩ := h
  obtain ⟨stops, hstops⟩ := exists_mapM (f := stopTexts) fun stop hstop => by
    obtain ⟨hat, hcolour⟩ := hstops stop hstop
    obtain ⟨text, htext⟩ := hcolour.exists_source
    exact ⟨[stop.1.written, text], by rw [stopTexts, Number.format_of_isShort hat, htext]; rfl⟩
  exact ⟨_, by rw [source, Number.format_of_isShort hangle, hstops]; rfl⟩

namespace Value

/-- A value that is sound, and so is everything in it. -/
inductive Sound : Value → Prop
  | nothing : Sound .nothing
  | boolean (b : Bool) : Sound (.boolean b)
  | number {n : Number} : (∃ x, n.toDouble = .ok x) → Sound (.number n)
  | string (s : String) : Sound (.string s)
  | array {items : List Value} : (∀ x ∈ items, Sound x) → Sound (.array items)
  | datamap {tag : Tag} {entries : List (Name × Value)} : (∀ e ∈ entries, ∃ key, e.1.key = .ok key) →
      (entries.Pairwise fun e e' => ¬ e.1.same e'.1 = true) → (∀ e ∈ entries, Sound e.2) →
      Sound (.datamap tag entries)
  | dataset {tag : Tag} {members : List Value} : (∀ x ∈ members, x.ErrorFree) → (∀ x ∈ members, Sound x) →
      Sound (.dataset tag members)
  | error (e : StoryError) : Sound (.error e)
  | datatype (d : Datatype) : Sound (.datatype d)
  | typedVar (v : TypedVar) : Sound (.typedVar v)
  | spread {v : Value} : v.ErrorFree → Sound v → Sound (.spread v)
  | changer {nodes : List (String × List Value)} : (∀ n ∈ nodes, ∀ x ∈ n.2, x.ErrorFree) →
      (∀ n ∈ nodes, ∀ x ∈ n.2, Sound x) → Sound (.changer nodes)
  | command {tag : Tag} {name : String} {params : List Value} {action : Action} : (∀ x ∈ params, x.ErrorFree) →
      (∀ x ∈ params, Sound x) → Sound (.command tag name params action)
  | colour {c : Colour} : c.Short → Sound (.colour c)
  | gradient {g : Gradient} : g.Short → Sound (.gradient g)
  | hooks (names : List String) : Sound (.hooks names)
  | lambda {l : Lambda} : l.Sound → Sound (.lambda l)
  | custom (m : CustomMacro) : Sound (.custom m)
  | filtered : Sound .filtered

variable {v : Value}

/-! ## Parts -/

/-- The items of a sound array are sound. -/
theorem Sound.of_array {items : List Value} (h : Sound (.array items)) : ∀ x ∈ items, Sound x := by
  cases h with
  | array hitems => exact hitems

/-- The members of a sound dataset are sound; that none is an error is said apart. -/
theorem Sound.of_dataset {tag : Tag} {members : List Value} (h : Sound (.dataset tag members)) :
    ∀ x ∈ members, Sound x := by
  cases h with
  | dataset _ hmembers => exact hmembers

/-- What is behind the dots of a sound spread value is sound. -/
theorem Sound.of_spread (h : Sound (.spread v)) : v.Sound := by
  cases h with
  | spread _ hv => exact hv

/-- A sound number has a double next to it. -/
theorem Sound.of_number {n : Number} (h : Sound (.number n)) : ∃ x, n.toDouble = .ok x := by
  cases h with
  | number hn => exact hn

/-- A name that has a key makes a sound value. -/
theorem sound_ofName {name : Name} (h : ∃ key, name.key = .ok key) : (ofName name).Sound := by
  cases name with
  | text s => exact .string s
  | number n => exact .number (exists_ofNumber_iff.mp h)

/-- The names of a sound datamap make sound values. -/
theorem Sound.names {tag : Tag} {entries : List (Name × Value)} (h : Sound (.datamap tag entries)) :
    ∀ e ∈ entries, (ofName e.1).Sound := by
  cases h with
  | datamap hkeys _ _ => exact fun e he => sound_ofName (hkeys e he)

/-- A command prints if its parameters have sources. -/
theorem prints_command {tag : Tag} {name : String} {params : List Value} {action : Action}
    (h : ∀ x ∈ params, x.HasSource) : Prints (.command tag name params action) := by
  obtain ⟨texts, htexts⟩ := exists_collect_iff.mpr fun x hx => hasSource_iff.mp (h x hx)
  refine ⟨callText name texts, ?_⟩
  rw [print, zipWith_printAll]
  show collect (params.map source) >>= _ = _
  rw [htexts]
  rfl

/-- A value without errors that prints can be sorted, unless it is an integer without a double: numbers are sorted by
doubles, and all else by source. -/
theorem HasSource.exists_key (h : v.HasSource) (hv : v.Measured) : ∃ key, naturalKey v = .ok key := by
  obtain ⟨hfree, text, htext⟩ := h
  have hsource : v.source = .ok text := source_eq_ok.mpr ⟨firstError?_eq_none.mpr hfree, htext⟩
  have hother : ∃ key, (v.source).map NaturalKey.ofText = .ok key := ⟨NaturalKey.ofText text, by rw [hsource]; rfl⟩
  cases v with
  | string s => exact ⟨NaturalKey.ofText s, rfl⟩
  | number n =>
    by_cases hn : n.isNumber = true
    · rw [naturalKey_number hn]
      exact exists_ofNumber_iff.mpr hv
    · exact ⟨NaturalKey.ofText text, by rw [naturalKey, keyOf, if_neg hn, htext]; rfl⟩
  | _ => exact hother

/-- A sound value is no integer without a double. -/
theorem Sound.measured (h : v.Sound) : v.Measured := by
  cases h with
  | number hn => exact hn
  | _ => exact trivial

/-- **Sound values print.**  By induction on the value; where it is a dataset, its members are sorted on the way, and
then no error may be among them. -/
theorem Sound.prints (h : v.Sound) : v.Prints := by
  induction h with
  | number hn =>
    obtain ⟨x, hx⟩ := hn
    exact ⟨_, Number.format_of_isShort (Number.isShort_of_toDouble hx)⟩
  | colour hc => exact hc.exists_source
  | gradient hg => exact hg.exists_source
  | array _ ih => exact prints_array.mpr ih
  | datamap hkeys _ _ ih => exact prints_datamap.mpr fun e he => ⟨hkeys e he, ih e he⟩
  | dataset hfree hmembers ih =>
    exact prints_dataset.mpr fun x hx => HasSource.exists_key ⟨hfree x hx, ih x hx⟩ (hmembers x hx).measured
  | spread hfree _ ih => exact prints_spread.mpr ⟨hfree, ih⟩
  | changer hfree _ ih => exact prints_changer.mpr fun n hn x hx => ⟨hfree n hn x hx, ih n hn x hx⟩
  | command hfree _ ih => exact prints_command fun x hx => ⟨hfree x hx, ih x hx⟩
  | _ => exact ⟨_, rfl⟩

/-- Sound values that are no errors have a key. -/
theorem Sound.exists_key (h : v.Sound) (hfree : v.ErrorFree) : ∃ key, naturalKey v = .ok key :=
  HasSource.exists_key ⟨hfree, h.prints⟩ h.measured

/-- The members of a sound dataset can be put in order, and that order holds the same members. -/
theorem Sound.exists_sorted {tag : Tag} {members : List Value} (h : Sound (.dataset tag members)) :
    ∃ ordered, sorted members = .ok ordered ∧ ordered.Perm members := by
  cases h with
  | dataset hfree hmembers => exact sortOn_perm fun x hx => (hmembers x hx).exists_key (hfree x hx)

/-- A message can speak of every sound value, since the numbers that it mentions are sound and so not too long. -/
theorem Sound.exists_objectName (h : v.Sound) : ∃ text, v.objectName = .ok text := by
  refine Value.exists_objectName ?_
  cases h with
  | number hn =>
    obtain ⟨x, hx⟩ := hn
    exact not_tooLong_number (Number.isShort_of_toDouble hx)
  | changer _ hparams =>
    -- what the chain was given first is sound as well
    rintro (_ | hlong)
    obtain ⟨x, hx⟩ := (hparams _ List.mem_cons_self _ List.mem_cons_self).of_number
    exact absurd ((Number.isShort_of_toDouble hx).symm.trans hlong) (by decide)
  | _ => exact nofun

/-! ## Comparing, storing -/

/-- A sound value can be compared, and so can everything in it: the members of its datasets have keys. -/
theorem Sound.comparable (h : v.Sound) : v.Everywhere Comparable := by
  induction h with
  | array _ ih => exact .intro trivial ih
  | datamap _ hnames _ ih =>
    refine .intro hnames fun x hx => ?_
    obtain ⟨e, he, rfl⟩ := List.mem_map.mp hx
    exact ih e he
  | dataset hfree hmembers ih => exact .intro (fun x hx => (hmembers x hx).exists_key (hfree x hx)) ih
  | spread _ _ ih => exact everywhere_of_parts_one rfl trivial ih
  | changer _ _ ih =>
    refine .intro trivial fun x hx => ?_
    obtain ⟨n, hn, hx⟩ := List.mem_flatMap.mp hx
    exact ih n hn x hx
  | _ => exact everywhere_of_parts_nil rfl trivial

/-- A copy of a sound value is sound: only the outermost tag is another. -/
theorem Sound.clone (h : v.Sound) : v.clone.Sound := by
  cases h with
  | datamap hkeys hnames hvalues => exact .datamap hkeys hnames hvalues
  | dataset hfree hmembers => exact .dataset hfree hmembers
  | nothing => exact .nothing
  | boolean b => exact .boolean b
  | number hn => exact .number hn
  | string s => exact .string s
  | array hitems => exact .array hitems
  | error e => exact .error e
  | datatype d => exact .datatype d
  | typedVar w => exact .typedVar w
  | spread hfree hv => exact .spread hfree hv
  | changer hfree hparams => exact .changer hfree hparams
  | command hfree hparams => exact .command hfree hparams
  | colour hc => exact .colour hc
  | gradient hg => exact .gradient hg
  | hooks names => exact .hooks names
  | lambda hl => exact .lambda hl
  | custom m => exact .custom m
  | filtered => exact .filtered

/-- A value of a list that got tags is one of the list, with tags. -/
theorem mem_adoptAll {vs : List Value} {x : Value} :
    ∀ {next : Nat}, x ∈ (adoptAll next vs).1 → ∃ v ∈ vs, ∃ k, x = (v.adopt k).1 := by
  induction vs with
  | nil => exact fun h => absurd h List.not_mem_nil
  | cons v vs ih =>
    intro next h
    rcases List.mem_cons.mp h with rfl | h
    · exact ⟨v, List.mem_cons_self, next, rfl⟩
    · obtain ⟨u, hu, k, hk⟩ := ih h
      exact ⟨u, List.mem_cons_of_mem v hu, k, hk⟩

/-- The same of the nodes of a chain and their parameters. -/
theorem mem_adoptNodes {nodes : List (String × List Value)} {m : String × List Value} :
    ∀ {next : Nat}, m ∈ (adoptNodes next nodes).1 → ∃ n ∈ nodes, ∃ k, m.2 = (adoptAll k n.2).1 := by
  induction nodes with
  | nil => exact fun h => absurd h List.not_mem_nil
  | cons n nodes ih =>
    intro next h
    rcases List.mem_cons.mp h with rfl | h
    · exact ⟨n, List.mem_cons_self, next, rfl⟩
    · obtain ⟨m', hm', k, hk⟩ := ih h
      exact ⟨m', List.mem_cons_of_mem n hm', k, hk⟩

/-- Names get no tags. -/
theorem map_fst_adoptEntries (entries : List (Name × Value)) :
    ∀ next, (adoptEntries next entries).1.map Prod.fst = entries.map Prod.fst := by
  induction entries with
  | nil => exact fun next => rfl
  | cons e rest ih => exact fun next => congrArg (_ :: ·) (ih _)

/-- What holds of all values of a list, whatever their tags, holds of them with their tags. -/
theorem forall_mem_adoptAll {P : Value → Prop} {vs : List Value} {next : Nat}
    (h : ∀ v ∈ vs, ∀ k, P (v.adopt k).1) : ∀ x ∈ (adoptAll next vs).1, P x := by
  intro x hx
  obtain ⟨v, hv, k, rfl⟩ := mem_adoptAll hx
  exact h v hv k

/-- The same of the parameters of a chain. -/
theorem forall_mem_adoptNodes {P : Value → Prop} {nodes : List (String × List Value)} {next : Nat}
    (h : ∀ n ∈ nodes, ∀ v ∈ n.2, ∀ k, P (v.adopt k).1) : ∀ m ∈ (adoptNodes next nodes).1, ∀ x ∈ m.2, P x := by
  intro m hm
  obtain ⟨n, hn, k, hk⟩ := mem_adoptNodes hm
  rw [hk]
  exact forall_mem_adoptAll (h n hn)

/-- **Getting tags keeps a value sound.**  By induction on the value, with the lists of values in it by the lemmas
before. -/
theorem Sound.adopt (h : v.Sound) : ∀ next, (v.adopt next).1.Sound := by
  induction h with
  | number hn =>
    rename_i n
    intro next
    refine .number ?_
    cases n with
    | int k => exact hn
    | real x => cases x <;> exact ⟨_, rfl⟩
  | array _ ih => exact fun next => .array (forall_mem_adoptAll ih)
  | datamap hkeys hnames _ ih =>
    rename_i tag entries _
    intro next
    -- the names get no tags, so they have keys and differ as before
    have hfst := map_fst_adoptEntries entries (Tag.adopt next tag).2
    refine .datamap (fun e he => ?_) ?_ fun e he => ?_
    · obtain ⟨e', he', hname⟩ := List.mem_map.mp (hfst ▸ List.mem_map_of_mem (f := Prod.fst) he)
      exact hname ▸ hkeys e' he'
    · have hpairwise : (entries.map Prod.fst).Pairwise fun m n => ¬ m.same n = true := List.pairwise_map.mpr hnames
      exact List.pairwise_map.mp (hfst ▸ hpairwise)
    · have hvalues : ∀ x ∈ (adoptAll (Tag.adopt next tag).2 (entries.map Prod.snd)).1, x.Sound :=
        forall_mem_adoptAll fun x hx => by
          obtain ⟨e', he', rfl⟩ := List.mem_map.mp hx
          exact ih e' he'
      exact hvalues e.2 (map_snd_adoptEntries entries _ ▸ List.mem_map_of_mem he)
  | dataset hfree _ ih =>
    exact fun next => .dataset (forall_mem_adoptAll fun x hx k => (errorFree_adopt k).mpr (hfree x hx))
      (forall_mem_adoptAll ih)
  | spread hfree _ ih => exact fun next => .spread ((errorFree_adopt next).mpr hfree) (ih next)
  | changer hfree _ ih =>
    exact fun next => .changer (forall_mem_adoptNodes fun n hn x hx k => (errorFree_adopt k).mpr (hfree n hn x hx))
      (forall_mem_adoptNodes ih)
  | command hfree _ ih =>
    exact fun next => .command (forall_mem_adoptAll fun x hx k => (errorFree_adopt k).mpr (hfree x hx))
      (forall_mem_adoptAll ih)
  -- nothing is inside the others
  | nothing => exact fun next => .nothing
  | boolean b => exact fun next => .boolean b
  | string s => exact fun next => .string s
  | error e => exact fun next => .error _
  | datatype d => exact fun next => .datatype d
  | typedVar w => exact fun next => .typedVar w
  | colour hc => exact fun next => .colour (hc.adopt next)
  | gradient hg => exact fun next => .gradient hg
  | hooks names => exact fun next => .hooks names
  | lambda hl => exact fun next => .lambda hl
  | custom m => exact fun next => .custom _
  | filtered => exact fun next => .filtered

end Value

end StoryValues
