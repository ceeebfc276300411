import StoryValues.Proofs.Lambda.OneItem
import StoryValues.Proofs.Macro.Call
import StoryValues.Proofs.Macro.Installed

/-
  FIND AND ALTERED GO ITEM BY ITEM, and stop at the first that fails.

  Both are loops that apply a lambda to one item after another, each in the world that the last one has left.  What
  becomes of one item is known (`Lambda.Tried`); here it is chained.

  1. **Items in turn** (`InTurn`) — none of some items fails, and this is what becomes of them.  Either this is so of
     all items of a list, or it is so of those before the first that fails (`inTurn_or_fails`).
  2. **A loop visits items** (`Visits`) if it stops at one that fails, and else goes on behind it.  By induction on the
     items before, it then gives what they come to (`Visits.gives`), or the failure of the first that fails, whatever
     stands behind this one (`Visits.fails`).
  3. **The two loops** visit their items.  That of `find` keeps the items that the guard accepts, and that of `altered`
     what is made of them, with the item itself where it was passed over.
  4. **The macros** (`find_altered_item_by_item`), and calls of them by name.  An item that the variable does not take
     need not be an error or of another type: whether an integer beyond all doubles is one cannot be found out
     (`find_tooLarge`).
-/

namespace StoryValues

variable {σ : Type} {settings : Settings} {host : Host σ} {w w' w₁ w₂ : World σ}

namespace Lambda

variable {l : Lambda} {via : Option String} {text : String} {item : Value} {pos : Nat} {items before : List Value}
  {outcome : Option Value} {outcomes : List (Option Value)} {e : Failure}

/-! ## Items in turn -/

/-- **Items in turn,** the first at a position: none fails, and each is visited in the world that the one before has
left.  The outcomes are what is made of them, and nothing for those that are passed over. -/
inductive InTurn (host : Host σ) (settings : Settings) (l : Lambda) (via : Option String) :
    World σ → Nat → List Value → List (Option Value) → World σ → Prop
  | nil {w : World σ} {pos : Nat} : InTurn host settings l via w pos [] [] w
  | cons {w w₁ w₂ : World σ} {pos : Nat} {item : Value} {items : List Value} {outcome : Option Value}
      {outcomes : List (Option Value)} : Tried host settings l via w item pos (.ok outcome) w₁ →
      InTurn host settings l via w₁ (pos + 1) items outcomes w₂ →
      InTurn host settings l via w pos (item :: items) (outcome :: outcomes) w₂

/-- There is an outcome for each item. -/
theorem InTurn.length_eq (h : InTurn host settings l via w pos items outcomes w') : outcomes.length = items.length := by
  induction h with
  | nil => rfl
  | cons _ _ ih => exact congrArg (· + 1) ih

/-- All items are visited on the frames of the first. -/
theorem InTurn.continues (hhost : host.Still settings) (h : InTurn host settings l via w pos items outcomes w') :
    w.Continues w' := by
  induction h with
  | nil => exact .refl _
  | cons htried _ ih => exact (htried.continues hhost).trans ih

/-- **The first item that fails,** if there is one, stands behind items of which none does.  By induction on the
items, since something becomes of every item. -/
theorem inTurn_or_fails (host : Host σ) (settings : Settings) (l : Lambda) (via : Option String) (items : List Value)
    (w : World σ) (pos : Nat) :
    (∃ outcomes w', InTurn host settings l via w pos items outcomes w') ∨
    ∃ before item later outcomes w₁ e w₂, items = before ++ item :: later ∧
      InTurn host settings l via w pos before outcomes w₁ ∧
      Tried host settings l via w₁ item (pos + before.length) (.error e) w₂ := by
  induction items generalizing w pos with
  | nil => exact Or.inl ⟨[], w, .nil⟩
  | cons item items ih =>
    obtain ⟨result, w₁, htried⟩ := exists_tried host settings l via w item pos
    cases result with
    | error e => exact Or.inr ⟨[], item, items, [], w, e, w₁, rfl, .nil, htried⟩
    | ok outcome =>
      rcases ih w₁ (pos + 1) with
        ⟨outcomes, w', hturn⟩ | ⟨before, bad, later, outcomes, w₂, e, w₃, rfl, hturn, hfails⟩
      · exact Or.inl ⟨outcome :: outcomes, w', .cons htried hturn⟩
      · rw [Nat.add_assoc, Nat.add_comm 1] at hfails
        exact Or.inr ⟨item :: before, bad, later, outcome :: outcomes, w₂, e, w₃, rfl, .cons htried hturn, hfails⟩

/-! ## Loops that visit items -/

/-- What a loop gathers from items and from what is made of them. -/
def gathered (extend : Value → Option Value → List Value → List Value) (items : List Value)
    (outcomes : List (Option Value)) : List Value :=
  (items.zip outcomes).foldr (fun p rest => extend p.1 p.2 rest) []

/-- **A loop that visits items:** where an item fails it stops, and else it goes on behind the item and extends what it
gathers there. -/
structure Visits (host : Host σ) (settings : Settings) (l : Lambda) (via : Option String)
    (extend : Value → Option Value → List Value → List Value) (loop : Nat → List Value → Run σ (List Value)) :
    Prop where
  ends : ∀ pos w, loop pos [] settings w = (.ok [], w)
  stops : ∀ {w item pos e w'}, Tried host settings l via w item pos (.error e) w' →
    ∀ items, loop pos (item :: items) settings w = (.error e, w')
  goesOn : ∀ {w item pos outcome w'}, Tried host settings l via w item pos (.ok outcome) w' →
    ∀ items, loop pos (item :: items) settings w =
      ((loop (pos + 1) items settings w').1.map (extend item outcome), (loop (pos + 1) items settings w').2)

namespace Visits

variable {extend : Value → Option Value → List Value → List Value} {loop : Nat → List Value → Run σ (List Value)}

/-- If no item fails, the loop gathers what is made of them, by induction on the items. -/
theorem gives (h : Visits host settings l via extend loop)
    (hturn : InTurn host settings l via w pos items outcomes w') :
    loop pos items settings w = (.ok (gathered extend items outcomes), w') := by
  induction hturn with
  | nil => exact h.ends _ _
  | cons htried _ ih =>
    rw [h.goesOn htried, ih]
    rfl

/-- **The loop stops at the first item that fails,** in the world in which this has failed, whatever stands behind. -/
theorem fails (h : Visits host settings l via extend loop)
    (hturn : InTurn host settings l via w pos before outcomes w₁)
    (hfails : Tried host settings l via w₁ item (pos + before.length) (.error e) w₂) (later : List Value) :
    loop pos (before ++ item :: later) settings w = (.error e, w₂) := by
  induction hturn with
  | nil => exact h.stops hfails later
  | cons htried _ ih =>
    rw [List.length_cons, ← Nat.add_assoc, Nat.add_right_comm] at hfails
    rw [List.cons_append, h.goesOn htried, ih hfails]
    rfl

end Visits

/-- A run whose result is changed by a function. -/
theorem map_run {α β : Type} (x : Run σ α) (f : α → β) :
    (do return f (← x) : Run σ β) settings w = ((x settings w).1.map f, (x settings w).2) := by
  rcases Run.stops_or_gives x settings w with ⟨e, w', hx⟩ | ⟨a, w', hx⟩
  · rw [hx, Run.bind_of_error hx]
    rfl
  · rw [hx, Run.bind_of_ok hx]
    rfl

/-! ### Filtering -/

/-- The application of a filter to an item at its place. -/
def filterCall (item : Value) (pos : Nat) : Call :=
  { Call.usual with loop := some item, pos := position pos, failValue := .boolean false, ignoreVia := true }

/-- A filter asks whether an item is passed over, and has no use for a transform. -/
theorem applyOrStop_filterCall (hl : l.Loops) {result : Except Failure (Option Value)}
    (h : Tried host settings l none w item pos result w') :
    applyOrStop host l (filterCall item pos) settings w =
      (result.map fun outcome => .boolean outcome.isSome, w') := by
  refine applyOrStop_of_tried hl ⟨rfl, rfl, rfl⟩ rfl (.other nofun nofun) ?_ h
  intro w₁ w₂ outcome htransform
  cases htransform with
  | absent _ =>
    refine stopping_of_errorFree ?_ (.other nofun nofun)
    unfold finish
    cases l.via <;> rfl
  | stops hvia _ => cases hvia
  | error hvia _ _ => cases hvia
  | passedOver hvia _ => cases hvia
  | gives hvia _ _ _ => cases hvia

/-- What a filter does with an item: it keeps the item unless that is passed over. -/
def keepItem (item : Value) (outcome : Option Value) (rest : List Value) : List Value :=
  if outcome.isSome then item :: rest else rest

/-- The items that were not passed over, in order. -/
def keptItems (items : List Value) (outcomes : List (Option Value)) : List Value :=
  ((items.zip outcomes).filter fun p => p.2.isSome).map Prod.fst

/-- What a filter gathers are the items that were kept. -/
theorem gathered_keepItem : gathered keepItem = keptItems := by
  funext items outcomes
  unfold gathered keptItems
  induction items.zip outcomes with
  | nil => rfl
  | cons p ps ih =>
    rw [List.foldr_cons, ih, List.filter_cons, keepItem]
    cases p.2 <;> rfl

/-- **A filter visits its items.** -/
theorem visits_filterFrom (hl : l.Loops) : Visits host settings l none keepItem (filterFrom host l none) where
  ends _ _ := rfl
  stops h _ := Run.bind_of_error (applyOrStop_filterCall hl h)
  goesOn {w item pos outcome w'} h items := by
    have hstep : filterFrom host l none pos (item :: items) settings w =
        (do return keepItem item outcome (← filterFrom host l none (pos + 1) items)) settings w' := by
      refine (Run.bind_of_ok (applyOrStop_filterCall hl h)).trans ?_
      cases outcome <;> rfl
    rw [hstep, map_run]

end Lambda

namespace StandardMacro

open Lambda

variable {l : Lambda} {text : String} {item : Value} {pos : Nat} {outcome : Option Value}

/-! ### Altering -/

/-- The application of a macro that alters an item at its place. -/
def alterCall (item : Value) (pos : Nat) : Call :=
  { Call.usual with loop := some item, pos := position pos }

/-- A lambda with a transform gives what this makes of an item, and a mark if the item is passed over. -/
theorem applyOrStop_alterCall (hl : l.Loops) (hvia : l.via = some text) {result : Except Failure (Option Value)}
    (h : Tried host settings l l.via w item pos result w') :
    applyOrStop host l (alterCall item pos) settings w = (result.map fun outcome => outcome.getD .filtered, w') := by
  refine applyOrStop_of_tried hl ⟨rfl, rfl, rfl⟩ rfl (.other nofun nofun) ?_ h
  intro w₁ w₂ outcome htransform
  have hfinish : finish host l (alterCall item pos) = evaluate host text := by
    rw [finish, hvia]
    rfl
  rw [hfinish]
  cases htransform with
  | absent hnone => exact nomatch hvia.symm.trans hnone
  | stops htext heval =>
    obtain rfl := Option.some.inj (hvia.symm.trans htext)
    exact stopping_of_error heval
  | error htext heval herror =>
    obtain rfl := Option.some.inj (hvia.symm.trans htext)
    exact stopping_of_firstError heval herror
  | passedOver htext heval =>
    obtain rfl := Option.some.inj (hvia.symm.trans htext)
    exact stopping_of_errorFree heval (.other nofun nofun)
  | gives htext heval hfree _ =>
    obtain rfl := Option.some.inj (hvia.symm.trans htext)
    exact stopping_of_errorFree heval hfree

/-- What a transform makes of an item is no mark for an item that was passed over, for the mark counts as an error. -/
theorem ne_filtered_of_tried (hvia : l.via = some text)
    (h : Tried host settings l l.via w item pos (.ok outcome) w') : outcome ≠ some .filtered := by
  cases h with
  | refused _ _ => exact nofun
  | accepted _ _ htransform =>
    cases htransform with
    | absent hnone => exact nomatch hvia.symm.trans hnone
    | passedOver _ _ => exact nofun
    | gives _ _ _ hne => exact fun heq => hne (Option.some.inj heq)

/-- What `altered` does with an item: it puts what is made of it in its place, or else the item. -/
def replaceItem (item : Value) (outcome : Option Value) (rest : List Value) : List Value :=
  outcome.getD item :: rest

/-- What is made of each item, and the item itself where it was passed over. -/
def replacedItems (items : List Value) (outcomes : List (Option Value)) : List Value :=
  (items.zip outcomes).map fun p => p.2.getD p.1

/-- What altering gathers are the items with what was made of them in their places. -/
theorem gathered_replaceItem : gathered replaceItem = replacedItems := by
  funext items outcomes
  exact List.map_eq_foldr.symm

/-- There are as many as before. -/
theorem length_replacedItems {items : List Value} {outcomes : List (Option Value)}
    (h : outcomes.length = items.length) : (replacedItems items outcomes).length = items.length := by
  rw [replacedItems, List.length_map, List.length_zip, h, Nat.min_self]

/-- **The loop of `altered` visits its items.** -/
theorem visits_alterFrom (hl : l.Loops) (hvia : l.via = some text) :
    Visits host settings l l.via replaceItem (alterFrom host l) where
  ends _ _ := rfl
  stops h _ := Run.bind_of_error (applyOrStop_alterCall hl hvia h)
  goesOn {w item pos outcome w'} h items := by
    have hstep : alterFrom host l pos (item :: items) settings w =
        (do return replaceItem item outcome (← alterFrom host l (pos + 1) items)) settings w' := by
      refine (Run.bind_of_ok (applyOrStop_alterCall hl hvia h)).trans ?_
      cases houtcome : outcome with
      | none => rfl
      | some v =>
        cases v with
        | filtered => exact absurd houtcome (ne_filtered_of_tried hvia h)
        | _ => rfl
    rw [hstep, map_run]

/-! ## The macros -/

/-- **A macro that goes item by item** through the values behind a lambda, in a world.

* A call by name for which dispatch lets the lambda and the values through is the work of the macro on them, and a
  story error of this is an answer too.
* Either no item fails, or one of them is the first.
* If none does, what is made of the items is arranged in an array.
* If one is the first, its failure is what comes of the whole, and the world is that in which it failed, whatever the
  later items are. -/
structure ItemByItem (host : Host σ) (settings : Settings) (l : Lambda) (w : World σ) (name : String)
    (m : StandardMacro) (arrange : List Value → List (Option Value) → List Value) : Prop where
  called : ∃ entered, Registry.standard.get? name = some entered ∧
    ∀ args items w₁, Dispatch.arguments ⟨name, entered.signature⟩ args settings w = (.ok (.lambda l :: items), w₁) →
      Registry.standard.call host name args settings w =
        (Run.outcome (m.perform host (.lambda l :: items)) >>= Run.adopt) settings w₁
  either : ∀ items, (∃ outcomes w', InTurn host settings l l.via w 1 items outcomes w') ∨
    ∃ before item later outcomes w₁ e w₂, items = before ++ item :: later ∧
      InTurn host settings l l.via w 1 before outcomes w₁ ∧
      Tried host settings l l.via w₁ item (1 + before.length) (.error e) w₂
  gives : ∀ {items outcomes w'}, InTurn host settings l l.via w 1 items outcomes w' →
    m.perform host (.lambda l :: items) settings w = (.ok (.array (arrange items outcomes)), w')
  stops : ∀ {before item outcomes w₁ e w₂}, InTurn host settings l l.via w 1 before outcomes w₁ →
    Tried host settings l l.via w₁ item (1 + before.length) (.error e) w₂ →
    ∀ later, m.perform host (.lambda l :: (before ++ item :: later)) settings w = (.error e, w₂)

/-- A macro whose loop visits the items goes item by item. -/
theorem itemByItem_of_visits {name : String} {m : StandardMacro}
    {extend : Value → Option Value → List Value → List Value} {loop : Nat → List Value → Run σ (List Value)}
    (hbody : (Registry.standard.get? name).map Macro.body = some (.standard m))
    (hperform : ∀ items, m.perform host (.lambda l :: items) = do return .array (← loop 1 items))
    (hvisits : Visits host settings l l.via extend loop) (w : World σ) :
    ItemByItem host settings l w name m (gathered extend) where
  called := by
    obtain ⟨entered, hget, hbody⟩ := Option.map_eq_some_iff.mp hbody
    refine ⟨entered, hget, fun args items w₁ hpassed => ?_⟩
    rw [Registry.call_of_passed hget hpassed host, hbody]
    rfl
  either items := inTurn_or_fails host settings l l.via items w 1
  gives hturn := by rw [hperform, map_run, hvisits.gives hturn]; rfl
  stops hturn hfails later := by rw [hperform, map_run, hvisits.fails hturn hfails later]; rfl

/-- A lambda with the clauses of a list that has none but a guard and a transform. -/
theorem loops_of_shape {clauses : List Clause} (hshape : ∀ c, l.has c = clauses.contains c)
    (hmaking : clauses.contains .making = false) (hwhen : clauses.contains .whenTrue = false) : l.Loops where
  making := Option.isNone_iff_eq_none.mp (Option.isSome_eq_false_iff.mp ((hshape .making).trans hmaking))
  whenTrue := Option.isNone_iff_eq_none.mp (Option.isSome_eq_false_iff.mp ((hshape .whenTrue).trans hwhen))

/-- The lambda that `find` accepts has no transform. -/
theorem loops_of_find (h : Entry.accepts (.lambda l) (.lambda [.whereTrue]) settings = .ok true) :
    l.Loops ∧ l.via = none := by
  have hshape := Entry.hasShape_iff.mp (Except.ok.inj h)
  exact ⟨loops_of_shape hshape rfl rfl, Option.isNone_iff_eq_none.mp (Option.isSome_eq_false_iff.mp (hshape .via))⟩

/-- The lambdas that `altered` accepts have one. -/
theorem loops_of_altered (h : Entry.accepts (.lambda l) Registry.alterer settings = .ok true) :
    l.Loops ∧ ∃ text, l.via = some text := by
  have hof : ∀ {clauses}, (Entry.lambda clauses).Takes settings (.lambda l) → ∀ c, l.has c = clauses.contains c := by
    intro clauses htakes
    cases htakes with
    | lambda heq hshape =>
      cases heq
      exact hshape
  cases Entry.takes_of_accepts _ h with
  | either hmem htakes =>
    rcases List.mem_pair.mp hmem with rfl | rfl
    all_goals exact ⟨loops_of_shape (hof htakes) rfl rfl, Option.isSome_iff_exists.mp (hof htakes .via)⟩

/-- The standard library has both macros under their names. -/
theorem body_find_altered :
    (Registry.standard.get? "find").map Macro.body = some (.standard .find) ∧
      (Registry.standard.get? "altered").map Macro.body = some (.standard .altered) := by
  rw [Registry.standard_eq_listed]
  decide +kernel

/-- **`find` and `altered` go item by item and stop at the first that fails.**  Let a lambda be one that the macro
accepts.

* `find` gives the items for which the guard holds, in order.
* `altered` gives as many values as there are items: what the transform makes of an item, or the item itself where the
  guard does not hold.
* Guard and transform of an item are evaluated with the item and its place, counted from 1, on top of the frames of the
  loop; the variable is bound to a copy of the item.
* Where evaluating a text changes nothing, each item is visited on the frames of the call, and all scopes that there
  were then are as they were. -/
theorem find_altered_item_by_item (host : Host σ) (settings : Settings) (l : Lambda) (w : World σ) :
    (Entry.accepts (.lambda l) (.lambda [.whereTrue]) settings = .ok true →
      ItemByItem host settings l w "find" .find keptItems) ∧
    (Entry.accepts (.lambda l) Registry.alterer settings = .ok true →
      ItemByItem host settings l w "altered" .altered replacedItems) ∧
    (∀ item pos, Shows l item pos w (entered l item pos w)) ∧
    ∀ pos items outcomes w', InTurn host settings l l.via w pos items outcomes w' →
      outcomes.length = items.length ∧ (replacedItems items outcomes).length = items.length ∧
        (host.Still settings → w.Continues w') := by
  refine ⟨fun hfind => ?_, fun haltered => ?_, fun item pos => shows_entered l item pos w,
    fun pos items outcomes w' hturn => ⟨hturn.length_eq, length_replacedItems hturn.length_eq, hturn.continues⟩⟩
  · obtain ⟨hl, hvia⟩ := loops_of_find hfind
    have hvisits : Visits host settings l l.via keepItem (filterFrom host l none) := hvia ▸ visits_filterFrom hl
    rw [← gathered_keepItem]
    exact itemByItem_of_visits body_find_altered.1 (fun _ => rfl) hvisits w
  · obtain ⟨hl, text, hvia⟩ := loops_of_altered haltered
    rw [← gathered_replaceItem]
    exact itemByItem_of_visits body_find_altered.2 (fun _ => rfl) (visits_alterFrom hl hvia) w

/-! ### Some lists -/

/-- What three texts say at a place: the place, whether it is behind the first, and the truth. -/
def told : String → Option Value → Value
  | "pos", some place => place
  | "pos > 1", some (.number (.int n)) => .boolean (1 < n)
  | _, _ => .boolean true

/-- A host that looks at the place of the latest frame. -/
def placing : Host Unit where
  evaluate text := do return told text ((← Run.topFrame?).map Frame.pos)
  call _ _ := pure .nothing
  mutate _ := fun _ styles => (styles, pure .nothing)
  mapHeld _ u := u

/-- Lambdas with a variable for whole numbers and a guard that passes over the first item. -/
def afterFirst (via : Option String) : Lambda :=
  ⟨some ⟨"_n", some (.named "integer" false)⟩, none, some "pos > 1", none, via, "", none⟩

/-- The host sees the place of the item that a lambda is applied to. -/
theorem evaluate_placing (l : Lambda) (item : Value) (n : Nat) (w : World Unit) :
    evaluate placing "pos > 1" settings (entered l item n w) = (.ok (.boolean (1 < (n : Int))), entered l item n w) ∧
      evaluate placing "pos" settings (entered l item n w) = (.ok (position n), entered l item n w) := by
  obtain ⟨⟨f, hframes, -, hpos, -⟩, -⟩ := shows_entered l item n w
  have htop : (Run.topFrame? : Run Unit (Option Frame)) settings (entered l item n w) =
      (.ok (some f), entered l item n w) := by
    rw [← List.head?_cons (a := f) (l := w.frames), ← hframes]
    rfl
  have hhost : ∀ text, placing.evaluate text settings (entered l item n w) =
      (.ok (told text (some (position n))), entered l item n w) := by
    intro text
    refine (Run.bind_of_ok htop).trans ?_
    rw [Option.map_some, hpos]
    rfl
  exact ⟨Run.bind_of_ok (hhost "pos > 1"), Run.bind_of_ok (hhost "pos")⟩

/-- The host that tells places keeps still: it changes nothing when it evaluates. -/
theorem still_placing : placing.Still settings := fun _ _ => rfl

/-- What is said of a string that the variable is to be bound to. -/
def noInteger : StoryError where
  kind := "operation"
  message := "I can't set _n to the string \"seven\" because it's been restricted to integer-type data."
  explanation := none
  warning := false
  tag := none

/-- Two sevens, the first of which is passed over, and a string that stops `altered`, whatever stands behind it. -/
theorem find_altered_afterFirst :
    let settings : Settings := Settings.usual
    let w : World Unit := World.start [] ()
    let seven : Value := .number (.int 7)
    let toPlaces : Lambda := afterFirst (some "pos")
    Entry.accepts (.lambda (afterFirst none)) (.lambda [.whereTrue]) settings = .ok true ∧
      Entry.accepts (.lambda toPlaces) Registry.alterer settings = .ok true ∧
      (∃ w', StandardMacro.find.perform placing [.lambda (afterFirst none), seven, seven] settings w =
        (.ok (.array [seven]), w') ∧ w.Continues w') ∧
      (∃ w', StandardMacro.altered.perform placing [.lambda toPlaces, seven, seven] settings w =
        (.ok (.array [seven, .number (.int 2)]), w')) ∧
      ∃ w', ∀ later, StandardMacro.altered.perform placing (.lambda toPlaces :: seven :: .string "seven" :: later)
        settings w = (.error (.story noInteger), w') := by
  intro settings w seven toPlaces
  have hfind : Entry.accepts (.lambda (afterFirst none)) (.lambda [.whereTrue]) settings = .ok true := rfl
  have haltered : Entry.accepts (.lambda toPlaces) Registry.alterer settings = .ok true := rfl
  obtain ⟨hfinds, -, -, hkeeps⟩ := find_altered_item_by_item placing settings (afterFirst none) w
  obtain ⟨-, halters, -⟩ := find_altered_item_by_item placing settings toPlaces w
  have hseven : ∀ via, Enters settings (afterFirst via) seven := by
    rintro via v ⟨⟩
    exact checkBinding_iff_takes.mp (by decide +kernel)
  -- the first seven is refused by the guard, the second is kept, or replaced by its place
  have hfirst : ∀ via, Tried placing settings (afterFirst via) via w seven 1 (.ok none) _ :=
    fun via => .refused (hseven via) (.answers rfl (evaluate_placing _ _ _ _).1)
  have hkept : ∀ w, Tried placing settings (afterFirst none) none w seven 2 (.ok (some seven)) _ :=
    fun w => .accepted (hseven none) (.answers rfl (evaluate_placing _ _ _ _).1) (.absent rfl)
  have hplaced : ∀ w, Tried placing settings toPlaces (some "pos") w seven 2 (.ok (some (position 2))) _ :=
    fun w => .accepted (hseven _) (.answers rfl (evaluate_placing _ _ _ _).1)
      (.gives rfl (evaluate_placing _ _ _ _).2 (.other nofun nofun) nofun)
  -- the string cannot be bound to a variable of integers
  have hbad : Run.checkBinding "_n" (some (.named "integer" false)) (.string "seven") settings =
      .error (.story noInteger) := by decide +kernel
  have hnot : ¬ Takes settings ⟨"_n", some (.named "integer" false)⟩ (.string "seven") :=
    fun htakes => nomatch hbad.symm.trans (checkBinding_iff_takes.mpr htakes)
  have hfails : ∀ w, Tried placing settings toPlaces (some "pos") w (.string "seven") (1 + 1)
      (.error (.story noInteger)) _ := fun w => .unbindable rfl hnot hbad
  have hboth := InTurn.cons (hfirst none) (.cons (hkept _) .nil)
  have hstops := (halters haltered).stops (.cons (hfirst _) .nil) (hfails _)
  refine ⟨hfind, haltered, ⟨_, (hfinds hfind).gives hboth, (hkeeps _ _ _ _ hboth).2.2 still_placing⟩,
    ⟨_, (halters haltered).gives (.cons (hfirst _) (.cons (hplaced _) .nil))⟩, ?_⟩
  exact ⟨_, fun later => List.singleton_append ▸ hstops later⟩

/-- **An integer beyond all doubles stops `find`:** there is no answer, though the integer is no error, can be kept, and
is of the type that the variable asks for. -/
theorem find_tooLarge :
    let settings : Settings := Settings.usual
    let each : Lambda := ⟨some ⟨"_n", some (.named "integer" false)⟩, none, some "true", none, none, "", none⟩
    let large : Value := .number (.int (10 ^ 400))
    Entry.accepts (.lambda each) (.lambda [.whereTrue]) settings = .ok true ∧ large.Keepable ∧
      (StandardMacro.find.perform placing [.lambda each, large] settings (World.start [] ())).1 =
        .error (.fault .integerTooLarge) := by
  intro settings each large
  refine ⟨rfl, ⟨.other nofun nofun, rfl, nofun⟩, ?_⟩
  decide +kernel

end StandardMacro

end StoryValues
