import StoryValues.Changer
import StoryValues.Error.Limit
import StoryValues.Error.Renderer
import StoryValues.Proofs.Check
import StoryValues.Proofs.Value.Equality
import StoryValues.Proofs.Value.Errors

/-
  CHAINS COMPOSE, and a run of two chains is a run of the first and then one of the second.

  1. **Nodes** (`compose_eq_append`): building the first chain again in front of the second one puts its
     nodes there, so composition is as associative as the lists of nodes are.
  2. **One node** (`run_missing`, `run_cons`): what can happen at the head of a chain, and what becomes of
     the descriptor there.
  3. **Two chains** (`run_append`), by induction on the first one: whatever stops it stops the whole, and
     with the same descriptor.
  4. **A node in the middle** is the head of what remains once the nodes before it have gone through.

  A chain is equal to its copy when its parameters are equal to themselves, which every value in good order
  is.  A dataset whose members cannot be sorted and a gradient along an angle that is no number are not.
-/

namespace StoryValues

namespace Changer

variable {δ : Type} {alter : Mutation → Alteration δ} {table : Table} {settings : Settings}
variable {name : String} {params : List Value} {rest : List Node} {m : Mutation} {d d' : δ}
variable {outcome : Check Value} {e : StoryError} {f : Fault}

/-! ## Nodes -/

/-- **The nodes of two chains** are those of the first, then those of the second. -/
theorem compose_eq_append (a b : List Node) : compose a b = a ++ b := by
  rw [compose, List.foldl_reverse]
  show a.foldr List.cons b = a ++ b
  exact List.foldr_cons_eq_append'

/-- So chains may be grouped in any way. -/
theorem compose_assoc (a b c : List Node) : compose a (compose b c) = compose (compose a b) c := by
  simp only [compose_eq_append, List.append_assoc]

/-- A chain in front of no other is the chain itself. -/
theorem compose_nil (a : List Node) : compose a [] = a := by
  rw [compose_eq_append, List.append_nil]

/-- A chain of which all parameters are in good order is in good order. -/
theorem everywhere_proper {a : List Node} (h : ∀ n ∈ a, ∀ v ∈ n.2, v.Everywhere Value.Proper) :
    (Value.changer a).Everywhere Value.Proper := by
  refine .intro trivial fun v hv => ?_
  obtain ⟨n, hn, hv⟩ := List.mem_flatMap.mp hv
  exact h n hn v hv

/-! ## How a mutation ended -/

/-- A mutation that gives a value is settled by the error in that value, if there is one. -/
theorem settle_of_ok {v : Value} (h : outcome settings = .ok v) : settle outcome settings = .ok v.firstError? := by
  rw [settle, h]

/-- A mutation that stops with an error is settled by that error. -/
theorem settle_of_story (h : outcome settings = .error (.story e)) : settle outcome settings = .ok (some e) := by
  rw [settle, h]

/-- A mutation that raises a fault is settled by an error that tells of the fault, so a chain never raises it. -/
theorem settle_of_fault (h : outcome settings = .error (.fault f)) :
    settle outcome settings = (some <$> StoryError.ofFault f) settings := by
  rw [settle, h]

/-- A fault is told as an error of its own kind, wherever that kind is explained. -/
theorem exists_ofFault (hkind : (settings.catalogue.explanation? "python").isSome = true) (f : Fault) :
    ∃ e, StoryError.ofFault f settings = .ok e ∧ e.kind = "python" := by
  have hmessage : "☕ " ++ f.text ≠ "" := by
    intro h
    have hlist := congrArg String.toList h
    rw [String.toList_append] at hlist
    exact absurd hlist (by simp)
  obtain ⟨e, he, hpython, -⟩ := Check.exists_create hmessage hkind
  exact ⟨e, he, hpython⟩

/-! ## One node -/

/-- A name without a mutation stops the run with a fault. -/
theorem run_missing (hname : table.lookup name = none) :
    run alter table ((name, params) :: rest) settings d = (.error (.fault (.noMutation name)), d) := by
  rw [run, hname]
  rfl

/-- The head of a chain decides by how its mutation ends whether the rest is run. -/
theorem run_cons (hname : table.lookup name = some m) (hd : alter m params d = (d', outcome)) :
    run alter table ((name, params) :: rest) settings d =
      match settle outcome settings with
      | .ok none => run alter table rest settings d'
      | .ok (some e) => (.ok (some e), d')
      | .error failure => (.error failure, d') := by
  have happly : applyTo (alter m) params settings d = (settle outcome settings, d') := by
    unfold applyTo
    rw [hd]
  rw [run, hname]
  simp only [bind, ReaderT.bind, ExceptT.bind, ExceptT.mk, StateT.bind, happly]
  cases settle outcome settings with
  | error failure => rfl
  | ok stop => cases stop with
    | none => rfl
    | some e => rfl

/-- A mutation that ends without an error leaves the rest of the chain to run on what it made. -/
theorem run_applied (hname : table.lookup name = some m) (hd : alter m params d = (d', outcome))
    (hsettled : settle outcome settings = .ok none) :
    run alter table ((name, params) :: rest) settings d = run alter table rest settings d' := by
  rw [run_cons hname hd, hsettled]

/-- A mutation that ends in an error stops the run with it. -/
theorem run_stopped (hname : table.lookup name = some m) (hd : alter m params d = (d', outcome))
    (hsettled : settle outcome settings = .ok (some e)) :
    run alter table ((name, params) :: rest) settings d = (.ok (some e), d') := by
  rw [run_cons hname hd, hsettled]

/-! ## Two chains -/

/-- One piece of work and then another, which is not begun if the first ends in an error or fails. -/
def Styling.followedBy (x y : Styling δ (Option StoryError)) : Styling δ (Option StoryError) :=
  fun settings d =>
    match x settings d with
    | (.ok none, d') => y settings d'
    | stopped => stopped

/-- **A run of two chains** is a run of the first, followed by one of the second; by induction on the first. -/
theorem run_append (a b : List Node) :
    run alter table (a ++ b) = (run alter table a).followedBy (run alter table b) := by
  induction a with
  | nil => rfl
  | cons node a ih =>
    obtain ⟨name, params⟩ := node
    funext settings d
    rw [List.cons_append, Styling.followedBy]
    cases hname : table.lookup name with
    | none => rw [run_missing hname, run_missing hname]
    | some m =>
      cases hd : alter m params d with
      | mk d' outcome =>
        rw [run_cons hname hd, run_cons hname hd]
        cases settle outcome settings with
        | error failure => rfl
        | ok stop =>
          cases stop with
          | some e => rfl
          | none => rw [ih, Styling.followedBy]

/-- Behind nodes that have gone through, a run is one of what remains. -/
theorem run_after {before : List Node} (hbefore : run alter table before settings d = (.ok none, d'))
    (after : List Node) : run alter table (before ++ after) settings d = run alter table after settings d' := by
  rw [run_append, Styling.followedBy, hbefore]

/-! ## Composition -/

/-- **Chains compose.**  The nodes of two chains are those of the one and then those of the other, in
whatever order chains are put together; a copy is the chain itself, and equal to it when the parameters are
in good order.  A run of both is a run of the first followed by one of the second.  A node behind others
that have gone through hands the descriptor on if its mutation returns no error, and otherwise ends the run,
whatever comes after it: with the error that was returned, with the one that tells of its fault, or with a
fault if it has no mutation. -/
theorem chains_compose (a b c : List Node) (alter : Mutation → Alteration δ) (table : Table) :
    compose a b = a ++ b ∧
    compose a (compose b c) = compose (compose a b) c ∧
    (Value.changer a).clone = .changer (compose a []) ∧ (Value.changer a).clone = .changer a ∧
    ((∀ n ∈ a, ∀ v ∈ n.2, v.Everywhere Value.Proper) →
      Value.equals (Value.changer a).clone (.changer a) = .ok true) ∧
    ((∀ n ∈ a ++ b ++ c, ∀ v ∈ n.2, v.Everywhere Value.Proper) →
      Value.equals (.changer (compose a (compose b c))) (.changer (compose (compose a b) c)) = .ok true) ∧
    run alter table (compose a b) = (run alter table a).followedBy (run alter table b) ∧
    ∀ settings d d', run alter table a settings d = (.ok none, d') → ∀ name params,
      (table.lookup name = none →
        run alter table (a ++ (name, params) :: b) settings d = (.error (.fault (.noMutation name)), d')) ∧
      ∀ m d'' outcome, table.lookup name = some m → alter m params d' = (d'', outcome) →
        (∀ v, outcome settings = .ok v → v.ErrorFree →
          run alter table (a ++ (name, params) :: b) settings d = run alter table b settings d'') ∧
        (∀ v e, outcome settings = .ok v → v.FirstError e →
          run alter table (a ++ (name, params) :: b) settings d = (.ok (some e), d'')) ∧
        (∀ e, outcome settings = .error (.story e) →
          run alter table (a ++ (name, params) :: b) settings d = (.ok (some e), d'')) ∧
        (∀ f, outcome settings = .error (.fault f) →
          (settings.catalogue.explanation? "python").isSome = true →
          ∃ e, StoryError.ofFault f settings = .ok e ∧ e.kind = "python" ∧
            run alter table (a ++ (name, params) :: b) settings d = (.ok (some e), d'')) := by
  have hclone : (Value.changer a).clone = .changer a := rfl
  refine ⟨compose_eq_append a b, compose_assoc a b c, by rw [compose_nil, hclone], hclone, ?_, ?_, ?_, ?_⟩
  · intro hproper
    exact Value.equal_refl (everywhere_proper hproper)
  · intro hproper
    rw [compose_assoc, compose_eq_append, compose_eq_append]
    exact Value.equal_refl (everywhere_proper hproper)
  · rw [compose_eq_append, run_append]
  · intro settings d d' hbefore name params
    -- the nodes before have gone through, so the run is that of this node and those after it
    rw [run_after hbefore]
    refine ⟨run_missing, fun m d'' outcome hname hd => ⟨?_, ?_, ?_, ?_⟩⟩
    · intro v hv hfree
      refine run_applied hname hd ?_
      rw [settle_of_ok hv, Value.firstError?_eq_none.mpr hfree]
    · intro v e hv hfirst
      refine run_stopped hname hd ?_
      rw [settle_of_ok hv, Value.firstError?_eq_some.mpr hfirst]
    · intro e he
      exact run_stopped hname hd (settle_of_story he)
    · intro f hf hkind
      obtain ⟨e, he, hpython⟩ := exists_ofFault hkind f
      refine ⟨e, he, hpython, run_stopped hname hd ?_⟩
      rw [settle_of_fault hf]
      show Except.map some (StoryError.ofFault f settings) = .ok (some e)
      rw [he]
      rfl

/-- What the refusing mutation says. -/
def refusal : StoryError := ⟨"user", "no", none, false, none⟩

/-- A mutation that puts its arguments in front, and for a colour returns an error in an array. -/
def mixed (m : Mutation) : Alteration (List Value) := fun params d =>
  (params ++ d, pure (if m = .textColour then .array [.nothing, .error refusal] else .nothing))

/-- A bold text goes through; the colour behind it is refused, and the font behind that is not tried. -/
theorem run_bold_refused :
    (Value.equals (Value.changer [("text-style", [.string "bold"])]).clone
      (.changer [("text-style", [.string "bold"])]) = .ok true) ∧
    run mixed standardTable
        ([("text-style", [.string "bold"])] ++ ("text-colour", [.string "red"]) :: [("font", [.string "serif"])])
        Settings.usual [] =
      (.ok (some refusal), [.string "red", .string "bold"]) := by
  obtain ⟨-, -, -, -, hequal, -, -, hrun⟩ :=
    chains_compose [("text-style", [.string "bold"])] [("font", [.string "serif"])] [] mixed standardTable
  constructor
  · refine hequal fun n hn v hv => ?_
    obtain rfl := List.mem_singleton.mp hn
    obtain rfl := List.mem_singleton.mp hv
    exact Value.everywhere_of_parts_nil rfl trivial
  · have hbefore : run mixed standardTable [("text-style", [.string "bold"])]
        Settings.usual [] = (.ok none, [.string "bold"]) :=
      run_applied (m := .textStyle) rfl rfl rfl
    obtain ⟨-, hhead⟩ := hrun Settings.usual [] [.string "bold"] hbefore "text-colour" [.string "red"]
    obtain ⟨-, hreturned, -, -⟩ := hhead .textColour _ _ rfl rfl
    refine hreturned (.array [.nothing, .error refusal]) refusal rfl ?_
    refine @Value.FirstError.inside [.nothing] [] (.error refusal) refusal (fun u hu => ?_) (.self refusal)
    obtain rfl := List.mem_singleton.mp hu
    exact .other (fun e h => nomatch h) (fun items h => nomatch h)

/-- Chains of one node, of one name and with one argument, are equal as the arguments are. -/
theorem equals_oneNode (name : String) (p q : Value) :
    Value.equals (.changer [(name, [p])]) (.changer [(name, [q])]) = Value.equals p q := by
  rw [Value.equals.eq_def]
  simp only [Value.isPlain, Bool.or_self, Bool.false_eq_true, ↓reduceIte, List.length_cons, List.length_nil,
    List.zip_cons_cons, List.zip_nil_left, List.attach_cons, List.attach_nil, List.map_nil, List.allM_cons,
    List.allM, bind_assoc]
  cases Value.equals p q with
  | error f => rfl
  | ok yes => cases yes <;> rfl

/-- A chain along a gradient whose angle is no number. -/
def alongNothing : List Node := [("text-colour", [.gradient ⟨.real (.nan none), []⟩])]

/-- A chain with a dataset of an integer without a nearest double. -/
def withLarge : List Node := [("font", [.dataset none [.number (.int (10 ^ 400))]])]

/-- **Neither is equal to its copy:** the one is said to be different, and for the other there is no answer. -/
theorem copies_not_equal :
    Value.equals (Value.changer alongNothing).clone (.changer alongNothing) = .ok false ∧
      Value.equals (Value.changer withLarge).clone (.changer withLarge) = .error .integerTooLarge := by
  constructor
  · show Value.equals (.changer alongNothing) (.changer alongNothing) = .ok false
    rw [alongNothing, equals_oneNode, Value.equals.eq_def]
    decide +kernel
  · show Value.equals (.changer withLarge) (.changer withLarge) = .error .integerTooLarge
    rw [withLarge, equals_oneNode, Value.equals.eq_def]
    decide +kernel

end Changer

end StoryValues
