import StoryValues.Proofs.Changer
import StoryValues.Proofs.Colour.Hex
import StoryValues.Proofs.Macro.Mixing
import StoryValues.Proofs.Text.MacroName

/-
  CHANGERS OF THE STANDARD MACROS ALWAYS RUN.

  Three things that are written apart must agree for this: what dispatch lets through to a macro, the name under which
  its mutation is in the table, and what the mutation makes of what it is given.

  1. **What comes of a node** (`Styled`) — a colour, a text that names one, a text that names none, a listed style and a
     font each come to one style.  Of a style that is asked for, it is the one that is spelled like it.
  2. **A mutation does so** (`Styled.mutates`), and finds the style, since no two listed styles are spelled alike.
  3. **Dispatch lets nothing else through** (`exists_styled`).  Every macro of the library that makes a changer asks for
     one argument that suits the mutation under the name of its nodes (`suits_standard`).
  4. **Calls and their sums** (`Made`) — each node remembers the call that it was made by, and comes to a style, by
     induction on how the chain was put together (`Made.styled`).
  5. **The run** (`run_styled`), by induction on the chain: each style goes behind those before it.
-/

namespace StoryValues

variable {σ : Type} {settings : Settings} {host : Host σ} {w : World σ}

namespace Changer

/-! ## Styles -/

/-- **What comes of a node.** -/
inductive Styled : Node → Style → Prop
  | colour {c : Colour} {text : String} : c.css = .ok text →
      Styled ("text-colour", [.colour c]) [("color", .string text)]
  | hex {s text : String} {c : Colour} : Colour.ofHex? s = some c → c.css = .ok text →
      Styled ("text-colour", [.string s]) [("color", .string text)]
  | text {s : String} : Colour.ofHex? s = none → Styled ("text-colour", [.string s]) [("color", .string s)]
  /-- the one listed style that is spelled like the one that was asked for -/
  | listed {given style : String} : style ∈ textStyles → letters given = letters style →
      (∀ other ∈ textStyles, letters given = letters other → other = style) →
      Styled ("text-style", [.string given]) [("text-style", .string style)]
  | font (s : String) : Styled ("font", [.string s]) [("font-family", .string s)]

/-- No listed style has a capital sigma, so its name is compared by its letters. -/
theorem sigmaless_textStyles : ∀ style ∈ textStyles, Sigmaless style := by decide +kernel

/-- **No two listed styles are spelled alike.**  The list is evaluated. -/
theorem nodup_letters_textStyles : (textStyles.map letters).Nodup := by decide +kernel

/-- So a listed style is known from its letters. -/
theorem eq_of_letters {s t : String} (hs : s ∈ textStyles) (ht : t ∈ textStyles) (h : letters s = letters t) : s = t :=
  List.inj_on_of_nodup_map nodup_letters_textStyles hs ht h

/-- A text spelled like a listed style comes to it. -/
theorem Styled.of_letters {given style : String} (hstyle : style ∈ textStyles) (h : letters given = letters style) :
    Styled ("text-style", [.string given]) [("text-style", .string style)] :=
  .listed hstyle h fun _ hother hsame => eq_of_letters hother hstyle (hsame.symm.trans h)

/-- The only member of a list that passes a test is found by it, wherever it stands. -/
theorem find?_of_only {α : Type} {p : α → Bool} {xs : List α} {x : α} (hx : x ∈ xs) (hp : p x = true)
    (honly : ∀ y ∈ xs, p y = true → y = x) : xs.find? p = some x := by
  cases hfind : xs.find? p with
  | none => exact absurd hp (List.find?_eq_none.mp hfind x hx)
  | some y => rw [honly y (List.mem_of_find?_eq_some hfind) (List.find?_some hfind)]

/-- A listed style is found under every spelling of it.  A capital sigma in the spelling is no obstacle, for no listed
style has one. -/
theorem styleNamed_of_letters {given style : String} (hstyle : style ∈ textStyles)
    (hletters : letters given = letters style) : styleNamed (.string given) = .ok style := by
  have halike : ∀ s ∈ textStyles, insensitiveName given = insensitiveName s ↔ letters given = letters s :=
    fun s hs => insensitiveName_eq_iff_of_sigmaless (sigmaless_textStyles s hs)
  have hfind : (textStyles.find? fun s => insensitiveName s == insensitiveName given) = some style := by
    refine find?_of_only hstyle (beq_iff_eq.mpr ((halike style hstyle).mpr hletters).symm) fun s hs hname => ?_
    have hsame : letters given = letters s := (halike s hs).mp (beq_iff_eq.mp hname).symm
    exact eq_of_letters hs hstyle (hsame.symm.trans hletters)
  simp only [styleNamed, Value.nameText, bind, Except.bind, hfind]
  rfl

/-- **The mutation of a node makes its style,** and returns nothing.  One case for each rule of `Styled`, with the
mutation that the table has for the name. -/
theorem Styled.mutates {node : Node} {style : Style} (h : Styled node style) (hosted : Nat → Mutator) :
    ∃ m, (node.1, m) ∈ standardTable ∧
      ∀ styles, m.mutator hosted node.2 styles = (styles ++ [style], pure .nothing) := by
  cases h with
  | @colour c text htext =>
    have hcss : cssOf (.colour c) = .ok (.string text) := by rw [cssOf, htext]; rfl
    exact ⟨.textColour, .head _, fun styles => by simp only [Mutation.mutator, single, hcss]; rfl⟩
  | @hex s text c hs htext =>
    have hcss : cssOf (.string s) = .ok (.string text) := by
      rw [cssOf, hs]
      exact congrArg (Except.map Value.string) htext
    exact ⟨.textColour, .head _, fun styles => by simp only [Mutation.mutator, single, hcss]; rfl⟩
  | @text s hs =>
    have hcss : cssOf (.string s) = .ok (.string s) := by rw [cssOf, hs]
    exact ⟨.textColour, .head _, fun styles => by simp only [Mutation.mutator, single, hcss]; rfl⟩
  | @listed given style hstyle hletters _ =>
    have hnamed : styleNamed (.string given) = .ok style := styleNamed_of_letters hstyle hletters
    exact ⟨.textStyle, .tail _ (.head _), fun styles => by simp only [Mutation.mutator, single, hnamed]; rfl⟩
  | font s => exact ⟨.font, .tail _ (.tail _ (.head _)), fun styles => rfl⟩

/-- **Nothing else comes of the node.**  Rules for one name exclude one another: a text names a colour or it does not.
-/
theorem styled_rightUnique : Relator.RightUnique Styled := by
  intro node style style' h h'
  obtain ⟨m, hm, hmutates⟩ := h.mutates fun _ _ styles => (styles, pure .nothing)
  obtain ⟨m', hm', hmutates'⟩ := h'.mutates fun _ _ styles => (styles, pure .nothing)
  have hone : ∀ entry ∈ standardTable, ∀ entry' ∈ standardTable, entry.1 = entry'.1 → entry = entry' := by decide
  obtain ⟨-, rfl⟩ := Prod.mk.inj (hone _ hm _ hm' rfl)
  have hsame : [] ++ [style] = [] ++ [style'] := congrArg Prod.fst ((hmutates []).symm.trans (hmutates' []))
  exact List.head_eq_of_cons_eq hsame

end Changer

/-! ## What dispatch lets through -/

/-- What fits a signature of one entry that needs a value is one value, which the entry takes. -/
theorem Signature.Fits.exists_only {e : Entry} {values : List Value} (h : Fits ⟨[e], none⟩ settings values)
    (he : e.acceptsAbsence = false) : ∃ v, values = [v] ∧ e.Takes settings v := by
  cases values with
  | nil =>
    have habsent := (Entry.acceptsAbsence_iff e).mpr (fits_cons_nil.mp h).1
    rw [he] at habsent
    cases habsent
  | cons v others =>
    obtain ⟨htakes, hothers⟩ := fits_cons_cons.mp h
    exact ⟨v, congrArg (v :: ·) (fits_none.mp hothers), htakes⟩

namespace Changer

/-- An entry takes strings and colours only. -/
def isTextOrColour : Entry → Bool
  | .plain name => name == "string"
  | .kind k => k == .colour
  | _ => false

/-- An entry takes only what a mutation can be given. -/
def Mutation.suits : Mutation → Entry → Bool
  | textColour, .either options => options.all isTextOrColour
  | textStyle, .oneOf names => names == textStyles
  | font, .plain name => name == "string"
  | _, _ => false

/-- **What an entry that suits a mutation takes** comes to a style in a node of its name, if it can be written where it
is a colour. -/
theorem exists_styled {kind : String} {m : Mutation} {e : Entry} {v : Value} (hkind : (kind, m) ∈ standardTable)
    (hsuits : m.suits e = true) (htakes : e.Takes settings v) (hshort : ∀ c, v = .colour c → c.Short) (next : Nat) :
    ∃ style, Styled (kind, [(v.adopt next).1]) style := by
  have hstring : ∀ {name : String}, name = "string" → (Entry.plain name).Takes settings v → ∃ s, v = .string s := by
    rintro name rfl h
    exact h.exists_string
  simp only [standardTable, List.mem_cons, Prod.mk.injEq, List.not_mem_nil, or_false] at hkind
  -- the three mutations that style: colours, text styles and fonts
  rcases hkind with ⟨rfl, rfl⟩ | ⟨rfl, rfl⟩ | ⟨rfl, rfl⟩
  · cases htakes with
    | @either option options hmem htakes =>
      have hoption : isTextOrColour option = true := List.all_eq_true.mp hsuits option hmem
      cases htakes with
      | @plain name word test hlookup htest =>
        obtain ⟨s, rfl⟩ := hstring (beq_iff_eq.mp hoption) (.plain hlookup htest)
        -- a string that is a colour in hexadecimal is taken for one
        cases hs : Colour.ofHex? s with
        | some c =>
          obtain ⟨text, htext⟩ := Colour.exists_css_of_ofHex? hs
          exact ⟨_, .hex hs htext⟩
        | none => exact ⟨_, .text hs⟩
      | @kind k hk =>
        obtain rfl : k = .colour := beq_iff_eq.mp hoption
        cases v with
        | colour c =>
          obtain ⟨text, htext⟩ := ((hshort c rfl).adopt next).exists_css
          exact ⟨_, .colour htext⟩
        | _ => cases hk
      | _ => cases hoption
    | _ => cases hsuits
  · cases htakes with
    | @oneOf names name s hv hmem hname =>
      subst hv
      obtain rfl : names = textStyles := beq_iff_eq.mp hsuits
      -- the name is found by its letters, as no listed one has a sigma
      have hletters : letters s = letters name :=
        (insensitiveName_eq_iff_of_sigmaless (sigmaless_textStyles name hmem)).mp hname.symm
      exact ⟨_, .of_letters hmem hletters⟩
    | _ => cases hsuits
  · cases htakes with
    | @plain name word test hlookup htest =>
      obtain ⟨s, rfl⟩ := hstring (beq_iff_eq.mp hsuits) (.plain hlookup htest)
      exact ⟨_, .font s⟩
    | _ => cases hsuits

end Changer

namespace Registry

open Changer (standardTable)

/-- A macro that makes a changer asks for one argument, and there is a mutation under the name of its nodes that the
argument suits. -/
def suits (m : Macro) : Bool :=
  match m.body, m.signature with
  | .changer kind, ⟨[e], none⟩ =>
    standardTable.any fun entry => entry.1 == kind && (entry.2.suits e && !e.acceptsAbsence)
  | .changer _, _ => false
  | _, _ => true

/-- **All macros of the standard library that make changers are so.**  They are evaluated one by one. -/
theorem suits_standard : ∀ entry ∈ standard.macros, suits entry.2 = true := by
  rw [standard_eq_listed]
  exact List.all_eq_true.mp (by decide +kernel)

/-- What it means for a macro: its one entry, and the mutation that suits it. -/
theorem exists_of_suits {m : Macro} {kind : String} (hsuits : suits m = true) (hbody : m.body = .changer kind) :
    ∃ e mutation, m.signature = ⟨[e], none⟩ ∧ (kind, mutation) ∈ standardTable ∧ mutation.suits e = true ∧
      e.acceptsAbsence = false := by
  unfold suits at hsuits
  split at hsuits
  · rename_i kind' e hbody' hsignature
    obtain rfl := MacroBody.changer.inj (hbody.symm.trans hbody')
    obtain ⟨⟨kind', mutation⟩, hmem, hentry⟩ := List.any_eq_true.mp hsuits
    simp only [Bool.and_eq_true, beq_iff_eq, Bool.not_eq_true'] at hentry
    obtain ⟨rfl, hsuits, hpresent⟩ := hentry
    exact ⟨e, mutation, hsignature, hmem, hsuits, hpresent⟩
  · cases hsuits
  · rename_i hnot _
    exact absurd hbody (hnot kind)

end Registry

namespace Changer

/-! ## Calls -/

/-- The standard macros that make changers: the names of their nodes, and the names of the macros. -/
def makers : List (String × List String) :=
  [("text-colour", ["text-colour", "text-color", "colour", "color"]), ("text-style", ["text-style"]),
    ("font", ["font"])]

/-- A macro is called by one of its names, in any spelling. -/
def Calls (kind name : String) : Prop :=
  ∃ names, (kind, names) ∈ makers ∧ ∃ n ∈ names, insensitiveName name = insensitiveName n

/-- The standard macros that make changers are found under their names. -/
theorem body_makers : ∀ maker ∈ makers, ∀ n ∈ maker.2,
    (Registry.standard.get? n).map Macro.body = some (.changer maker.1) := by
  rw [Registry.standard_eq_listed]
  decide +kernel

/-- **A node remembers a call:** it has the name of the macro that was called, and what the arguments stand for, in
which all data have got tags. -/
def Remembers (settings : Settings) (call : String × List Value) (node : Node) : Prop :=
  Calls node.1 call.1 ∧ ∃ passed next, Dispatch.spreadArguments call.2 settings = .ok passed ∧
    node.2 = (Value.adoptAll next passed).1

/-- The colours among what arguments stand for are colours that a changer can be given. -/
def Painted (settings : Settings) (args : List Value) : Prop :=
  ∀ passed, Dispatch.spreadArguments args settings = .ok passed → ∀ c, .colour c ∈ passed → Paint c

/-- **A call that gives a changer** gives one of one node, that remembers the call and comes to a style. -/
theorem node_of_call {kind name : String} {args : List Value} {nodes : List Node} (hname : Calls kind name)
    (hpainted : Painted settings args)
    (hcall : (Registry.standard.call host name args settings w).1 = .ok (.changer nodes)) :
    ∃ node style, nodes = [node] ∧ Remembers settings (name, args) node ∧ Styled node style := by
  obtain ⟨names, hmaker, n, hn, hspelled⟩ := hname
  -- the name is one of a macro that makes changers of this kind, with one entry that suits the mutation
  have hbody : (Registry.standard.get? name).map Macro.body = some (.changer kind) := by
    rw [Registry.get?, hspelled]
    exact body_makers (kind, names) hmaker n hn
  obtain ⟨m, hget, hbody⟩ := Option.map_eq_some_iff.mp hbody
  have hsuits : Registry.suits m = true := Registry.suits_standard (_, m) (Registry.mem_of_get? hget)
  obtain ⟨e, mutation, hsignature, hmutation, hsuits, hpresent⟩ := Registry.exists_of_suits hsuits hbody
  obtain ⟨w', hcall⟩ := Run.exists_of_fst hcall
  have hne : ∀ e, Value.changer nodes ≠ .error e := by
    intro e h
    cases h
  -- the answer is no error, so dispatch has let the arguments through and the macro has answered
  obtain ⟨passed, w₁, answer, w₂, hpassed, hperform, hanswer⟩ := Registry.of_call hget hcall hne
  obtain ⟨⟨-, hspread, -, hfits⟩, -, -⟩ := Dispatch.arguments_ok hpassed
  obtain ⟨v, rfl, htakes⟩ := (hsignature ▸ hfits).exists_only hpresent
  obtain rfl : answer = .changer [(kind, [v])] := by
    rw [hbody] at hperform
    exact (Except.ok.inj (Prod.mk.inj hperform).1).symm
  have hshort : ∀ c, v = .colour c → c.Short := fun c hv =>
    (hpainted _ hspread c (List.mem_singleton.mpr hv.symm)).short
  obtain ⟨style, hstyle⟩ := exists_styled hmutation hsuits htakes hshort w₂.fresh
  have hnodes : nodes = [(kind, (Value.adoptAll w₂.fresh [v]).1)] := Value.changer.inj hanswer
  exact ⟨_, style, hnodes, ⟨⟨names, hmaker, n, hn, hspelled⟩, [v], w₂.fresh, hspread, rfl⟩, hstyle⟩

/-! ## Sums -/

/-- **Chains that are put together from calls,** in any number and any grouping.  What is not a colour may be anything
that is let through to the macro. -/
inductive Made (host : Host σ) (settings : Settings) : List (String × List Value) → List Node → Prop
  | call {kind name : String} {args : List Value} {nodes : List Node} {w : World σ} : Calls kind name →
      Painted settings args → (Registry.standard.call host name args settings w).1 = .ok (.changer nodes) →
      Made host settings [(name, args)] nodes
  | plus {calls calls' : List (String × List Value)} {nodes nodes' : List Node} : Made host settings calls nodes →
      Made host settings calls' nodes' → Made host settings (calls ++ calls') (compose nodes nodes')

variable {calls : List (String × List Value)} {nodes : List Node}

/-- The nodes of such a chain remember its calls, in order, and each comes to a style.  By induction on how the chain
was put together; grouping does not matter since nodes are appended. -/
theorem Made.styled (h : Made host settings calls nodes) :
    List.Forall₂ (Remembers settings) calls nodes ∧ ∃ styles, List.Forall₂ Styled nodes styles := by
  induction h with
  | call hname hpainted hcall =>
    obtain ⟨node, style, rfl, hremembers, hstyled⟩ := node_of_call hname hpainted hcall
    exact ⟨.cons hremembers .nil, [style], .cons hstyled .nil⟩
  | plus _ _ ih ih' =>
    obtain ⟨hremember, styles, hstyled⟩ := ih
    obtain ⟨hremember', styles', hstyled'⟩ := ih'
    rw [compose_eq_append]
    exact ⟨List.rel_append hremember hremember', styles ++ styles', List.rel_append hstyled hstyled'⟩

/-! ## The run -/

/-- A table has the mutations of the standard macros under the names that these gave them. -/
def HasStandard (table : Table) : Prop := ∀ entry ∈ standardTable, table.lookup entry.1 = some entry.2

/-- The table that the standard macros fill has their mutations. -/
theorem hasStandard_standardTable : HasStandard standardTable := by
  unfold HasStandard
  decide

/-- **What is entered later** takes none of them away, for a name that has a mutation keeps it. -/
theorem HasStandard.register {table table' : Table} {name : String} {m : Mutation} (h : HasStandard table)
    (hregister : Changer.register table name m = .ok table') : HasStandard table' := by
  intro entry hentry
  unfold Changer.register at hregister
  split at hregister
  · obtain rfl := Except.ok.inj hregister
    rw [List.lookup_append, h entry hentry, Option.some_or]
  · split at hregister
    · exact Except.ok.inj hregister ▸ h entry hentry
    · cases hregister

/-- **The run of a chain** in which each node comes to a style puts these behind the styles that are there, by
induction on the chain. -/
theorem run_styled {table : Table} (htable : HasStandard table) (hosted : Nat → Mutator) {new : List Style}
    (h : List.Forall₂ Styled nodes new) :
    ∀ styles, run (Mutation.mutator hosted) table nodes settings styles = (.ok none, styles ++ new) := by
  induction h with
  | nil =>
    intro styles
    rw [List.append_nil]
    rfl
  | @cons node style nodes new hnode _ ih =>
    intro styles
    obtain ⟨name, params⟩ := node
    obtain ⟨m, hm, hmutates⟩ := hnode.mutates hosted
    rw [run_applied (htable _ hm) (hmutates styles) rfl, ih, List.append_assoc, List.singleton_append]

/-- Run on no styles in such a world, the chain gives the styles of its nodes.  By induction on the nodes, each of
which leaves its style behind the others and returns nothing. -/
theorem runInWorld_styled (host : Host σ) (htable : HasStandard w.mutations) {new : List Style}
    (h : List.Forall₂ Styled nodes new) : runInWorld host nodes settings w = (.ok (new, none), w) := by
  have hrun : run (Mutation.mutator host.mutate) w.mutations nodes settings [] = (.ok none, new) :=
    run_styled htable host.mutate h []
  have hon : (run (Mutation.mutator host.mutate) w.mutations nodes).on [] settings = .ok (new, none) := by
    rw [Styling.on, hrun]
  rw [runInWorld]
  exact Run.check_eq_ok.mpr ⟨rfl, hon⟩

/-- **Changers made by the standard macros always run.**  Let a chain be put together from calls of these macros, and
let the world have their mutations under the names that they were given.

* The chain has one node for each call, in order, and the node remembers the call.
* Running the chain on no styles gives one style for each node, in order, and no error.
* The styles are those that `Styled` says, and no others: what has been asked for as text style comes to the one listed
  style that is spelled like it.

The colours among the arguments are those that colour macros give, or others that can be written (`Painted`). -/
theorem run_of_made (host : Host σ) (hmade : Made host settings calls nodes)
    (htable : HasStandard w.mutations) :
    List.Forall₂ (Remembers settings) calls nodes ∧
      ∃ styles, (∀ other, List.Forall₂ Styled nodes other ↔ other = styles) ∧
        runInWorld host nodes settings w = (.ok (styles, none), w) := by
  obtain ⟨hremember, styles, hstyled⟩ := hmade.styled
  have hunique : ∀ other, List.Forall₂ Styled nodes other ↔ other = styles := fun other =>
    ⟨fun hother => List.right_unique_forall₂' styled_rightUnique hother hstyled, fun heq => heq ▸ hstyled⟩
  exact ⟨hremember, styles, hunique, runInWorld_styled host htable hstyled⟩

/-- A text style in another spelling, and a colour under another name. -/
def upsideDownOrange : List (String × List Value) :=
  [("Text_Style", [.string "upsideDOWN"]), ("color", [.string "#f80"])]

/-- The style is the listed one, and the colour is read. -/
theorem run_of_made_upsideDownOrange :
    let settings : Settings := Settings.usual
    let w : World Unit := World.start standardTable ()
    let nodes : List Node := [("text-style", [.string "upsideDOWN"]), ("text-colour", [.string "#f80"])]
    Made Registry.approving settings upsideDownOrange nodes ∧
      runInWorld Registry.approving nodes settings w =
        (.ok ([[("text-style", .string "upside-down")], [("color", .string "rgba(255, 136, 0, 1)")]], none), w) := by
  intro settings w nodes
  have hstyle : (Registry.standard.call Registry.approving "Text_Style" [.string "upsideDOWN"] settings w).1 =
      .ok (.changer [("text-style", [.string "upsideDOWN"])]) := by
    rw [Registry.standard_eq_listed]
    decide +kernel
  have hcolour : (Registry.standard.call Registry.approving "color" [.string "#f80"] settings w).1 =
      .ok (.changer [("text-colour", [.string "#f80"])]) := by
    rw [Registry.standard_eq_listed]
    decide +kernel
  -- neither is given a colour
  have hpainted : ∀ s, Painted settings [.string s] := fun s passed hspread c hc => by
    obtain rfl : [.string s] = passed := Except.ok.inj hspread
    exact nomatch List.mem_singleton.mp hc
  have hmade : Made Registry.approving settings upsideDownOrange nodes :=
    .plus (.call ⟨_, .tail _ (.head _), _, .head _, by decide +kernel⟩ (hpainted _) hstyle)
      (.call ⟨_, .head _, _, .tail _ (.tail _ (.tail _ (.head _))), rfl⟩ (hpainted _) hcolour)
  obtain ⟨-, styles, hunique, hrun⟩ := run_of_made Registry.approving hmade (w := w) hasStandard_standardTable
  have hlisted : Styled ("text-style", [.string "upsideDOWN"]) [("text-style", .string "upside-down")] :=
    .of_letters (by decide) (by decide +kernel)
  have horange : Styled ("text-colour", [.string "#f80"]) [("color", .string "rgba(255, 136, 0, 1)")] := by
    have hcss : (Colour.ofHex? "#f80").map Colour.css = some (.ok "rgba(255, 136, 0, 1)") := by decide +kernel
    obtain ⟨c, hc, hcss⟩ := Option.map_eq_some_iff.mp hcss
    exact .hex hc hcss
  obtain rfl := (hunique _).mp (.cons hlisted (.cons horange .nil))
  exact ⟨hmade, hrun⟩

end Changer

end StoryValues
