import StoryValues.Proofs.Colour.Hex
import StoryValues.Proofs.Macro.Parameters
import StoryValues.Proofs.Macro.Shortage
import StoryValues.Proofs.Macro.Styled

/-
  TEXT COLOURS.  The changer that a text is given to writes the text itself iff it names no colour in hexadecimal digits
  (`run_textColour`).

  The macro has one entry for a string or a colour, so dispatch lets every text through (`call_textColour`); which of
  the two styles comes of it is then a matter of what the text names.
-/

namespace StoryValues

variable {σ : Type} {settings : Settings} {host : Host σ} {w : World σ}

/-- Whether a macro makes text colours of one string or colour. -/
def Registry.coloursText (m : Macro) : Bool :=
  match m.body, m.signature.fixed, m.signature.rest with
  | .changer "text-colour", [.either [.plain "string", .kind .colour]], none => true
  | _, _, _ => false

namespace Changer

/-- The standard library has the macro under all its names. -/
theorem exists_textColour {name : String} (hname : Calls "text-colour" name) :
    ∃ m, Registry.standard.get? name = some m ∧ m.body = .changer "text-colour" ∧
      m.signature = ⟨[.either [.string, .kind .colour]], none⟩ := by
  have hall : ∀ maker ∈ makers, maker.1 = "text-colour" → ∀ n ∈ maker.2,
      (Registry.standard.get? n).map Registry.coloursText = some true := by
    rw [Registry.standard_eq_listed]
    decide +kernel
  obtain ⟨names, hmaker, n, hn, hspelled⟩ := hname
  have hsame : Registry.standard.get? name = Registry.standard.get? n := by rw [Registry.get?, Registry.get?, hspelled]
  obtain ⟨m, hget, hcolours⟩ := Option.map_eq_some_iff.mp (hall _ hmaker rfl n hn)
  obtain ⟨names, body, ⟨fixed, rest⟩, returns⟩ := m
  unfold Registry.coloursText at hcolours
  split at hcolours
  · rename_i hbody hfixed hrest
    exact ⟨_, hsame.trans hget, hbody, congrArg₂ Signature.mk hfixed hrest⟩
  · cases hcolours

/-- **A call with a text** gives a changer that remembers the text. -/
theorem call_textColour {name : String} (hname : Calls "text-colour" name) (host : Host σ) (s : String)
    (settings : Settings) (w : World σ) :
    (Registry.standard.call host name [.string s] settings w).1 = .ok (.changer [("text-colour", [.string s])]) := by
  obtain ⟨m, hget, hbody, hsignature⟩ := exists_textColour hname
  have hplain : ∀ v ∈ [Value.string s], v.Plain := List.forall_mem_singleton.mpr ⟨.other nofun nofun, nofun⟩
  have hfree : ∀ v ∈ [Value.string s], v.ErrorFree := fun v hv => (hplain v hv).1
  have haccepts : Entry.accepts (.string s) (.either [.string, .kind .colour]) settings = .ok true := rfl
  show _ = Except.ok (Value.adopt w.fresh (.changer [("text-colour", [.string s])])).1
  refine Registry.call_of_checked hget hfree (Dispatch.Callee.spreadArguments_plain hplain) ?_ fun w' => ?_
  · rw [hsignature, Dispatch.Callee.checkFrom,
      Run.bind_of_ok (CustomMacro.checkOne_accepted (hfree _ (.head _)) haccepts)]
    rfl
  · rw [hbody]
    rfl

/-- **Hex colours are read as they are written,** but for one line feed.

* A text gives the colour that its digits name, if it is a `#` with digits and perhaps a line feed behind them.
* It gives one iff the digits are three or six.
* Called with a text, the text colour gives a changer; run on no styles, this writes one style.  It is the text itself
  iff the text does not have that form, and the colour that it names otherwise. -/
theorem run_textColour (host : Host σ) (settings : Settings) (s : String) :
    (∀ colour, Colour.ofHex? s = some colour ↔ ∃ ds, Colour.HexForm s ds ∧ Colour.Names ds colour) ∧
    ((∃ colour, Colour.ofHex? s = some colour) ↔ Colour.IsHex s) ∧
    ∀ name, Calls "text-colour" name → ∀ w : World σ, ∃ nodes,
      (Registry.standard.call host name [.string s] settings w).1 = .ok (.changer nodes) ∧
      ∀ w' : World σ, HasStandard w'.mutations → ∃ text,
        runInWorld host nodes settings w' = (.ok ([[("color", .string text)]], none), w') ∧
        (text = s ↔ ¬ Colour.IsHex s) ∧ ∀ colour, Colour.ofHex? s = some colour → colour.css = .ok text := by
  refine ⟨fun colour => Colour.ofHex?_iff, Colour.exists_ofHex?_iff, fun name hname w => ?_⟩
  refine ⟨_, call_textColour hname host s settings w, fun w' hw' => ?_⟩
  rw [← Colour.exists_ofHex?_iff]
  cases hs : Colour.ofHex? s with
  | some colour =>
    obtain ⟨text, htext⟩ := Colour.exists_css_of_ofHex? hs
    refine ⟨text, runInWorld_styled host hw' (.cons (.hex hs htext) .nil), ?_, ?_⟩
    · refine ⟨fun hsame => ?_, fun hnot => absurd ⟨colour, rfl⟩ hnot⟩
      exact absurd (hsame ▸ htext) (Colour.css_ne_of_ofHex? hs)
    · rintro other ⟨⟩
      exact htext
  | none =>
    refine ⟨s, runInWorld_styled host hw' (.cons (.text hs) .nil), ⟨fun _ => ?_, fun _ => rfl⟩, fun _ h => nomatch h⟩
    rintro ⟨colour, h⟩
    cases h

/-- Three digits, in either case, under another name of the macro. -/
theorem run_textColour_rose :
    let settings : Settings := Settings.usual
    let w : World Unit := World.start standardTable ()
    let host : Host Unit := Registry.approving
    ∃ nodes, (Registry.standard.call host "Color" [.string "#F8a"] settings w).1 = .ok (.changer nodes) ∧
      runInWorld host nodes settings w = (.ok ([[("color", .string "rgba(255, 136, 170, 1)")]], none), w) := by
  intro settings w host
  obtain ⟨-, -, hrun⟩ := run_textColour host settings "#F8a"
  have hname : Calls "text-colour" "Color" :=
    ⟨_, .head _, _, .tail _ (.tail _ (.tail _ (.head _))), by decide⟩
  obtain ⟨nodes, hcall, hwrites⟩ := hrun "Color" hname w
  obtain ⟨text, hstyle, -, htext⟩ := hwrites w hasStandard_standardTable
  have hcss : (Colour.ofHex? "#F8a").map Colour.css = some (.ok "rgba(255, 136, 170, 1)") := by decide +kernel
  obtain ⟨colour, hcolour, hcss⟩ := Option.map_eq_some_iff.mp hcss
  obtain rfl := Except.ok.inj ((htext colour hcolour).symm.trans hcss)
  exact ⟨nodes, hcall, hstyle⟩

/-- **With a line feed behind it,** a text that is no `#` with three or six characters gives a colour. -/
theorem ofHex?_lineFeed :
    (Colour.ofHex? "#f80\n").map Colour.css = some (.ok "rgba(255, 136, 0, 1)") ∧
      ¬ ∃ ds, "#f80\n".toList = '#' :: ds ∧ (ds.length = 3 ∨ ds.length = 6) := by
  refine ⟨by decide +kernel, ?_⟩
  rintro ⟨ds, hds, hlength⟩
  obtain rfl := (List.cons.inj hds).2
  revert hlength
  decide

end Changer

end StoryValues
