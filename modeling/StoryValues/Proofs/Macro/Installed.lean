import Mathlib.Data.List.Nodup
import StoryValues.Proofs.Macro.Registration

/-
  WHAT IS INSTALLED.  The macros of the standard library are added one after another, each under all of its names as
  far as these are free.  All of them are, so nothing is lost, and the library can be read off a list.

  1. **One addition** (`Registry.Addition`) puts its macro behind all others if the forms of its names that are
     compared are new (`Addition.apply_eq`).  By induction, so do any number of them (`foldl_apply`).
  2. **The library as a list** (`standard_eq_listed`): the additions of which it is made (`additions`) have names of
     51 different forms (`forms`).

  Macros are looked up in the list, where to install them again would compare each name with all before it.
-/

namespace StoryValues

namespace Registry

/-! ## Additions -/

/-- A macro that is added under all of its names, and the signature that its entries make. -/
structure Addition where
  names : List String
  body : MacroBody
  entries : List Entry
  returns : Returns
  signature : Signature
  valid : Signature.ofEntries entries = .ok signature

namespace Addition

/-- What is added. -/
def added (a : Addition) : Macro := ⟨a.names, a.body, a.signature, a.returns⟩

/-- The forms of the names. -/
def forms (a : Addition) : List String := a.names.map insensitiveName

/-- The macro, once for each name. -/
def copies (a : Addition) : List Macro := a.names.map fun _ => a.added

/-- Adds the macro. -/
def apply (r : Registry) (a : Addition) : Registry := r.including a.names a.body a.entries a.returns

variable {r : Registry} {a : Addition}

/-- **An addition puts its macro behind all others** under names whose forms are new. -/
theorem apply_eq (hopen : r.frozen = false) (hnew : (r.macros.map Prod.fst ++ a.forms).Nodup) :
    apply r a = r.withMacro a.added a.names := by
  have henter : apply r a = (enter a.added a.names r).1 := by
    rw [apply, including, add, hopen, if_neg Bool.false_ne_true, a.valid]
    rfl
  rcases enter_cases a.added a.names r with ⟨-, hall⟩ | ⟨done, taken, rest, hnames, -, htaken, -⟩
  · rw [henter, hall]
  · -- the form of a name that is taken would be there twice
    rw [forms, hnames, List.map_append, ← List.append_assoc] at hnew
    obtain ⟨other, hother⟩ := Option.isSome_iff_exists.mp htaken
    have hthere : insensitiveName taken ∈ r.macros.map Prod.fst ++ done.map insensitiveName := by
      have hmem := List.mem_map_of_mem (f := Prod.fst) (mem_of_get? hother)
      rwa [withMacro, List.map_append, List.map_map] at hmem
    exact absurd List.mem_cons_self (List.disjoint_of_nodup_append hnew hthere)

end Addition

/-- **Additions put their macros behind all others** if the forms of all names are new, by induction on them. -/
theorem foldl_apply (additions : List Addition) : ∀ {r : Registry}, r.frozen = false →
    (r.macros.map Prod.fst ++ additions.flatMap Addition.forms).Nodup →
    additions.foldl Addition.apply r =
      { r with macros := r.macros ++ (additions.flatMap Addition.forms).zip (additions.flatMap Addition.copies) } := by
  induction additions with
  | nil =>
    intro r _ _
    exact congrArg (Registry.mk · r.frozen) (List.append_nil _).symm
  | cons a additions ih =>
    intro r hopen hnew
    rw [List.flatMap_cons, ← List.append_assoc] at hnew
    have hentered : (r.withMacro a.added a.names).macros = r.macros ++ a.forms.zip a.copies :=
      congrArg (r.macros ++ ·) (List.zip_map'.symm)
    have hothers := ih (r := r.withMacro a.added a.names) hopen (by rwa [withMacro, List.map_append, List.map_map])
    have hlength : a.forms.length = a.copies.length := by
      rw [Addition.forms, Addition.copies, List.length_map, List.length_map]
    rw [List.foldl_cons, Addition.apply_eq hopen (List.nodup_append.mp hnew).1, hothers, hentered, List.append_assoc,
      ← List.zip_append hlength]
    rfl

/-! ## The standard library -/

/-- The additions that make the standard library. -/
def additions : List Addition :=
  [⟨["a", "array"], .standard .array, [anyValues], .any, _, rfl⟩,
   ⟨["dm", "datamap"], .standard .datamap, [anyValues], .any, _, rfl⟩,
   ⟨["ds", "dataset"], .standard .dataset, [anyValues], .any, _, rfl⟩,
   ⟨["source"], .standard .source, [.any], .any, _, rfl⟩,
   ⟨["datatype"], .standard .datatype, [.any], .any, _, rfl⟩,
   ⟨["range"], .standard .range, [.integer, .integer], .any, _, rfl⟩,
   ⟨["subarray"], .standard .subarray, [.array, .integer, .integer], .any, _, rfl⟩,
   ⟨["substring"], .standard .substring, [.string, .integer, .integer], .any, _, rfl⟩,
   ⟨["count"], .standard .count, [.either [.string, .array], .oneOrMore .any], .any, _, rfl⟩,
   ⟨["find"], .standard .find, [.lambda [.whereTrue], anyValues], .any, _, rfl⟩,
   ⟨["altered"], .standard .altered, [alterer, anyValues], .any, _, rfl⟩,
   ⟨["dm-altered"], .standard .datamapAltered, [alterer, .datamap], .any, _, rfl⟩,
   ⟨["all-pass", "pass"], .standard .allPass, [.lambda [.whereTrue], anyValues], .any, _, rfl⟩,
   ⟨["some-pass"], .standard .somePass, [.lambda [.whereTrue], anyValues], .any, _, rfl⟩,
   ⟨["none-pass"], .standard .nonePass, [.lambda [.whereTrue], anyValues], .any, _, rfl⟩,
   ⟨["folded"], .standard .folded,
     [.either [.lambda [.making, .via], .lambda [.making, .via, .whereTrue]], .oneOrMore .any], .any, _, rfl⟩,
   ⟨["sorted"], .standard .sorted, [anyValues], .any, _, rfl⟩,
   ⟨["p", "pattern"], .standard (.pattern "p"), [.zeroOrMore (.either fragmentKinds)], .any, _, rfl⟩,
   ⟨["p-either", "pattern-either"], .standard (.pattern "p-either"),
     [.oneOrMore (.either fragmentKinds)], .any, _, rfl⟩,
   ⟨["p-opt", "pattern-opt", "p-optional", "pattern-optional"], .standard (.pattern "p-opt"),
     [.zeroOrMore (.either fragmentKinds)], .any, _, rfl⟩,
   ⟨["p-many", "pattern-many"], .standard (.pattern "p-many"),
     [.zeroOrMore (.either (.nonNegativeInteger :: fragmentKinds))], .any, _, rfl⟩,
   ⟨["p-ins", "pattern-ins", "p-insensitive", "pattern-insensitive"], .standard (.pattern "p-ins"),
     [.zeroOrMore (.either fragmentKinds)], .any, _, rfl⟩,
   ⟨["p-not-before", "pattern-not-before"], .standard (.pattern "p-not-before"),
     [.zeroOrMore (.either fragmentKinds)], .any, _, rfl⟩,
   ⟨["rgb"], .standard .rgb, [byte, byte, byte], .any, _, rfl⟩,
   ⟨["rgba"], .standard .rgb, [byte, byte, byte, .percent], .any, _, rfl⟩,
   ⟨["hsl"], .standard .hsl, [.number, .percent, .percent], .any, _, rfl⟩,
   ⟨["hsla"], .standard .hsl, [.number, .percent, .percent, .percent], .any, _, rfl⟩,
   ⟨["gradient"], .standard .gradient, [.number, .oneOrMore (.either [.percent, .kind .colour])], .any, _, rfl⟩,
   ⟨["text-colour", "text-color", "colour", "color"], .changer "text-colour",
     [.either [.string, .kind .colour]], .changer, _, rfl⟩,
   ⟨["text-style"], .changer "text-style", [.oneOf Changer.textStyles], .changer, _, rfl⟩,
   ⟨["font"], .changer "font", [.string], .changer, _, rfl⟩,
   ⟨["hook"], .standard .hook, [.string], .any, _, rfl⟩,
   ⟨["error"], .standard .error, [.string], .any, _, rfl⟩,
   ⟨["assert"], .command "assert" none .assertion, [.boolean], .command, _, rfl⟩]

/-- The forms of all names in it. -/
def forms : List String :=
  ["a", "array", "dm", "datamap", "ds", "dataset", "source", "datatype", "range", "subarray", "substring",
   "count", "find", "altered", "dmaltered", "allpass", "pass", "somepass", "nonepass", "folded", "sorted", "p",
   "pattern", "peither", "patterneither", "popt", "patternopt", "poptional", "patternoptional", "pmany",
   "patternmany", "pins", "patternins", "pinsensitive", "patterninsensitive", "pnotbefore", "patternnotbefore",
   "rgb", "rgba", "hsl", "hsla", "gradient", "textcolour", "textcolor", "colour", "color", "textstyle", "font",
   "hook", "error", "assert"]

/-- The standard library as a list. -/
def listed : Registry := ⟨forms.zip (additions.flatMap Addition.copies), true⟩

/-- Installing the library is making the additions one after another. -/
theorem install_eq_foldl (r : Registry) : r.install = additions.foldl Addition.apply r := rfl

/-- The forms of the names of all additions, evaluated. -/
theorem flatMap_forms : additions.flatMap Addition.forms = forms := by decide +kernel

/-- They are all different. -/
theorem nodup_forms : forms.Nodup := by decide +kernel

/-- **The standard library is the list of its macros** under all of their names.  With it a macro can be looked up by
evaluation. -/
theorem standard_eq_listed : standard = listed := by
  have hnew : ((empty.macros.map Prod.fst) ++ additions.flatMap Addition.forms).Nodup := flatMap_forms ▸ nodup_forms
  rw [standard, install_eq_foldl, foldl_apply additions rfl hnew, flatMap_forms]
  rfl

end Registry

end StoryValues
