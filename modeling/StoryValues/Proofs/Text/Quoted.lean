import StoryValues.Text.Quoted

/-
  QUOTED TEXT can be read back.  What is written for a character shows where it ends and which character it
  was (`readChar?_encodeChar`), and no character is written with a bare quote, so the quote that ends a text
  is the first bare one.  Two quoted texts with anything behind them are therefore the same only if the
  texts are, and what is behind them (`quoted_cancel`).
-/

namespace StoryValues

namespace Quoted

/-- The value of hexadecimal digits in lower case, written one after another. -/
def hexValue (ds : List Char) : Nat :=
  ds.foldl (fun n c => 16 * n + (if c.isDigit then c.toNat - 48 else c.toNat - 87)) 0

/-- The character that a letter after a backslash stands for. -/
def unescape (c : Char) : Char :=
  if c = 'n' then '\n'
  else if c = 'r' then '\r'
  else if c = 't' then '\t'
  else if c = 'b' then '\x08'
  else if c = 'f' then '\x0c'
  else c

/-- Reads one character, unless a quote ends the text. -/
def readChar? : List Char → Option (Char × List Char)
  | [] => none
  | '"' :: _ => none
  | '\\' :: 'u' :: a :: b :: c :: d :: rest => some (Char.ofNat (hexValue [a, b, c, d]), rest)
  | '\\' :: c :: rest => some (unescape c, rest)
  | c :: rest => some (c, rest)

/-- Four digits are enough for a control character. -/
theorem hexValue_hexDigits (n : Fin 32) : hexValue (hexDigits 4 n) = n ∧ (hexDigits 4 n).length = 4 := by
  revert n
  decide

theorem readChar?_control (n : Fin 32) (rest : List Char) :
    readChar? ('\\' :: 'u' :: (hexDigits 4 n ++ rest)) = some (Char.ofNat n, rest) := by
  obtain ⟨hvalue, hlength⟩ := hexValue_hexDigits n
  match hdigits : hexDigits 4 n, hlength with
  | [a, b, c, d], _ =>
    rw [hdigits] at hvalue
    rw [← hvalue]
    rfl

/-- **What is written for a character is read as that character.** -/
theorem readChar?_encodeChar (c : Char) (rest : List Char) :
    readChar? (encodeChar c ++ rest) = some (c, rest) := by
  unfold encodeChar
  split
  · next h => subst h; rfl
  split
  · next h => subst h; rfl
  split
  · next h => subst h; rfl
  split
  · next h => subst h; rfl
  split
  · next h => subst h; rfl
  split
  · next h => subst h; rfl
  split
  · next h => subst h; rfl
  split
  · next h =>
    refine (readChar?_control ⟨c.toNat, h⟩ rest).trans ?_
    rw [Char.ofNat_toNat]
  · next hquote hbackslash _ _ _ _ _ _ =>
    show readChar? (c :: rest) = _
    unfold readChar?
    split <;> simp_all

/-- **Quoted text ends in one place and in one way.** -/
theorem encode_cancel {cs ds r s : List Char} (h : encode cs ++ '"' :: r = encode ds ++ '"' :: s) :
    cs = ds ∧ r = s := by
  have hread (c : Char) (cs rest : List Char) :
      readChar? (encode (c :: cs) ++ rest) = some (c, encode cs ++ rest) := by
    rw [encode, List.flatMap_cons, List.append_assoc]
    exact readChar?_encodeChar c _
  have hend (rest : List Char) : readChar? (encode [] ++ '"' :: rest) = none := rfl
  induction cs generalizing ds with
  | nil =>
    cases ds with
    | nil => exact ⟨rfl, (List.cons.inj h).2⟩
    | cons d ds =>
      have := congrArg readChar? h
      rw [hend, hread] at this
      exact nomatch this
  | cons c cs ih =>
    have hc := congrArg readChar? h
    rw [hread] at hc
    cases ds with
    | nil => exact nomatch hc
    | cons d ds =>
      rw [hread, Option.some.injEq, Prod.mk.injEq] at hc
      obtain ⟨rfl, hrest⟩ := ih hc.2
      exact ⟨by rw [hc.1], hrest⟩

end Quoted

theorem toList_quoted (s : String) : (quoted s).toList = '"' :: (Quoted.encode s.toList ++ ['"']) :=
  String.toList_ofList

/-- Quoted texts with something behind them are the same only if both parts are. -/
theorem quoted_cancel {s t : String} {p q : List Char} (h : (quoted s).toList ++ p = (quoted t).toList ++ q) :
    s = t ∧ p = q := by
  rw [toList_quoted, toList_quoted, List.cons_append, List.cons_append, List.append_assoc, List.append_assoc] at h
  obtain ⟨hs, hp⟩ := Quoted.encode_cancel (List.cons.inj h).2
  exact ⟨String.toList_inj.mp hs, hp⟩

end StoryValues
