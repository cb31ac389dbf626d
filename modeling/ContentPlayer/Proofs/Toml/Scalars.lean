import ContentPlayer.Proofs.Toml.Strings
import ContentPlayer.Toml.Read
import Mathlib.Data.List.Basic

namespace ContentPlayer.Toml

open ContentPlayer.Json (Draft)

section Digits

variable {cs : List Char} {c : Char} {n : Nat}

theorem separatedDigits_eq_self (hne : cs ≠ []) (hcs : ∀ c ∈ cs, c.isDigit) :
    separatedDigits Char.isDigit cs = some cs := by
  fun_induction separatedDigits Char.isDigit cs <;> simp_all

theorem hexValue_of_isDigit (hc : c.isDigit) : Text.hexValue c = some (c.toNat - 48) := by
  have hrange : '0' ≤ c ∧ c ≤ '9' := by
    simp only [Char.isDigit, Bool.and_eq_true, decide_eq_true_eq] at hc
    exact hc
  simp [Text.hexValue, hrange]

theorem valueInBase_of_isDigit (hcs : ∀ c ∈ cs, c.isDigit) :
    valueInBase 10 cs = Nat.ofDigitChars 10 cs 0 :=
  List.foldl_ext _ _ 0 fun n c hc => by
    simp [hexValue_of_isDigit (hcs c hc), Nat.mul_comm]

theorem isDigit_toDigits (hc : c ∈ Nat.toDigits 10 n) : c.isDigit :=
  Nat.isDigit_of_mem_toDigits (by decide) (by decide) hc

theorem head?_toDigits_ne_zero (hn : 0 < n) : (Nat.toDigits 10 n).head? ≠ some '0' := by
  induction n using Nat.strongRecOn with
  | ind n ih =>
    rw [Nat.toDigits_eq_if (by decide)]
    split_ifs with hsmall
    · have hzero : n.digitChar ≠ '0' := fun heq => by
        have := Nat.toNat_digitChar_of_lt_ten hsmall
        rw [heq] at this
        simp at this
        omega
      simpa using hzero
    · have hrest := ih (n / 10) (by omega) (by omega)
      rwa [List.head?_append_of_ne_nil _ Nat.toDigits_ne_nil]

theorem decimalDigits_toDigits (n : Nat) :
    decimalDigits (Nat.toDigits 10 n) = some (Nat.toDigits 10 n) := by
  have hdigits := separatedDigits_eq_self (Nat.toDigits_ne_nil (n := n)) fun _ => isDigit_toDigits
  rcases Nat.eq_zero_or_pos n with rfl | hn
  · rfl
  · simp [decimalDigits, hdigits, head?_toDigits_ne_zero hn]

/-- Digits alone are a number in base ten. -/
theorem readInteger_of_isDigit (hcs : ∀ c ∈ cs, c.isDigit) :
    readInteger cs =
      (decimalDigits cs).bind fun digits => boundedInt (valueInBase 10 digits : Nat) := by
  have hne {c : Char} (hc : c.isDigit = false) : c ∉ cs := fun hmem => by
    simp [hcs c hmem] at hc
  have hsign : splitSign cs = (false, cs) := by
    unfold splitSign
    split
    · exact absurd List.mem_cons_self (hne (c := '+') rfl)
    · exact absurd List.mem_cons_self (hne (c := '-') rfl)
    · rfl
  unfold readInteger
  split
  · exact absurd (by simp) (hne (c := 'x') rfl)
  · exact absurd (by simp) (hne (c := 'o') rfl)
  · exact absurd (by simp) (hne (c := 'b') rfl)
  · simp [hsign]

theorem readInteger_toDigits (n : Nat) : readInteger (Nat.toDigits 10 n) = boundedInt n := by
  rw [readInteger_of_isDigit fun _ => isDigit_toDigits, decimalDigits_toDigits, Option.bind_some,
    valueInBase_of_isDigit fun _ => isDigit_toDigits, Nat.ofDigitChars_ten_toDigits]

theorem readScalar_toDigits (hn : n < UInt64.size) :
    readScalar (Nat.toDigits 10 n) = some (.int n) := by
  have hint : boundedInt n = some (.int n) := by
    have : UInt64.size = 0x10000000000000000 := rfl
    simp [boundedInt]
    omega
  have hword {word : List Char} (hword : ∃ c ∈ word, c.isDigit = false) :
      Nat.toDigits 10 n ≠ word := by
    rintro rfl
    obtain ⟨c, hmem, hc⟩ := hword
    simp [isDigit_toDigits hmem] at hc
  simp [readScalar, readInteger_toDigits, hint, hword]

end Digits

/-- The text, if a line ends behind it, is read as the value. -/
def Stands (w : List Char) (d : Draft) : Prop :=
  ∀ fuel room tail, readValue (fuel + 1) room ((w ++ '\n' :: tail).dropWhile isSpace) =
    some (d, '\n' :: tail)

section Values

variable {w : List Char} {d : Draft}

theorem scalarChars_append (hw : ∀ c ∈ w, endsScalar c = false) (tail : List Char) :
    scalarChars (w ++ '\n' :: tail) = (w, '\n' :: tail) := by
  have hfirst : (w ++ '\n' :: tail).takeWhile (!endsScalar ·) = w := by
    rw [List.takeWhile_append_of_pos (by simpa using hw)]
    simp [endsScalar]
  simp [scalarChars, hfirst]

theorem stands_scalar (hne : w ≠ []) (hw : ∀ c ∈ w, endsScalar c = false)
    (hread : readScalar w = some d) : Stands w d := by
  intro fuel room tail
  have hscalar := scalarChars_append hw tail
  obtain ⟨c, w, rfl⟩ := List.exists_cons_of_ne_nil hne
  have hc := hw c List.mem_cons_self
  have hblank : c ≠ ' ' := ne_of_test hc rfl
  have htab : c ≠ '\t' := ne_of_test hc rfl
  have hspace : isSpace c = false := by simp [isSpace, hblank, htab]
  have hquote : c ≠ '"' := ne_of_test hc rfl
  have happostrophe : c ≠ '\'' := ne_of_test hc rfl
  have hbracket : c ≠ '[' := ne_of_test hc rfl
  have hbrace : c ≠ '\x7b' := ne_of_test hc rfl
  rw [List.cons_append] at hscalar ⊢
  simp only [List.dropWhile_cons, hspace, readValue, hscalar, hread, Bool.false_eq_true, if_false,
    Option.map_some]
  split <;> simp_all

theorem stands_natural {n : Nat} (hn : n < UInt64.size) : Stands (Nat.toDigits 10 n) (.int n) := by
  have hends : ∀ c : Char, c.isDigit → endsScalar c = false := fun c hc => by
    simp only [endsScalar, List.contains_eq_mem, decide_eq_false_iff_not]
    have hnone : ∀ e ∈ " \t\r\n,]\x7d#=[\x7b\"'".toList, e.isDigit = false := by simp
    exact fun hmem => by simp [hnone c hmem] at hc
  exact stands_scalar Nat.toDigits_ne_nil (fun c hc => hends c (isDigit_toDigits hc))
    (readScalar_toDigits hn)

theorem stands_flag (b : Bool) :
    Stands (if b then "true".toList else "false".toList) (.bool b) := by
  cases b
  · exact stands_scalar (by simp) (by simp [endsScalar]) rfl
  · exact stands_scalar (by simp) (by simp [endsScalar]) rfl

theorem writeString_cons (cs : List Char) :
    ∃ q w, writeString cs = q :: w ∧ (q = '"' ∨ q = '\'') := by
  simp only [writeString]
  split_ifs <;> exact ⟨_, _, rfl, by decide⟩

/-- What starts with a quote is read as a string. -/
theorem stands_string {s : String} {q : Char} (hq : q = '"' ∨ q = '\'')
    (hread : ∀ tail, readString (q :: w ++ '\n' :: tail) = some (s.toList, '\n' :: tail)) :
    Stands (q :: w) (.string s) := by
  intro fuel room tail
  have hread := hread tail
  rw [List.cons_append] at hread ⊢
  rcases hq with rfl | rfl <;> simp [isSpace, readValue, hread]

theorem stands_writeString (s : String) : Stands (writeString s.toList) (.string s) := by
  have hread := readString_writeString s.toList
  obtain ⟨q, w, hw, hq⟩ := writeString_cons s.toList
  rw [hw] at hread ⊢
  exact stands_string hq hread

/-- A value as it can be written behind a key: a text in any of its forms, one in quotes that
escape or in quotes that do not, a natural number or a flag. -/
inductive Writes : List Char → Draft → Prop where
  | text (s : String) : Writes (writeString s.toList) (.string s)
  | basic (s : String) : Writes ('"' :: escapeLine s.toList ++ ['"']) (.string s)
  | literal {s : String} (hplain : ∀ c ∈ s.toList, isPlain c) (hquote : '\'' ∉ s.toList) :
      Writes ('\'' :: s.toList ++ ['\'']) (.string s)
  | natural {n : Nat} (hn : n < UInt64.size) : Writes (Nat.toDigits 10 n) (.int n)
  | flag (b : Bool) : Writes (if b then "true".toList else "false".toList) (.bool b)

theorem Writes.stands (h : Writes w d) : Stands w d := by
  cases h with
  | text s => exact stands_writeString s
  | basic s => exact stands_string (.inl rfl) (readString_basic s.toList)
  | literal hplain hquote =>
    exact stands_string (.inr rfl) fun tail => readString_literal tail hplain hquote
  | natural hn => exact stands_natural hn
  | flag b => exact stands_flag b

end Values

end ContentPlayer.Toml
