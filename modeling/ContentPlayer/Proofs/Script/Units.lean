import ContentPlayer.Script.Units

namespace ContentPlayer.Script

theorem toNat_toUInt16 {n : Nat} (h : n < 0x10000) : n.toUInt16.toNat = n :=
  UInt16.toNat_ofNat_of_lt' h

theorem surrogate_toNat (c : Char) :
    Text.isHighSurrogate c.toNat = false ∧ Text.isLowSurrogate c.toNat = false := by
  have hvalid : c.toNat < 0xD800 ∨ (0xDFFF < c.toNat ∧ c.toNat < 0x110000) := c.valid
  simp only [Text.isHighSurrogate, Text.isLowSurrogate, Bool.and_eq_false_iff,
    decide_eq_false_iff_not]
  omega

theorem charsOf?_single {u : UInt16} (rest : Units) (hhigh : Text.isHighSurrogate u.toNat = false)
    (hlow : Text.isLowSurrogate u.toNat = false) :
    charsOf? (u :: rest) = (charsOf? rest).map (Char.ofNat u.toNat :: ·) := by
  rw [charsOf?.eq_def]
  simp [hhigh, hlow]

theorem charsOf?_pair {u v : UInt16} (rest : Units) (hhigh : Text.isHighSurrogate u.toNat = true)
    (hlow : Text.isLowSurrogate v.toNat = true) :
    charsOf? (u :: v :: rest) =
      (charsOf? rest).map (Text.pairedChar u.toNat v.toNat :: ·) := by
  rw [charsOf?.eq_def]
  simp [hhigh, hlow]

/-- The units of a character are read as the character. -/
theorem charsOf?_unitsOfChar (c : Char) (rest : Units) :
    charsOf? (unitsOfChar c ++ rest) = (charsOf? rest).map (c :: ·) := by
  have hlt : c.toNat < 0x110000 := by
    have hvalid : c.toNat < 0xD800 ∨ (0xDFFF < c.toNat ∧ c.toNat < 0x110000) := c.valid
    omega
  unfold unitsOfChar
  split
  next hsmall =>
    obtain ⟨hhigh, hlow⟩ := surrogate_toNat c
    have hunit := toNat_toUInt16 hsmall
    rw [List.singleton_append, charsOf?_single rest (by rwa [hunit]) (by rwa [hunit]), hunit,
      Char.ofNat_toNat]
  next hlarge =>
    obtain ⟨n, hn⟩ : ∃ n, c.toNat = 0x10000 + n := ⟨c.toNat - 0x10000, by omega⟩
    have hhigh : (0xD800 + n / 0x400).toUInt16.toNat = 0xD800 + n / 0x400 :=
      toNat_toUInt16 (by omega)
    have hlow : (0xDC00 + n % 0x400).toUInt16.toNat = 0xDC00 + n % 0x400 :=
      toNat_toUInt16 (by omega)
    have hishigh : Text.isHighSurrogate (0xD800 + n / 0x400).toUInt16.toNat = true := by
      simp only [hhigh, Text.isHighSurrogate, Bool.and_eq_true, decide_eq_true_eq]
      omega
    have hislow : Text.isLowSurrogate (0xDC00 + n % 0x400).toUInt16.toNat = true := by
      simp only [hlow, Text.isLowSurrogate, Bool.and_eq_true, decide_eq_true_eq]
      omega
    have hpair : Text.pairedChar (0xD800 + n / 0x400) (0xDC00 + n % 0x400) = c := by
      have hvalue : 0x10000 + (0xD800 + n / 0x400 - 0xD800) * 0x400 +
          (0xDC00 + n % 0x400 - 0xDC00) = c.toNat := by omega
      rw [Text.pairedChar, hvalue, Char.ofNat_toNat]
    have hunits : c.toNat - 0x10000 = n := by omega
    simp only [hunits, List.cons_append, List.nil_append]
    rw [charsOf?_pair rest hishigh hislow, hhigh, hlow, hpair]

/-- A text's units are read as its characters. -/
theorem charsOf?_flatMap (cs : List Char) : charsOf? (cs.flatMap unitsOfChar) = some cs := by
  induction cs with
  | nil => rfl
  | cons c cs ih => rw [List.flatMap_cons, charsOf?_unitsOfChar, ih, Option.map_some]

theorem charsOf?_unitsOf (s : String) : charsOf? (unitsOf s) = some s.toList :=
  charsOf?_flatMap s.toList

theorem unitsOf_append (s t : String) : unitsOf (s ++ t) = unitsOf s ++ unitsOf t := by
  simp [unitsOf]

end ContentPlayer.Script
