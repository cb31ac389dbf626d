import ContentPlayer.Text.Utf8
import Mathlib.Tactic.SplitIfs

namespace ContentPlayer.Text

theorem toList_loop (bs : ByteArray) (i : Nat) (front : List UInt8) :
    ByteArray.toList.loop bs i front = front.reverse ++ bs.data.toList.drop i := by
  induction i, front using ByteArray.toList.loop.induct bs with
  | case1 i front hi ih =>
    have hlt : i < bs.data.toList.length := hi
    have hget : bs.get! i = bs.data.toList[i] := getElem!_pos bs.data i hi
    rw [ByteArray.toList.loop, if_pos hi, ih, List.drop_eq_getElem_cons hlt, hget]
    simp
  | case2 i front hi =>
    have hge : bs.data.toList.length ≤ i := Nat.le_of_not_lt hi
    rw [ByteArray.toList.loop, if_neg hi, List.drop_eq_nil_of_le hge, List.append_nil]

theorem toList_toByteArray (bytes : Bytes) : bytes.toByteArray.toList = bytes := by
  rw [ByteArray.toList, toList_loop]
  simp

/-- A text's bytes are those of its characters one after the other. -/
theorem encode_eq (s : String) : encode s = s.toList.flatMap String.utf8EncodeChar := by
  rw [encode, String.toUTF8_eq_toByteArray, ← String.utf8Encode_toList, List.utf8Encode,
    toList_toByteArray]

/-! The tests of single bytes, by their numbers. -/

theorem sequenceLength_eq (a : UInt8) : sequenceLength a =
    if a.toNat < 128 then some 1
    else if a.toNat < 194 then none
    else if a.toNat < 224 then some 2
    else if a.toNat < 240 then some 3
    else if a.toNat < 245 then some 4
    else none := by
  simp only [sequenceLength, UInt8.lt_iff_toNat_lt]
  rfl

theorem isTail_iff (b : UInt8) : isTail b = true ↔ 128 ≤ b.toNat ∧ b.toNat ≤ 191 := by
  simp only [isTail, Bool.and_eq_true, decide_eq_true_eq, UInt8.le_iff_toNat_le]
  rfl

theorem isSecond_iff (a b : UInt8) : isSecond a b = true ↔
    128 ≤ b.toNat ∧ b.toNat ≤ 191 ∧ (a.toNat = 224 → 160 ≤ b.toNat) ∧
      (a.toNat = 237 → b.toNat ≤ 159) ∧ (a.toNat = 240 → 144 ≤ b.toNat) ∧
      (a.toNat = 244 → b.toNat ≤ 143) := by
  have h224 : a = 0xE0 ↔ a.toNat = 224 := UInt8.toNat_inj.symm
  have h237 : a = 0xED ↔ a.toNat = 237 := UInt8.toNat_inj.symm
  have h240 : a = 0xF0 ↔ a.toNat = 240 := UInt8.toNat_inj.symm
  have h244 : a = 0xF4 ↔ a.toNat = 244 := UInt8.toNat_inj.symm
  simp only [isSecond, Bool.and_eq_true, decide_eq_true_eq, UInt8.le_iff_toNat_le, h224, h237,
    h240, h244]
  split_ifs <;> simp only [UInt8.reduceToNat] <;> omega

/-! The sequence of a character, forwards and backwards. -/

theorem valid (c : Char) : c.toNat < 0xD800 ∨ 0xDFFF < c.toNat ∧ c.toNat < 0x110000 := c.valid

theorem toNat_ofNat {n : Nat} (hn : n.isValidChar) : (Char.ofNat n).toNat = n := by
  unfold Char.ofNat
  rw [dif_pos hn]
  rfl

theorem toNat_byte {n : Nat} (hn : n < 256) : (UInt8.ofNat n).toNat = n :=
  UInt8.toNat_ofNat_of_lt' hn

theorem byte_eq {n : Nat} {b : UInt8} (h : n = b.toNat) : UInt8.ofNat n = b := by
  rw [h, UInt8.ofNat_toNat]

theorem joined_two (a b : UInt8) :
    joined a [b] = Char.ofNat (a.toNat % 32 * 64 + b.toNat % 64) := rfl

theorem joined_three (a b c : UInt8) :
    joined a [b, c] = Char.ofNat ((a.toNat % 16 * 64 + b.toNat % 64) * 64 + c.toNat % 64) := rfl

theorem joined_four (a b c d : UInt8) : joined a [b, c, d] =
    Char.ofNat (((a.toNat % 8 * 64 + b.toNat % 64) * 64 + c.toNat % 64) * 64 + d.toNat % 64) := rfl

/-- The sequence of a character is read as the character, whatever follows. -/
theorem decodeFrom_encodeChar (index : Nat) (ch : Char) (rest : Bytes) :
    decodeFrom index (String.utf8EncodeChar ch ++ rest) =
      (decodeFrom (index + (String.utf8EncodeChar ch).length) rest).map (ch :: ·) := by
  have hvalid := valid ch
  have hval : ch.val.toNat = ch.toNat := rfl
  have hmap (index : Nat) : (do return ch :: (← decodeFrom index rest)) =
      (decodeFrom index rest).map (ch :: ·) := by
    cases decodeFrom index rest <;> rfl
  unfold String.utf8EncodeChar
  rw [hval]
  dsimp only
  split_ifs with h₁ h₂ h₃
  · have ha := toNat_byte (n := ch.toNat) (by omega)
    generalize UInt8.ofNat ch.toNat = a at ha ⊢
    have hlength : sequenceLength a = some 1 := by
      rw [sequenceLength_eq, if_pos (by omega)]
    simp only [List.singleton_append, decodeFrom, hlength, ha, Char.ofNat_toNat, hmap]
    rfl
  · have ha := toNat_byte (n := ch.toNat / 64 % 32 + 192) (by omega)
    have hb := toNat_byte (n := ch.toNat % 64 + 128) (by omega)
    generalize UInt8.ofNat (ch.toNat / 64 % 32 + 192) = a at ha ⊢
    generalize UInt8.ofNat (ch.toNat % 64 + 128) = b at hb ⊢
    have hlength : sequenceLength a = some 2 := by
      rw [sequenceLength_eq, if_neg (by omega), if_neg (by omega), if_pos (by omega)]
    have hsecond : isSecond a b = true := (isSecond_iff a b).mpr (by omega)
    have hjoined : joined a [b] = ch := by
      rw [joined_two, show a.toNat % 32 * 64 + b.toNat % 64 = ch.toNat by omega, Char.ofNat_toNat]
    simp only [List.cons_append, List.nil_append, decodeFrom, hlength, hsecond, hjoined, hmap]
    rfl
  · have ha := toNat_byte (n := ch.toNat / 4096 % 16 + 224) (by omega)
    have hb := toNat_byte (n := ch.toNat / 64 % 64 + 128) (by omega)
    have hc := toNat_byte (n := ch.toNat % 64 + 128) (by omega)
    generalize UInt8.ofNat (ch.toNat / 4096 % 16 + 224) = a at ha ⊢
    generalize UInt8.ofNat (ch.toNat / 64 % 64 + 128) = b at hb ⊢
    generalize UInt8.ofNat (ch.toNat % 64 + 128) = c at hc ⊢
    have hlength : sequenceLength a = some 3 := by
      rw [sequenceLength_eq, if_neg (by omega), if_neg (by omega), if_neg (by omega),
        if_pos (by omega)]
    have hsecond : isSecond a b = true := (isSecond_iff a b).mpr (by omega)
    have htail : isTail c = true := (isTail_iff c).mpr (by omega)
    have hjoined : joined a [b, c] = ch := by
      rw [joined_three, ← Char.ofNat_toNat ch]
      congr 1
      omega
    simp only [List.cons_append, List.nil_append, decodeFrom, hlength, hsecond, htail, hjoined,
      hmap]
    rfl
  · have ha := toNat_byte (n := ch.toNat / 262144 % 8 + 240) (by omega)
    have hb := toNat_byte (n := ch.toNat / 4096 % 64 + 128) (by omega)
    have hc := toNat_byte (n := ch.toNat / 64 % 64 + 128) (by omega)
    have hd := toNat_byte (n := ch.toNat % 64 + 128) (by omega)
    generalize UInt8.ofNat (ch.toNat / 262144 % 8 + 240) = a at ha ⊢
    generalize UInt8.ofNat (ch.toNat / 4096 % 64 + 128) = b at hb ⊢
    generalize UInt8.ofNat (ch.toNat / 64 % 64 + 128) = c at hc ⊢
    generalize UInt8.ofNat (ch.toNat % 64 + 128) = d at hd ⊢
    have hlength : sequenceLength a = some 4 := by
      rw [sequenceLength_eq, if_neg (by omega), if_neg (by omega), if_neg (by omega),
        if_neg (by omega), if_pos (by omega)]
    have hsecond : isSecond a b = true := (isSecond_iff a b).mpr (by omega)
    have htails : isTail c = true ∧ isTail d = true :=
      ⟨(isTail_iff c).mpr (by omega), (isTail_iff d).mpr (by omega)⟩
    have hjoined : joined a [b, c, d] = ch := by
      rw [joined_four, ← Char.ofNat_toNat ch]
      congr 1
      omega
    simp only [List.cons_append, List.nil_append, decodeFrom, hlength, hsecond, htails, hjoined,
      hmap]
    rfl

theorem decodeFrom_encode (index : Nat) (cs : List Char) :
    decodeFrom index (cs.flatMap String.utf8EncodeChar) = .ok cs := by
  induction cs generalizing index with
  | nil => rfl
  | cons ch cs ih => rw [List.flatMap_cons, decodeFrom_encodeChar, ih, Except.map]

theorem sequenceLength_cases {a : UInt8} {n : Nat} (ha : sequenceLength a = some n) :
    (n = 1 ∧ a.toNat < 128) ∨ (n = 2 ∧ 194 ≤ a.toNat ∧ a.toNat < 224) ∨
      (n = 3 ∧ 224 ≤ a.toNat ∧ a.toNat < 240) ∨ (n = 4 ∧ 240 ≤ a.toNat ∧ a.toNat < 245) := by
  rw [sequenceLength_eq] at ha
  split_ifs at ha
  all_goals
    obtain rfl := Option.some.inj ha
    omega

section Sequences

variable {a b c d : UInt8}

/-! Bytes that pass the tests are the sequence of the character to which they are joined. -/

theorem encodeChar_one (ha : sequenceLength a = some 1) :
    String.utf8EncodeChar (Char.ofNat a.toNat) = [a] := by
  have ha' : a.toNat < 128 := by
    have hcases := sequenceLength_cases ha
    omega
  have hval : (Char.ofNat a.toNat).val.toNat = a.toNat := toNat_ofNat (.inl (by omega))
  unfold String.utf8EncodeChar
  simp only [hval]
  rw [if_pos (by omega), UInt8.ofNat_toNat]

theorem encodeChar_two (ha : sequenceLength a = some 2) (hb : isSecond a b = true) :
    String.utf8EncodeChar (joined a [b]) = [a, b] := by
  obtain ⟨hb₁, hb₂, -⟩ := (isSecond_iff a b).mp hb
  have ha' : 194 ≤ a.toNat ∧ a.toNat < 224 := by
    have hcases := sequenceLength_cases ha
    omega
  have hval : (joined a [b]).val.toNat = a.toNat % 32 * 64 + b.toNat % 64 := by
    rw [joined_two]
    exact toNat_ofNat (.inl (by omega))
  unfold String.utf8EncodeChar
  simp only [hval]
  rw [if_neg (by omega), if_pos (by omega), byte_eq (b := a) (by omega),
    byte_eq (b := b) (by omega)]

theorem encodeChar_three (ha : sequenceLength a = some 3) (hb : isSecond a b = true)
    (hc : isTail c = true) : String.utf8EncodeChar (joined a [b, c]) = [a, b, c] := by
  obtain ⟨hb₁, hb₂, hbE0, hbED, -⟩ := (isSecond_iff a b).mp hb
  have hc' := (isTail_iff c).mp hc
  have ha' : 224 ≤ a.toNat ∧ a.toNat < 240 := by
    have hcases := sequenceLength_cases ha
    omega
  obtain ⟨n, hn⟩ : ∃ n, n = (a.toNat % 16 * 64 + b.toNat % 64) * 64 + c.toNat % 64 := ⟨_, rfl⟩
  have hsize : 0x800 ≤ n ∧ n < 0x10000 := by omega
  have hvalid : n.isValidChar := by
    unfold Nat.isValidChar
    omega
  have hval : (joined a [b, c]).val.toNat = n := by
    rw [joined_three, ← hn]
    exact toNat_ofNat hvalid
  clear hbE0 hbED hvalid
  unfold String.utf8EncodeChar
  simp only [hval]
  rw [if_neg (by omega), if_neg (by omega), if_pos (by omega), byte_eq (b := a) (by omega),
    byte_eq (b := b) (by omega), byte_eq (b := c) (by omega)]

theorem encodeChar_four (ha : sequenceLength a = some 4) (hb : isSecond a b = true)
    (hc : isTail c = true) (hd : isTail d = true) :
    String.utf8EncodeChar (joined a [b, c, d]) = [a, b, c, d] := by
  obtain ⟨hb₁, hb₂, -, -, hbF0, hbF4⟩ := (isSecond_iff a b).mp hb
  have hc' := (isTail_iff c).mp hc
  have hd' := (isTail_iff d).mp hd
  have ha' : 240 ≤ a.toNat ∧ a.toNat < 245 := by
    have hcases := sequenceLength_cases ha
    omega
  obtain ⟨n, hn⟩ : ∃ n, n =
      ((a.toNat % 8 * 64 + b.toNat % 64) * 64 + c.toNat % 64) * 64 + d.toNat % 64 := ⟨_, rfl⟩
  have hsize : 0x10000 ≤ n ∧ n < 0x110000 := by omega
  have hval : (joined a [b, c, d]).val.toNat = n := by
    rw [joined_four, ← hn]
    exact toNat_ofNat (.inr ⟨by omega, hsize.2⟩)
  clear hbF0 hbF4
  unfold String.utf8EncodeChar
  simp only [hval]
  rw [if_neg (by omega), if_neg (by omega), if_neg (by omega), byte_eq (b := a) (by omega),
    byte_eq (b := b) (by omega), byte_eq (b := c) (by omega), byte_eq (b := d) (by omega)]

end Sequences

theorem exists_of_cons_eq_ok {ch : Char} {r : Except Utf8Fault (List Char)} {cs : List Char}
    (h : (do return ch :: (← r)) = .ok cs) : ∃ rest, r = .ok rest ∧ ch :: rest = cs := by
  cases r with
  | error e => cases h
  | ok rest => exact ⟨rest, rfl, Except.ok.inj h⟩

theorem eq_of_decodeFrom {index : Nat} {bytes : Bytes} {cs : List Char}
    (h : decodeFrom index bytes = .ok cs) : bytes = cs.flatMap String.utf8EncodeChar := by
  -- the cases in which a character is read; in the others there is a fault
  fun_induction decodeFrom index bytes generalizing cs with
  | case1 =>
    cases h
    rfl
  | case3 index a rest ha ih =>
    obtain ⟨cs, hrest, rfl⟩ := exists_of_cons_eq_ok h
    rw [List.flatMap_cons, encodeChar_one ha, ← ih hrest, List.singleton_append]
  | case6 index a b rest hb _ ha ih =>
    obtain ⟨cs, hrest, rfl⟩ := exists_of_cons_eq_ok h
    rw [List.flatMap_cons, encodeChar_two ha (by simpa using hb), ← ih hrest]
    rfl
  | case9 index a b hb c rest hc _ ha _ ih =>
    obtain ⟨cs, hrest, rfl⟩ := exists_of_cons_eq_ok h
    rw [List.flatMap_cons, encodeChar_three ha (by simpa using hb) (by simpa using hc), ← ih hrest]
    rfl
  | case12 index a n h₁ ha b hb h₂ c hc h₃ d rest hd ih =>
    have hn : n = 4 := by
      have hcases := sequenceLength_cases ha
      have hne : n ≠ 1 := h₁
      omega
    rw [hn] at ha
    obtain ⟨cs, hrest, rfl⟩ := exists_of_cons_eq_ok h
    rw [List.flatMap_cons, encodeChar_four ha (by simpa using hb) (by simpa using hc)
      (by simpa using hd), ← ih hrest]
    rfl
  | _ => cases h

/-- Bytes are read as a text exactly if they are the text's UTF-8. -/
theorem decode_eq_ok_iff {bytes : Bytes} {s : String} :
    decode bytes = .ok s ↔ bytes = encode s := by
  rw [encode_eq, decode]
  constructor
  · intro h
    cases hcs : decodeFrom 0 bytes with
    | error e => simp [hcs, Except.map] at h
    | ok cs =>
      rw [hcs] at h
      obtain rfl := Except.ok.inj h
      rw [String.toList_ofList]
      exact eq_of_decodeFrom hcs
  · rintro rfl
    rw [decodeFrom_encode, Except.map, String.ofList_toList]

end ContentPlayer.Text
