import ContentPlayer.Toml.String
import ContentPlayer.Toml.Write
import Mathlib.Tactic.SplitIfs

namespace ContentPlayer.Toml

section Characters

variable {c d : Char}

/-- Characters of which a test says different things are different. -/
theorem ne_of_test {p : Char → Bool} {b : Bool} (hc : p c = b) (hd : p d = !b) : c ≠ d := by
  rintro rfl
  simp [hc] at hd

theorem isPlain_of_not_isControl (hcontrol : isControl c = false) (hline : c ≠ '\n') :
    isPlain c := by
  simp [isControl, hline] at hcontrol
  simp [isPlain, hcontrol]

theorem escapeChar_eq_self (hcontrol : isControl c = false) (hslash : c ≠ '\\') :
    escapeChar c = [c] := by
  have hback : c ≠ '\x08' := ne_of_test hcontrol rfl
  have htab : c ≠ '\t' := ne_of_test hcontrol rfl
  have hfeed : c ≠ '\x0c' := ne_of_test hcontrol rfl
  have hreturn : c ≠ '\r' := ne_of_test hcontrol rfl
  simp [escapeChar, hcontrol, hslash, hback, htab, hfeed, hreturn]

theorem hexNumber_hexDigit :
    ∀ n < 128, Text.hexNumber ['0', '0', hexDigit (n / 16), hexDigit (n % 16)] = some n := by
  decide

theorem numbered_of_isControl (hcontrol : isControl c) :
    numbered ['0', '0', hexDigit (c.toNat / 16), hexDigit (c.toNat % 16)] = some c := by
  have hsmall : c.toNat < 128 := by
    simp [isControl] at hcontrol
    omega
  have hbelow : c.toNat < 0xD800 := by omega
  simp [numbered, hexNumber_hexDigit _ hsmall, hbelow]

theorem ne_of_shortEscape {e : Char} (h : shortEscape e = some c) :
    e ≠ 'x' ∧ e ≠ 'u' ∧ e ≠ 'U' := by
  refine ⟨?_, ?_, ?_⟩ <;> rintro rfl <;> simp [shortEscape] at h

end Characters

/-- What stands for a character in a basic string: itself, or an escape. -/
inductive Spells : List Char → Char → Prop where
  | plain {c : Char} (hplain : isPlain c) (hquote : c ≠ '"') (hslash : c ≠ '\\') : Spells [c] c
  | short {e c : Char} (h : shortEscape e = some c) : Spells ['\\', e] c
  | numbered {c₁ c₂ c₃ c₄ c : Char} (h : Toml.numbered [c₁, c₂, c₃, c₄] = some c) :
    Spells ['\\', 'u', c₁, c₂, c₃, c₄] c

section Spelling

variable {w rest cs tail : List Char} {c : Char}

theorem spells_escapeChar (hquote : c ≠ '"') (hline : c ≠ '\n') : Spells (escapeChar c) c := by
  unfold escapeChar
  split_ifs with hback htab hfeed hreturn hslash hcontrol
  · subst hback; exact .short rfl
  · subst htab; exact .short rfl
  · subst hfeed; exact .short rfl
  · subst hreturn; exact .short rfl
  · subst hslash; exact .short rfl
  · exact .numbered (numbered_of_isControl hcontrol)
  · exact .plain (isPlain_of_not_isControl (by simpa using hcontrol) hline) hquote hslash

theorem Spells.head (h : Spells w c) : ∃ d w', w = d :: w' ∧ d ≠ '"' ∧ d ≠ '\n' ∧ d ≠ '\r' := by
  cases h with
  | plain hplain hquote _ =>
    exact ⟨c, [], rfl, hquote, ne_of_test hplain rfl, ne_of_test hplain rfl⟩
  | short | numbered => exact ⟨'\\', _, rfl, by decide, by decide, by decide⟩

theorem Spells.readBasic (h : Spells w c) (hrest : readBasic rest = some (cs, tail)) :
    readBasic (w ++ rest) = some (c :: cs, tail) := by
  cases h with
  | plain hplain hquote hslash => simp [Toml.readBasic, hplain, hslash, hrest]
  | short h =>
    obtain ⟨hx, hu, hU⟩ := ne_of_shortEscape h
    simp [Toml.readBasic, hx, hu, hU, h, hrest]
  | numbered h => simp [Toml.readBasic, h, hrest]

theorem Spells.readMultiBasic (h : Spells w c)
    (hrest : readMultiBasic false rest = some (cs, tail)) :
    readMultiBasic false (w ++ rest) = some (c :: cs, tail) := by
  cases h with
  | plain hplain hquote hslash =>
    have hline : c ≠ '\n' := ne_of_test hplain rfl
    have hreturn : c ≠ '\r' := ne_of_test hplain rfl
    simp [Toml.readMultiBasic, hplain, hquote, hslash, hreturn, hrest]
  | short h =>
    obtain ⟨hx, hu, hU⟩ := ne_of_shortEscape h
    simp [Toml.readMultiBasic, hx, hu, hU, h, hrest]
  | numbered h => simp [Toml.readMultiBasic, h, hrest]

theorem readMultiBasic_cons (hcontrol : isControl c = false) (hquote : c ≠ '"')
    (hslash : c ≠ '\\') (hrest : readMultiBasic false rest = some (cs, tail)) :
    readMultiBasic false (c :: rest) = some (c :: cs, tail) := by
  by_cases hline : c = '\n'
  · simp [hline, readMultiBasic, hrest]
  · have hplain := isPlain_of_not_isControl hcontrol hline
    exact (Spells.plain hplain hquote hslash).readMultiBasic hrest

theorem readMultiLiteral_cons (hcontrol : isControl c = false) (hquote : c ≠ '\'')
    (hrest : readMultiLiteral rest = some (cs, tail)) :
    readMultiLiteral (c :: rest) = some (c :: cs, tail) := by
  have hreturn : c ≠ '\r' := ne_of_test hcontrol rfl
  have hplain := isPlain_of_not_isControl hcontrol
  by_cases hline : c = '\n' <;> simp_all [readMultiLiteral]

end Spelling

section OneLine

variable {cs tail : List Char}

theorem readBasic_escapeLine (cs tail : List Char) :
    readBasic (escapeLine cs ++ '"' :: tail) = some (cs, tail) := by
  fun_induction escapeLine cs with
  | case1 => simp [readBasic]
  | case2 cs ih => exact (Spells.short rfl).readBasic ih
  | case3 cs ih => exact (Spells.short rfl).readBasic ih
  | case4 c cs hquote hline ih =>
    rw [List.append_assoc]
    exact (spells_escapeChar hquote hline).readBasic ih

theorem escapeLine_eq_self (hline : '\n' ∉ cs) (hcontrol : ∀ c ∈ cs, isControl c = false)
    (hquote : '"' ∉ cs) (hslash : '\\' ∉ cs) : escapeLine cs = cs := by
  induction cs with
  | nil => rfl
  | cons c cs ih =>
    simp only [List.mem_cons, not_or, forall_eq_or_imp] at *
    have hc : escapeChar c = [c] := escapeChar_eq_self hcontrol.1 (Ne.symm hslash.1)
    have hcs := ih hline.2 hcontrol.2 hquote.2 hslash.2
    simp [escapeLine, hc, hcs, Ne.symm hquote.1, Ne.symm hline.1]

theorem readLiteral_append (hplain : ∀ c ∈ cs, isPlain c) (hquote : '\'' ∉ cs) :
    readLiteral (cs ++ '\'' :: tail) = some (cs, tail) := by
  induction cs with
  | nil => simp [readLiteral]
  | cons c cs ih =>
    simp only [List.mem_cons, not_or, forall_eq_or_imp] at *
    simp [readLiteral, hplain.1, Ne.symm hquote.1, ih hplain.2 hquote.2]

end OneLine

section Lines

variable {read : List Char → Option (List Char × List Char)} {q : Char} {r : Nat}
  {w cs tail : List Char}

/-- Strings between three quotes: three of them open the string and end it, but one or two that
others do not follow are part of it. -/
structure Multiline (read : List Char → Option (List Char × List Char)) (q : Char) : Prop where
  opens (rest : List Char) : readString (q :: q :: q :: rest) = read (dropFirstLineEnd rest)
  ends (rest : List Char) : read (q :: q :: q :: rest) = some (closeMultiline q rest)
  quote {rest cs tail : List Char} (hrest : ∀ rest', rest ≠ q :: q :: rest')
    (hread : read rest = some (cs, tail)) : read (q :: rest) = some (q :: cs, tail)

theorem multiline_readMultiBasic : Multiline (readMultiBasic false) '"' where
  opens rest := by simp [readString]
  ends rest := by simp [readMultiBasic]
  quote {rest cs tail} hrest hread := by
    simp [readMultiBasic, isPlain, hrest, hread]

theorem multiline_readMultiLiteral : Multiline readMultiLiteral '\'' where
  opens rest := by simp [readString]
  ends rest := by simp [readMultiLiteral]
  quote {rest cs tail} hrest hread := by
    simp [readMultiLiteral, isPlain, hrest, hread]

/-- What stands between triple quotes, behind so many quotes that are part of the string: quotes,
never three of them in a row, and pieces for the other characters. -/
inductive Body (read : List Char → Option (List Char × List Char)) (q : Char) :
    Nat → List Char → List Char → Prop where
  | nil {r : Nat} : Body read q r [] []
  | quote {r : Nat} {w cs : List Char} (hr : r < 2) (hbody : Body read q (r + 1) w cs) :
    Body read q r (q :: w) (q :: cs)
  | piece {r : Nat} {d c : Char} {p w cs : List Char} (hd : d ≠ q)
    (hpiece : ∀ {rest cs tail}, read rest = some (cs, tail) →
      read (d :: p ++ rest) = some (c :: cs, tail))
    (hbody : Body read q 0 w cs) : Body read q r (d :: p ++ w) (c :: cs)

/-- A body is read up to the last three of the quotes that it ends in with the closing ones. -/
theorem Body.read_eq (hbody : Body read q r w cs) (hread : Multiline read q) (hq : q ≠ '\n') :
    read (w ++ q :: q :: q :: '\n' :: tail) = some (cs, '\n' :: tail) := by
  induction hbody with
  | nil => cases tail <;> simp [hread.ends, closeMultiline, hq.symm]
  | quote hr hbody ih =>
    -- a quote is not taken for the end unless two more follow; these are then the closing ones
    cases hbody with
    | nil => simp [hread.ends, closeMultiline, hq.symm]
    | quote hr' hbody' =>
      cases hbody' with
      | nil => simp [hread.ends, closeMultiline]
      | quote hr'' _ => omega
      | piece hd _ _ => exact hread.quote (by simp [hd]) ih
    | piece hd _ _ => exact hread.quote (by simp [hd]) ih
  | piece hd hpiece _ ih =>
    rw [List.append_assoc]
    exact hpiece ih

theorem le_longestRun_fold (best run : Nat) (cs : List Char) :
    best ≤ (cs.foldl (fun (best, run) c =>
      let run := if c = q then run + 1 else 0
      (max best run, run)) (best, run)).1 := by
  induction cs generalizing best run with
  | nil => simp
  | cons c cs ih => exact Nat.le_trans (Nat.le_max_left _ _) (ih _ _)

/-- A string without three quotes in a row stands for itself. -/
theorem body_self (hrun : longestRun q cs < 3)
    (hpiece : ∀ c ∈ cs, c ≠ q → ∀ {rest cs tail}, read rest = some (cs, tail) →
      read (c :: rest) = some (c :: cs, tail)) : Body read q 0 cs cs := by
  suffices hbody : ∀ best run, (cs.foldl (fun (best, run) c =>
      let run := if c = q then run + 1 else 0
      (max best run, run)) (best, run)).1 < 3 → Body read q run cs cs from hbody 0 0 hrun
  clear hrun
  induction cs with
  | nil => exact fun _ _ _ => .nil
  | cons c cs ih =>
    intro best run hfold
    have hrest := ih (fun d hd => hpiece d (List.mem_cons_of_mem _ hd)) _ _ hfold
    by_cases hc : c = q
    · subst hc
      have hle := Nat.lt_of_le_of_lt (le_longestRun_fold _ _ cs) hfold
      simp only [if_true] at hle hrest
      exact .quote (by omega) hrest
    · simp only [if_neg hc] at hrest
      exact .piece hc (p := []) (hpiece c List.mem_cons_self hc) hrest

theorem Spells.body {c : Char} (h : Spells w c) {w' : List Char}
    (hbody : Body (Toml.readMultiBasic false) '"' 0 w' cs) :
    Body (Toml.readMultiBasic false) '"' r (w ++ w') (c :: cs) := by
  obtain ⟨d, p, rfl, hd, -⟩ := h.head
  exact .piece hd h.readMultiBasic hbody

theorem body_escapeLines (hr : r ≤ 2) (cs : List Char) :
    Body (readMultiBasic false) '"' r (escapeLines r cs) cs := by
  fun_induction escapeLines r cs with
  | case1 => exact .nil
  | case2 cs ih =>
    have hspells : Spells ['\\', '"'] '"' := .short rfl
    exact hspells.body (ih (by omega))
  | case3 r cs hr' ih => exact .quote (by omega) (ih (by omega))
  | case4 r cs ih =>
    exact .piece (p := []) (by decide) (fun h => by simp [readMultiBasic, h]) (ih (by omega))
  | case5 r c cs hquote hline ih => exact (spells_escapeChar hquote hline).body (ih (by omega))

end Lines

section Forms

variable {cs w : List Char} {c : Char}

theorem escapeLine_cons (c : Char) (cs : List Char) :
    ∃ d w, escapeLine (c :: cs) = d :: w ∧ d ≠ '"' := by
  by_cases hquote : c = '"'
  · subst hquote
    exact ⟨'\\', _, rfl, by decide⟩
  by_cases hline : c = '\n'
  · subst hline
    exact ⟨'\\', _, rfl, by decide⟩
  obtain ⟨d, w, hw, hd, -⟩ := (spells_escapeChar hquote hline).head
  exact ⟨d, w ++ escapeLine cs, by simp [escapeLine, hw], hd⟩

theorem readString_basic (cs tail : List Char) :
    readString ('"' :: escapeLine cs ++ ['"'] ++ '\n' :: tail) = some (cs, '\n' :: tail) := by
  -- what is behind the opening quote does not make it three
  have hone : ∀ rest, escapeLine cs ++ '"' :: '\n' :: tail ≠ '"' :: '"' :: rest := by
    cases cs with
    | nil => simp [escapeLine]
    | cons c cs =>
      obtain ⟨d, w, hw, hd⟩ := escapeLine_cons c cs
      simp [hw, hd]
  simp [readString, readBasic_escapeLine]

theorem readString_literal (tail : List Char) (hplain : ∀ c ∈ cs, isPlain c) (hquote : '\'' ∉ cs) :
    readString ('\'' :: cs ++ ['\''] ++ '\n' :: tail) = some (cs, '\n' :: tail) := by
  have hone : ∀ rest, cs ++ '\'' :: '\n' :: tail ≠ '\'' :: '\'' :: rest := by
    cases cs with
    | nil => simp
    | cons c cs =>
      have hc : c ≠ '\'' := by rintro rfl; simp at hquote
      simp [hc]
  simp [readString, readLiteral_append hplain hquote]

/-- The line end behind the opening quotes is there when the string could start with one. -/
theorem dropFirstLineEnd_openingLine {q : Char} (hq : q ≠ '\n' ∧ q ≠ '\r')
    (hcontrol : ∀ c ∈ cs, isControl c = false) (rest : List Char) :
    dropFirstLineEnd (openingLine cs ++ (cs ++ q :: rest)) = cs ++ q :: rest := by
  by_cases hline : '\n' ∈ cs
  · simp [openingLine, hline, dropFirstLineEnd]
  · cases cs with
    | nil => simp [openingLine, dropFirstLineEnd, hq]
    | cons c cs =>
      have hc : c ≠ '\n' := by rintro rfl; simp at hline
      have hreturn : c ≠ '\r' := ne_of_test (hcontrol c List.mem_cons_self) rfl
      simp [openingLine, hline, dropFirstLineEnd, hc, hreturn]

theorem readString_multiline {read : List Char → Option (List Char × List Char)} {q : Char}
    (tail : List Char) (hread : Multiline read q) (hq : q ≠ '\n') (hbody : Body read q 0 w cs)
    (hfirst : ∀ rest, dropFirstLineEnd (openingLine cs ++ (w ++ q :: rest)) = w ++ q :: rest) :
    readString ([q, q, q] ++ openingLine cs ++ w ++ [q, q, q] ++ '\n' :: tail) =
      some (cs, '\n' :: tail) := by
  simp [hread.opens, hfirst, hbody.read_eq hread hq]

/-- Whatever form a string is written in, it is read up to its closing quotes. -/
theorem readString_writeString (cs tail : List Char) :
    readString (writeString cs ++ '\n' :: tail) = some (cs, '\n' :: tail) := by
  simp only [writeString, Bool.and_eq_true, Bool.not_eq_true', List.any_eq_false,
    List.contains_eq_mem, decide_eq_true_eq, decide_eq_false_iff_not, Bool.not_eq_true, and_assoc]
  split_ifs with hbasic hliteral hmultiBasic hmultiLiteral hline
  · obtain ⟨hline, hcontrol, hquote, hslash⟩ := hbasic
    have hself := escapeLine_eq_self hline hcontrol hquote hslash
    have hread := readString_basic cs tail
    rwa [hself] at hread
  · obtain ⟨hline, hcontrol, hquote⟩ := hliteral
    refine readString_literal tail (fun c hc => ?_) hquote
    exact isPlain_of_not_isControl (hcontrol c hc) fun heq => hline (heq ▸ hc)
  · obtain ⟨hcontrol, hslash, hrun⟩ := hmultiBasic
    have hbody : Body (readMultiBasic false) '"' 0 cs cs := body_self hrun fun c hc hquote =>
      readMultiBasic_cons (hcontrol c hc) hquote fun heq => hslash (heq ▸ hc)
    exact readString_multiline tail multiline_readMultiBasic (by decide) hbody
      (dropFirstLineEnd_openingLine (by decide) hcontrol)
  · obtain ⟨hcontrol, hrun⟩ := hmultiLiteral
    have hbody : Body readMultiLiteral '\'' 0 cs cs := body_self hrun fun c hc hquote =>
      readMultiLiteral_cons (hcontrol c hc) hquote
    exact readString_multiline tail multiline_readMultiLiteral (by decide) hbody
      (dropFirstLineEnd_openingLine (by decide) hcontrol)
  · have hbody := body_escapeLines (Nat.zero_le 2) cs
    refine readString_multiline tail multiline_readMultiBasic (by decide) hbody fun rest => ?_
    simp [openingLine, hline, dropFirstLineEnd]
  · exact readString_basic cs tail

end Forms

end ContentPlayer.Toml
