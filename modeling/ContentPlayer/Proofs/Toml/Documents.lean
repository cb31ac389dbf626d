import ContentPlayer.Proofs.Toml.Scalars

namespace ContentPlayer.Toml

open ContentPlayer.Json (Draft)

/-- A name that may be a key without quotes. -/
structure Bare (name : String) : Prop where
  ne_nil : name.toList ≠ []
  chars : ∀ c ∈ name.toList, isBareKeyChar c

section Lines

variable {name key : String} {w rest : List Char} {d : Draft} {c : Char} {fuel : Nat}
  {path : List String} {root : Members}

theorem Bare.head (hname : Bare name) : ∃ c w, name.toList = c :: w ∧ isBareKeyChar c := by
  obtain ⟨c, w, hw⟩ := List.exists_cons_of_ne_nil hname.ne_nil
  exact ⟨c, w, hw, hname.chars c (by simp [hw])⟩

theorem isSpace_of_isBareKeyChar (hc : isBareKeyChar c) : isSpace c = false := by
  have hblank : c ≠ ' ' := ne_of_test hc rfl
  have htab : c ≠ '\t' := ne_of_test hc rfl
  simp [isSpace, hblank, htab]

theorem readKeyPart_bare (rest : List Char) (hname : Bare name) (hc : isBareKeyChar c = false) :
    readKeyPart (name.toList ++ c :: rest) = some (name, c :: rest) := by
  have htake : (name.toList ++ c :: rest).takeWhile isBareKeyChar = name.toList := by
    rw [List.takeWhile_append_of_pos hname.chars]
    simp [hc]
  have hdrop : (name.toList ++ c :: rest).dropWhile isBareKeyChar = c :: rest := by
    rw [List.dropWhile_append_of_pos hname.chars]
    simp [hc]
  obtain ⟨e, w, hw, he⟩ := hname.head
  have hquote : e ≠ '"' := ne_of_test he rfl
  have happostrophe : e ≠ '\'' := ne_of_test he rfl
  rw [hw] at htake hdrop ⊢
  simp only [List.cons_append] at htake hdrop ⊢
  unfold readKeyPart
  split
  · simp_all
  · simp_all
  · rw [htake, hdrop, ← hw]
    simp [hname.ne_nil]

theorem readKey_bare (fuel : Nat) (rest : List Char) (hname : Bare name)
    (hc : isBareKeyChar c = false)
    (hdot : ∀ cs, (c :: rest).dropWhile isSpace ≠ '.' :: cs) :
    readKey (fuel + 1) (name.toList ++ c :: rest) =
      some ([name], (c :: rest).dropWhile isSpace) := by
  have hpart := readKeyPart_bare rest hname hc
  have hblank : (name.toList ++ c :: rest).dropWhile isSpace = name.toList ++ c :: rest := by
    obtain ⟨e, w, hw, he⟩ := hname.head
    simp [hw, isSpace_of_isBareKeyChar he]
  simp [readKey, hblank, hpart]

theorem skipTrivia_eq_self (hline : c ≠ '\n') (hreturn : c ≠ '\r') (hspace : isSpace c = false)
    (hhash : c ≠ '#') : skipTrivia false (c :: rest) = some (c :: rest) := by
  simp [skipTrivia, hreturn, hspace, hhash]

@[simp] theorem skipLine_lineEnd : skipLine ('\n' :: rest) = some rest := by
  simp [skipLine, isSpace]

theorem readLines_blank :
    readLines fuel ('\n' :: rest) path root = readLines fuel rest path root := by
  cases fuel <;> simp [readLines, skipTrivia]

theorem readLines_header (hname : Bare name) :
    readLines (fuel + 1) (writeHeader name ++ rest) path root =
      (openTable [name] root).bind (readLines fuel rest [name]) := by
  have hskip : skipTrivia false ('[' :: (name.toList ++ ']' :: '\n' :: rest)) =
      some ('[' :: (name.toList ++ ']' :: '\n' :: rest)) :=
    skipTrivia_eq_self (by decide) (by decide) (by decide) (by decide)
  have hkey fuel := readKey_bare fuel ('\n' :: rest) hname (c := ']') rfl (by simp [isSpace])
  obtain ⟨e, w, hw, he⟩ := hname.head
  have hbracket : e ≠ '[' := ne_of_test he rfl
  simp only [hw, List.cons_append] at hskip hkey
  simp only [writeHeader, hw, List.cons_append, List.append_assoc, List.nil_append, readLines,
    hskip, Option.bind_eq_bind, Option.bind_some]
  split
  case h_3 heq =>
    obtain ⟨-, rfl⟩ := List.cons.inj heq
    simp [hkey, isSpace]
  all_goals simp_all

theorem readLines_pair (hkey : Bare key) (hvalue : Stands w d) :
    readLines (fuel + 1) (writePair key w ++ rest) path root =
      (atHeader (putPair d [key]) path root).bind (readLines fuel rest path) := by
  obtain ⟨e, w', hw, he⟩ := hkey.head
  have hskip : skipTrivia false (e :: (w' ++ ' ' :: '=' :: ' ' :: (w ++ '\n' :: rest))) =
      some (e :: (w' ++ ' ' :: '=' :: ' ' :: (w ++ '\n' :: rest))) :=
    skipTrivia_eq_self (ne_of_test he rfl) (ne_of_test he rfl)
      (isSpace_of_isBareKeyChar he) (ne_of_test he rfl)
  have hread fuel := readKey_bare fuel ('=' :: ' ' :: (w ++ '\n' :: rest)) hkey (c := ' ') rfl
    (by simp [isSpace])
  have hbracket : e ≠ '[' := ne_of_test he rfl
  simp only [hw, List.cons_append] at hskip hread
  have hspace : isSpace ' ' := rfl
  have heq : isSpace '=' = false := rfl
  have hlist : writePair key w ++ rest = e :: (w' ++ ' ' :: '=' :: ' ' :: (w ++ '\n' :: rest)) := by
    simp [writePair, hw]
  simp only [hlist, readLines, hskip, Option.bind_eq_bind, Option.bind_some]
  split
  case h_4 => simp [hread, hspace, heq, hvalue _ nesting rest]
  all_goals simp_all

end Lines

section Members

variable {key : String} {e e' : Entry} {members : Members}

theorem lookup_eq_none_of_not_mem (hkey : key ∉ members.map Prod.fst) :
    members.lookup key = none :=
  List.lookup_eq_none_iff.mpr fun p hp => by
    have hne : key ≠ p.1 := fun heq => hkey (heq ▸ List.mem_map_of_mem hp)
    simp [hne]

theorem lookup_concat (hkey : key ∉ members.map Prod.fst) :
    (members ++ [(key, e)]).lookup key = some e := by
  simp [List.lookup_append, lookup_eq_none_of_not_mem hkey]

theorem setEntry_concat (hkey : key ∉ members.map Prod.fst) :
    setEntry key e' (members ++ [(key, e)]) = members ++ [(key, e')] := by
  induction members with
  | nil => simp [setEntry]
  | cons m members ih =>
    simp only [List.map_cons, List.mem_cons, not_or] at hkey
    simp [setEntry, Ne.symm hkey.1, ih hkey.2]

end Members

/-- A pair: its key, and a value with the text it is written as. -/
structure Pair where
  key : String
  text : List Char
  value : Draft
  bare : Bare key
  writes : Writes text value

namespace Pair

def written (p : Pair) : List Char := writePair p.key p.text

def entry (p : Pair) : String × Entry := (p.key, .value p.value)

def member (p : Pair) : Option String × Draft := (some p.key, p.value)

end Pair

/-- A table of pairs of different keys. -/
structure Table where
  name : String
  pairs : List Pair
  bare : Bare name
  nodup : (pairs.map Pair.key).Nodup

namespace Table

def written (t : Table) : List Char := writeHeader t.name ++ t.pairs.flatMap Pair.written

def entry (t : Table) : String × Entry := (t.name, .table .header (t.pairs.map Pair.entry))

def member (t : Table) : Option String × Draft :=
  (some t.name, .object (t.pairs.map Pair.member) none)

def lines (t : Table) : Nat := t.pairs.length + 1

end Table

/-- The lines of tables, other than the blank ones. -/
def countLines : List Table → Nat
  | [] => 0
  | t :: ts => t.lines + countLines ts

/-- Tables with blank lines between them. -/
def writeTables : List Table → List Char
  | [] => []
  | t :: ts => t.written ++ ts.flatMap fun t => '\n' :: t.written

section Runs

variable {fuel : Nat} {rest : List Char} {path : List String} {root : Members}

/-- Each pair is put at the end of the table whose header stands before it. -/
theorem readLines_pairs {name : String} (hname : name ∉ root.map Prod.fst) (pairs : List Pair)
    (members : Members) (hnodup : (members.map Prod.fst ++ pairs.map Pair.key).Nodup) :
    readLines (fuel + pairs.length) (pairs.flatMap Pair.written ++ rest) [name]
      (root ++ [(name, .table .header members)]) =
    readLines fuel rest [name]
      (root ++ [(name, .table .header (members ++ pairs.map Pair.entry))]) := by
  induction pairs generalizing members with
  | nil => simp
  | cons p pairs ih =>
    have hkey : p.key ∉ members.map Prod.fst := fun hmem =>
      (List.nodup_append.mp hnodup).2.2 _ hmem _ List.mem_cons_self rfl
    have hput : atHeader (putPair p.value [p.key]) [name]
        (root ++ [(name, .table .header members)]) =
          some (root ++ [(name, .table .header (members ++ [p.entry]))]) := by
      simp [atHeader, putPair, lookup_concat hname, lookup_eq_none_of_not_mem hkey,
        setEntry_concat hname, Pair.entry]
    have hrest := ih (members ++ [p.entry]) (by simpa [Pair.entry] using hnodup)
    rw [List.flatMap_cons, List.append_assoc, List.length_cons, ← Nat.add_assoc, Pair.written,
      readLines_pair p.bare p.writes.stands, hput, Option.bind_some, hrest]
    simp

/-- The pairs of a table go to a new table at the end of the root. -/
theorem readLines_table (t : Table) (hname : t.name ∉ root.map Prod.fst) :
    readLines (fuel + t.lines) (t.written ++ rest) path root =
      readLines fuel rest [t.name] (root ++ [t.entry]) := by
  have hopen : openTable [t.name] root = some (root ++ [(t.name, .table .header [])]) := by
    simp [openTable, atHeader, lookup_eq_none_of_not_mem hname]
  rw [Table.written, List.append_assoc, Table.lines, ← Nat.add_assoc, readLines_header t.bare,
    hopen, Option.bind_some, readLines_pairs hname t.pairs [] t.nodup]
  rfl

theorem readLines_tables (fuel : Nat) (tables : List Table) (path : List String) (root : Members)
    (hnodup : (root.map Prod.fst ++ tables.map Table.name).Nodup) :
    readLines (fuel + 1 + countLines tables)
      (tables.flatMap fun t => '\n' :: t.written) path root =
        some (root ++ tables.map Table.entry) := by
  induction tables generalizing path root with
  | nil => simp [countLines, readLines, skipTrivia]
  | cons t tables ih =>
    have hname : t.name ∉ root.map Prod.fst := fun hmem =>
      (List.nodup_append.mp hnodup).2.2 _ hmem _ List.mem_cons_self rfl
    have hrest := ih [t.name] (root ++ [t.entry]) (by simpa [Table.entry] using hnodup)
    rw [List.flatMap_cons, List.cons_append, readLines_blank, countLines, Nat.add_comm t.lines,
      ← Nat.add_assoc, readLines_table t hname, hrest]
    simp

end Runs

theorem draftMembers_pairs (pairs : List Pair) :
    draftMembers (pairs.map Pair.entry) = pairs.map Pair.member := by
  induction pairs with
  | nil => rfl
  | cons p pairs ih => simp [draftMembers, Entry.draft, Pair.entry, Pair.member, ← ih]

theorem draftMembers_tables (tables : List Table) :
    draftMembers (tables.map Table.entry) = tables.map Table.member := by
  induction tables with
  | nil => rfl
  | cons t tables ih =>
    simp [draftMembers, Entry.draft, Table.entry, Table.member, draftMembers_pairs, ← ih]

theorem length_le_length_flatMap_written (pairs : List Pair) :
    pairs.length ≤ (pairs.flatMap Pair.written).length := by
  induction pairs with
  | nil => simp
  | cons p pairs ih =>
    simp only [List.flatMap_cons, List.length_append, List.length_cons, Pair.written, writePair]
    omega

theorem Table.lines_le (t : Table) : t.lines ≤ t.written.length := by
  have := length_le_length_flatMap_written t.pairs
  simp only [lines, written, writeHeader, List.length_append, List.length_cons]
  omega

theorem countLines_le (tables : List Table) :
    tables.length + countLines tables ≤ (tables.flatMap fun t => '\n' :: t.written).length := by
  induction tables with
  | nil => simp [countLines]
  | cons t tables ih =>
    have := t.lines_le
    simp only [countLines, List.flatMap_cons, List.length_append, List.length_cons]
    omega

/-- What is written as tables reads as an object of objects. -/
theorem ofText_writeTables (tables : List Table) (hnodup : (tables.map Table.name).Nodup) :
    ofText (String.ofList (writeTables tables)) =
      some (.object (tables.map Table.member) none) := by
  cases tables with
  | nil => rfl
  | cons t tables =>
    -- with a blank line before it the first table is like the others
    have hlines : '\n' :: writeTables (t :: tables) =
        (t :: tables).flatMap fun t => '\n' :: t.written := rfl
    -- the reader has fuel for a line for each character, which is enough
    obtain ⟨fuel, hfuel⟩ := Nat.exists_eq_add_of_le' (countLines_le (t :: tables))
    have hread : readLines ((writeTables (t :: tables)).length + 1) (writeTables (t :: tables)) []
        [] = some ((t :: tables).map Table.entry) := by
      have htables := readLines_tables (fuel + tables.length) (t :: tables) [] [] hnodup
      rw [← readLines_blank, hlines, ← List.length_cons, hlines, hfuel]
      simpa [Nat.add_assoc] using htables
    have hmark : ∀ rest, writeTables (t :: tables) ≠ '\uFEFF' :: rest := by
      simp [writeTables, Table.written, writeHeader]
    simp only [ofText, String.toList_ofList, hread, Option.map_some, draftMembers_tables]

end ContentPlayer.Toml
