import ContentPlayer.CommandLine.Run
import ContentPlayer.Proofs.Toml.Scalars

namespace ContentPlayer

/-- A text of one row, in which no character needs an escape. -/
def Plain (s : String) : Prop := ∀ c ∈ s.toList, 0x20 ≤ c.toNat ∧ c.toNat < 0x7f

instance (s : String) : Decidable (Plain s) :=
  decidable_of_iff (s.toList.all fun c => 0x20 ≤ c.toNat && c.toNat < 0x7f) (by simp [Plain])

theorem Plain.append {s t : String} (hs : Plain s) (ht : Plain t) : Plain (s ++ t) := by
  intro c hc
  rw [String.toList_append] at hc
  rcases List.mem_append.mp hc with hc | hc
  · exact hs c hc
  · exact ht c hc

theorem plain_toString (n : Nat) : Plain (toString n) := by
  intro c hc
  have hdigit : c.isDigit = true := by
    refine Toml.isDigit_toDigits (n := n) ?_
    rwa [← Nat.toList_repr]
  simp only [Char.isDigit, Bool.and_eq_true, decide_eq_true_eq] at hdigit
  have hlow : 48 ≤ c.toNat := UInt32.le_iff_toNat_le.mp hdigit.1
  have hhigh : c.toNat ≤ 57 := UInt32.le_iff_toNat_le.mp hdigit.2
  omega

namespace Text

theorem splitAt_eq_self {mark : Char} {cs : List Char} (h : mark ∉ cs) :
    splitAt mark cs = [cs] := by
  induction cs with
  | nil => rfl
  | cons c cs ih =>
    obtain ⟨hc, hcs⟩ := not_or.mp (mt List.mem_cons.mpr h)
    rw [splitAt, if_neg (Ne.symm hc), ih hcs]

end Text

namespace LogLine

theorem visible_of_plain {c : Char} (hlow : 0x20 ≤ c.toNat) (hhigh : c.toNat < 0x7f) :
    visible c = c.toString := by
  have hne {d : Char} (hd : ¬ (0x20 ≤ d.toNat ∧ d.toNat < 0x7f)) : c ≠ d := by
    rintro rfl
    exact hd ⟨hlow, hhigh⟩
  have hrange : ¬ (0x80 ≤ c.toNat ∧ c.toNat < 0xA0) := by omega
  rw [visible, if_neg (hne (by decide)), if_neg (hne (by decide)), if_neg (hne (by decide)),
    if_neg (hne (by decide)), if_neg (hne (by decide)), if_neg (by simpa using hrange)]

/-- A line with a plain message is one row, with the message as it is. -/
theorem rows_of_plain {l : LogLine} (htarget : Plain l.target) (hmessage : Plain l.message) :
    l.rows = [levelName l.level ++ " " ++ l.target ++ ": " ++ l.message] := by
  have hjoin : String.join (l.message.toList.map visible) = l.message := by
    refine String.toList_injective ?_
    have hself : ∀ c ∈ l.message.toList, (visible c).toList = [c] := by
      intro c hc
      rw [visible_of_plain (hmessage c hc).1 (hmessage c hc).2, Char.toString_eq_singleton,
        String.toList_singleton]
    rw [String.toList_join, List.flatMap_map, List.flatMap_congr hself, List.flatMap_singleton']
  have htext : l.text = levelName l.level ++ " " ++ l.target ++ ": " ++ l.message := by
    rw [text, hjoin]
  have hplain : Plain l.text := by
    rw [htext]
    have hlevel : Plain (levelName l.level) := by
      cases l.level <;> decide
    have hspace : Plain " " := by decide
    have hcolon : Plain ": " := by decide
    exact (((hlevel.append hspace).append htarget).append hcolon).append hmessage
  have hnewline : '\n' ∉ l.text.toList := fun hmem => absurd (hplain _ hmem).1 (by decide)
  rw [rows, Text.splitAt_eq_self hnewline, List.map_singleton, String.ofList_toList, htext]

end LogLine

theorem rows_ofTick (t : FrameTick) :
    (Narration.ofTick t).rows =
      [s!"INFO player: Frame {t.frame}: {t.started.length} started, {t.advanced} advanced, " ++
        s!"{t.events.length} events"] := by
  have hmessage : Plain (Narration.ofTick t).message := by
    have hobjects : Plain (toString t.started.length ++ " started, " ++
        toString t.advanced ++ " advanced") :=
      (((plain_toString _).append (by decide)).append (plain_toString _)).append (by decide)
    have hframe : Plain ("Frame " ++ toString t.frame ++ ": ") :=
      (Plain.append (by decide) (plain_toString _)).append (by decide)
    exact (((hframe.append hobjects).append (by decide)).append (plain_toString _)).append
      (by decide)
  have htarget : Plain (Narration.ofTick t).target := by
    have : Plain "player" := by decide
    exact this
  rw [LogLine.rows_of_plain htarget hmessage]
  have hself (s : String) : toString s = s := rfl
  refine congrArg (fun row => [row]) (String.toList_injective ?_)
  simp [Narration.ofTick, LogLine.levelName, String.toList_append, hself]

namespace CommandLine

/-- The last line that is shown is the last row that is put out. -/
theorem output_of_shown (lines : List LogLine) {l : LogLine} {row : String} (hl : l.rows = [row])
    {filter : LogFilter} (hshown : filter.shows l = true) (success : Bool) :
    (Ending.output ⟨success, (lines ++ [l]).filter filter.shows⟩).getLast? = some row := by
  rw [Ending.output, List.filter_append, List.filter_cons_of_pos hshown, List.filter_nil,
    List.flatMap_append, List.flatMap_singleton, hl, List.getLast?_concat]

end CommandLine

end ContentPlayer
