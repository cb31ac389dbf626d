namespace ContentPlayer.Text

/-- The parts of a text between the places of a character; there is always one. -/
def splitAt (mark : Char) : List Char → List (List Char)
  | [] => [[]]
  | c :: cs =>
    if c = mark then [] :: splitAt mark cs
    else match splitAt mark cs with
      | [] => [[c]]
      | part :: parts => (c :: part) :: parts

theorem splitAt_ne_nil (mark : Char) (cs : List Char) : splitAt mark cs ≠ [] := by
  fun_cases splitAt mark cs <;> simp

/-- There is one part more than places of the character. -/
theorem length_splitAt (mark : Char) (cs : List Char) :
    (splitAt mark cs).length = cs.count mark + 1 := by
  fun_induction splitAt mark cs <;> simp_all

theorem not_mem_of_mem_splitAt {mark : Char} {cs part : List Char} (h : part ∈ splitAt mark cs) :
    mark ∉ part := by
  fun_induction splitAt mark cs generalizing part with
  | case1 => simp_all
  | case2 cs ih => grind
  | case3 c cs hc hs ih => grind
  | case4 c cs hc p ps hs ih => grind

/-- The parts with the character between them are the text. -/
theorem intercalate_splitAt (mark : Char) (cs : List Char) :
    [mark].intercalate (splitAt mark cs) = cs := by
  fun_induction splitAt mark cs with
  | case1 => rfl
  | case2 cs ih =>
    cases h : splitAt mark cs with
    | nil => exact absurd h (splitAt_ne_nil mark cs)
    | cons p ps => simp_all [List.intercalate]
  | case3 c cs hc hs ih => exact absurd hs (splitAt_ne_nil mark cs)
  | case4 c cs hc p ps hs ih =>
    cases ps <;> simp_all [List.intercalate]

end ContentPlayer.Text
