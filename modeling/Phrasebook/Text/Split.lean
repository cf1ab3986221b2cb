namespace Phrasebook.Text

/-- The parts of a text between the occurrences of a mark; one more than there are marks. -/
def splitAt (mark : Char) : List Char → List (List Char)
  | [] => [[]]
  | c :: text =>
    if c == mark then [] :: splitAt mark text
    else
      match splitAt mark text with
      | part :: parts => (c :: part) :: parts
      | [] => [[c]]

def joinWith (mark : Char) : List (List Char) → List Char
  | [] => []
  | [part] => part
  | part :: parts => part ++ mark :: joinWith mark parts

theorem splitAt_ne_nil (mark : Char) (text : List Char) : splitAt mark text ≠ [] := by
  cases text with
  | nil => simp [splitAt]
  | cons c text =>
    simp only [splitAt]
    split
    · simp
    · split <;> simp

end Phrasebook.Text
