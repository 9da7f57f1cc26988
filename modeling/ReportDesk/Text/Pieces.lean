/-! # Cutting texts

    A text is cut at a separator, once or everywhere, and searched for another text. All of it
    works on lists of characters.
-/

namespace ReportDesk.Text

/-! ### Cutting -/

/-- The parts before and after the first `mark`, or nothing when there is none. -/
def cutAt (mark : Char) : List Char → Option (List Char × List Char)
  | [] => none
  | c :: rest =>
    if c = mark then some ([], rest)
    else (cutAt mark rest).map fun (front, back) => (c :: front, back)

/-- The pieces between the occurrences of `mark`: one more than there are occurrences. -/
def pieces (mark : Char) : List Char → List (List Char)
  | [] => [[]]
  | c :: rest =>
    if c = mark then [] :: pieces mark rest
    else
      match pieces mark rest with
      | [] => [[c]]
      | first :: others => (c :: first) :: others

theorem pieces_ne_nil (mark : Char) (cs : List Char) : pieces mark cs ≠ [] := by
  cases cs with
  | nil => simp [pieces]
  | cons c rest =>
    simp only [pieces]
    split
    · simp
    · split <;> simp

/-- What follows `front` in a list that begins with it. -/
def after? (front cs : List Char) : Option (List Char) :=
  if front.isPrefixOf cs then some (cs.drop front.length) else none

/-! ### Searching -/

/-- Whether `part` occurs somewhere in a list, in one piece. -/
def occursIn (part : List Char) : List Char → Bool
  | [] => part.isEmpty
  | c :: rest => part.isPrefixOf (c :: rest) || occursIn part rest

end ReportDesk.Text
