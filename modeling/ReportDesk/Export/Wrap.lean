import ReportDesk.Text.Blank
import ReportDesk.Text.Pieces

/-! # Breaking text into lines

    A text is broken into lines of at most a given number of characters. Lines end at blanks where
    they can; a word that is longer than a line is cut. Each line break in the text begins a new
    paragraph, and no line belongs to two.
-/

namespace ReportDesk.Export

/-- A word in pieces of `width` characters, the last of which may be shorter. -/
def chunks (width : Nat) (word : List Char) : List (List Char) :=
  if _h : word.length ≤ width ∨ width = 0 then [word]
  else word.take width :: chunks width (word.drop width)
  termination_by word.length
  decreasing_by
    simp only [List.length_drop]
    omega

/-- The lines of a paragraph's words, `line` being the one in progress. A word joins it after one
    blank if it fits; else it begins a new line, or several if it has to be cut. -/
def fill (width : Nat) (line : List Char) : List (List Char) → List (List Char)
  | [] => if line.isEmpty then [] else [line]
  | word :: rest =>
    if line.isEmpty then
      (chunks width word).dropLast ++ fill width ((chunks width word).getLastD []) rest
    else if line.length + 1 + word.length ≤ width then fill width (line ++ ' ' :: word) rest
    else
      line :: ((chunks width word).dropLast ++ fill width ((chunks width word).getLastD []) rest)

/-- The lines of a text, each of at most `width` characters, or one if `width` is zero. There is at
    least one line, which is empty if the text is blank. -/
def wrapChars (text : List Char) (width : Nat) : List (List Char) :=
  let lines := (Text.pieces '\n' text).flatMap fun paragraph =>
    fill (max width 1) [] (Text.words paragraph)
  if lines.isEmpty then [[]] else lines

/-- The lines of a text. -/
def wrap (text : String) (width : Nat) : List String :=
  (wrapChars text.toList width).map String.ofList

end ReportDesk.Export
