/-! # Blank characters

    The characters with the Unicode property White_Space, and what is done with them: trimming a
    text at both ends and splitting it into words. Unlike core's `Char.isWhitespace` the class is
    not limited to ASCII.
-/

namespace ReportDesk.Text

/-! ### The class -/

/-- Whether a character has the Unicode property White_Space. -/
def isBlank (c : Char) : Bool :=
  (9 ≤ c.toNat && c.toNat ≤ 13) || c.toNat == 0x20 || c.toNat == 0x85 || c.toNat == 0xA0 ||
    c.toNat == 0x1680 || (0x2000 ≤ c.toNat && c.toNat ≤ 0x200A) || c.toNat == 0x2028 ||
    c.toNat == 0x2029 || c.toNat == 0x202F || c.toNat == 0x205F || c.toNat == 0x3000

/-! ### Trimming -/

/-- The characters without the blank ones at the front. -/
def trimFront (cs : List Char) : List Char :=
  cs.dropWhile isBlank

/-- The characters without the blank ones at either end. -/
def trimBoth (cs : List Char) : List Char :=
  (trimFront (trimFront cs).reverse).reverse

/-- A text without the blank characters at either end. -/
def trim (s : String) : String :=
  String.ofList (trimBoth s.toList)

/-- Whether a text has no character that is not blank. -/
def isBlankText (s : String) : Bool :=
  s.toList.all isBlank

/-! ### Words -/

/-- The words of `cs`, the first of which begins with the reverse of `word`. -/
def wordsFrom (word : List Char) : List Char → List (List Char)
  | [] => if word.isEmpty then [] else [word.reverse]
  | c :: rest =>
    if isBlank c then
      if word.isEmpty then wordsFrom [] rest else word.reverse :: wordsFrom [] rest
    else wordsFrom (c :: word) rest

/-- The maximal runs of characters that are not blank, in order. -/
def words (cs : List Char) : List (List Char) :=
  wordsFrom [] cs

end ReportDesk.Text
