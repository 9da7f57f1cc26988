import ReportDesk.Text.CaseTable

/-! # Letter case

    Two kinds of case mapping: the ASCII one, which folds only A to Z and compares names, and the
    full one of Unicode, under which one character can become several.
-/

namespace ReportDesk.Text

/-! ### ASCII -/

/-- A text with the letters A to Z in lower case and all else as it is. -/
def foldAscii (s : String) : String :=
  s.map Char.toLower

/-- A text with the letters a to z in upper case and all else as it is. -/
def asciiUpper (s : String) : String :=
  s.map Char.toUpper

/-- Whether two texts are equal up to the case of the letters A to Z. -/
def eqFolded (a b : String) : Bool :=
  foldAscii a == foldAscii b

/-! ### Unicode -/

/-- The character that a table of runs assigns to `n`, or `n` itself. -/
def moveBy (runs : List (Nat × Nat × Nat × Int)) (n : Nat) : Nat :=
  match runs.find? fun (first, last, step, _) => first ≤ n && n ≤ last && (n - first) % step == 0 with
  | some (_, _, _, distance) => ((n : Int) + distance).toNat
  | none => n

/-- The characters that `c` becomes: its expansion if it has one, else the one it moves to. -/
def mapCase (expansions : List (Nat × List Nat)) (runs : List (Nat × Nat × Nat × Int)) (c : Char) :
    List Char :=
  match expansions.find? fun (n, _) => n == c.toNat with
  | some (_, ns) => ns.map Char.ofNat
  | none => [Char.ofNat (moveBy runs c.toNat)]

/-- The upper case of a character. -/
def upperChar (c : Char) : List Char :=
  if c.toNat < 128 then [c.toUpper]
  else mapCase CaseTable.upperExpansions CaseTable.upperRuns c

/-- The lower case of a character on its own. -/
def lowerChar (c : Char) : List Char :=
  if c.toNat < 128 then [c.toLower]
  else mapCase CaseTable.lowerExpansions CaseTable.lowerRuns c

/-- The upper case of a text, character by character. -/
def upper (cs : List Char) : List Char :=
  cs.flatMap upperChar

/-- Whether `n` lies in one of the ranges. -/
def inRanges (ranges : List (Nat × Nat)) (n : Nat) : Bool :=
  ranges.any fun (first, last) => first ≤ n && n ≤ last

/-- Whether a character has the property Cased. -/
def isCased (c : Char) : Bool :=
  inRanges CaseTable.casedRanges c.toNat

/-- Whether a character has the property Case_Ignorable. -/
def isCaseIgnorable (c : Char) : Bool :=
  inRanges CaseTable.caseIgnorableRanges c.toNat

/-- Whether the first character that is not Case_Ignorable is Cased. -/
def meetsCased (cs : List Char) : Bool :=
  ((cs.dropWhile isCaseIgnorable).head?.map isCased).getD false

/-- The lower case of a text whose earlier characters, latest first, are `before`. -/
def lowerFrom (before : List Char) : List Char → List Char
  | [] => []
  | c :: rest =>
    let here :=
      if c == 'Σ' then
        if meetsCased before && !meetsCased rest then ['ς'] else ['σ']
      else lowerChar c
    here ++ lowerFrom (c :: before) rest

/-- The lower case of a text. A capital sigma takes its final form after a Cased character and
    before none, Case_Ignorable ones being passed over. -/
def lower (s : String) : String :=
  String.ofList (lowerFrom [] s.toList)

end ReportDesk.Text
