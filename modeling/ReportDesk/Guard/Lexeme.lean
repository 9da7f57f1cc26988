import ReportDesk.Text.Alphanumeric
import ReportDesk.Text.Blank
import ReportDesk.Text.Case
import ReportDesk.Text.Pieces

/-! # Lexemes of a statement

    A statement as a server reads it, cut into words, names in brackets or double quotes, literals
    and marks. Blanks and comments separate lexemes and are left out. A literal, name or comment
    that does not end makes the whole text unreadable.
-/

namespace ReportDesk.Guard

/-- A lexeme. -/
inductive Lexeme where
  /-- A word, which may be a keyword. -/
  | word (text : String)
  /-- A name in brackets or double quotes. -/
  | quoted (text : String)
  /-- A number. -/
  | number (text : String)
  /-- A string between single quotes. -/
  | string (text : String)
  /-- A literal of another form, or a place for one. -/
  | literal
  /-- An operator or a punctuation mark. -/
  | mark (text : String)
  deriving DecidableEq, Repr

namespace Lexeme

/-! ### Words and names -/

/-- Whether a word can begin with a character. -/
def isWordStart (c : Char) : Bool :=
  Text.isAlphabetic c || c == '_' || c == '#' || c == '@'

/-- Whether a word can go on with a character. -/
def isWordPart (c : Char) : Bool :=
  Text.isAlphabetic c || c.isDigit || c == '@' || c == '$' || c == '#' || c == '_'

/-- The text up to a closing mark, a doubled one standing for itself, and what follows it. -/
def untilClosing? (closing : Char) : List Char → Option (List Char × List Char)
  | [] => none
  | [c] => if c = closing then some ([], []) else none
  | c :: d :: rest =>
    if c = closing then
      if d = closing then
        (untilClosing? closing rest).map fun (text, after) => (c :: text, after)
      else some ([], d :: rest)
    else (untilClosing? closing (d :: rest)).map fun (text, after) => (c :: text, after)

/-! ### Comments -/

/-- What follows a comment that is open `depth` times. Comments can lie in each other. -/
def afterComment? : Nat → List Char → Option (List Char)
  | 0, cs => some cs
  | _ + 1, [] => none
  | depth + 1, '*' :: '/' :: rest => afterComment? depth rest
  | depth + 1, '/' :: '*' :: rest => afterComment? (depth + 2) rest
  | depth + 1, _ :: rest => afterComment? (depth + 1) rest

/-! ### Numbers -/

/-- The exponent at the front of a text: its length, or zero if there is none. -/
def exponentLength (cs : List Char) : Nat :=
  let digits (rest : List Char) : Nat := (rest.takeWhile Char.isDigit).length
  match cs with
  | e :: sign :: rest =>
    if e == 'e' || e == 'E' then
      if sign == '+' || sign == '-' then
        if digits rest = 0 then 0 else 2 + digits rest
      else if digits (sign :: rest) = 0 then 0
      else 1 + digits (sign :: rest)
    else 0
  | _ => 0

/-- How many characters the number at the front of a text has; a point alone is none. -/
def numberLength (cs : List Char) : Nat :=
  let whole := (cs.takeWhile Char.isDigit).length
  let fraction :=
    match cs.drop whole with
    | '.' :: rest => 1 + (rest.takeWhile Char.isDigit).length
    | _ => 0
  if whole + fraction ≤ 1 && fraction = 1 then 0
  else
    let size := whole + fraction + exponentLength (cs.drop (whole + fraction))
    if (cs.drop size).head? == some 'L' then size + 1 else size

/-! ### Lexing -/

/-- The marks of more than one character, longer ones before those they begin with. -/
def longMarks : List (List Char) :=
  ["<=>", "->>", "=>", "==", "!=", "!!", "<=", "<>", "<<", ">=", ">>", "||", "::", ":=", "&&",
    "->"].map String.toList

/-- The lexeme at the front of a text that begins with neither a blank nor a comment, and what
    follows it. -/
def next? (cs : List Char) : Option (Lexeme × List Char) :=
  match cs with
  | [] => none
  | '\'' :: rest =>
    (untilClosing? '\'' rest).map fun (text, after) => (.string (String.ofList text), after)
  | '[' :: rest =>
    (untilClosing? ']' rest).map fun (text, after) => (.quoted (String.ofList text), after)
  | '"' :: rest =>
    (untilClosing? '"' rest).map fun (text, after) => (.quoted (String.ofList text), after)
  | c :: rest =>
    if ['N', 'n', 'X', 'x'].contains c && rest.head? == some '\'' then
      (untilClosing? '\'' (rest.drop 1)).map fun (_, after) => (.literal, after)
    else if isWordStart c then
      some (.word (String.ofList (c :: rest.takeWhile isWordPart)), rest.dropWhile isWordPart)
    else if numberLength cs > 0 then
      if c == '0' && rest.head? == some 'x' then
        some (.literal, (rest.drop 1).dropWhile fun d =>
          d.isDigit || ('a' ≤ d && d ≤ 'f') || ('A' ≤ d && d ≤ 'F'))
      else some (.number (String.ofList (cs.take (numberLength cs))), cs.drop (numberLength cs))
    else if c == '?' then some (.literal, rest)
    else if c == '$' && (rest.head?.map Text.isAlphanumeric).getD false then
      some (.literal, rest.dropWhile Text.isAlphanumeric)
    else
      match longMarks.find? (·.isPrefixOf cs) with
      | some long => some (.mark (String.ofList long), cs.drop long.length)
      | none => some (.mark (String.ofList [c]), rest)

/-- The lexemes of a text. -/
def scan? : Nat → List Char → Option (List Lexeme)
  | 0, _ => none
  | _ + 1, [] => some []
  | fuel + 1, '-' :: '-' :: rest => scan? fuel (rest.dropWhile (· ≠ '\n'))
  | fuel + 1, '/' :: '*' :: rest => (afterComment? 1 rest).bind (scan? fuel)
  | fuel + 1, c :: rest =>
    if Text.isBlank c then scan? fuel rest
    else
      match next? (c :: rest) with
      | none => none
      | some (lexeme, after) => (scan? fuel after).map (lexeme :: ·)

/-- The lexemes of a statement's text. -/
def ofText? (text : String) : Option (List Lexeme) :=
  scan? (text.toList.length + 1) text.toList

/-- Whether a lexeme is a keyword. A name in brackets or quotes never is. -/
def isKeyword (keyword : String) : Lexeme → Bool
  | .word text => Text.upper text.toList == keyword.toList
  | _ => false

end Lexeme

end ReportDesk.Guard
