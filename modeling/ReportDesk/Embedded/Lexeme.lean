import ReportDesk.Embedded.Value
import ReportDesk.Text.Case

/-! # Lexemes of the embedded database

    A statement is cut into lexemes, each of which keeps its own text and the blanks and comments
    before it, so that a part of the statement can be told as it was written. A piece that is no
    lexeme becomes one too, and is refused when it is reached. The last lexeme is the end.
-/

namespace ReportDesk.Embedded

/-- What a lexeme is. -/
inductive Lexeme.Kind where
  /-- A word, which may be a keyword. -/
  | word
  /-- A name in brackets or quotes. In double quotes it may turn out to be a string. -/
  | name (name : String) (doubtful : Bool)
  | string (text : String)
  /-- A number, with a point or an exponent or without. -/
  | number (value : Value)
  /-- A whole number that is written in decimal digits. -/
  | whole (size : Nat)
  | bytes (bytes : List UInt8)
  /-- A place for a value that is not given. -/
  | placeholder
  /-- An operator or a punctuation mark. -/
  | mark
  /-- Something that is none of these. -/
  | unrecognized
  /-- The end of the statement. -/
  | ending

/-- A lexeme. -/
structure Lexeme where
  /-- What it is. -/
  kind : Lexeme.Kind
  /-- Its own text. -/
  text : String
  /-- The blanks and comments before it. -/
  before : String := ""

namespace Lexeme

/-! ### Classes of characters -/

/-- Whether a character is a blank. -/
def isBlank (c : Char) : Bool :=
  c == ' ' || c == '\t' || c == '\n' || c == '\x0c' || c == '\r'

/-- Whether a word can begin with a character. -/
def isWordStart (c : Char) : Bool :=
  c.isAlpha || c == '_' || c.toNat ≥ 128

/-- Whether a word can go on with a character. -/
def isWordPart (c : Char) : Bool :=
  isWordStart c || c.isDigit || c == '$'

/-- The value of a hexadecimal digit. -/
def hexDigit? (c : Char) : Option Nat :=
  if c.isDigit then some (c.toNat - '0'.toNat)
  else if 'a' ≤ c && c ≤ 'f' then some (c.toNat - 'a'.toNat + 10)
  else if 'A' ≤ c && c ≤ 'F' then some (c.toNat - 'A'.toNat + 10)
  else none

/-! ### Pieces -/

/-- How many characters a comment has after its opening. -/
def commentLength : List Char → Nat
  | [] => 0
  | ['*'] => 1
  | '*' :: '/' :: _ => 2
  | _ :: rest => commentLength rest + 1

/-- How many blanks and characters of comments are at the front of a text. -/
def blankLength : Nat → List Char → Nat
  | 0, _ => 0
  | fuel + 1, cs =>
    let skipped (n : Nat) : Nat := n + blankLength fuel (cs.drop n)
    match cs with
    | '-' :: '-' :: rest => skipped (2 + (rest.takeWhile (· ≠ '\n')).length)
    | '/' :: '*' :: c :: rest => skipped (2 + commentLength (c :: rest))
    | c :: _ => if isBlank c then skipped 1 else 0
    | [] => 0

/-- What stands up to a closing mark, a doubled one standing for itself, and how many characters
    that is with the mark; or nothing if the mark does not come. -/
def enclosed? (closing : Char) : List Char → Option (List Char × Nat)
  | [] => none
  | [c] => if c = closing then some ([], 1) else none
  | c :: d :: rest =>
    if c = closing then
      if d = closing then
        (enclosed? closing rest).map fun (inner, n) => (c :: inner, n + 2)
      else some ([], 1)
    else (enclosed? closing (d :: rest)).map fun (inner, n) => (c :: inner, n + 1)

/-- The bytes that hexadecimal digits make, two for each. -/
def bytesOf? : List Char → Option (List UInt8)
  | [] => some []
  | [_] => none
  | a :: b :: rest => do
    let high ← hexDigit? a
    let low ← hexDigit? b
    return UInt8.ofNat (high * 16 + low) :: (← bytesOf? rest)

/-- The marks of more than one character, longer ones before those they begin with. -/
def longMarks : List (List Char) :=
  ["->>", "->", "||", "<>", "!=", "==", "<=", ">=", "<<", ">>"].map String.toList

/-- The marks of one character. -/
def shortMarks : List Char :=
  ['-', '(', ')', ';', '+', '*', '/', '%', '=', '<', '>', '|', ',', '&', '~', '.']

/-- A number at the front of a text, as a kind of lexeme, and its length. Letters right after it
    spoil it. -/
def number (cs : List Char) : Kind × Nat :=
  let (kind, n) : Kind × Nat :=
    match cs with
    | '0' :: x :: rest =>
      let ds := rest.takeWhile fun c => (hexDigit? c).isSome
      if (x == 'x' || x == 'X') && !ds.isEmpty then
        let size := ds.foldl (fun n c => n * 16 + (hexDigit? c).getD 0) 0
        (.number (.integer (Int64.ofInt size)), ds.length + 2)
      else decimal cs
    | _ => decimal cs
  let tail := (cs.drop n).takeWhile isWordPart
  if tail.isEmpty then (kind, n) else (.unrecognized, n + tail.length)
where
  /-- A number in decimal digits. -/
  decimal (cs : List Char) : Kind × Nat :=
    match Value.numberAtFront? cs with
    | some (value, rest) =>
      let text := cs.take (cs.length - rest.length)
      if text.all Char.isDigit then (.whole (Decimal.ofDigits text), text.length)
      else
        match value with
        | .integer n => (.number (.real (Float.ofInt n.toInt)), text.length)
        | value => (.number value, text.length)
    | none => (.unrecognized, 1)

/-- The lexeme at the front of a text that is not empty, and how many characters it has. -/
def front (cs : List Char) : Kind × Nat :=
  let quoted (closing : Char) (rest : List Char) (kind : String → Kind) : Kind × Nat :=
    match enclosed? closing rest with
    | some (inner, n) => (kind (String.ofList inner), n + 1)
    | none => (.unrecognized, cs.length)
  match cs with
  | [] => (.ending, 0)
  | '\'' :: rest => quoted '\'' rest .string
  | '"' :: rest => quoted '"' rest (.name · true)
  | '\x60' :: rest => quoted '\x60' rest (.name · false)
  | '[' :: rest =>
    let inner := rest.takeWhile (· ≠ ']')
    if inner.length < rest.length then (.name (String.ofList inner) false, inner.length + 2)
    else (.unrecognized, cs.length)
  | c :: rest =>
    if (c == 'x' || c == 'X') && rest.head? == some '\'' then
      let inner := (rest.drop 1).takeWhile fun d => (hexDigit? d).isSome
      let closed := (rest.drop (inner.length + 1)).head? == some '\''
      match bytesOf? inner with
      | some bytes =>
        if closed then (.bytes bytes, inner.length + 3) else (.unrecognized, cs.length)
      | none =>
        let upTo := ((rest.drop 1).takeWhile (· ≠ '\'')).length
        (.unrecognized, min cs.length (upTo + 3))
    else if isWordStart c then (.word, 1 + (rest.takeWhile isWordPart).length)
    else if c.isDigit || (c == '.' && (rest.head?.map Char.isDigit).getD false) then number cs
    else if c == '?' then (.placeholder, 1 + (rest.takeWhile Char.isDigit).length)
    else if c == ':' || c == '@' || c == '$' || c == '#' then
      let n := (rest.takeWhile isWordPart).length
      (if n = 0 then .unrecognized else .placeholder, 1 + n)
    else
      match longMarks.find? (·.isPrefixOf cs) with
      | some long => (.mark, long.length)
      | none => (if shortMarks.contains c then .mark else .unrecognized, 1)

/-- The lexemes of a text, and the end. -/
def scan : Nat → List Char → List Lexeme
  | 0, _ => [{ kind := .ending, text := "" }]
  | fuel + 1, cs =>
    let blanks := blankLength (cs.length + 1) cs
    let before := String.ofList (cs.take blanks)
    let (kind, n) := front (cs.drop blanks)
    let lexeme : Lexeme :=
      { kind := kind, text := String.ofList ((cs.drop blanks).take n), before := before }
    match kind with
    | .ending => [lexeme]
    | _ => lexeme :: scan fuel (cs.drop (blanks + n))

/-- The lexemes of a statement. -/
def ofText (text : String) : List Lexeme :=
  scan (text.length + 1) text.toList

/-- Whether a lexeme is a word that is a keyword. A quoted name never is. -/
def isKeyword (keyword : String) (lexeme : Lexeme) : Bool :=
  match lexeme.kind with
  | .word => Text.asciiUpper lexeme.text == keyword
  | _ => false

/-- Whether a lexeme is a mark. -/
def isMark (mark : String) (lexeme : Lexeme) : Bool :=
  match lexeme.kind with
  | .mark => lexeme.text == mark
  | _ => false

end Lexeme

end ReportDesk.Embedded
