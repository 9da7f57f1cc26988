import ReportDesk.Decimal.Reading
import ReportDesk.Json.Basic
import ReportDesk.Text.Pieces

/-! # Settings files

    Reads the TOML format into a document: tables become objects, dates and times objects of their
    own. What the format forbids, such as a table that is defined twice, makes the whole text
    unreadable.
-/

namespace ReportDesk.Toml

/-! ### Tables under construction -/

/-- How a table came to be, which decides what may be added to it. -/
inductive Origin where
  /-- On the way to a table named in a header. -/
  | passed
  /-- By a header of its own. -/
  | header
  /-- By a dotted key. -/
  | dotted
  deriving DecidableEq

/-- A node of the tree that a file builds. -/
inductive Node where
  /-- A value, to which nothing can be added. -/
  | value (json : Json)
  /-- A table. -/
  | table (origin : Origin) (entries : List (String × Node))
  /-- Tables listed under one name, the last first. -/
  | tables (items : List (List (String × Node)))
  deriving Inhabited

/-- The entries of a table. -/
abbrev Entries := List (String × Node)

/-- The node of a key. -/
def find? (key : String) : Entries → Option Node
  | [] => none
  | (k, node) :: rest => if k = key then some node else find? key rest

/-- Gives a key a node in place of the one it has. -/
def put (key : String) (node : Node) : Entries → Entries
  | [] => [(key, node)]
  | (k, n) :: rest => if k = key then (k, node) :: rest else (k, n) :: put key node rest

/-- Changes the table at the end of a path of headers. Tables on the way are made if need be; of
    listed tables the way leads through the latest. -/
def modify (change : Entries → Option Entries) : List String → Entries → Option Entries
  | [], entries => change entries
  | key :: path, entries =>
    match find? key entries with
    | none => do
      let inner ← modify change path []
      return put key (.table .passed inner) entries
    | some (.table origin inner) => do
      return put key (.table origin (← modify change path inner)) entries
    | some (.tables (latest :: earlier)) => do
      return put key (.tables ((← modify change path latest) :: earlier)) entries
    | some _ => none

/-- Begins a table in the table that holds it. -/
def beginTable (key : String) (entries : Entries) : Option Entries :=
  match find? key entries with
  | none => some (put key (.table .header []) entries)
  | some (.table .passed inner) => some (put key (.table .header inner) entries)
  | some _ => none

/-- Begins one more of the tables listed under a key. -/
def beginListed (key : String) (entries : Entries) : Option Entries :=
  match find? key entries with
  | none => some (put key (.tables [[]]) entries)
  | some (.tables items) => some (put key (.tables ([] :: items)) entries)
  | some _ => none

/-- Gives a dotted key a value. Tables on the way are made if need be, but none is used that has a
    header of its own. -/
def assign (value : Json) : List String → Entries → Option Entries
  | [], _ => none
  | [key], entries =>
    match find? key entries with
    | none => some (put key (.value value) entries)
    | some _ => none
  | key :: path, entries =>
    match find? key entries with
    | none => do
      return put key (.table .dotted (← assign value path [])) entries
    | some (.table .header _) => none
    | some (.table origin inner) => do
      return put key (.table origin (← assign value path inner)) entries
    | some _ => none

mutual

/-- A node as a document. -/
def Node.toJson : Node → Json
  | .value json => json
  | .table _ entries => .object (entriesToJson entries)
  | .tables items => .array (itemsToJson items).reverse

/-- The entries of a table as members. -/
def entriesToJson : List (String × Node) → List (String × Json)
  | [] => []
  | (key, node) :: rest => (key, node.toJson) :: entriesToJson rest

/-- Listed tables as documents. -/
def itemsToJson : List (List (String × Node)) → List Json
  | [] => []
  | entries :: rest => .object (entriesToJson entries) :: itemsToJson rest

end

/-! ### Characters -/

/-- The text after blanks and tabs. -/
def skipBlanks (cs : List Char) : List Char :=
  cs.dropWhile fun c => c == ' ' || c == '\t'

/-- The text after a line break. -/
def lineBreak? : List Char → Option (List Char)
  | '\n' :: rest => some rest
  | '\r' :: '\n' :: rest => some rest
  | _ => none

/-- Whether a character may stand in a comment or a string. -/
def isPlain (c : Char) : Bool :=
  c == '\t' || (c ≥ ' ' && c.toNat ≠ 0x7F)

/-- The text after a comment, up to its line break, or nothing if the comment holds a character
    that it may not. -/
def skipComment? : List Char → Option (List Char)
  | [] => some []
  | '\n' :: rest => some ('\n' :: rest)
  | '\r' :: '\n' :: rest => some ('\r' :: '\n' :: rest)
  | c :: rest => if isPlain c then skipComment? rest else none

/-- The text after blanks, line breaks and comments. -/
def skipLines? : Nat → List Char → Option (List Char)
  | 0, cs => some cs
  | fuel + 1, cs =>
    match skipBlanks cs with
    | '#' :: rest => (skipComment? rest).bind (skipLines? fuel)
    | rest =>
      match lineBreak? rest with
      | some after => skipLines? fuel after
      | none => some rest

/-- The text after the end of a line: blanks, a comment perhaps, and a line break unless the text is
    over. -/
def endLine? (cs : List Char) : Option (List Char) :=
  let finish (rest : List Char) : Option (List Char) :=
    if rest.isEmpty then some [] else lineBreak? rest
  match skipBlanks cs with
  | '#' :: rest => (skipComment? rest).bind finish
  | rest => finish rest

/-! ### Strings -/

/-- The value of hexadecimal digits. -/
def hex? (ds : List Char) : Option Nat :=
  ds.foldlM (fun n c =>
    if '0' ≤ c && c ≤ '9' then some (n * 16 + (c.toNat - '0'.toNat))
    else if 'a' ≤ c && c ≤ 'f' then some (n * 16 + (c.toNat - 'a'.toNat + 10))
    else if 'A' ≤ c && c ≤ 'F' then some (n * 16 + (c.toNat - 'A'.toNat + 10))
    else none) 0

/-- The character with a code of so many hexadecimal digits, and the text after it. -/
def codeChar? (count : Nat) (cs : List Char) : Option (Char × List Char) := do
  let ds := cs.take count
  if ds.length < count then failure
  let code ← hex? ds
  if (0xD800 ≤ code && code < 0xE000) || code > 0x10FFFF then failure
  return (Char.ofNat code, cs.drop count)

/-- The character of an escape, after its backslash, and the text after it. -/
def escape? : List Char → Option (Char × List Char)
  | 'b' :: rest => some ('\x08', rest)
  | 't' :: rest => some ('\t', rest)
  | 'n' :: rest => some ('\n', rest)
  | 'f' :: rest => some ('\x0c', rest)
  | 'r' :: rest => some ('\r', rest)
  | '"' :: rest => some ('"', rest)
  | '\\' :: rest => some ('\\', rest)
  | 'u' :: rest => codeChar? 4 rest
  | 'U' :: rest => codeChar? 8 rest
  | _ => none

/-- A string up to its closing mark on the same line; `escapes` if a backslash means something. -/
def lineString? (mark : Char) (escapes : Bool) :
    Nat → List Char → Option (List Char × List Char)
  | 0, _ => none
  | _ + 1, [] => none
  | fuel + 1, c :: rest =>
    if c = mark then some ([], rest)
    else if escapes && c == '\\' then do
      let (e, after) ← escape? rest
      let (text, after) ← lineString? mark escapes fuel after
      return (e :: text, after)
    else if isPlain c then do
      let (text, after) ← lineString? mark escapes fuel rest
      return (c :: text, after)
    else none

/-- The text after blanks and line breaks, if a line break is among them before anything else. -/
def skipContinuation? (cs : List Char) : Option (List Char) :=
  match lineBreak? (skipBlanks cs) with
  | none => none
  | some rest =>
    some (rest.dropWhile fun c => c == ' ' || c == '\t' || c == '\n' || c == '\r')

/-- A string over several lines, up to three closing marks. One or two more marks before them belong
    to the string. -/
def longString? (mark : Char) (escapes : Bool) :
    Nat → List Char → Option (List Char × List Char)
  | 0, _ => none
  | fuel + 1, cs =>
    let marks := cs.takeWhile (· = mark)
    if marks.length ≥ 6 then none
    else if marks.length ≥ 3 then some (marks.drop 3, cs.drop marks.length)
    else
      match cs with
      | [] => none
      | '\r' :: '\n' :: rest => do
        let (text, after) ← longString? mark escapes fuel rest
        return ('\r' :: '\n' :: text, after)
      | '\n' :: rest => do
        let (text, after) ← longString? mark escapes fuel rest
        return ('\n' :: text, after)
      | c :: rest =>
        if escapes && c == '\\' then
          match skipContinuation? rest with
          | some after => longString? mark escapes fuel after
          | none => do
            let (e, after) ← escape? rest
            let (text, after) ← longString? mark escapes fuel after
            return (e :: text, after)
        else if isPlain c then do
          let (text, after) ← longString? mark escapes fuel rest
          return (c :: text, after)
        else none

/-- A string of any form. -/
def string? (cs : List Char) : Option (List Char × List Char) :=
  let long (mark : Char) (escapes : Bool) (rest : List Char) :=
    longString? mark escapes (rest.length + 1) ((lineBreak? rest).getD rest)
  match cs with
  | '"' :: '"' :: '"' :: rest => long '"' true rest
  | '\'' :: '\'' :: '\'' :: rest => long '\'' false rest
  | '"' :: rest => lineString? '"' true (rest.length + 1) rest
  | '\'' :: rest => lineString? '\'' false (rest.length + 1) rest
  | _ => none

/-! ### Keys -/

/-- Whether a character may stand in a key without quotes. -/
def isKeyChar (c : Char) : Bool :=
  c.isAlphanum || c == '_' || c == '-'

/-- A key without dots. -/
def simpleKey? (cs : List Char) : Option (String × List Char) :=
  match cs with
  | '"' :: rest =>
    (lineString? '"' true (rest.length + 1) rest).map fun (k, after) => (String.ofList k, after)
  | '\'' :: rest =>
    (lineString? '\'' false (rest.length + 1) rest).map fun (k, after) => (String.ofList k, after)
  | _ =>
    let key := cs.takeWhile isKeyChar
    if key.isEmpty then none else some (String.ofList key, cs.dropWhile isKeyChar)

/-- A key with its dots, and the text after blanks that follow it. -/
def key? : Nat → List Char → Option (List String × List Char)
  | 0, _ => none
  | fuel + 1, cs => do
    let (first, rest) ← simpleKey? (skipBlanks cs)
    match skipBlanks rest with
    | '.' :: rest =>
      let (others, after) ← key? fuel rest
      return (first :: others, after)
    | rest => return ([first], rest)

/-! ### Numbers, dates and words -/

/-- The digits of a number without the underscores, each of which stands between two digits. -/
def digits? (isDigit : Char → Bool) (cs : List Char) : Option (List Char) :=
  let groups := Text.pieces '_' cs
  if groups.all fun group => !group.isEmpty && group.all isDigit then some groups.flatten
  else none

/-- The number that digits of a base make. -/
def ofDigits (base : Nat) (ds : List Char) : Nat :=
  ds.foldl (fun n c => n * base + ((hex? [c]).getD 0)) 0

/-- A decimal integer without a sign: no zero before other digits. -/
def decimal? (cs : List Char) : Option (List Char) := do
  let ds ← digits? Char.isDigit cs
  if ds.head? == some '0' && ds.length > 1 then none else some ds

/-- An exponent after its letter. -/
def isExponent (cs : List Char) : Bool :=
  match cs with
  | '+' :: rest | '-' :: rest => (digits? Char.isDigit rest).isSome
  | _ => (digits? Char.isDigit cs).isSome

/-- Whether a text is a float without a sign. -/
def isFloat (cs : List Char) : Bool :=
  let isMark (c : Char) : Bool := c == 'e' || c == 'E'
  let mantissa := cs.takeWhile fun c => !isMark c
  let exponent := (cs.dropWhile fun c => !isMark c).drop 1
  let exponentFits := mantissa.length == cs.length || isExponent exponent
  match Text.cutAt '.' mantissa with
  | some (whole, fraction) =>
    (decimal? whole).isSome && (digits? Char.isDigit fraction).isSome && exponentFits
  | none => mantissa.length < cs.length && (decimal? mantissa).isSome && exponentFits

/-- A float without a sign. Digits do not stand for an infinite one. -/
def float? (cs : List Char) : Option Float :=
  if cs == "inf".toList then some (1 / 0)
  else if cs == "nan".toList then some (0 / 0)
  else if isFloat cs then (Decimal.unsigned? (cs.filter (· ≠ '_'))).filter Float.isFinite
  else none

/-- Whether a text consists of digits where the pattern has a `0` and of the same characters
    elsewhere. -/
def fits : List Char → List Char → Bool
  | [], [] => true
  | '0' :: pattern, c :: cs => c.isDigit && fits pattern cs
  | p :: pattern, c :: cs => p == c && fits pattern cs
  | _, _ => false

/-- The number that the digits from `i` on make, `count` of them. -/
def numberAt (cs : List Char) (i count : Nat) : Nat :=
  ofDigits 10 ((cs.drop i).take count)

/-- How many days a month has. -/
def daysIn (year month : Nat) : Nat :=
  if month = 2 then
    if year % 4 = 0 && (year % 100 ≠ 0 || year % 400 = 0) then 29 else 28
  else if [4, 6, 9, 11].contains month then 30
  else 31

/-- Whether a text is a day of the calendar. -/
def isDate (cs : List Char) : Bool :=
  fits "0000-00-00".toList cs &&
    (let month := numberAt cs 5 2
     let day := numberAt cs 8 2
     1 ≤ month && month ≤ 12 && 1 ≤ day && day ≤ daysIn (numberAt cs 0 4) month)

/-- Whether a text is a time of day. -/
def isTime (cs : List Char) : Bool :=
  fits "00:00:00".toList (cs.take 8) && numberAt cs 0 2 ≤ 23 && numberAt cs 3 2 ≤ 59 &&
    numberAt cs 6 2 ≤ 60 &&
    (match cs.drop 8 with
     | [] => true
     | '.' :: fraction => !fraction.isEmpty && fraction.all Char.isDigit
     | _ => false)

/-- Whether a text is a distance from universal time. -/
def isOffset (cs : List Char) : Bool :=
  match cs with
  | [c] => c == 'Z' || c == 'z'
  | '+' :: rest | '-' :: rest =>
    fits "00:00".toList rest && numberAt rest 0 2 ≤ 23 && numberAt rest 3 2 ≤ 59
  | _ => false

/-- Whether a text is a date, a time, or both with an offset perhaps. -/
def isDateTime (cs : List Char) : Bool :=
  isTime cs || isDate cs ||
    (match cs.drop 10 with
     | mark :: rest =>
       let isZone (c : Char) : Bool := c == 'Z' || c == 'z' || c == '+' || c == '-'
       let offset := rest.dropWhile fun c => !isZone c
       isDate (cs.take 10) && (mark == 'T' || mark == 't' || mark == ' ') &&
         isTime (rest.takeWhile fun c => !isZone c) && (offset.isEmpty || isOffset offset)
     | [] => false)

/-- An integer as a document, if it fits 128 bits with or without a sign. -/
def integer? (n : Int) : Option Json :=
  if -(Nat.pow 2 127 : Nat) ≤ n && n < (Nat.pow 2 128 : Nat) then some (.integer n) else none

/-- A word, number or date as a document. -/
def scalar? (cs : List Char) : Option Json :=
  let unsigned (negative : Bool) (body : List Char) : Option Json :=
    match decimal? body with
    | some ds =>
      let n : Int := ofDigits 10 ds
      integer? (if negative then -n else n)
    | none => (float? body).map fun x => .float (if negative then -x else x)
  match cs with
  | ['t', 'r', 'u', 'e'] => some (.bool true)
  | ['f', 'a', 'l', 's', 'e'] => some (.bool false)
  | '0' :: 'x' :: rest =>
    (digits? (fun c => (hex? [c]).isSome) rest).bind fun ds => integer? (ofDigits 16 ds)
  | '0' :: 'o' :: rest =>
    (digits? (fun c => '0' ≤ c && c ≤ '7') rest).bind fun ds => integer? (ofDigits 8 ds)
  | '0' :: 'b' :: rest =>
    (digits? (fun c => c == '0' || c == '1') rest).bind fun ds => integer? (ofDigits 2 ds)
  | '+' :: rest => unsigned false rest
  | '-' :: rest => unsigned true rest
  | _ =>
    if isDateTime cs then
      some (.object [("datetime", .string (String.ofList cs))])
    else unsigned false cs

/-- The characters of a word, number or date, and the text after them. A blank belongs to it between
    a date and a time. -/
def takeScalar (cs : List Char) : List Char × List Char :=
  let isScalarChar (c : Char) : Bool :=
    c.isAlphanum || c == '_' || c == '+' || c == '-' || c == '.' || c == ':'
  let first := cs.takeWhile isScalarChar
  let rest := cs.dropWhile isScalarChar
  match rest with
  | ' ' :: a :: b :: ':' :: _ =>
    if isDate first && a.isDigit && b.isDigit then
      (first ++ ' ' :: (rest.drop 1).takeWhile isScalarChar,
        (rest.drop 1).dropWhile isScalarChar)
    else (first, rest)
  | _ => (first, rest)

/-! ### Values -/

mutual

/-- A value and the text after it. -/
def value? : Nat → List Char → Option (Json × List Char)
  | 0, _ => none
  | fuel + 1, cs =>
    match cs with
    | '"' :: _ | '\'' :: _ => (string? cs).map fun (s, rest) => (.string (String.ofList s), rest)
    | '[' :: rest => (arrayItems? fuel rest).map fun (items, rest) => (.array items, rest)
    | '\x7b' :: rest =>
      match skipBlanks rest with
      | '\x7d' :: after => some (.object [], after)
      | rest => do
        let (entries, after) ← inlineEntries? fuel [] rest
        return (Node.toJson (.table .header entries), after)
    | _ =>
      let (word, rest) := takeScalar cs
      (scalar? word).map fun json => (json, rest)

/-- The items of an array up to its closing bracket. -/
def arrayItems? : Nat → List Char → Option (List Json × List Char)
  | 0, _ => none
  | fuel + 1, cs => do
    match ← skipLines? (cs.length + 1) cs with
    | ']' :: rest => return ([], rest)
    | rest =>
      let (item, rest) ← value? fuel rest
      match ← skipLines? (rest.length + 1) rest with
      | ',' :: rest =>
        let (items, after) ← arrayItems? fuel rest
        return (item :: items, after)
      | ']' :: rest => return ([item], rest)
      | _ => none

/-- The entries of a table on one line up to its closing brace, after `done`. -/
def inlineEntries? : Nat → Entries → List Char → Option (Entries × List Char)
  | 0, _, _ => none
  | fuel + 1, done, cs => do
    let (path, rest) ← key? (cs.length + 1) cs
    match rest with
    | '=' :: rest =>
      let (json, rest) ← value? fuel (skipBlanks rest)
      let entries ← assign json path done
      match skipBlanks rest with
      | ',' :: rest => inlineEntries? fuel entries rest
      | '\x7d' :: rest => return (entries, rest)
      | _ => none
    | _ => none

end

/-! ### Files -/

/-- The table that a line's entries go into, and all tables so far. -/
structure State where
  /-- The path of the latest header. -/
  current : List String := []
  /-- The tables so far. -/
  root : Entries := []

/-- The state after a header, whose closing brackets are the given ones. -/
def header? (state : State) (closing : List Char) (listed : Bool) (cs : List Char) :
    Option (State × List Char) := do
  let (path, rest) ← key? (cs.length + 1) cs
  let rest ← Text.after? closing rest
  let last ← path.getLast?
  let root ← modify (if listed then beginListed last else beginTable last) path.dropLast state.root
  return ({ current := path, root := root }, rest)

/-- The state after an entry. -/
def entry? (state : State) (cs : List Char) : Option (State × List Char) := do
  let (path, rest) ← key? (cs.length + 1) cs
  match rest with
  | '=' :: rest =>
    let (json, rest) ← value? (2 * rest.length + 2) (skipBlanks rest)
    let root ← modify (assign json path) state.current state.root
    return ({ state with root := root }, rest)
  | _ => none

/-- The state after all lines. -/
def lines? : Nat → State → List Char → Option State
  | 0, _, _ => none
  | fuel + 1, state, cs => do
    match ← skipLines? (cs.length + 1) cs with
    | [] => return state
    | '[' :: '[' :: rest =>
      let (state, rest) ← header? state [']', ']'] true rest
      lines? fuel state (← endLine? rest)
    | '[' :: rest =>
      let (state, rest) ← header? state [']'] false rest
      lines? fuel state (← endLine? rest)
    | rest =>
      let (state, rest) ← entry? state rest
      lines? fuel state (← endLine? rest)

/-- The document of a text. -/
def parse? (text : String) : Option Json :=
  let cs := text.toList
  let cs := (Text.after? ['\ufeff'] cs).getD cs
  (lines? (cs.length + 1) {} cs).map fun state => Node.toJson (.table .header state.root)

end ReportDesk.Toml
