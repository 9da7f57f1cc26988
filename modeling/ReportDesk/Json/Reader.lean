import ReportDesk.Json.Numeral
import ReportDesk.Text.Pieces

/-! # Reading JSON texts

    From a text to a document. The reader never fails: where the text stops being JSON it leaves a
    broken place and reads no further. A numeral out of range or an escape for half a surrogate
    pair leaves one too, but the text around it is read on.
-/

namespace ReportDesk.Json

/-! ### Leaves -/

/-- The characters after the white space of JSON. -/
def skipSpace (cs : List Char) : List Char :=
  cs.dropWhile fun c => c == ' ' || c == '\n' || c == '\t' || c == '\r'

/-- The value of a hexadecimal digit. -/
def hexDigit? (c : Char) : Option Nat :=
  if '0' ≤ c && c ≤ '9' then some (c.toNat - '0'.toNat)
  else if 'a' ≤ c && c ≤ 'f' then some (c.toNat - 'a'.toNat + 10)
  else if 'A' ≤ c && c ≤ 'F' then some (c.toNat - 'A'.toNat + 10)
  else none

/-- The value of four hexadecimal digits. -/
def hexUnit? (a b c d : Char) : Option Nat := do
  return (((← hexDigit? a) * 16 + (← hexDigit? b)) * 16 + (← hexDigit? c)) * 16 + (← hexDigit? d)

/-- The character of a surrogate pair. -/
def pairChar (high low : Nat) : Char :=
  Char.ofNat (0x10000 + (high - 0xD800) * 0x400 + (low - 0xDC00))

/-- Whether a unit is the first half of a surrogate pair. -/
def isHighSurrogate (unit : Nat) : Bool := 0xD800 ≤ unit && unit < 0xDC00

/-- Whether a unit is the second half of a surrogate pair. -/
def isLowSurrogate (unit : Nat) : Bool := 0xDC00 ≤ unit && unit < 0xE000

/-- The second half of a surrogate pair, if a text goes on with an escape for one. -/
def lowSurrogate? : List Char → Option Nat
  | '\\' :: 'u' :: a :: b :: c :: d :: _ => (hexUnit? a b c d).filter isLowSurrogate
  | _ => none

/-- The character that a one-letter escape stands for. -/
def escaped? : Char → Option Char
  | '"' => some '"'
  | '\\' => some '\\'
  | '/' => some '/'
  | 'b' => some '\x08'
  | 'f' => some '\x0c'
  | 'n' => some '\n'
  | 'r' => some '\r'
  | 't' => some '\t'
  | _ => none

/-- The rest of a string literal. `done` holds its characters so far, latest first, or nothing once
    an escape named half of a surrogate pair. Yields the string and the text after it. -/
def readString (done : Option (List Char)) : List Char → Option (Json × List Char)
  | [] => none
  | '"' :: rest =>
    match done with
    | some cs => some (.string (String.ofList cs.reverse), rest)
    | none => some (.broken .loneSurrogate, rest)
  | '\\' :: 'u' :: a :: b :: c :: d :: rest =>
    match hexUnit? a b c d with
    | none => none
    | some unit =>
      if isHighSurrogate unit then
        match lowSurrogate? rest, rest with
        | some low, _ :: _ :: _ :: _ :: _ :: _ :: after =>
          readString (done.map (pairChar unit low :: ·)) after
        | _, rest => readString none rest
      else if isLowSurrogate unit then readString none rest
      else readString (done.map (Char.ofNat unit :: ·)) rest
  | '\\' :: c :: rest =>
    match escaped? c with
    | some e => readString (done.map (e :: ·)) rest
    | none => none
  | c :: rest =>
    if c < ' ' || c == '\\' then none else readString (done.map (c :: ·)) rest

/-- The digits at the front of a text and what follows them. -/
def takeDigits (cs : List Char) : List Char × List Char :=
  (cs.takeWhile Char.isDigit, cs.dropWhile Char.isDigit)

/-- The fraction at the front of a text, if a point stands there. -/
def readFraction? : List Char → Option (Option (List Char) × List Char)
  | '.' :: rest =>
    match takeDigits rest with
    | ([], _) => none
    | (digits, after) => some (some digits, after)
  | cs => some (none, cs)

/-- The number that digits make. -/
def ofDigits (ds : List Char) : Nat :=
  ds.foldl (fun n c => n * 10 + Significand.digit c) 0

/-- The digits of an exponent after its sign. -/
def readExponentDigits? (negative : Bool) (cs : List Char) : Option (Option Int × List Char) :=
  match takeDigits cs with
  | ([], _) => none
  | (digits, after) =>
    let n : Int := ofDigits digits
    some (some (if negative then -n else n), after)

/-- The exponent at the front of a text, if one begins there. -/
def readExponent? : List Char → Option (Option Int × List Char)
  | c :: rest =>
    if c == 'e' || c == 'E' then
      match rest with
      | '+' :: digits => readExponentDigits? false digits
      | '-' :: digits => readExponentDigits? true digits
      | digits => readExponentDigits? false digits
    else some (none, c :: rest)
  | [] => some (none, [])

/-- A numeral after its sign. A zero before the point stands alone. -/
def readNumeral? (negative : Bool) (cs : List Char) : Option (Json × List Char) := do
  let (whole, rest) := takeDigits cs
  if whole.isEmpty || (whole.head? == some '0' && whole.length > 1) then failure
  let (fraction, rest) ← readFraction? rest
  let (exponent, rest) ← readExponent? rest
  return (ofNumeral negative whole fraction exponent, rest)

/-- A string, a number or one of the three words at the front of a text. -/
def readLeaf? (cs : List Char) : Option (Json × List Char) :=
  match cs with
  | '"' :: rest => readString (some []) rest
  | '-' :: rest => readNumeral? true rest
  | 't' :: 'r' :: 'u' :: 'e' :: rest => some (.bool true, rest)
  | 'f' :: 'a' :: 'l' :: 's' :: 'e' :: rest => some (.bool false, rest)
  | 'n' :: 'u' :: 'l' :: 'l' :: rest => some (.null, rest)
  | _ => readNumeral? false cs

/-! ### Trees

    Each reader yields what it read and the text after it, or no text once the reading is over
    because of a fault. -/

/-- A member that marks the place in an object where a text broke off. -/
def brokenMember : String × Json :=
  ("", .broken .malformed)

mutual

/-- Reads a value. -/
def readValue : Nat → List Char → Json × Option (List Char)
  | 0, _ => (.broken .malformed, none)
  | fuel + 1, cs =>
    match skipSpace cs with
    | '[' :: rest =>
      let (items, after) := readItems fuel true rest
      (.array items, after)
    | '\x7b' :: rest =>
      let (members, after) := readMembers fuel true rest
      (.object members, after)
    | rest =>
      match readLeaf? rest with
      | some (leaf, after) => (leaf, some after)
      | none => (.broken .malformed, none)

/-- Reads the items of an array up to its closing bracket; `first` before any comma. -/
def readItems : Nat → Bool → List Char → List Json × Option (List Char)
  | 0, _, _ => ([.broken .malformed], none)
  | fuel + 1, first, cs =>
    match skipSpace cs, first with
    | ']' :: rest, _ => ([], some rest)
    | ',' :: rest, false =>
      match skipSpace rest with
      | ']' :: _ => ([.broken .malformed], none)
      | _ => readItem fuel rest
    | rest, true => readItem fuel rest
    | _, false => ([.broken .malformed], none)

/-- Reads an item of an array and all after it. -/
def readItem : Nat → List Char → List Json × Option (List Char)
  | 0, _ => ([.broken .malformed], none)
  | fuel + 1, cs =>
    match readValue fuel cs with
    | (item, none) => ([item], none)
    | (item, some rest) =>
      let (items, after) := readItems fuel false rest
      (item :: items, after)

/-- Reads the members of an object up to its closing brace; `first` before any comma. -/
def readMembers : Nat → Bool → List Char → List (String × Json) × Option (List Char)
  | 0, _, _ => ([brokenMember], none)
  | fuel + 1, first, cs =>
    match skipSpace cs, first with
    | '\x7d' :: rest, _ => ([], some rest)
    | ',' :: rest, false => readMember fuel (skipSpace rest)
    | rest, true => readMember fuel rest
    | _, false => ([brokenMember], none)

/-- Reads a member of an object, at its key, and all after it. -/
def readMember : Nat → List Char → List (String × Json) × Option (List Char)
  | 0, _ => ([brokenMember], none)
  | fuel + 1, cs =>
    match cs with
    | '"' :: rest =>
      match readString (some []) rest with
      | some (.string key, after) =>
        match skipSpace after with
        | ':' :: rest =>
          match readValue fuel rest with
          | (item, none) => ([(key, item)], none)
          | (item, some rest) =>
            let (members, after) := readMembers fuel false rest
            ((key, item) :: members, after)
        | _ => ([(key, .broken .malformed)], none)
      | _ => ([brokenMember], none)
    | _ => ([brokenMember], none)

end

/-- The document of a text, and whether anything but white space follows it. -/
def readText (text : String) : Json × Bool :=
  let cs := text.toList
  match readValue (3 * cs.length + 3) cs with
  | (json, some rest) => (json, !(skipSpace rest).isEmpty)
  | (json, none) => (json, false)

/-- The untyped value of a text. -/
def parse (text : String) : Except Fault Json :=
  match readText text with
  | (json, followed) =>
    match json.settle 0 with
    | .error fault => .error fault
    | .ok value => if followed then .error .malformed else .ok value

end ReportDesk.Json
