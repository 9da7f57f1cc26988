import ReportDesk.Json.Basic

/-! # Writing JSON texts

    A document as text: on one line without blanks, or indented by two blanks a level. Members come
    in the order they have; a double that is no number is written as null.
-/

namespace ReportDesk.Json

/-- A character inside a string literal. -/
def escapeChar (c : Char) : List Char :=
  match c with
  | '"' => ['\\', '"']
  | '\\' => ['\\', '\\']
  | '\x08' => ['\\', 'b']
  | '\x0c' => ['\\', 'f']
  | '\n' => ['\\', 'n']
  | '\r' => ['\\', 'r']
  | '\t' => ['\\', 't']
  | _ =>
    if c.toNat < 0x10 then ['\\', 'u', '0', '0', '0'] ++ Nat.toDigits 16 c.toNat
    else if c < ' ' then ['\\', 'u', '0', '0'] ++ Nat.toDigits 16 c.toNat
    else [c]

/-- A text as a string literal. -/
def quote (text : String) : String :=
  "\"" ++ String.ofList (text.toList.flatMap escapeChar) ++ "\""

/-- A document that is neither array nor object as text. A broken place has none. -/
def leafText : Json → String
  | .null => "null"
  | .bool true => "true"
  | .bool false => "false"
  | .integer n => toString n
  | .float x => if Decimal.isFinite x then Decimal.Layout.json.text x else "null"
  | .string s => quote s
  | .array _ | .object _ | .broken _ => ""

mutual

/-- A document on one line. -/
def compact : Json → String
  | .array items => "[" ++ ",".intercalate (compactItems items) ++ "]"
  | .object members => "\x7b" ++ ",".intercalate (compactMembers members) ++ "\x7d"
  | leaf => leafText leaf

/-- Each item on one line. -/
def compactItems : List Json → List String
  | [] => []
  | item :: rest => item.compact :: compactItems rest

/-- Each member on one line. -/
def compactMembers : List (String × Json) → List String
  | [] => []
  | (key, item) :: rest => (quote key ++ ":" ++ item.compact) :: compactMembers rest

end

/-- A line break and the blanks of a level. -/
def newline (level : Nat) : String :=
  "\n" ++ String.ofList (List.replicate (2 * level) ' ')

/-- Parts between brackets, each on a line of its own one level deeper; no parts on one line. -/
def block (opening closing : String) (level : Nat) (parts : List String) : String :=
  if parts.isEmpty then opening ++ closing
  else
    opening ++ newline (level + 1) ++ ("," ++ newline (level + 1)).intercalate parts ++
      newline level ++ closing

mutual

/-- A document on several lines, the first of which stands at a level. -/
def indentedAt (level : Nat) : Json → String
  | .array items => block "[" "]" level (indentedItems (level + 1) items)
  | .object members => block "\x7b" "\x7d" level (indentedMembers (level + 1) members)
  | leaf => leafText leaf

/-- Each item on lines of its own. -/
def indentedItems (level : Nat) : List Json → List String
  | [] => []
  | item :: rest => item.indentedAt level :: indentedItems level rest

/-- Each member on lines of its own. -/
def indentedMembers (level : Nat) : List (String × Json) → List String
  | [] => []
  | (key, item) :: rest =>
    (quote key ++ ": " ++ item.indentedAt level) :: indentedMembers level rest

end

/-- A document on several lines. -/
def indented (json : Json) : String :=
  json.indentedAt 0

end ReportDesk.Json
