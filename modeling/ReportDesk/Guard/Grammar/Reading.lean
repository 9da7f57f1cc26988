import ReportDesk.Guard.Lexeme

/-! # Reading lexemes

    A reader takes lexemes from the front of a list, or fails. What a grammar rule needs of a text
    is here: to look for a keyword or a mark, to insist on one, and to read lists with commas.
-/

namespace ReportDesk.Guard.Grammar

/-- A way to read something from the front of a list of lexemes. -/
abbrev Reader (α : Type) := StateT (List Lexeme) Option α

/-! ### Keywords and marks -/

/-- Whether a keyword comes next. -/
def peek (keyword : String) : Reader Bool := do
  match (← get).head? with
  | some lexeme => return lexeme.isKeyword keyword
  | none => return false

/-- Whether one of several keywords comes next. -/
def peekOneOf (keywords : List String) : Reader Bool := do
  match (← get).head? with
  | some lexeme => return keywords.any lexeme.isKeyword
  | none => return false

/-- Whether a list of lexemes begins with keywords in a row. -/
def beginsWith : List String → List Lexeme → Bool
  | [], _ => true
  | _ :: _, [] => false
  | keyword :: keywords, lexeme :: rest => lexeme.isKeyword keyword && beginsWith keywords rest

/-- Takes keywords in a row if all of them come next, and says whether it did. -/
def takeAll (keywords : List String) : Reader Bool := do
  if beginsWith keywords (← get) then
    modify (·.drop keywords.length)
    return true
  else return false

/-- Takes a keyword if it comes next, and says whether it did. -/
def take (keyword : String) : Reader Bool := takeAll [keyword]

/-- Takes one of several keywords if it comes next, and says whether it did. -/
def takeOneOf (keywords : List String) : Reader Bool := do
  if ← peekOneOf keywords then
    modify (·.drop 1)
    return true
  else return false

/-- Takes a mark if it comes next, and says whether it did. -/
def takeMark (text : String) : Reader Bool := do
  if (← get).head? = some (.mark text) then
    modify (·.drop 1)
    return true
  else return false

/-- Succeeds if a condition holds. -/
def insist (condition : Bool) : Reader Unit :=
  if condition then pure () else failure

/-- Takes a keyword that must come next. -/
def keyword (word : String) : Reader Unit := do
  insist (← take word)

/-- Takes one of several keywords, which must come next. -/
def oneOf (keywords : List String) : Reader Unit := do
  insist (← takeOneOf keywords)

/-- Takes a mark that must come next. -/
def mark (text : String) : Reader Unit := do
  insist (← takeMark text)

/-- Takes the next lexeme. -/
def next : Reader Lexeme := do
  match ← get with
  | lexeme :: rest =>
    set rest
    return lexeme
  | [] => failure

/-! ### Names -/

/-- Takes a word or a name in brackets or quotes. -/
def name : Reader Unit := do
  match ← next with
  | .word _ | .quoted _ => pure ()
  | _ => failure

/-- Takes a word, a quoted name or a string. -/
def identifier : Reader Unit := do
  match ← next with
  | .word _ | .quoted _ | .string _ => pure ()
  | _ => failure

/-- Takes a string. -/
def stringLiteral : Reader Unit := do
  match ← next with
  | .string _ => pure ()
  | _ => failure

/-! ### Repetition -/

/-- Repeats a step from a value until the step has no further value, at most `fuel` times. -/
def iterate {α : Type} (step : α → Reader (Option α)) : Nat → α → Reader α
  | 0, value => pure value
  | fuel + 1, value => do
    match ← step value with
    | some further => iterate step fuel further
    | none => pure value

/-- Repeats a step, which takes a lexeme at least, until it has no further value. -/
def repeated {α : Type} (value : α) (step : α → Reader (Option α)) : Reader α := fun lexemes =>
  iterate step (lexemes.length + 1) value lexemes

/-- Items with commas between, joined into one list. -/
def commaSeparated {α : Type} (item : Reader (List α)) : Reader (List α) := do
  repeated (← item) fun found => do
    if ← takeMark "," then return some (found ++ (← item))
    else return none

/-- Items of which nothing is kept, with commas between. -/
def commaSeparated' (item : Reader Unit) : Reader Unit := do
  let _ ← commaSeparated (α := Unit) do
    item
    return []

/-- Something between round brackets. -/
def bracketed {α : Type} (content : Reader α) : Reader α := do
  mark "("
  let found ← content
  mark ")"
  return found

/-- The name of an object: parts with points between. -/
def objectName : Reader Unit := do
  identifier
  repeated () fun _ => do
    if ← takeMark "." then
      identifier
      return some ()
    else return none

/-- What comes next if a reader fails, which then takes nothing. -/
def attempt {α : Type} (reader : Reader α) : Reader (Option α) :=
  (some <$> reader) <|> pure none

/-! ### Aliases -/

/-- An alias, if there is one: any name or string after AS, and without AS a string or a name that
    is none of the `reserved` keywords. Says whether there was one. -/
def takeAlias (reserved : List String) : Reader Bool := do
  if ← take "AS" then
    identifier
    return true
  else
    match (← get).head? with
    | some (.string _) | some (.quoted _) =>
      modify (·.drop 1)
      return true
    | some (.word text) =>
      if reserved.any (Lexeme.isKeyword · (.word text)) then return false
      else
        modify (·.drop 1)
        return true
    | _ => return false

end ReportDesk.Guard.Grammar
