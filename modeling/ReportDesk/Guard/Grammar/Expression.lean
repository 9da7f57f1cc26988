import ReportDesk.Guard.Grammar.Reading
import ReportDesk.Guard.Statement

/-! # Expressions

    How an expression is read, as far as the queries in it are concerned. Operators bind with
    powers; a word can stand for a special form, a function or a column, and a special form that
    cannot be read is read as a function or a column.
-/

namespace ReportDesk.Guard.Grammar

/-- What an expression is at its top. -/
inductive Shape where
  /-- A name alone. -/
  | name (lexeme : Lexeme)
  /-- A name, an equals sign and a value, which in a select list gives the value that name. -/
  | assignment
  /-- Anything else. -/
  | other

/-- An expression that was read. -/
structure Expression where
  /-- What it is at its top. -/
  shape : Shape := .other
  /-- The queries in it. -/
  nested : List Query := []

/-- The readers for what lies one level deeper. -/
structure Level where
  /-- A query. -/
  query : Reader Query
  /-- An expression, as far as its operators bind with more than a power. -/
  expression : Nat → Reader Expression

namespace Level

/-- The queries in an expression of any operators. -/
def any (level : Level) : Reader (List Query) :=
  (·.nested) <$> level.expression 0

/-- The queries in an expression whose operators bind with more than a power. -/
def above (level : Level) (power : Nat) : Reader (List Query) :=
  (·.nested) <$> level.expression power

end Level

variable (level : Level)

/-! ### Types -/

/-- The types that a string can follow, to be a literal of that type. -/
def literalTypes : List String :=
  ["DATE", "DATETIME", "TIME", "TIMESTAMP", "TIMESTAMPTZ", "BOOLEAN", "BOOL", "FLOAT", "REAL",
    "DOUBLE", "TINYINT", "SMALLINT", "INT", "INTEGER", "BIGINT", "VARCHAR", "NVARCHAR", "CHAR",
    "CHARACTER", "BINARY", "VARBINARY", "BLOB", "UUID", "JSON", "TEXT", "STRING", "NUMERIC",
    "DECIMAL", "DEC"]

/-- The lengths or other arguments of a type, if there are any. -/
def typeArguments : Reader Unit := do
  if ← takeMark "(" then
    commaSeparated' do
      match ← next with
      | .word _ | .number _ | .string _ => pure ()
      | _ => failure
    mark ")"

/-- A type. -/
def dataType : Reader Unit := do
  if ← takeAll ["DOUBLE", "PRECISION"] then pure ()
  else if ← takeAll ["CHARACTER", "VARYING"] then typeArguments
  else if ← takeAll ["CHAR", "VARYING"] then typeArguments
  else if ← takeOneOf ["TIME", "TIMESTAMP"] then
    typeArguments
    let _ ← takeAll ["WITH", "TIME", "ZONE"]
    let _ ← takeAll ["WITHOUT", "TIME", "ZONE"]
  else
    objectName
    typeArguments
    let _ ← take "UNSIGNED"

/-! ### Sort keys and windows -/

/-- A sort key. -/
def sortKey : Reader (List Query) := do
  let found ← level.any
  let _ ← takeOneOf ["ASC", "DESC"]
  if ← take "NULLS" then oneOf ["FIRST", "LAST"]
  return found

/-- Sort keys after ORDER BY, if that comes next. -/
def ordering : Reader (List Query) := do
  if ← takeAll ["ORDER", "BY"] then commaSeparated (sortKey level)
  else return []

/-- An end of a window frame. -/
def frameBound : Reader (List Query) := do
  if ← takeAll ["CURRENT", "ROW"] then return []
  else
    let found ← if ← take "UNBOUNDED" then pure [] else level.any
    oneOf ["PRECEDING", "FOLLOWING"]
    return found

/-- A window after its opening bracket, with the closing one. -/
def window : Reader (List Query) := do
  unless ← peekOneOf ["PARTITION", "ORDER", "ROWS", "RANGE", "GROUPS"] do
    let _ ← attempt name
  let parts ← if ← takeAll ["PARTITION", "BY"] then commaSeparated level.any else pure []
  let keys ← ordering level
  if ← takeMark ")" then return parts ++ keys
  else
    oneOf ["ROWS", "RANGE", "GROUPS"]
    if ← take "BETWEEN" then
      let low ← frameBound level
      keyword "AND"
      let high ← frameBound level
      mark ")"
      return parts ++ keys ++ low ++ high
    else
      let bound ← frameBound level
      mark ")"
      return parts ++ keys ++ bound

/-! ### Functions -/

/-- The names and points before a star, and the star. -/
def starItem : Reader Unit := do
  if ← takeMark "*" then pure ()
  else
    identifier
    mark "."
    let found ← repeated false fun found => do
      if found then return none
      else if ← takeMark "*" then return some true
      else
        identifier
        mark "."
        return some false
    insist found

/-- An expression or a star. -/
def expressionOrStar : Reader (Option Expression) := do
  match ← attempt starItem with
  | some _ => return none
  | none => some <$> level.expression 0

/-- The queries in an argument of a function. -/
def argument : Reader (List Query) := do
  let _ ← attempt do
    identifier
    mark "=>"
  return (← expressionOrStar level).elim [] (·.nested)

/-- The arguments of a function after the opening bracket, with the closing one. -/
def arguments : Reader (List Query) := do
  if ← takeMark ")" then return []
  else
    let all ← take "ALL"
    let distinct ← take "DISTINCT"
    insist !(all && distinct)
    let found ← commaSeparated (argument level)
    let keys ← ordering level
    let limit ← if ← take "LIMIT" then level.any else pure []
    if ← takeAll ["ON", "OVERFLOW"] then
      if ← take "ERROR" then pure ()
      else
        keyword "TRUNCATE"
        let _ ← attempt stringLiteral
        oneOf ["WITH", "WITHOUT"]
        keyword "COUNT"
    mark ")"
    return found ++ keys ++ limit

/-- A function's arguments in brackets and what can follow them. -/
def call : Reader (List Query) := do
  mark "("
  let found ← arguments level
  let group ←
    if ← takeAll ["WITHIN", "GROUP"] then
      bracketed do
        keyword "ORDER"
        keyword "BY"
        commaSeparated (sortKey level)
    else pure []
  if ← takeOneOf ["RESPECT", "IGNORE"] then keyword "NULLS"
  let windowed ←
    if ← take "OVER" then
      if ← takeMark "(" then window level
      else
        identifier
        pure []
    else pure []
  return found ++ group ++ windowed

/-- Functions applied with points, one after the other. -/
def methods (before : Expression) : Reader Expression :=
  (do
    let found ← repeated [] fun found => do
      if ← takeMark "." then
        name
        return some (found ++ [← call level])
      else return none
    insist !found.isEmpty
    return { nested := before.nested ++ found.flatten })
  <|> pure before

/-! ### Special forms -/

/-- A query in brackets. -/
def bracketedQuery : Reader (List Query) := do
  return [← bracketed level.query]

/-- A condition and its outcome in a CASE. -/
def caseBranch : Reader (List Query) := do
  let condition ← level.any
  keyword "THEN"
  let outcome ← level.any
  return condition ++ outcome

/-- A CASE after its first word. -/
def caseForm : Reader (List Query) := do
  let operand ← if ← peek "WHEN" then pure [] else level.any
  keyword "WHEN"
  let first ← caseBranch level
  let found ← repeated first fun found => do
    if ← take "WHEN" then return some (found ++ (← caseBranch level))
    else return none
  let otherwise ← if ← take "ELSE" then level.any else pure []
  keyword "END"
  return operand ++ found ++ otherwise

/-- The special form that a word begins, after that word. Nothing if there is none. -/
def specialForm (word : String) : Option (Reader (List Query)) :=
  match word with
  | "NULL" | "TRUE" | "FALSE" => some (pure [])
  | "CURRENT_TIMESTAMP" | "CURRENT_TIME" | "CURRENT_DATE" | "LOCALTIME" | "LOCALTIMESTAMP" =>
    some do if ← takeMark "(" then arguments level else pure []
  | "CASE" => some (caseForm level)
  | "CONVERT" | "TRY_CONVERT" =>
    some <| bracketed do
      dataType
      mark ","
      commaSeparated level.any
  | "CAST" | "TRY_CAST" | "SAFE_CAST" =>
    some <| bracketed do
      let found ← level.any
      keyword "AS"
      dataType
      return found
  | "EXISTS" => some (bracketedQuery level)
  | "EXTRACT" =>
    some <| bracketed do
      name
      keyword "FROM"
      level.any
  | "CEIL" | "FLOOR" =>
    some <| bracketed do
      let found ← level.any
      if ← take "TO" then name
      else if ← takeMark "," then
        match ← next with
        | .number _ => pure ()
        | _ => failure
      return found
  | "POSITION" =>
    some <| bracketed (do
      let part ← level.above 20
      keyword "IN"
      let whole ← level.any
      return part ++ whole)
  | "SUBSTRING" =>
    some <| bracketed do
      let text ← level.any
      let start ←
        if ← takeMark "," then level.any
        else if ← take "FROM" then level.any
        else pure []
      let length ←
        if ← take "FOR" then level.any
        else if ← takeMark "," then level.any
        else pure []
      return text ++ start ++ length
  | "OVERLAY" =>
    some <| bracketed do
      let text ← level.any
      keyword "PLACING"
      let piece ← level.any
      keyword "FROM"
      let start ← level.any
      let length ← if ← take "FOR" then level.any else pure []
      return text ++ piece ++ start ++ length
  | "TRIM" =>
    some <| bracketed do
      let _ ← takeOneOf ["BOTH", "LEADING", "TRAILING"]
      let found ← level.any
      if ← take "FROM" then return found ++ (← level.any)
      else
        let _ ← takeMark ","
        return found
  | "INTERVAL" =>
    some do
      let amount ← level.above 100
      if ← takeOneOf ["YEAR", "MONTH", "WEEK", "DAY", "HOUR", "MINUTE", "SECOND"] then
        if ← take "TO" then name
      return amount
  | "ARRAY" => some (bracketedQuery level)
  | "NOT" => some do if ← take "EXISTS" then bracketedQuery level else level.above 15
  | _ => none

/-- The words whose special form has no other reading. -/
def strictForms : List String := ["EXISTS", "INTERVAL", "STRUCT", "TRIM"]

/-- What a word or quoted name is that has no special form: a column, a function, or a string
    with the name of its character set before it. -/
def named (lexeme : Lexeme) : Reader Expression := do
  match (← get).head?, lexeme with
  | some (.mark "("), _ => pure { nested := ← call level }
  | some (.mark "."), _ =>
    repeated () fun _ => do
      if ← takeMark "." then
        identifier
        return some ()
      else return none
    if (← get).head? = some (.mark "(") then
      pure { nested := ← call level }
    else pure {}
  | some (.string _), .word text =>
    if text.toList.head? = some '_' then
      modify (·.drop 1)
      pure {}
    else pure { shape := .name lexeme }
  | _, _ => pure { shape := .name lexeme }

/-- What a word begins. -/
def worded (text : String) : Reader Expression := do
  let upper := Text.upper text.toList
  match specialForm level (String.ofList upper) with
  | none => named level (.word text)
  | some form =>
    match ← attempt form with
    | some found => return { nested := found }
    | none =>
      insist !(strictForms.contains (String.ofList upper))
      named level (.word text)

/-! ### Operands and operators -/

/-- A list of expressions or a query between brackets, after the opening one. -/
def group : Reader Expression := do
  let found ←
    if ← peekOneOf ["SELECT", "WITH"] then pure [← level.query]
    else commaSeparated level.any
  mark ")"
  let whole ← methods level { nested := found }
  if ← takeMark "." then name
  return { nested := whole.nested }

/-- An operand, with the functions applied to it and its collation. -/
def operand : Reader Expression :=
  (do
    oneOf literalTypes
    typeArguments
    stringLiteral
    return {})
  <|> do
    let found ←
      match ← next with
      | .word text => worded level text
      | .quoted text => named level (.quoted text)
      | .number _ | .string _ | .literal => pure {}
      | .mark "-" | .mark "+" => pure { nested := ← level.above 40 }
      | .mark "(" => group level
      | .mark ":" =>
        match ← next with
        | .word _ | .quoted _ | .number _ => pure {}
        | _ => failure
      | _ => failure
    let whole ← methods level found
    if ← take "COLLATE" then
      objectName
      return { nested := whole.nested }
    else return whole

/-- The power with which a mark binds its operands. -/
def markPower (text : String) : Nat :=
  if ["=", "==", "<", "<=", "<>", "!=", ">", ">=", "<=>"].contains text then 20
  else if text = "|" then 21
  else if ["^", "<<", ">>"].contains text then 22
  else if text = "&" then 23
  else if ["+", "-"].contains text then 30
  else if ["*", "/", "%", "||"].contains text then 40
  else if ["::", "!", "&&"].contains text then 50
  else if ["->", "->>"].contains text then 16
  else 0

/-- The words that test a value against others or against a pattern, and their powers. -/
def testPowers : List (String × Nat) :=
  [("IN", 20), ("BETWEEN", 20), ("LIKE", 19), ("ILIKE", 19), ("RLIKE", 19), ("REGEXP", 19),
    ("SIMILAR", 19)]

/-- The power with which the operator at the front of a list binds, or zero if there is none. -/
def powerAhead : List Lexeme → Nat
  | .mark text :: _ => markPower text
  | .word text :: rest =>
    match String.ofList (Text.upper text.toList) with
    | "OR" => 5
    | "AND" => 10
    | "XOR" => 24
    | "AT" => if beginsWith ["TIME", "ZONE"] rest then 41 else 0
    | "NOT" => ((testPowers.find? fun p => beginsWith [p.1] rest).map (·.2)).getD 0
    | "IS" => 17
    | "OPERATOR" => 20
    | "DIV" => 40
    | word => (testPowers.lookup word).getD 0
  | _ => 0

/-- The right side of an operator of a power, which may be all or some of a list. -/
def rightSide (power : Nat) (comparison : Bool) : Reader (List Query × Bool) := do
  if ← takeOneOf ["ANY", "ALL", "SOME"] then
    insist comparison
    insist ((← get).head? = some (.mark "("))
    if (← get).drop 1 |>.head? |>.elim false fun l => l.isKeyword "SELECT" || l.isKeyword "WITH" then
      return (← level.above power, true)
    else return (← bracketed (level.above power), true)
  else return (← level.above power, false)

/-- The escape character of a pattern, if one is given. -/
def escape : Reader Unit := do
  if ← take "ESCAPE" then
    match ← next with
    | .string _ | .quoted _ | .word _ => pure ()
    | _ => failure

/-- A test of a value, from its NOT or its word on. -/
def test : Reader (List Query) := do
  let _ ← take "NOT"
  if ← takeOneOf ["REGEXP", "RLIKE"] then level.above 19
  else if ← take "IN" then
    bracketed do
      if ← peekOneOf ["SELECT", "WITH"] then return [← level.query]
      else commaSeparated level.any
  else if ← take "BETWEEN" then
    let low ← level.above 20
    keyword "AND"
    let high ← level.above 20
    return low ++ high
  else if ← takeOneOf ["LIKE", "ILIKE"] then
    let _ ← take "ANY"
    let pattern ← level.above 19
    escape
    return pattern
  else
    keyword "SIMILAR"
    keyword "TO"
    let pattern ← level.above 19
    escape
    return pattern

/-- What follows IS. -/
def isTest : Reader (List Query) := do
  let _ ← take "NOT"
  if ← takeOneOf ["NULL", "TRUE", "FALSE", "UNKNOWN"] then return []
  else
    keyword "DISTINCT"
    keyword "FROM"
    level.any

/-- An operator of a power with what stands at its right. -/
def operation (left : Expression) (power : Nat) : Reader Expression := do
  match ← get with
  | .mark "::" :: rest =>
    set rest
    dataType
    return { nested := left.nested }
  | .mark text :: rest =>
    insist (!(["!", "&&", "<<", ">>"].contains text))
    set rest
    let comparison := markPower text = 20 && text != "<=>"
    let (right, quantified) ← rightSide level power comparison
    let shape : Shape :=
      match left.shape with
      | .name _ => if ["=", "=="].contains text && !quantified then .assignment else .other
      | _ => .other
    return { shape := shape, nested := left.nested ++ right }
  | .word text :: rest =>
    match String.ofList (Text.upper text.toList) with
    | "AND" | "OR" | "XOR" =>
      set rest
      let (right, _) ← rightSide level power false
      return { nested := left.nested ++ right }
    | "IS" =>
      set rest
      return { nested := left.nested ++ (← isTest level) }
    | "AT" =>
      set (rest.drop 2)
      return { nested := left.nested ++ (← level.above power) }
    | _ => return { nested := left.nested ++ (← test level) }
  | _ => failure

/-- An expression, as far as its operators bind with more than a power. -/
def expression (bound : Nat) : Reader Expression := do
  repeated (← operand level) fun left => do
    let power := powerAhead (← get)
    if bound ≥ power then return none
    else some <$> operation level left power

end ReportDesk.Guard.Grammar
