import ReportDesk.Embedded.Fault
import ReportDesk.Embedded.Lexeme
import ReportDesk.Embedded.Statement

/-! # Reading statements

    A statement is read from its lexemes, from left to right and without going back. The first
    lexeme that cannot follow those before it is what is wrong with a statement. What comes after
    the semicolon at its end does not belong to it.
-/

namespace ReportDesk.Embedded.Grammar

/-- A way to read something from the front of a list of lexemes. -/
abbrev Reader (α : Type) := StateT (List Lexeme) (Except Fault) α

/-! ### Lexemes -/

/-- The next lexeme. -/
def next : Reader Lexeme := do
  return (← get).headD { kind := .ending, text := "" }

/-- Goes past the next lexeme. -/
def advance : Reader Unit :=
  modify (·.drop 1)

/-- Refuses the next lexeme. -/
def refuse {α : Type} : Reader α := do
  let lexeme ← next
  match lexeme.kind with
  | .unrecognized => throw (.unrecognized lexeme.text)
  | .ending => throw .incomplete
  | _ => throw (.misplaced lexeme.text)

/-- Whether a keyword comes next. -/
def peek (keyword : String) : Reader Bool := do
  return (← next).isKeyword keyword

/-- Takes a keyword if it comes next, and says whether it did. -/
def take (keyword : String) : Reader Bool := do
  if (← next).isKeyword keyword then
    advance
    return true
  else return false

/-- Takes a keyword that must come next. -/
def insist (keyword : String) : Reader Unit := do
  unless ← take keyword do refuse

/-- Takes a mark if it comes next, and says whether it did. -/
def takeMark (mark : String) : Reader Bool := do
  if (← next).isMark mark then
    advance
    return true
  else return false

/-- Takes a mark that must come next. -/
def insistMark (mark : String) : Reader Unit := do
  unless ← takeMark mark do refuse

/-- Repeats a step while it says so, at most `fuel` times. -/
def repeated {α : Type} (step : α → Reader (Option α)) : Nat → α → Reader α
  | 0, value => pure value
  | fuel + 1, value => do
    match ← step value with
    | some further => repeated step fuel further
    | none => pure value

/-- Items with commas between. -/
def commaSeparated {α : Type} (item : Reader α) : Reader (List α) := do
  let first ← item
  let step (found : List α) : Reader (Option (List α)) := do
    if ← takeMark "," then return some ((← item) :: found)
    else return none
  return (← repeated step (← get).length [first]).reverse

/-! ### Names -/

/-- The keywords that cannot be names. -/
def reserved : List String :=
  ["ADD", "ALL", "ALTER", "AND", "AS", "AUTOINCREMENT", "BETWEEN", "CASE", "CHECK", "COLLATE",
    "COMMIT", "CONSTRAINT", "CREATE", "DEFAULT", "DEFERRABLE", "DELETE", "DISTINCT", "DROP",
    "ELSE", "ESCAPE", "EXCEPT", "EXISTS", "FOREIGN", "FROM", "GROUP", "HAVING", "IN", "INDEX",
    "INSERT", "INTERSECT", "INTO", "IS", "ISNULL", "JOIN", "LIMIT", "NOT", "NOTHING", "NOTNULL",
    "NULL", "ON", "OR", "ORDER", "PRIMARY", "REFERENCES", "RETURNING", "SELECT", "SET", "TABLE",
    "THEN", "TO", "TRANSACTION", "UNION", "UNIQUE", "UPDATE", "USING", "VALUES", "WHEN", "WHERE"]

/-- The keywords that begin a join. -/
def joinWords : List String :=
  ["CROSS", "FULL", "INNER", "LEFT", "NATURAL", "OUTER", "RIGHT"]

/-- The keywords that are operators, where an operator can stand. -/
def operatorWords : List String :=
  ["GLOB", "LIKE", "MATCH", "REGEXP"]

/-- The name that a lexeme is, if it is one. -/
def nameOf? (lexeme : Lexeme) : Option (String × Bool) :=
  match lexeme.kind with
  | .word => if reserved.any lexeme.isKeyword then none else some (lexeme.text, false)
  | .name name doubtful => some (name, doubtful)
  | _ => none

/-- Takes a name, which can be written as a string too. -/
def name : Reader String := do
  let lexeme ← next
  match lexeme.kind, nameOf? lexeme with
  | _, some (name, _) =>
    advance
    return name
  | .string text, none =>
    advance
    return text
  | _, none => refuse

/-- Takes an alias if there is one: any name after AS, and without AS a name that is no operator
    and begins no join. -/
def alias? : Reader (Option String) := do
  if ← take "AS" then return some (← name)
  else
    let lexeme ← next
    if (joinWords ++ operatorWords).any lexeme.isKeyword then return none
    else
      match lexeme.kind, nameOf? lexeme with
      | _, some (name, _) =>
        advance
        return some name
      | .string text, none =>
        advance
        return some text
      | _, none => return none

/-- A column by the names that stand before it with points between. -/
def qualified (first : String) (doubtful : Bool) : Reader ColumnName := do
  if ← takeMark "." then
    let second ← name
    if ← takeMark "." then
      return { schema := some first, table := some second, column := ← name }
    else return { table := some first, column := second }
  else return { column := first, doubtful := doubtful }

/-! ### Expressions -/

/-- An operator that is a mark, and the power it binds with. -/
def markOperator? (mark : String) : Option (Operator × Nat) :=
  match mark with
  | "=" | "==" => some (.eq, 4)
  | "<>" | "!=" => some (.ne, 4)
  | "<" => some (.lt, 5)
  | "<=" => some (.le, 5)
  | ">" => some (.gt, 5)
  | ">=" => some (.ge, 5)
  | "+" => some (.add, 8)
  | "-" => some (.subtract, 8)
  | "*" => some (.multiply, 9)
  | "/" => some (.divide, 9)
  | "%" => some (.remainder, 9)
  | "||" => some (.concatenate, 10)
  | _ => none

/-- The negation of an expression if a condition holds. -/
def negatedIf (negated : Bool) (e : Expr) : Expr :=
  if negated then .not e else e

section

variable (expression : Nat → Reader Expr)

/-- The arguments of a function after its opening bracket, with the closing one. -/
def arguments (name : String) : Reader Expr := do
  if ← takeMark "*" then
    insistMark ")"
    return .call name [] true
  else if ← takeMark ")" then return .call name [] false
  else
    let found ← commaSeparated (expression 0)
    insistMark ")"
    return .call name found false

/-- What stands before any operator. -/
def operand : Reader Expr := do
  let lexeme ← next
  match lexeme.kind with
  | .string text =>
    advance
    return .value (.text text)
  | .number value =>
    advance
    return .value value
  | .whole size =>
    advance
    return .whole size
  | .bytes bytes =>
    advance
    return .value (.blob bytes)
  | .placeholder =>
    advance
    return .value .null
  | .mark =>
    if ← takeMark "(" then
      let e ← expression 0
      insistMark ")"
      return e
    else if ← takeMark "-" then return .negate (← expression 12)
    else if ← takeMark "+" then expression 12
    else refuse
  | _ =>
    if ← take "NOT" then return .not (← expression 3)
    else if ← take "NULL" then return .value .null
    else
      match nameOf? lexeme with
      | none => refuse
      | some (first, doubtful) =>
        advance
        if ← takeMark "(" then arguments expression first
        else return .column (← qualified first doubtful)

/-- What follows the keyword of an operator that can be negated. -/
def membership (e : Expr) (negated : Bool) : Reader Expr := do
  if ← take "LIKE" then return negatedIf negated (.like e (← expression 4))
  else if ← take "BETWEEN" then
    let low ← expression 4
    insist "AND"
    return negatedIf negated (.between e low (← expression 4))
  else if ← take "IN" then
    insistMark "("
    if ← takeMark ")" then return negatedIf negated (.oneOf e [])
    else
      let items ← commaSeparated (expression 0)
      insistMark ")"
      return negatedIf negated (.oneOf e items)
  else refuse

/-- Goes on from an expression with an operator that binds with more than a power, if one comes
    next. -/
def operation (power : Nat) (e : Expr) : Reader (Option Expr) := do
  let lexeme ← next
  match lexeme.kind with
  | .mark =>
    match markOperator? lexeme.text with
    | some (op, binding) =>
      if binding > power then
        advance
        return some (.binary e op (← expression binding))
      else return none
    | none => return none
  | .word =>
    if lexeme.isKeyword "OR" && power < 1 then
      advance
      return some (.binary e .or (← expression 1))
    else if lexeme.isKeyword "AND" && power < 2 then
      advance
      return some (.binary e .and (← expression 2))
    else if power ≥ 4 then return none
    else if ← take "ISNULL" then return some (.isNull e)
    else if ← take "NOTNULL" then return some (.not (.isNull e))
    else if ← take "IS" then
      let negated ← take "NOT"
      if ← take "NULL" then return some (negatedIf negated (.isNull e))
      else return some (.binary e (if negated then .differs else .same) (← expression 4))
    else if ← take "NOT" then
      if ← take "NULL" then return some (.not (.isNull e))
      else return some (← membership expression e true)
    else if ["LIKE", "BETWEEN", "IN"].any lexeme.isKeyword then
      return some (← membership expression e false)
    else return none
  | _ => return none

end

/-- An expression whose operators bind with more than a power, nested no more than `depth` times.
    Each level of nesting takes a lexeme. -/
def expression : Nat → Nat → Reader Expr
  | 0, _ => refuse
  | depth + 1, power => do
    let first ← operand (expression depth)
    repeated (operation (expression depth) power) (← get).length first

/-- An expression. -/
def anyExpression : Reader Expr := do
  expression ((← get).length + 1) 0

/-! ### Selections -/

/-- The text of lexemes as it was written, up to the lexeme that follows. -/
def written (taken : List Lexeme) (following : Lexeme) : String :=
  match taken with
  | [] => ""
  | first :: rest =>
    let text := first.text ++ String.join (rest.map fun l => l.before ++ l.text) ++ following.before
    String.ofList (text.toList.reverse.dropWhile Lexeme.isBlank).reverse

/-- An item of a selection. -/
def item : Reader Item := do
  if ← takeMark "*" then return .all
  match ← get with
  | first :: second :: third :: _ =>
    if second.isMark "." && third.isMark "*" && (nameOf? first).isSome then
      modify (·.drop 3)
      return .allOf (((nameOf? first).map (·.1)).getD "")
  | _ => pure ()
  let before ← get
  let e ← anyExpression
  let after ← get
  let text := written (before.take (before.length - after.length)) (← next)
  return .expr e text (← alias?)

/-- A table. -/
def source : Reader Source := do
  let first ← name
  if ← takeMark "." then
    let second ← name
    return { schema := some first, name := second, asName := ← alias? }
  else return { name := first, asName := ← alias? }

/-- A join's condition, if there is one. -/
def joinCondition : Reader (Option Expr) := do
  if ← take "ON" then return some (← anyExpression)
  else return none

/-- The keywords of a join, if one comes next. -/
def joinKind? : Reader (Option JoinKind) := do
  if ← take "JOIN" then return some .inner
  else if ← take "INNER" then
    insist "JOIN"
    return some .inner
  else if ← take "CROSS" then
    insist "JOIN"
    return some .inner
  else
    let kind : Option JoinKind ←
      if ← take "LEFT" then pure (some .left)
      else if ← take "RIGHT" then pure (some .right)
      else if ← take "FULL" then pure (some .full)
      else pure none
    if kind.isSome then
      let _ ← take "OUTER"
      insist "JOIN"
    return kind

/-- Goes on from the joined tables with another one, if one comes next. -/
def furtherTable (found : List Joined) : Reader (Option (List Joined)) := do
  if ← takeMark "," then return some ({ kind := .inner, source := ← source } :: found)
  else
    match ← joinKind? with
    | none => return none
    | some kind =>
      let table ← source
      return some ({ kind := kind, source := table, condition := ← joinCondition } :: found)

/-- A sort key. -/
def sortKey : Reader SortKey := do
  let e ← anyExpression
  if ← take "DESC" then return { e := e, descending := true }
  else
    let _ ← take "ASC"
    return { e := e }

/-- A selection after its first keyword. -/
def selection : Reader Selection := do
  let distinct ← take "DISTINCT"
  unless distinct do
    let _ ← take "ALL"
  let items ← commaSeparated item
  let mut found : Selection := { distinct := distinct, items := items }
  if ← take "FROM" then
    let first ← source
    let joined ← repeated furtherTable (← get).length []
    found := { found with source := some first, joined := joined.reverse }
  if ← take "WHERE" then found := { found with condition := some (← anyExpression) }
  if ← take "GROUP" then
    insist "BY"
    found := { found with grouping := ← commaSeparated anyExpression }
  if ← take "ORDER" then
    insist "BY"
    found := { found with ordering := ← commaSeparated sortKey }
  if ← take "LIMIT" then
    let limit ← anyExpression
    if ← take "OFFSET" then
      found := { found with limit := some limit, offset := some (← anyExpression) }
    else if ← takeMark "," then
      found := { found with limit := some (← anyExpression), offset := some limit }
    else found := { found with limit := some limit }
  return found

/-! ### Statements -/

/-- Insists that the statement ends here. -/
def ending : Reader Unit := do
  let lexeme ← next
  match lexeme.kind with
  | .ending => pure ()
  | _ => unless lexeme.isMark ";" do refuse

/-- Goes past the keywords of a conflict rule. -/
def conflictRule : Reader Unit := do
  if ← take "OR" then advance

/-- A condition for rows, if there is one, and the end. -/
def conditionToEnd : Reader (Option Expr) := do
  let condition ← if ← take "WHERE" then pure (some (← anyExpression)) else pure none
  ending
  return condition

/-- Names of columns in brackets, if there are any. -/
def columnList : Reader (List String) := do
  if ← takeMark "(" then
    let names ← commaSeparated name
    insistMark ")"
    return names
  else return []

/-- A row of values in brackets. -/
def valueRow : Reader (List Expr) := do
  insistMark "("
  let values ← commaSeparated anyExpression
  insistMark ")"
  return values

/-- What adds rows to a table, after the table. -/
def insertion : Reader Change := do
  let columns ← columnList
  if ← take "DEFAULT" then
    insist "VALUES"
    ending
    return .insert columns []
  else if ← take "SELECT" then
    let found ← selection
    ending
    return .insertFrom columns found
  else
    insist "VALUES"
    let rows ← commaSeparated valueRow
    ending
    return .insert columns rows

/-- A column and the value that it gets. -/
def assignment : Reader (String × Expr) := do
  let column ← name
  insistMark "="
  return (column, ← anyExpression)

/-- Goes past the keywords for what is to be left alone, and says whether they were there. -/
def ifThere (negated : Bool) : Reader Bool := do
  if ← take "IF" then
    if negated then insist "NOT"
    insist "EXISTS"
    return true
  else return false

/-- What a statement makes. -/
def creation : Reader Statement := do
  let _ ← (do return (← take "TEMP") || (← take "TEMPORARY"))
  let isNamed ← (do return (← take "TABLE") || (← take "VIEW"))
  if isNamed then
    let ifMissing ← ifThere true
    let first ← name
    let made ← if ← takeMark "." then name else pure first
    return .make made ifMissing
  else return .create

/-- Whether the keywords of a recursive table stand somewhere. -/
def isRecursive : List Lexeme → Bool
  | a :: b :: rest => (a.isKeyword "WITH" && b.isKeyword "RECURSIVE") || isRecursive (b :: rest)
  | _ => false

/-- A statement. -/
def statement : Reader Statement := do
  modify (·.dropWhile (·.isMark ";"))
  let lexemes ← get
  if isRecursive (lexemes.takeWhile fun l => !l.isMark ";") then return .endless
  match (← next).kind with
  | .ending => return .empty
  | _ =>
    if ← take "SELECT" then
      let found ← selection
      ending
      return .select found
    else if ← take "DELETE" then
      insist "FROM"
      let target ← source
      return .change target true (.delete (← conditionToEnd))
    else if ← take "INSERT" then
      conflictRule
      insist "INTO"
      let target ← source
      return .change target true (← insertion)
    else if ← take "REPLACE" then
      insist "INTO"
      let target ← source
      return .change target true (← insertion)
    else if ← take "UPDATE" then
      conflictRule
      let target ← source
      insist "SET"
      let assignments ← commaSeparated assignment
      return .change target true (.update assignments (← conditionToEnd))
    else if ← take "ALTER" then
      insist "TABLE"
      return .change (← source) true .reshape
    else if ← take "DROP" then
      unless ← take "VIEW" do insist "TABLE"
      let optional ← ifThere false
      return .change (← source) (!optional) .reshape
    else if ← take "CREATE" then creation
    else refuse

/-- How many values a statement leaves open: one for each bare question mark and one for each
    name. -/
def openValues (lexemes : List Lexeme) : Nat :=
  let texts := (lexemes.takeWhile fun l => !l.isMark ";").filterMap fun l =>
    match l.kind with
    | .placeholder => some l.text
    | _ => none
  (texts.filter (· = "?")).length + (texts.filter (· ≠ "?")).eraseDups.length

/-- The statement that a text begins with, and how many values it leaves open. -/
def read (text : String) : Except Fault (Statement × Nat) := do
  let lexemes := Lexeme.ofText text
  return (← statement.run' lexemes, openValues lexemes)

end ReportDesk.Embedded.Grammar
