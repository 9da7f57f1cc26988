import ReportDesk.Decimal.Words
import ReportDesk.Guard.Grammar.Expression

/-! # Queries and statements

    How a query is read: its common table expressions, its branches and how they are combined, its
    tables and joins, and the clauses after them. Statements stand apart by semicolons, and apart
    from queries only those are read that end a transaction.
-/

namespace ReportDesk.Guard.Grammar

variable (level : Level)

/-! ### Reserved words -/

/-- The keywords that are no alias unless AS comes before them. -/
def reserved : List String :=
  ["WITH", "EXPLAIN", "ANALYZE", "SELECT", "WHERE", "GROUP", "SORT", "HAVING", "ORDER", "TOP",
    "LATERAL", "VIEW", "LIMIT", "OFFSET", "FETCH", "UNION", "EXCEPT", "INTERSECT", "CLUSTER",
    "DISTRIBUTE", "RETURNING", "END"]

/-- The keywords that are no alias of a column. -/
def reservedForColumns : List String := reserved ++ ["FROM", "INTO"]

/-- The keywords that are no alias of a table. -/
def reservedForTables : List String :=
  reserved ++
    ["PIVOT", "UNPIVOT", "ON", "JOIN", "INNER", "CROSS", "FULL", "LEFT", "RIGHT", "NATURAL",
      "USING", "GLOBAL", "ANTI", "SEMI", "ASOF", "MATCH_CONDITION", "OUTER", "SET", "QUALIFY",
      "WINDOW", "FOR", "PARTITION", "PREWHERE", "SETTINGS", "FORMAT", "START", "CONNECT",
      "MATCH_RECOGNIZE"]

/-! ### Tables and joins -/

/-- A table or several joined ones, with the queries in them. -/
structure Tables where
  /-- Whether several tables are joined. -/
  joined : Bool := false
  /-- The queries in them. -/
  nested : List Query := []

/-- Columns with optional types in brackets, if there are any. -/
def columnNames : Reader Unit := do
  if ← takeMark "(" then
    commaSeparated' do
      identifier
      let _ ← attempt dataType
    mark ")"

/-- The alias of a table with its columns, if there is one. -/
def tableAlias : Reader Unit := do
  if ← takeAlias reservedForTables then columnNames

/-- What turns rows into columns after PIVOT, or columns into rows after UNPIVOT. -/
def pivots : Reader (List Query) := do
  repeated [] fun found => do
    if ← take "PIVOT" then
      mark "("
      let totals ← commaSeparated do
        name
        let total ← call level
        if ← take "AS" then identifier
        return total
      keyword "FOR"
      objectName
      keyword "IN"
      let values ← bracketed do
        if ← peekOneOf ["SELECT", "WITH"] then return [← level.query]
        else commaSeparated do
          let value ← level.any
          if ← take "AS" then identifier
          return value
      mark ")"
      tableAlias
      return some (found ++ totals ++ values)
    else if ← take "UNPIVOT" then
      bracketed do
        identifier
        keyword "FOR"
        identifier
        keyword "IN"
        bracketed (commaSeparated' identifier)
      tableAlias
      return some found
    else return none

/-- A query after an opening bracket, with the closing one and an alias. -/
def derivedTable : Reader (List Query) := do
  let query ← level.query
  mark ")"
  tableAlias
  return [query]

/-- A table by name, with its arguments, alias and hints. -/
def namedTable : Reader (List Query) := do
  objectName
  let version ←
    if ← takeAll ["FOR", "SYSTEM_TIME", "AS", "OF"] then level.any else pure []
  let arguments ←
    if ← takeMark "(" then
      if ← takeMark ")" then pure []
      else
        let found ← commaSeparated (argument level)
        mark ")"
        pure found
    else pure []
  let _ ← takeAll ["WITH", "ORDINALITY"]
  tableAlias
  let hints ←
    if (← peek "WITH") && (← get)[1]? = some (.mark "(") then
      let _ ← take "WITH"
      bracketed (commaSeparated level.any)
    else pure []
  return version ++ arguments ++ hints ++ (← pivots level)

/-- How tables can be joined, in the order in which it is looked for. -/
inductive Join where
  /-- With no condition to follow. -/
  | free
  /-- With a condition that may follow. -/
  | conditional
  /-- By the columns of one name. -/
  | natural

/-- The words of a join, if a join comes next. -/
def joinHead : Reader (Option Join) := do
  let _ ← take "GLOBAL"
  if ← take "CROSS" then
    oneOf ["JOIN", "APPLY"]
    return some .free
  else if ← take "OUTER" then
    keyword "APPLY"
    return some .free
  else
    let natural ← take "NATURAL"
    let kind : Join := if natural then .natural else .conditional
    if ← take "JOIN" then return some kind
    else if ← takeOneOf ["INNER", "ANTI", "SEMI"] then
      keyword "JOIN"
      return some kind
    else if ← takeOneOf ["LEFT", "RIGHT"] then
      let _ ← takeOneOf ["OUTER", "SEMI", "ANTI"]
      keyword "JOIN"
      return some kind
    else if ← take "FULL" then
      let _ ← take "OUTER"
      keyword "JOIN"
      return some kind
    else
      insist !natural
      return none

/-- The condition of a join, if one is given. -/
def joinCondition (kind : Join) : Reader (List Query) := do
  match kind with
  | .conditional =>
    if ← take "ON" then level.any
    else if ← take "USING" then
      bracketed (commaSeparated' identifier)
      return []
    else return []
  | _ => return []

mutual

/-- A single table: a query, a table function, tables joined in brackets, or a table by name. -/
def tableFactor : Nat → Reader Tables
  | 0 => failure
  | fuel + 1 => do
    if ← take "LATERAL" then
      if ← takeMark "(" then return { nested := ← derivedTable level }
      else
        objectName
        mark "("
        let found ←
          if ← takeMark ")" then pure []
          else
            let found ← commaSeparated (argument level)
            mark ")"
            pure found
        tableAlias
        return { nested := found }
    else if ← take "TABLE" then
      let found ← bracketed level.any
      tableAlias
      return { nested := found }
    else if ← takeMark "(" then
      match ← attempt (derivedTable level) with
      | some found => return { nested := found ++ (← pivots level) }
      | none =>
        let tables ← tablesAndJoins fuel
        insist tables.joined
        mark ")"
        tableAlias
        return tables
    else return { nested := ← namedTable level }

/-- A table and the tables joined to it. -/
def tablesAndJoins : Nat → Reader Tables
  | 0 => failure
  | fuel + 1 => do
    let first ← tableFactor fuel
    let more ← joins fuel
    return { joined := first.joined || more.joined, nested := first.nested ++ more.nested }

/-- The tables joined to the one before. -/
def joins : Nat → Reader Tables
  | 0 => failure
  | fuel + 1 => do
    match ← joinHead with
    | none => return {}
    | some kind =>
      let table ← tableFactor fuel
      let inner ←
        match kind with
        | .free => pure {}
        | _ =>
          if ← peekOneOf ["JOIN", "INNER", "LEFT", "RIGHT", "FULL"] then joins fuel
          else pure ({} : Tables)
      let condition ← joinCondition level kind
      let more ← joins fuel
      return { joined := true, nested := table.nested ++ inner.nested ++ condition ++ more.nested }

end

/-- The tables of a FROM clause. -/
def fromTables : Reader (List Query) := fun lexemes =>
  (commaSeparated ((·.nested) <$> tablesAndJoins level (3 * lexemes.length + 3))) lexemes

/-! ### Branches -/

/-- An item of a select list. A name that gives a value after an equals sign takes no alias. -/
def selectItem : Reader (List Query) := do
  match ← expressionOrStar level with
  | none => return []
  | some item =>
    match item.shape with
    | .assignment => return item.nested
    | .name lexeme =>
      insist !(lexeme.isKeyword "FROM")
      let _ ← takeAlias reservedForColumns
      return item.nested
    | .other =>
      let _ ← takeAlias reservedForColumns
      return item.nested

/-- How many rows to take, after TOP. -/
def top : Reader (List Query) := do
  let found ←
    if ← takeMark "(" then
      let found ← level.any
      mark ")"
      pure found
    else
      match ← next with
      | .number text =>
        insist (text.toList.all Char.isDigit && decide (text.toNat?.getD 0 < Decimal.unsignedLimit))
        pure []
      | _ => failure
  let _ ← take "PERCENT"
  let _ ← takeAll ["WITH", "TIES"]
  return found

/-- A condition or a list after its keywords, if they come next. -/
def clause (keywords : List String) (content : Reader (List Query)) : Reader (List Query) := do
  if ← takeAll keywords then content else return []

/-- A SELECT after its first word. -/
def select : Reader Body := do
  let all ← take "ALL"
  let distinct ← take "DISTINCT"
  insist !(all && distinct)
  let key ←
    if distinct then
      if ← take "ON" then
        mark "("
        if ← takeMark ")" then pure []
        else
          let found ← commaSeparated level.any
          mark ")"
          pure found
      else pure []
    else pure []
  let rows ← clause ["TOP"] (top level)
  let items ← commaSeparated (selectItem level)
  let into ← take "INTO"
  if into then
    let _ ← takeOneOf ["TEMP", "TEMPORARY"]
    let _ ← take "UNLOGGED"
    let _ ← take "TABLE"
    objectName
  let tables ← clause ["FROM"] (fromTables level)
  let condition ← clause ["WHERE"] level.any
  let grouping ← clause ["GROUP", "BY"] do
    if ← take "ALL" then return [] else commaSeparated level.any
  let sorting ← clause ["SORT", "BY"] (commaSeparated level.any)
  let having ← clause ["HAVING"] level.any
  let windows ← clause ["WINDOW"] <| commaSeparated do
    identifier
    keyword "AS"
    mark "("
    window level
  let qualify ← clause ["QUALIFY"] level.any
  return .select into
    (key ++ rows ++ items ++ tables ++ condition ++ grouping ++ sorting ++ having ++ windows
      ++ qualify)

/-- A row of values. -/
def valueRow : Reader (List Query) := do
  let _ ← take "ROW"
  bracketed (commaSeparated level.any)

/-- A whole table after TABLE: its name, or three lexemes of which the second is a point. -/
def wholeTable : Reader Body := do
  match ← get with
  | .word _ :: .mark "." :: third :: rest =>
    match third with
    | .word _ | .quoted _ =>
      set rest
      return .table
    | _ => failure
  | .quoted _ :: .mark "." :: third :: rest =>
    match third with
    | .word _ | .quoted _ =>
      set rest
      return .table
    | _ => failure
  | .word _ :: rest | .quoted _ :: rest =>
    insist (rest.head? != some (.mark "."))
    set (rest.drop 2)
    return .table
  | _ => failure

/-- A branch of a query: a SELECT, a query in brackets, rows of values, or a whole table. -/
def branch : Reader Body := do
  if ← take "SELECT" then select level
  else if ← takeMark "(" then
    let query ← level.query
    mark ")"
    return .query query
  else if ← take "VALUES" then return .values (← commaSeparated (valueRow level))
  else
    keyword "TABLE"
    wholeTable

/-- Branches combined by INTERSECT, from the left. -/
def intersection : Reader Body := do
  repeated (← branch level) fun left => do
    if ← take "INTERSECT" then
      let _ ← takeOneOf ["ALL", "DISTINCT"]
      return some (.combined left (← branch level))
    else return none

/-- The body of a query: intersections combined by UNION and EXCEPT, from the left. -/
def body : Reader Body := do
  repeated (← intersection level) fun left => do
    if ← takeOneOf ["UNION", "EXCEPT"] then
      let _ ← takeOneOf ["ALL", "DISTINCT"]
      let _ ← takeAll ["BY", "NAME"]
      return some (.combined left (← intersection level))
    else return none

/-! ### Queries -/

/-- A common table expression. -/
def commonTable : Reader (List Query) := do
  identifier
  unless ← take "AS" do
    columnNames
    keyword "AS"
  let query ← bracketed level.query
  if ← take "FROM" then identifier
  return [query]

/-- A limit and an offset in any order, if they come next. -/
def limitAndOffset : Reader (List Query) := do
  let limit : Reader (List Query) := clause ["LIMIT"] do
    if ← take "ALL" then return [] else level.any
  let offset : Reader (List Query) := clause ["OFFSET"] do
    let found ← level.any
    let _ ← takeOneOf ["ROW", "ROWS"]
    return found
  if ← peek "LIMIT" then return (← limit) ++ (← offset)
  else return (← offset) ++ (← limit)

/-- How many rows to fetch, if it is said. -/
def fetch : Reader Unit := do
  if ← take "FETCH" then
    oneOf ["FIRST", "NEXT"]
    unless ← takeOneOf ["ROW", "ROWS"] do
      match ← next with
      | .number _ | .string _ | .literal => pure ()
      | _ => failure
      let _ ← take "PERCENT"
      oneOf ["ROW", "ROWS"]
    unless ← take "ONLY" do
      keyword "WITH"
      keyword "TIES"

/-- A name in brackets, given as a string. -/
def bracketedString : Reader Unit :=
  bracketed stringLiteral

/-- In which form the rows are given, if it is said. -/
def outputForm : Reader Unit := do
  if ← take "FOR" then
    if ← take "XML" then
      if ← takeOneOf ["RAW", "PATH"] then
        if (← get).head? = some (.mark "(") then bracketedString
      else oneOf ["AUTO", "EXPLICIT"]
      repeated () fun _ => do
        if ← takeMark "," then
          if ← take "ROOT" then bracketedString
          else if ← take "BINARY" then keyword "BASE64"
          else oneOf ["ELEMENTS", "TYPE"]
          return some ()
        else return none
    else if ← take "JSON" then
      oneOf ["AUTO", "PATH"]
      repeated () fun _ => do
        if ← takeMark "," then
          if ← take "ROOT" then bracketedString
          else oneOf ["INCLUDE_NULL_VALUES", "WITHOUT_ARRAY_WRAPPER"]
          return some ()
        else return none
    else if ← take "SHARE" then
      if ← take "OF" then objectName
      unless ← take "NOWAIT" do
        let _ ← takeAll ["SKIP", "LOCKED"]
    else keyword "BROWSE"

/-- A query. -/
def query : Reader Query := do
  let ctes ← clause ["WITH"] do
    let _ ← take "RECURSIVE"
    commaSeparated (commonTable level)
  let body ← body level
  let keys ← ordering level
  let counts ← limitAndOffset level
  fetch
  outputForm
  return .mk ctes body (keys ++ counts)

/-- The readers that may go a number of levels deep. -/
def levels : Nat → Level
  | 0 => { query := failure, expression := fun _ => failure }
  | depth + 1 => { query := query (levels depth), expression := expression (levels depth) }

/-! ### Statements -/

/-- How deeply a statement may be nested, counting the statement itself. -/
def maxDepth : Nat := 50

/-- The end of a transaction or of a part of it. -/
def transactionEnd : Reader Unit := do
  if ← take "SAVEPOINT" then identifier
  else if ← take "RELEASE" then
    let _ ← take "SAVEPOINT"
    identifier
  else
    let isUndone ← take "ROLLBACK"
    unless isUndone do keyword "COMMIT"
    let _ ← takeOneOf ["TRANSACTION", "WORK"]
    if ← take "AND" then
      let _ ← take "NO"
      keyword "CHAIN"
    if isUndone then
      if ← take "TO" then
        let _ ← take "SAVEPOINT"
        identifier

/-- A statement: a query, or one that ends a transaction. Others are not read. -/
def statement : Reader Statement := do
  if (← peekOneOf ["SELECT", "WITH", "VALUES"]) || (← get).head? = some (.mark "(") then
    return .query (← (levels (maxDepth - 1)).query)
  else
    transactionEnd
    return .other

/-- All statements of a list of lexemes. After a statement there has to be a semicolon, the end, or
    the word END, at which reading stops. -/
def statements : Nat → Bool → List Lexeme → Option (List Statement)
  | 0, _, _ => none
  | _ + 1, _, [] => some []
  | fuel + 1, _, .mark ";" :: rest => statements fuel false rest
  | fuel + 1, after, lexemes =>
    if after then if beginsWith ["END"] lexemes then some [] else none
    else
      match statement.run lexemes with
      | some (first, rest) => (statements fuel true rest).map (first :: ·)
      | none => none

/-- The parser of this grammar. -/
def parse : Parser := fun text =>
  let found := (Lexeme.ofText? text).bind fun lexemes =>
    statements (2 * lexemes.length + 2) false lexemes
  match found with
  | some statements => .ok statements
  | none => .error "not a list of queries"

end ReportDesk.Guard.Grammar
