import ReportDesk.Sql.Dialect

/-! # Arguments

    What the program is asked for on its command line. Options may stand before and after the other
    words. Two of them can be given before the command as well as after it. A single `--` ends the
    options. Asking for help or for the version ends the reading.
-/

namespace ReportDesk.CommandLine

/-! ### Orders -/

/-- A document to make of a report's table. -/
structure DocumentOrder where
  /-- The name of its format. -/
  format : String
  /-- The path of its file. -/
  path : Option String := none
  /-- Its title. -/
  title : Option String := none
  deriving DecidableEq, Repr

/-- What can be done. -/
inductive Command where
  /-- List the tables. -/
  | tables
  /-- List the columns of a table. -/
  | columns (table : String)
  /-- Compile the report in a file; without a database if a dialect is given. -/
  | sql (file : String) (offline : Option Sql.Dialect)
  /-- Run the report in a file, and make a document if one is ordered. -/
  | run (file : String) (document : Option DocumentOrder)
  /-- Run a statement. -/
  | query (sql : String)
  /-- Listen for requests, at a port if one is given. -/
  | serve (port : Option Nat)
  deriving DecidableEq, Repr

/-- A command and where it is to be done. -/
structure Order where
  /-- The file of the settings. -/
  config : Option String
  /-- The name of the database. -/
  connection : Option String
  /-- What is to be done. -/
  command : Command
  deriving DecidableEq, Repr

/-- What is asked for. -/
inductive Request where
  | order (order : Order)
  | help
  | version
  deriving DecidableEq, Repr

/-! ### Errors -/

/-- Why a command line cannot be read. -/
inductive UsageError where
  /-- No command is given. -/
  | noCommand
  /-- No command has this name. -/
  | unknownCommand (name : String)
  /-- No option is written like this. -/
  | unknownOption (word : String)
  /-- An option is given twice. -/
  | repeated (name : String)
  /-- An option is given without its value. -/
  | noValue (name : String)
  /-- An option or an operand cannot have this value. -/
  | badValue (name value : String)
  /-- One word too many. -/
  | unexpected (word : String)
  /-- A word too few. -/
  | missing (name : String)
  /-- An option is given without the one it depends on. -/
  | lonely (name needed : String)
  deriving DecidableEq, Repr

/-- An error in words. -/
def UsageError.message : UsageError → String
  | .noCommand => "a command is required"
  | .unknownCommand name => "unrecognized command '" ++ name ++ "'"
  | .unknownOption word => "unexpected argument '" ++ word ++ "'"
  | .repeated name => "'--" ++ name ++ "' cannot be used multiple times"
  | .noValue name => "a value is required for '--" ++ name ++ "'"
  | .badValue name value => "invalid value '" ++ value ++ "' for '" ++ name ++ "'"
  | .unexpected word => "unexpected argument '" ++ word ++ "'"
  | .missing name => "'" ++ name ++ "' is required"
  | .lonely name needed => "'--" ++ name ++ "' requires '--" ++ needed ++ "'"

/-! ### Options -/

/-- What an option does. -/
inductive Effect where
  /-- It takes a value, of those that are accepted. -/
  | value (accepts : String → Bool)
  /-- It is on. -/
  | switch
  /-- It ends the reading. -/
  | stop (request : Request)

/-- An option. -/
structure Flag where
  /-- Its name, written after two hyphens. -/
  name : String
  /-- Its letter, written after one. -/
  letter : Option Char
  /-- What it does. -/
  effect : Effect

/-- Whether a text can be a path. -/
def isPath (text : String) : Bool := !text.isEmpty

/-- The dialect that a name stands for. -/
def dialect? (name : String) : Option Sql.Dialect :=
  match name with
  | "tsql" => some .tsql
  | "sqlite" => some .sqlite
  | _ => none

/-- The port that digits stand for, with or without a plus sign. -/
def port? (text : String) : Option Nat :=
  let digits := match text.toList with
    | '+' :: digits => digits
    | cs => cs
  if digits.isEmpty || !digits.all Char.isDigit then none
  else
    let port := digits.foldl (fun n c => n * 10 + (c.toNat - '0'.toNat)) 0
    if port < 65536 then some port else none

/-- The options that every command has. -/
def commonFlags : List Flag :=
  [⟨"config", none, .value isPath⟩, ⟨"connection", none, .value fun _ => true⟩,
   ⟨"help", some 'h', .stop .help⟩]

/-- The options before the command. -/
def leadingFlags : List Flag :=
  commonFlags ++ [⟨"version", some 'V', .stop .version⟩]

/-- What can follow a command: options of its own, and the names of its operands. -/
structure Usage where
  /-- The options. -/
  flags : List Flag := []
  /-- The operands. -/
  operands : List String := []

/-- The commands by name, and what can follow them. -/
def usages : List (String × Usage) :=
  [("tables", {}),
   ("columns", { operands := ["table"] }),
   ("sql",
    { flags := [⟨"offline", none, .switch⟩,
        ⟨"dialect", some 'd', .value fun name => (dialect? name).isSome⟩]
      operands := ["file"] }),
   ("run",
    { flags := [⟨"export", some 'e', .value fun _ => true⟩, ⟨"out", some 'o', .value isPath⟩,
        ⟨"title", some 't', .value fun _ => true⟩]
      operands := ["file"] }),
   ("query", { operands := ["sql"] }),
   ("serve", { flags := [⟨"port", some 'p', .value fun text => (port? text).isSome⟩] })]

/-! ### Reading words -/

/-- The options and operands that words give. -/
structure Given where
  /-- The values of the options; a switch has the empty one. -/
  options : List (String × String) := []
  /-- The other words. -/
  operands : List String := []

/-- The value of an option. -/
def Given.value? (given : Given) (name : String) : Option String :=
  given.options.lookup name

/-- Adds an option, which must not have been given. -/
def Given.addOption (given : Given) (name value : String) : Except UsageError Given :=
  if (given.value? name).isSome then .error (.repeated name)
  else .ok { given with options := (name, value) :: given.options }

/-- Adds an option's value, which must be accepted. -/
def Given.addValue (given : Given) (flag : Flag) (accepts : String → Bool) (value : String) :
    Except UsageError Given :=
  if accepts value then given.addOption flag.name value
  else .error (.badValue flag.name value)

/-- Adds an operand. -/
def Given.addOperand (given : Given) (word : String) : Given :=
  { given with operands := given.operands ++ [word] }

/-- Where a reading of words ends. -/
inductive Reading where
  /-- At a command, or at the end. -/
  | upTo (given : Given) (rest : List String)
  /-- At an option that ends it. -/
  | stopped (request : Request)

/-- A word by its form. -/
inductive Word where
  /-- The mark that ends the options. -/
  | mark
  /-- An option by its name, and the value after an equals sign. -/
  | named (name : String) (value : Option String)
  /-- An option by its letter, and what follows that. -/
  | lettered (letter : Char) (rest : List Char)
  /-- Any other word. A single hyphen is one. -/
  | plain

/-- The form of a word. -/
def formOf (word : String) : Word :=
  match word.toList with
  | ['-', '-'] => .mark
  | '-' :: '-' :: cs =>
    let value := (cs.dropWhile (· ≠ '=')).drop 1
    .named (String.ofList (cs.takeWhile (· ≠ '=')))
      (if cs.contains '=' then some (String.ofList value) else none)
  | '-' :: letter :: rest => .lettered letter rest
  | _ => .plain

/-- The flag and the value attached to it that a word gives, if it is written as an option. -/
def flagIn? (flags : List Flag) (word : String) :
    Option (Except UsageError (Flag × Option String)) :=
  match formOf word with
  | .named name value =>
    match flags.find? (·.name == name) with
    | some flag => some (.ok (flag, value))
    | none => some (.error (.unknownOption word))
  | .lettered letter rest =>
    match flags.find? (·.letter == some letter) with
    | none => some (.error (.unknownOption word))
    | some flag =>
      match flag.effect, rest with
      | .value _, [] => some (.ok (flag, none))
      | .value _, '=' :: value => some (.ok (flag, some (String.ofList value)))
      | .value _, value => some (.ok (flag, some (String.ofList value)))
      | _, _ => some (.ok (flag, none))
  | _ => none

/-- Reads words. The operands are at most `limit`; without a limit the first of them is a command,
    and the reading ends there. -/
def readWords (flags : List Flag) (limit : Option Nat) (given : Given) :
    List String → Except UsageError Reading
  | [] => .ok (.upTo given [])
  | word :: rest =>
    match flagIn? flags word with
    | some (.error error) => .error error
    | some (.ok (flag, attached)) =>
      match flag.effect, attached with
      | .value accepts, some value => do
        readWords flags limit (← given.addValue flag accepts value) rest
      | .value accepts, none =>
        match rest with
        | [] => .error (.noValue flag.name)
        | value :: rest =>
          match formOf value with
          | .plain => do readWords flags limit (← given.addValue flag accepts value) rest
          | _ => .error (.noValue flag.name)
      | _, some value => .error (.badValue flag.name value)
      | .switch, none => do readWords flags limit (← given.addOption flag.name "") rest
      | .stop request, none => .ok (.stopped request)
    | none =>
      match formOf word, limit with
      | .plain, none => .ok (.upTo given (word :: rest))
      | .plain, some limit =>
        if given.operands.length < limit then readWords flags (some limit) (given.addOperand word) rest
        else .error (.unexpected word)
      | _, none =>
        match rest with
        | [] => .ok (.upTo given [])
        | word :: _ => .error (.unexpected word)
      | _, some limit =>
        let operands := given.operands ++ rest
        match operands.drop limit with
        | [] => .ok (.upTo { given with operands := operands } [])
        | word :: _ => .error (.unexpected word)

/-! ### Reading a command line -/

/-- An operand that has to be given. -/
def Given.operand (given : Given) (name : String) : Except UsageError String :=
  match given.operands with
  | word :: _ => .ok word
  | [] => .error (.missing name)

/-- An operand that has to be given and to be a path. -/
def Given.file (given : Given) : Except UsageError String := do
  let file ← given.operand "file"
  if isPath file then .ok file else .error (.badValue "file" file)

/-- The document that options order. -/
def Given.document (given : Given) : Except UsageError (Option DocumentOrder) :=
  match given.value? "export", given.value? "out" with
  | some format, path =>
    .ok (some { format := format, path := path, title := given.value? "title" })
  | none, some _ => .error (.lonely "out" "export")
  | none, none => .ok none

/-- The command that a name and what follows it make. -/
def command (name : String) (given : Given) : Except UsageError Command := do
  match name with
  | "tables" => return .tables
  | "columns" => return .columns (← given.operand "table")
  | "sql" =>
    let dialect := ((given.value? "dialect").bind dialect?).getD .tsql
    return .sql (← given.file) (if (given.value? "offline").isSome then some dialect else none)
  | "run" => return .run (← given.file) (← given.document)
  | "query" => return .query (← given.operand "sql")
  | "serve" => return .serve ((given.value? "port").bind port?)
  | _ => .error (.unknownCommand name)

/-- What `help` and the words after it ask for: no more than one command can be named. -/
def helpRequest : List String → Except UsageError Request
  | [] => .ok .help
  | name :: rest =>
    if name != "help" && (usages.lookup name).isNone then .error (.unknownCommand name)
    else
      match rest with
      | [] => .ok .help
      | word :: _ => .error (.unknownCommand word)

/-- Reads a command line. What is given after the command counts more than what is given before. -/
def Request.parse (words : List String) : Except UsageError Request := do
  match ← readWords leadingFlags none {} words with
  | .stopped request => return request
  | .upTo _ [] => .error .noCommand
  | .upTo before (name :: rest) =>
    if name = "help" then helpRequest rest
    else
      match usages.lookup name with
      | none => .error (.unknownCommand name)
      | some usage =>
        match ← readWords (usage.flags ++ commonFlags) (some usage.operands.length) {} rest with
        | .stopped request => return request
        | .upTo after _ =>
          return .order
            { config := after.value? "config" <|> before.value? "config"
              connection := after.value? "connection" <|> before.value? "connection"
              command := ← command name after }

end ReportDesk.CommandLine
