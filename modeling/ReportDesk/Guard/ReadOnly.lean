import ReportDesk.Guard.Mode
import ReportDesk.Guard.Statement
import ReportDesk.Text.Blank
import ReportDesk.Text.Case
import ReportDesk.Text.Pieces

/-! # Statements that only read

    A statement is looked at before it is run. It has to begin with SELECT and must not have one of
    the forbidden words anywhere in its text, not even inside a name. In the stricter mode it also
    has to be a single query none of whose branches writes, as a parser finds it.
-/

namespace ReportDesk.Guard

/-- Words that a statement is rejected for, in the order in which they are looked for. -/
def forbiddenWords : List String :=
  ["DROP", "DELETE", "UPDATE", "INSERT", "ALTER", "CREATE", "TRUNCATE", "EXEC", "EXECUTE"]

/-- Why a statement is rejected. -/
inductive Rejection where
  /-- It does not begin with SELECT. -/
  | notSelect
  /-- It has a forbidden word in it. -/
  | forbidden (word : String)
  /-- It cannot be parsed. -/
  | unreadable (cause : String)
  /-- It is a query that writes. -/
  | impure
  /-- It is a statement that is no query. -/
  | notQuery
  /-- It is not one statement but another number. -/
  | count (statements : Nat)
  deriving DecidableEq, Repr

/-- A reason in words. -/
def Rejection.message : Rejection → String
  | .notSelect => "only SELECT statements may be executed"
  | .forbidden word => "statement contains forbidden keyword " ++ word
  | .unreadable cause => "statement does not parse: " ++ cause
  | .impure => "query writes data or contains a non-query body"
  | .notQuery => "statement is not a query"
  | .count n => "expected exactly one statement, found " ++ toString n

/-- Looks at the beginning of a statement and at the words in it. -/
def checkWords (sql : String) : Except Rejection Unit :=
  let text := Text.upper (Text.trimBoth sql.toList)
  if !"SELECT".toList.isPrefixOf text then .error .notSelect
  else
    match forbiddenWords.find? fun word => Text.occursIn word.toList text with
    | some word => .error (.forbidden word)
    | none => .ok ()

/-- Looks at the structure of a statement. -/
def checkStructure (parse : Parser) (sql : String) : Except Rejection Unit :=
  match parse sql with
  | .error cause => .error (.unreadable cause)
  | .ok [.query query] => if query.isPure then .ok () else .error .impure
  | .ok [.other] => .error .notQuery
  | .ok statements => .error (.count statements.length)

/-- Whether a statement only reads, as far as a mode looks. -/
def checkBy (parse : Parser) (sql : String) : Mode → Except Rejection Unit
  | .denylist => checkWords sql
  | .parsed => do
    checkWords sql
    checkStructure parse sql

end ReportDesk.Guard
