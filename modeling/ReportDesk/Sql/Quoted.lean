/-! # Quoting

    Names stand between brackets and strings between single quotes. Inside, the closing mark is
    written twice, so that no name and no value can end its own quoting.
-/

namespace ReportDesk.Sql

/-- Every occurrence of `mark` written twice. -/
def doubling (mark : Char) (cs : List Char) : List Char :=
  cs.flatMap fun c => if c = mark then [c, c] else [c]

/-- A name between brackets, each closing bracket in it doubled. -/
def quoteName (name : String) : String :=
  "[" ++ String.ofList (doubling ']' name.toList) ++ "]"

/-- A text with each single quote doubled, as it stands inside a string literal. -/
def escapeString (text : String) : String :=
  String.ofList (doubling '\'' text.toList)

/-- A text as a string literal. -/
def quoteString (text : String) : String :=
  "'" ++ escapeString text ++ "'"

end ReportDesk.Sql
