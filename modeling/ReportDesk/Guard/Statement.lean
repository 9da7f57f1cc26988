/-! # The structure of a statement

    Of what queries a statement is made: its branches, its common table expressions, and the queries
    nested in its tables and expressions. This is all that decides whether it only reads; columns,
    conditions and names are left out.

    What finds the structure of a text is a parser. Nothing that is decided here or proved later
    depends on which parser it is.
-/

namespace ReportDesk.Guard

mutual

/-- A query. -/
inductive Query where
  /-- Common table expressions, a body, and the queries nested in the clauses after the body. -/
  | mk (ctes : List Query) (body : Body) (nested : List Query)

/-- The body of a query. -/
inductive Body where
  /-- A SELECT: whether its result goes INTO a table, and the queries nested in it. -/
  | select (into : Bool) (nested : List Query)
  /-- A query in brackets. -/
  | query (query : Query)
  /-- Two bodies combined by UNION, EXCEPT or INTERSECT. -/
  | combined (left right : Body)
  /-- Rows of values, and the queries nested in them. -/
  | values (nested : List Query)
  /-- A whole table by name. -/
  | table

end

mutual

/-- Whether a query and its common table expressions only read, as far as their branches show. -/
def Query.isPure : Query → Bool
  | .mk ctes body _ => allPure ctes && body.isPure

/-- Whether a body only reads, as far as its branches show. -/
def Body.isPure : Body → Bool
  | .select into _ => !into
  | .query query => query.isPure
  | .combined left right => left.isPure && right.isPure
  | .values _ => true
  | .table => false

/-- Whether all queries of a list only read, as far as their branches show. -/
def allPure : List Query → Bool
  | [] => true
  | query :: rest => query.isPure && allPure rest

end

/-- A statement. -/
inductive Statement where
  /-- A query. -/
  | query (query : Query)
  /-- Any other statement. -/
  | other

/-- What finds the statements of a text, or says why it finds none. -/
abbrev Parser :=
  String → Except String (List Statement)

end ReportDesk.Guard
