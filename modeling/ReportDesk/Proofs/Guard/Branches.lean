import ReportDesk.Proofs.Guard.Words

/-! # Branches of statements that only read

    What the stricter mode finds out about a statement. It follows the branches of a query: through
    UNION and the like, through brackets and into common table expressions. None of the branches
    of a query that passes is a SELECT whose result goes INTO a table.

    It does not follow tables and expressions. A query that stands in one of these is not looked
    at, so a SELECT there can have an INTO, and this is the only place where one can be. All of this
    is said of the structure that a parser finds, whichever parser it is.
-/

namespace ReportDesk.Guard

/-! ### Parts of queries -/

mutual

/-- The branches of a query and of its common table expressions, in order. -/
def Query.branches : Query → List Body
  | .mk ctes body _ => branchesOf ctes ++ body.branches

/-- The branches of a body. -/
def Body.branches : Body → List Body
  | .select into nested => [.select into nested]
  | .query query => query.branches
  | .combined left right => left.branches ++ right.branches
  | .values nested => [.values nested]
  | .table => [.table]

/-- The branches of each query of a list. -/
def branchesOf : List Query → List Body
  | [] => []
  | query :: rest => query.branches ++ branchesOf rest

end

mutual

/-- The queries in the tables, expressions and clauses of a query, none of which is a branch. -/
def Query.inner : Query → List Query
  | .mk ctes body nested => innerOf ctes ++ body.inner ++ nested

/-- The queries in the tables and expressions of a body. -/
def Body.inner : Body → List Query
  | .select _ nested => nested
  | .query query => query.inner
  | .combined left right => left.inner ++ right.inner
  | .values nested => nested
  | .table => []

/-- The queries in the tables, expressions and clauses of each query of a list. -/
def innerOf : List Query → List Query
  | [] => []
  | query :: rest => query.inner ++ innerOf rest

end

mutual

/-- Every SELECT, every list of rows and every whole table in a query, at any depth. -/
def Query.parts : Query → List Body
  | .mk ctes body nested => partsOf ctes ++ body.parts ++ partsOf nested

/-- Every SELECT, every list of rows and every whole table in a body, at any depth. -/
def Body.parts : Body → List Body
  | .select into nested => .select into nested :: partsOf nested
  | .query query => query.parts
  | .combined left right => left.parts ++ right.parts
  | .values nested => .values nested :: partsOf nested
  | .table => [.table]

/-- Every SELECT, every list of rows and every whole table in the queries of a list. -/
def partsOf : List Query → List Body
  | [] => []
  | query :: rest => query.parts ++ partsOf rest

end

/-- Whether a part is a SELECT whose result goes INTO a table. -/
def Body.goesInto : Body → Bool
  | .select into _ => into
  | _ => false

/-- Whether a part is a SELECT whose result goes nowhere else, or rows of values. -/
def Body.onlyReads : Body → Bool
  | .select into _ => !into
  | .values _ => true
  | _ => false

theorem Body.goesInto_of_onlyReads {part : Body} (h : part.onlyReads = true) :
    part.goesInto = false := by
  cases part with
  | select into nested => simpa [onlyReads, goesInto] using h
  | _ => rfl

/-! ### Parts at any depth -/

theorem partsOf_append (front back : List Query) :
    partsOf (front ++ back) = partsOf front ++ partsOf back := by
  induction front with
  | nil => rfl
  | cons query rest ih => simp [partsOf, ih]

theorem mem_partsOf {part : Body} {queries : List Query} :
    part ∈ partsOf queries ↔ ∃ query ∈ queries, part ∈ query.parts := by
  induction queries with
  | nil => simp [partsOf]
  | cons query rest ih => simp [partsOf, ih]

mutual

/-- The parts of a query are its branches and the parts of the queries in its tables and
    expressions. -/
theorem Query.mem_parts (part : Body) : (query : Query) →
    (part ∈ query.parts ↔ part ∈ query.branches ∨ part ∈ partsOf query.inner)
  | .mk ctes body nested => by
    have hctes := mem_partsOf_branches part ctes
    have hbody := Body.mem_parts part body
    simp only [Query.parts, Query.branches, Query.inner, partsOf_append, List.mem_append, hctes,
      hbody]
    tauto

theorem Body.mem_parts (part : Body) : (body : Body) →
    (part ∈ body.parts ↔ part ∈ body.branches ∨ part ∈ partsOf body.inner)
  | .select into nested => by simp [Body.parts, Body.branches, Body.inner]
  | .query query => Query.mem_parts part query
  | .combined left right => by
    have hleft := Body.mem_parts part left
    have hright := Body.mem_parts part right
    simp only [Body.parts, Body.branches, Body.inner, partsOf_append, List.mem_append, hleft,
      hright]
    tauto
  | .values nested => by simp [Body.parts, Body.branches, Body.inner]
  | .table => by simp [Body.parts, Body.branches, Body.inner, partsOf]

theorem mem_partsOf_branches (part : Body) : (queries : List Query) →
    (part ∈ partsOf queries ↔ part ∈ branchesOf queries ∨ part ∈ partsOf (innerOf queries))
  | [] => by simp [partsOf, branchesOf, innerOf]
  | query :: rest => by
    have hquery := Query.mem_parts part query
    have hrest := mem_partsOf_branches part rest
    simp only [partsOf, branchesOf, innerOf, partsOf_append, List.mem_append, hquery, hrest]
    tauto

end

/-! ### Branches that only read -/

mutual

/-- A query is taken for one that only reads just when all its branches only read. -/
theorem Query.isPure_eq : (query : Query) → query.isPure = query.branches.all Body.onlyReads
  | .mk ctes body _ => by
    simp [Query.isPure, Query.branches, allPure_eq ctes, Body.isPure_eq body]

theorem Body.isPure_eq : (body : Body) → body.isPure = body.branches.all Body.onlyReads
  | .select into _ => by simp [Body.isPure, Body.branches, Body.onlyReads]
  | .query query => Query.isPure_eq query
  | .combined left right => by
    simp [Body.isPure, Body.branches, Body.isPure_eq left, Body.isPure_eq right]
  | .values _ => by simp [Body.isPure, Body.branches, Body.onlyReads]
  | .table => by simp [Body.isPure, Body.branches, Body.onlyReads]

theorem allPure_eq : (queries : List Query) →
    allPure queries = (branchesOf queries).all Body.onlyReads
  | [] => rfl
  | query :: rest => by
    simp [allPure, branchesOf, Query.isPure_eq query, allPure_eq rest]

end

theorem checkStructure_eq_ok_iff (parse : Parser) (sql : String) :
    checkStructure parse sql = .ok () ↔ ∃ query, parse sql = .ok [.query query] ∧
      ∀ branch ∈ query.branches, branch.onlyReads = true := by
  unfold checkStructure
  split
  · next herror => simp [herror]
  · next query hone =>
    have hpure : query.isPure = true ↔ ∀ branch ∈ query.branches, branch.onlyReads = true := by
      rw [query.isPure_eq, List.all_eq_true]
    simp only [hone, Except.ok.injEq, List.cons.injEq, Statement.query.injEq, and_true,
      exists_eq_left', ← hpure]
    cases query.isPure <;> simp
  · next hother => simp [hother]
  · next statements hmany _ hsome =>
    -- there are no statements, or more than one
    simp only [reduceCtorEq, false_iff]
    rintro ⟨query, hquery, -⟩
    rw [hsome] at hquery
    exact hmany query (Except.ok.inj hquery)

/-! ### Statements -/

/-- What passes for its structure is what passes for its words and is a single query all of whose
    branches only read: none of them, be it in a UNION, in brackets or in a common table
    expression, is a SELECT with an INTO. If there is such a SELECT at any depth then it is in a
    query that stands in a table or in an expression. -/
theorem check_parsed_iff_branches (parse : Parser) (sql : String) :
    checkBy parse sql .parsed = .ok () ↔
      checkBy parse sql .denylist = .ok () ∧ ∃ query, parse sql = .ok [.query query] ∧
        (∀ branch ∈ query.branches, branch.onlyReads = true) ∧
        ∀ part ∈ query.parts, part.goesInto = true →
          part ∉ query.branches ∧ ∃ inner ∈ query.inner, part ∈ inner.parts := by
  have hboth : checkBy parse sql .parsed = .ok () ↔
      checkWords sql = .ok () ∧ checkStructure parse sql = .ok () := by
    constructor
    · intro h
      have hwords := checkWords_of_check h
      simp only [checkBy, hwords, bind, Except.bind] at h
      exact ⟨hwords, h⟩
    · rintro ⟨hwords, hstructure⟩
      simp only [checkBy, hwords, hstructure, bind, Except.bind]
  rw [hboth, checkStructure_eq_ok_iff]
  refine and_congr_right fun _ => exists_congr fun query => and_congr_right fun _ => ?_
  refine ⟨fun hbranches => ⟨hbranches, fun part hpart hinto => ?_⟩, And.left⟩
  have hnot : part ∉ query.branches := by
    intro hbranch
    have hreads := Body.goesInto_of_onlyReads (hbranches part hbranch)
    simp [hinto] at hreads
  refine ⟨hnot, mem_partsOf.mp ?_⟩
  exact ((query.mem_parts part).mp hpart).resolve_left hnot

/-- Two statements are one too many, also when the second is no query. -/
example : checkBy Grammar.parse "SELECT 1; COMMIT" .parsed = .error (.count 2) := by
  decide +kernel

/-- A text that passes in the stricter mode although there is a SELECT in it, at some depth, whose
    result goes INTO a table. -/
def PassesWithInto (parse : Parser) (sql : String) : Prop :=
  checkBy parse sql .parsed = .ok () ∧
    ∃ query, parse sql = .ok [.query query] ∧ ∃ part ∈ query.parts, part.goesInto = true

/-- Whether statements are a single query with a SELECT in it whose result goes INTO a table. -/
def fillsTable : Except String (List Statement) → Bool
  | .ok [.query query] => query.parts.any Body.goesInto
  | _ => false

theorem passesWithInto_of_fillsTable {parse : Parser} {sql : String}
    (h : checkBy parse sql .parsed = .ok () ∧ fillsTable (parse sql) = true) :
    PassesWithInto parse sql := by
  obtain ⟨hcheck, hfills⟩ := h
  unfold fillsTable at hfills
  split at hfills
  · next query hone => exact ⟨hcheck, query, hone, List.any_eq_true.mp hfills⟩
  · cases hfills

/-- A SELECT with an INTO passes in each of the places that are not looked at: a derived table, a
    joined one, and an expression. -/
theorem buried_into_accepted :
    PassesWithInto Grammar.parse "SELECT * FROM (SELECT a INTO q FROM t) x" ∧
    PassesWithInto Grammar.parse
      "SELECT t.a FROM t JOIN (SELECT a INTO q FROM u) x ON t.a = x.a" ∧
    PassesWithInto Grammar.parse "SELECT a FROM t WHERE a IN (SELECT a INTO q FROM u)" := by
  refine ⟨passesWithInto_of_fillsTable ?_, passesWithInto_of_fillsTable ?_,
    passesWithInto_of_fillsTable ?_⟩
  all_goals decide +kernel

end ReportDesk.Guard
