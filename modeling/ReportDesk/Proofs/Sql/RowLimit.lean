import ReportDesk.Proofs.Sql.Spelling

/-! # The row limit in the text of a query

    Both dialects write every token alike, so that without a row limit a query has one text. With a
    limit, one dialect writes it as a last clause, and the other one rewrites the start of the
    finished text. Both add to the text that the query has without a limit, and change nothing else
    of it. The rewriting looks for `SELECT` and a blank, and always finds them: the clauses of a
    query, whatever stands in them, come behind these seven characters.
-/

namespace ReportDesk.Sql

/-- A text without the `count` characters from place `start` on. -/
def cutOut (start count : Nat) (text : String) : String :=
  String.ofList (text.toList.take start ++ text.toList.drop (start + count))

/-- Cutting out what was put in gives back what was there. -/
theorem cutOut_append_append (front part back : String) :
    cutOut front.length part.length (front ++ (part ++ back)) = front ++ back := by
  have hdrop : (front.toList ++ (part.toList ++ back.toList)).drop
      (front.toList.length + part.toList.length) = back.toList := by
    rw [← List.append_assoc, ← List.length_append, List.drop_left]
  rw [← String.toList_inj, cutOut, String.toList_ofList, ← String.length_toList,
    ← String.length_toList, String.toList_append, String.toList_append, hdrop, List.take_left,
    String.toList_append]

namespace Query

variable (query : Query)

/-- What stands behind `SELECT ` does not depend on the row limit. -/
theorem body_limitTo (n : Nat) : (query.limitTo n).body = query.body :=
  rfl

/-- Without a row limit the dialects do not differ. -/
theorem text_limitTo_zero (dialect : Dialect) :
    (query.limitTo 0).text dialect = "SELECT " ++ Token.join query.body := by
  have htop : (query.limitTo 0).topChars dialect = [] := by cases dialect <;> rfl
  have hclause : (query.limitTo 0).limitClause dialect = [] := by cases dialect <;> rfl
  rw [← String.toList_inj, toList_text, htop, hclause, body_limitTo]
  simp [Token.toList_join, Token.chars]

/-- SQLite has the row limit behind all that is there without it. -/
theorem text_sqlite_limitTo {n : Nat} (hn : 0 < n) :
    (query.limitTo n).text .sqlite =
      "SELECT " ++ Token.join query.body ++ " LIMIT " ++ toString n := by
  have hlimit : (query.limitTo n).limit = some n := if_neg hn.ne'
  have htop : (query.limitTo n).topChars .sqlite = [] := rfl
  have hclause : (query.limitTo n).limitClause .sqlite = Token.clause .LIMIT [.count n] := by
    simp [limitClause, hlimit]
  rw [← String.toList_inj, toList_text, htop, hclause, body_limitTo]
  simp [Token.toList_join, Token.chars, Token.clause, Token.text, Keyword.text, Mark.text]

/-- T-SQL has the row limit between `SELECT ` and what follows it. -/
theorem text_tsql_limitTo {n : Nat} (hn : 0 < n) :
    (query.limitTo n).text .tsql =
      "SELECT " ++ ("TOP " ++ toString n ++ " " ++ Token.join query.body) := by
  have hlimit : (query.limitTo n).limit = some n := if_neg hn.ne'
  have htop : (query.limitTo n).topChars .tsql =
      "TOP".toList ++ ' ' :: ((toString n).toList ++ [' ']) := by
    simp [topChars, hlimit]
  have hclause : (query.limitTo n).limitClause .tsql = [] := rfl
  rw [← String.toList_inj, toList_text, htop, hclause, body_limitTo]
  simp [Token.toList_join, Token.chars]

/-- A query has one text in both dialects when its row limit is taken away, and that text begins
    with `SELECT ` and goes on with some `rest`. A row limit is put behind it by SQLite, as a last
    clause, and between `SELECT ` and `rest` by T-SQL. So the rewriting by which T-SQL gets there
    always changes the text; and what was put in can be cut out again, which gives the text without
    a limit. -/
theorem text_limitTo (n : Nat) (hn : 0 < n) :
    ∃ rest, (∀ dialect, (query.limitTo 0).text dialect = "SELECT " ++ rest) ∧
      (query.limitTo n).text .sqlite = "SELECT " ++ rest ++ " LIMIT " ++ toString n ∧
      (query.limitTo n).text .tsql = "SELECT TOP " ++ toString n ++ " " ++ rest ∧
      (query.limitTo n).text .tsql = insertTop ((query.limitTo 0).text .tsql) n ∧
      (query.limitTo n).text .tsql ≠ (query.limitTo 0).text .tsql ∧
      cutOut "SELECT ".length ("TOP " ++ toString n ++ " ").length
          ((query.limitTo n).text .tsql) = (query.limitTo 0).text .tsql ∧
      cutOut ("SELECT " ++ rest).length (" LIMIT " ++ toString n).length
          ((query.limitTo n).text .sqlite) = (query.limitTo 0).text .sqlite := by
  have hlimit : (query.limitTo n).limit = some n := if_neg hn.ne'
  have hunlimited := query.text_limitTo_zero
  have hsqlite := query.text_sqlite_limitTo hn
  have htsql := query.text_tsql_limitTo hn
  refine ⟨Token.join query.body, hunlimited, hsqlite, ?_, ?_, ?_, ?_, ?_⟩
  · rw [htsql, ← String.append_assoc, ← String.append_assoc, ← String.append_assoc]
    rfl
  · rw [text_tsql_of_limit_eq_some hlimit, text_of_limit_eq_none rfl]
    rfl
  · -- the text with the limit is the longer one
    intro hsame
    have hlength := congrArg String.length hsame
    rw [htsql, hunlimited] at hlength
    simp only [String.length_append] at hlength
    have htop : "TOP ".length = 4 := rfl
    omega
  · rw [htsql, hunlimited]
    exact cutOut_append_append _ _ _
  · have hcut := cutOut_append_append ("SELECT " ++ Token.join query.body)
      (" LIMIT " ++ toString n) ""
    rw [String.append_empty, String.append_empty, ← String.append_assoc] at hcut
    rw [hsqlite, hunlimited]
    exact hcut

/-- A query that selects nothing, and has in its condition a text that looks like the start of a
    query: the limit is put in only once, behind the first `SELECT `. -/
theorem text_limitTo_bare :
    let query : Query := { condition := some (.verbatim "SELECT 1") }
    0 < 5 ∧ (query.limitTo 0).text .tsql = "SELECT  WHERE SELECT 1" ∧
      (query.limitTo 5).text .tsql = "SELECT TOP 5  WHERE SELECT 1" ∧
      (query.limitTo 5).text .sqlite = "SELECT  WHERE SELECT 1 LIMIT 5" := by
  intro query
  have htext : (query.limitTo 0).text .tsql = "SELECT " ++ " WHERE SELECT 1" := by cbv
  obtain ⟨rest, hunlimited, hsqlite, htsql, -⟩ := query.text_limitTo 5 (by decide)
  obtain rfl : rest = " WHERE SELECT 1" := by
    rw [hunlimited] at htext
    exact (String.append_right_inj _).mp htext
  exact ⟨by decide, htext, htsql.trans (by cbv), hsqlite.trans (by cbv)⟩

end Query

end ReportDesk.Sql
