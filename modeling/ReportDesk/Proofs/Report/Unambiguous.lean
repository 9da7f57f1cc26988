import ReportDesk.Proofs.Report.Quoting
import ReportDesk.Proofs.Sql.Reading

/-! # Statements tell reports apart

    Two strict reports that are written as the same statement have the same query, with the same
    predicates in the same order. All columns in a report have their table and literals are single
    lexemes, so each part of a statement ends where the word or comma behind it says. A range is
    read with its own `AND` and both of its literals, so an `AND` that is left stands between
    predicates.
-/

namespace ReportDesk.Report

open Sql (Avoids BinaryOp Dialect Expr Join Lexeme Query Readable SelectItem SortItem TableName
  avoids_clause)

/-! ### Columns and literals -/

/-- A column ends where no dot follows. -/
theorem readable_column : Readable [.mark .dot] IsColumn Expr.lexemes := by
  constructor
  rintro _ _ r s ⟨table, name⟩ ⟨table', name'⟩ hr hs heq
  obtain ⟨rfl, hname, rfl⟩ := Expr.readable_qualified hr hs (by simpa [Expr.lexemes] using heq)
  cases hname
  exact ⟨rfl, rfl⟩

/-- A literal is one lexeme. -/
theorem readable_literal (strict : Bool) : Readable [] (IsLiteral strict) Expr.lexemes := by
  constructor
  intro a b r s ha hb _ _ heq
  cases ha <;> cases hb <;> simp [Expr.lexemes] at heq ⊢ <;> exact heq

/-! ### Predicates -/

/-- An operator tells which one it is. -/
theorem lexeme_inj {op op' : BinaryOp} (h : op.lexeme = op'.lexeme) : op = op' := by
  cases op <;> cases op' <;> first | rfl | simp [BinaryOp.lexeme] at h

/-- The operator of a comparison is no word. -/
theorem word_ne_lexeme {op : BinaryOp} (h : op ≠ .and) (text : String) :
    .word text ≠ op.lexeme := by
  cases op <;> simp_all [BinaryOp.lexeme]

/-- A predicate begins with its column, and goes on with something else than a dot. -/
theorem IsPredicate.lexemes_eq {strict : Bool} {subject p : Expr}
    (h : IsPredicate strict subject p) :
    ∃ tail, p.lexemes = subject.lexemes ++ tail ∧ ∀ r, Avoids [.mark .dot] (tail ++ r) := by
  cases h with
  | @compare op value hop hvalue =>
    refine ⟨op.lexeme :: value.lexemes, rfl, ?_⟩
    cases op <;> simp [BinaryOp.lexeme]
  | like pattern => exact ⟨_, rfl, by simp⟩
  | oneOf hne hvalues => exact ⟨_, by simp only [Expr.lexemes, List.append_assoc]; rfl, by simp⟩
  | between hlow hhigh =>
    exact ⟨_, by simp only [Expr.lexemes, List.append_assoc]; rfl, by simp⟩
  | isNull negated => exact ⟨_, by simp only [Expr.lexemes, List.append_assoc]; rfl, by simp⟩

/-- A predicate on a known column is read without looking at what follows it. -/
theorem IsPredicate.unique {strict : Bool} {subject p q : Expr} {r s : List Lexeme}
    (hp : IsPredicate strict subject p) (hq : IsPredicate strict subject q)
    (heq : p.lexemes ++ r = q.lexemes ++ s) : p = q ∧ r = s := by
  have hliteral : ∀ {a b : Expr} {r s : List Lexeme}, IsLiteral strict a → IsLiteral strict b →
      a.lexemes ++ r = b.lexemes ++ s → a = b ∧ r = s := by
    intro a b r s ha hb h
    exact (readable_literal strict).unique ha hb (by simp [Avoids]) (by simp [Avoids]) h
  -- the lexeme behind the column tells the shape, so only equal shapes are left to compare
  cases hp with
  | @compare op value hop hvalue =>
    cases hq with
    | @compare op' value' _ hvalue' =>
      obtain ⟨hop, hcontent⟩ : op.lexeme = op'.lexeme ∧
          value.lexemes ++ r = value'.lexemes ++ s := by simpa [Expr.lexemes] using heq
      obtain rfl := lexeme_inj hop
      obtain ⟨rfl, hrest⟩ := hliteral hvalue hvalue' hcontent
      exact ⟨rfl, hrest⟩
    | _ => simp [Expr.lexemes, (word_ne_lexeme hop _).symm] at heq
  | like pattern =>
    cases hq with
    | compare hop _ => simp [Expr.lexemes, word_ne_lexeme hop] at heq
    | like pattern' => simpa [Expr.lexemes] using heq
    | _ => simp [Expr.lexemes] at heq
  | @oneOf values hne hvalues =>
    cases hq with
    | compare hop _ => simp [Expr.lexemes, word_ne_lexeme hop] at heq
    | @oneOf values' hne' hvalues' =>
      have hcontent : Lexeme.listed (values.map Expr.lexemes) ++ .mark .closing :: r =
          Lexeme.listed (values'.map Expr.lexemes) ++ .mark .closing :: s := by
        simpa [Expr.lexemes, Expr.lexemesOfEach_eq_map] using heq
      have hlist := (readable_literal strict).separated (.mark .comma) (by simp)
      obtain ⟨rfl, hclosing⟩ := hlist.unique ⟨hne, hvalues⟩ ⟨hne', hvalues'⟩ (by simp) (by simp)
        hcontent
      exact ⟨rfl, (List.cons.inj hclosing).2⟩
    | _ => simp [Expr.lexemes] at heq
  | @between low high hlow hhigh =>
    cases hq with
    | compare hop _ => simp [Expr.lexemes, word_ne_lexeme hop] at heq
    | @between low' high' hlow' hhigh' =>
      have hcontent : low.lexemes ++ .word "AND" :: (high.lexemes ++ r) =
          low'.lexemes ++ .word "AND" :: (high'.lexemes ++ s) := by simpa [Expr.lexemes] using heq
      obtain ⟨rfl, hand⟩ := hliteral hlow hlow' hcontent
      obtain ⟨rfl, hrest⟩ := hliteral hhigh hhigh' (List.cons.inj hand).2
      exact ⟨rfl, hrest⟩
    | _ => simp [Expr.lexemes] at heq
  | isNull negated =>
    cases hq with
    | compare hop _ => simp [Expr.lexemes, word_ne_lexeme hop] at heq
    | isNull negated' =>
      cases negated <;> cases negated' <;> simp [Expr.lexemes] at heq ⊢ <;> exact heq
    | _ => simp [Expr.lexemes] at heq

/-- A predicate on some column is read without looking at what follows it. -/
theorem readable_predicate (strict : Bool) :
    Readable [] (fun p => ∃ subject, IsColumn subject ∧ IsPredicate strict subject p)
      Expr.lexemes := by
  constructor
  rintro p q r s ⟨subject, hsubject, hp⟩ ⟨subject', hsubject', hq⟩ _ _ heq
  obtain ⟨tail, htail, hdot⟩ := hp.lexemes_eq
  obtain ⟨tail', htail', hdot'⟩ := hq.lexemes_eq
  have hcut : subject.lexemes ++ (tail ++ r) = subject'.lexemes ++ (tail' ++ s) := by
    simpa [htail, htail'] using heq
  obtain ⟨rfl, -⟩ := readable_column.unique hsubject hsubject' (hdot r) (hdot' s) hcut
  exact hp.unique hq heq

/-! ### Parts of a query -/

/-- The name of an aggregate function is in upper case already. -/
theorem Aggregate.upper_name (a : Aggregate) :
    String.ofList (Text.upper a.name.toList) = a.name := by
  cases a <;> rfl

theorem Aggregate.name_inj {a b : Aggregate} (h : a.name = b.name) : a = b := by
  cases a <;> cases b <;> first | rfl | exact absurd h (by decide)

/-- A column or star begins with the name of a table. -/
theorem lexemes_qualified (table : TableName) (l : Lexeme) :
    ∃ name rest, Expr.qualifierLexemes (some table) ++ [l] = .name name :: rest := by
  obtain ⟨schema, table⟩ := table
  cases schema <;> exact ⟨_, _, rfl⟩

/-- What is selected ends where no dot follows. -/
theorem readable_selected : Readable [.mark .dot] IsSelected Expr.lexemes := by
  constructor
  intro a b r s ha hb hr hs heq
  cases ha with
  | column ha =>
    cases hb with
    | column hb => exact readable_column.unique ha hb hr hs heq
    | aggregate f hb =>
      obtain ⟨table, name⟩ := ha
      obtain ⟨first, rest, hfirst⟩ := lexemes_qualified table (.name name)
      simp [Expr.lexemes, hfirst] at heq
    | star table' =>
      obtain ⟨table, name⟩ := ha
      obtain ⟨-, hlast, -⟩ := Expr.readable_qualified hr hs (by simpa [Expr.lexemes] using heq)
      cases hlast
  | @aggregate f column ha =>
    cases hb with
    | column hb =>
      obtain ⟨table, name⟩ := hb
      obtain ⟨first, rest, hfirst⟩ := lexemes_qualified table (.name name)
      simp [Expr.lexemes, hfirst] at heq
    | @aggregate g column' hb =>
      obtain ⟨hname, hcontent⟩ : f.name = g.name ∧
          column.lexemes ++ .mark .closing :: r = column'.lexemes ++ .mark .closing :: s := by
        simpa [Expr.lexemes, Expr.lexemesOfEach, Lexeme.listed, Aggregate.upper_name] using heq
      obtain rfl := Aggregate.name_inj hname
      obtain ⟨rfl, hrest⟩ := readable_column.unique ha hb (by simp) (by simp) hcontent
      exact ⟨rfl, (List.cons.inj hrest).2⟩
    | star table =>
      obtain ⟨first, rest, hfirst⟩ := lexemes_qualified table (.mark .star)
      simp [Expr.lexemes, hfirst] at heq
  | star table =>
    cases hb with
    | column hb =>
      obtain ⟨table', name⟩ := hb
      obtain ⟨-, hlast, -⟩ := Expr.readable_qualified hr hs (by simpa [Expr.lexemes] using heq)
      cases hlast
    | aggregate f hb =>
      obtain ⟨first, rest, hfirst⟩ := lexemes_qualified table (.mark .star)
      simp [Expr.lexemes, hfirst] at heq
    | star table' =>
      obtain ⟨rfl, -, hrest⟩ :=
        Expr.readable_qualified hr hs (by simpa [Expr.lexemes] using heq)
      exact ⟨rfl, hrest⟩

/-- An item of the select list has an alias if `AS` follows what is selected. -/
theorem readable_selectItem :
    Readable [.mark .dot, .word "AS"] (fun item => IsSelected item.expr) SelectItem.lexemes := by
  constructor
  rintro ⟨expr, asName⟩ ⟨expr', asName'⟩ r s hexpr hexpr' hr hs heq
  have hdot : ∀ (name : Option String) {r : List Lexeme}, Avoids [.mark .dot, .word "AS"] r →
      Avoids [.mark .dot] (SelectItem.aliasLexemes name ++ r) := by
    intro name r hr
    cases name with
    | none => exact hr.mono (by simp)
    | some name => simp [SelectItem.aliasLexemes]
  simp only [SelectItem.lexemes, List.append_assoc] at heq
  obtain ⟨rfl, hname⟩ := readable_selected.unique hexpr hexpr' (hdot _ hr) (hdot _ hs) heq
  cases asName with
  | none =>
    cases asName' with
    | none => exact ⟨rfl, hname⟩
    | some name' =>
      obtain rfl : r = _ := hname
      simp [SelectItem.aliasLexemes] at hr
  | some name =>
    cases asName' with
    | none =>
      obtain rfl : _ = s := hname
      simp [SelectItem.aliasLexemes] at hs
    | some name' => simpa [SelectItem.aliasLexemes] using hname

/-- A kind of join is written with one word. -/
theorem lexemes_joinKind (kind : Sql.JoinKind) :
    ∃ text ∈ ["INNER", "LEFT", "RIGHT", "FULL"], kind.keyword.lexemes = [.word text] := by
  cases kind <;> exact ⟨_, by decide, rfl⟩

/-- A join begins with the word of its kind. -/
theorem exists_start (join : Join) :
    ∃ l ∈ ["INNER", "LEFT", "RIGHT", "FULL"].map Lexeme.word, ∃ tail, join.lexemes = l :: tail := by
  obtain ⟨text, htext, hkind⟩ := lexemes_joinKind join.kind
  exact ⟨.word text, List.mem_map_of_mem htext, _, by simp only [Join.lexemes, hkind]; rfl⟩

theorem joinKind_inj {kind kind' : Sql.JoinKind}
    (h : kind.keyword.lexemes = kind'.keyword.lexemes) : kind = kind' := by
  cases kind <;> cases kind' <;> first | rfl | simp [Sql.JoinKind.keyword, Sql.Keyword.lexemes] at h

/-- A join ends with a column. -/
theorem readable_join :
    Readable [.mark .dot]
      (fun join : Join => ∃ left right, IsColumn left ∧ IsColumn right ∧
        join.condition = .binary left .eq right) Join.lexemes := by
  constructor
  rintro ⟨kind, table, condition⟩ ⟨kind', table', condition'⟩ r s ⟨left, right, hleft, hright, hc⟩
    ⟨left', right', hleft', hright', hc'⟩ hr hs heq
  obtain rfl : condition = _ := hc
  obtain rfl : condition' = _ := hc'
  obtain ⟨text, -, hkind⟩ := lexemes_joinKind kind
  obtain ⟨text', -, hkind'⟩ := lexemes_joinKind kind'
  obtain ⟨rfl, htables⟩ : text = text' ∧
      table.lexemes ++ .word "ON" :: (left.lexemes ++ .mark .eq :: (right.lexemes ++ r)) =
        table'.lexemes ++ .word "ON" :: (left'.lexemes ++ .mark .eq :: (right'.lexemes ++ s)) := by
    simpa [Join.lexemes, hkind, hkind', Expr.lexemes, BinaryOp.lexeme] using heq
  obtain rfl := joinKind_inj (hkind.trans hkind'.symm)
  obtain ⟨rfl, hon⟩ := TableName.readable.unique trivial trivial (by simp) (by simp) htables
  obtain ⟨rfl, hsign⟩ :=
    readable_column.unique hleft hleft' (by simp) (by simp) (List.cons.inj hon).2
  obtain ⟨rfl, hrest⟩ := readable_column.unique hright hright' hr hs (List.cons.inj hsign).2
  exact ⟨rfl, hrest⟩

/-- A sort key ends with its direction. -/
theorem readable_sortItem :
    Readable [] (fun item => IsColumn item.expr) SortItem.lexemes := by
  constructor
  rintro ⟨expr, direction⟩ ⟨expr', direction'⟩ r s hexpr hexpr' _ _ heq
  simp only [SortItem.lexemes, List.append_assoc] at heq
  have hdot : ∀ (direction : Sql.Direction) (r : List Lexeme),
      Avoids [.mark .dot] (direction.keyword.lexemes ++ r) := by
    intro direction r
    cases direction <;> simp [Sql.Direction.keyword, Sql.Keyword.lexemes]
  obtain ⟨rfl, hdirection⟩ :=
    readable_column.unique hexpr hexpr' (hdot direction r) (hdot direction' s) heq
  cases direction <;> cases direction' <;>
    simp [Sql.Direction.keyword, Sql.Keyword.lexemes] at hdirection ⊢ <;> exact hdirection

/-! ### Clauses -/

/-- The grouping clause of a query. -/
def groupingLexemes : List Expr → List Lexeme :=
  Lexeme.clause (.word "GROUP") [.word "BY"] (.mark .comma) Expr.lexemes

/-- The sorting clause of a query. -/
def orderingLexemes : List SortItem → List Lexeme :=
  Lexeme.clause (.word "ORDER") [.word "BY"] (.mark .comma) SortItem.lexemes

/-- The clause of all predicates of a query, with `AND` between. -/
def predicateLexemes : List Expr → List Lexeme :=
  Lexeme.clause (.word "WHERE") [] (.word "AND") Expr.lexemes

/-- The lexemes of a compiled query, clause by clause. -/
theorem IsCompiled.bodyLexemes_eq {strict : Bool} {query : Query} {predicates : List Expr}
    {table : TableName} (h : IsCompiled strict query predicates)
    (hsource : query.source = some table) :
    query.bodyLexemes =
      [.mark .comma].intercalate (query.select.map SelectItem.lexemes) ++ .word "FROM" ::
        (table.lexemes ++ (query.joins.flatMap Join.lexemes ++ (predicateLexemes predicates ++
          (groupingLexemes query.grouping ++ orderingLexemes query.ordering)))) := by
  -- a conjunction nests to the left, but is written flat
  have hfold : ∀ (rest : List Expr) (first : Expr), (rest.foldl Expr.and first).lexemes =
      first.lexemes ++ rest.flatMap fun p => .word "AND" :: p.lexemes := by
    intro rest
    induction rest with
    | nil => simp
    | cons second rest ih =>
      intro first
      simp [ih, Expr.and, Expr.lexemes, BinaryOp.lexeme]
  -- both listing clauses are one and the same clause with another word in front
  have hlist : ∀ {α : Type} (k : Sql.Keyword) (first : Lexeme) (more : List Lexeme)
      (write : α → List Lexeme) (as : List α), k.lexemes = first :: more →
      Query.listClause k (as.map write) = Lexeme.clause first more (.mark .comma) write as := by
    intro α k first more write as hk
    cases as <;> simp [Query.listClause, Lexeme.clause, Lexeme.listed, hk]
  have hgroup := hlist .GROUP_BY _ _ Expr.lexemes query.grouping rfl
  have horder := hlist .ORDER_BY _ _ SortItem.lexemes query.ordering rfl
  simp only [Query.bodyLexemes, Query.clauseLexemes, Query.sourceLexemes, hsource, h.condition,
    hgroup, horder, groupingLexemes, orderingLexemes, Lexeme.listed, List.append_assoc,
    List.cons_append]
  cases predicates with
  | nil => rfl
  | cons first rest =>
    simp [conjunction, Query.conditionLexemes, predicateLexemes, Lexeme.clause, hfold,
      Readable.intercalate_cons, List.flatMap_map]

/-- What follows the clauses of a query can only be a row limit. -/
def EndsQuery (rest : List Lexeme) : Prop :=
  ∀ l, rest.head? = some l → l = .word "LIMIT"

theorem EndsQuery.avoids {r stops : List Lexeme} (hr : EndsQuery r)
    (h : .word "LIMIT" ∉ stops) : Avoids stops r := by
  intro l hl
  rw [hr l hl]
  exact h

section

variable {stops r : List Lexeme} (hr : EndsQuery r)

include hr

/-- Behind the grouping clause. -/
theorem avoids_ordering (items : List SortItem) (h : .word "ORDER" ∉ stops)
    (hlimit : .word "LIMIT" ∉ stops) : Avoids stops (orderingLexemes items ++ r) :=
  (avoids_clause h _ _ _ items).append (hr.avoids hlimit)

/-- Behind the predicates. -/
theorem avoids_grouping (keys : List Expr) (items : List SortItem)
    (h : ∀ text ∈ ["GROUP", "ORDER", "LIMIT"], .word text ∉ stops) :
    Avoids stops (groupingLexemes keys ++ (orderingLexemes items ++ r)) :=
  (avoids_clause (h _ (by simp)) _ _ _ keys).append
    (avoids_ordering hr items (h _ (by simp)) (h _ (by simp)))

/-- Behind the joins. -/
theorem avoids_predicates (predicates keys : List Expr) (items : List SortItem)
    (h : ∀ text ∈ ["WHERE", "GROUP", "ORDER", "LIMIT"], .word text ∉ stops) :
    Avoids stops
      (predicateLexemes predicates ++ (groupingLexemes keys ++ (orderingLexemes items ++ r))) :=
  (avoids_clause (h _ (by simp)) _ _ _ predicates).append
    (avoids_grouping hr keys items fun text htext => h text (List.mem_cons_of_mem _ htext))

/-- Behind the first table. -/
theorem avoids_joins (joins : List Join) (predicates keys : List Expr) (items : List SortItem)
    (h : ∀ text, Lexeme.word text ∉ stops) :
    Avoids stops (joins.flatMap Join.lexemes ++
      (predicateLexemes predicates ++ (groupingLexemes keys ++ (orderingLexemes items ++ r)))) := by
  refine Avoids.append ?_ (avoids_predicates hr predicates keys items fun text _ => h text)
  cases joins with
  | nil => simp
  | cons join joins =>
    obtain ⟨l, hl, tail, hjoin⟩ := exists_start join
    obtain ⟨text, -, rfl⟩ := List.mem_map.mp hl
    simpa [hjoin] using h text

end

/-- The lexemes of a compiled query, up to its row limit if that comes last, tell everything about
    it but the limit. -/
theorem IsCompiled.unique {strict : Bool} {query query' : Query}
    {predicates predicates' : List Expr}
    {r s : List Lexeme} (h : IsCompiled strict query predicates)
    (h' : IsCompiled strict query' predicates') (hr : EndsQuery r) (hs : EndsQuery s)
    (heq : query.bodyLexemes ++ r = query'.bodyLexemes ++ s) :
    predicates = predicates' ∧ { query with limit := none } = { query' with limit := none } ∧
      r = s := by
  obtain ⟨table, htable⟩ := h.source
  obtain ⟨table', htable'⟩ := h'.source
  rw [h.bodyLexemes_eq htable, h'.bodyLexemes_eq htable'] at heq
  simp only [List.append_assoc, List.cons_append] at heq
  -- each clause is read off the front, and what is behind it does not belong to it
  have hitems := readable_selectItem.separated (.mark .comma) (by simp)
  obtain ⟨hselect, heq⟩ := hitems.unique ⟨h.select_ne_nil, h.select⟩ ⟨h'.select_ne_nil, h'.select⟩
    (by simp) (by simp) heq
  obtain ⟨hsource, heq⟩ := TableName.readable.unique trivial trivial
    (avoids_joins hr _ _ _ _ (by simp)) (avoids_joins hs _ _ _ _ (by simp)) (List.cons.inj heq).2
  have hlinks := readable_join.repeated (["INNER", "LEFT", "RIGHT", "FULL"].map .word)
    (fun join _ => exists_start join) (by simp)
  obtain ⟨hjoins, heq⟩ := hlinks.unique h.joins h'.joins (avoids_predicates hr _ _ _ (by simp))
    (avoids_predicates hs _ _ _ (by simp)) heq
  have hconditions := (readable_predicate strict).clause (.word "WHERE") (.word "AND") (by simp) []
  obtain ⟨hpredicates, heq⟩ := hconditions.unique h.predicates h'.predicates
    (avoids_grouping hr _ _ (by simp)) (avoids_grouping hs _ _ (by simp)) heq
  have hkeys := readable_column.clause (.word "GROUP") (.mark .comma) (by simp) [.word "BY"]
  obtain ⟨hgrouping, heq⟩ := hkeys.unique h.grouping h'.grouping
    (avoids_ordering hr _ (by simp) (by simp)) (avoids_ordering hs _ (by simp) (by simp)) heq
  have hsorts := readable_sortItem.clause (.word "ORDER") (.mark .comma) (by simp) [.word "BY"]
  obtain ⟨hordering, hrest⟩ := hsorts.unique h.ordering h'.ordering
    (hr.avoids (by simp)) (hs.avoids (by simp)) heq
  have hcondition := h.condition
  have hcondition' := h'.condition
  obtain ⟨select, source, joins, condition, grouping, ordering, limit⟩ := query
  obtain ⟨select', source', joins', condition', grouping', ordering', limit'⟩ := query'
  simp_all

/-- The select list of a compiled query cannot be taken for a row limit. -/
theorem IsCompiled.bodyLexemes_ne {strict : Bool} {query : Query} {predicates : List Expr}
    (h : IsCompiled strict query predicates) (rest : List Lexeme) :
    query.bodyLexemes ≠ .word "TOP" :: rest := by
  obtain ⟨item, items, hitems⟩ := List.exists_cons_of_ne_nil h.select_ne_nil
  have hselected := h.select item (by simp [hitems])
  obtain ⟨tail, hbody⟩ : ∃ tail, query.bodyLexemes = item.expr.lexemes ++ tail := by
    simp only [Query.bodyLexemes, Lexeme.listed, hitems, List.map_cons, Readable.intercalate_cons,
      SelectItem.lexemes, List.append_assoc]
    exact ⟨_, rfl⟩
  rw [hbody]
  generalize item.expr = expr at hselected
  cases hselected with
  | column hcolumn =>
    obtain ⟨table, name⟩ := hcolumn
    obtain ⟨first, others, hfirst⟩ := lexemes_qualified table (.name name)
    simp [Expr.lexemes, hfirst]
  | aggregate a hcolumn =>
    have hname : a.name ≠ "TOP" := by cases a <;> decide
    simp [Expr.lexemes, Aggregate.upper_name, hname]
  | star table =>
    obtain ⟨first, others, hfirst⟩ := lexemes_qualified table (.mark .star)
    simp [Expr.lexemes, hfirst]

/-- All lexemes of a compiled query, in either dialect, tell everything about it. -/
theorem IsCompiled.eq_of_lexemes_eq {strict : Bool} {query query' : Query}
    {predicates predicates' : List Expr} (h : IsCompiled strict query predicates)
    (h' : IsCompiled strict query' predicates') (dialect : Dialect)
    (heq : query.lexemes dialect = query'.lexemes dialect) :
    query = query' ∧ predicates = predicates' := by
  -- it is enough that the limits are equal, and the bodies with what may follow them
  have hwhole : ∀ {r s : List Lexeme}, EndsQuery r → EndsQuery s →
      query.bodyLexemes ++ r = query'.bodyLexemes ++ s →
      (r = s → query.limit = query'.limit) → query = query' ∧ predicates = predicates' := by
    intro r s hr hs hbody hlimit
    obtain ⟨hpredicates, hquery, hrest⟩ := h.unique h' hr hs hbody
    have hlimit := hlimit hrest
    obtain ⟨select, source, joins, condition, grouping, ordering, limit⟩ := query
    obtain ⟨select', source', joins', condition', grouping', ordering', limit'⟩ := query'
    simp_all
  have hnil : EndsQuery [] := by simp [EndsQuery]
  have hsome : ∀ n : Nat, EndsQuery [.word "LIMIT", .number (toString n)] := by simp [EndsQuery]
  cases hn : query.limit with
  | none =>
    cases hm : query'.limit with
    | none =>
      have hbody : query.bodyLexemes = query'.bodyLexemes := by
        simpa [Query.lexemes, hn, hm] using heq
      exact hwhole hnil hnil (by rw [hbody]) (by simp [hn, hm])
    | some m =>
      cases dialect with
      | tsql => exact absurd (by simpa [Query.lexemes, hn, hm] using heq) (h.bodyLexemes_ne _)
      | sqlite =>
        refine hwhole hnil (hsome m) ?_ (by simp)
        simpa [Query.lexemes, hn, hm] using heq
  | some n =>
    cases hm : query'.limit with
    | none =>
      cases dialect with
      | tsql => exact absurd (by simpa [Query.lexemes, hn, hm] using heq.symm) (h'.bodyLexemes_ne _)
      | sqlite =>
        refine hwhole (hsome n) hnil ?_ (by simp)
        simpa [Query.lexemes, hn, hm] using heq
    | some m =>
      cases dialect with
      | tsql =>
        obtain ⟨hcount, hbody⟩ : n.repr = m.repr ∧ query.bodyLexemes = query'.bodyLexemes := by
          simpa [Query.lexemes, hn, hm] using heq
        exact hwhole hnil hnil (by rw [hbody]) fun _ => by rw [hn, hm, Nat.repr_injective hcount]
      | sqlite =>
        refine hwhole (hsome n) (hsome m) (by simpa [Query.lexemes, hn, hm] using heq) ?_
        intro hcount
        have hcount : n.repr = m.repr := by simpa using hcount
        rw [hn, hm, Nat.repr_injective hcount]

/-! ### Statements -/

/-- Strict reports with the same statement, in either dialect, have the same query, and the same
    predicates in the same order. -/
theorem Configuration.query_eq_of_statement_eq {first second : Configuration} {dialect : Dialect}
    {text : String} (hfirst : first.statement dialect true = .ok text)
    (hsecond : second.statement dialect true = .ok text) :
    ∃ query predicates,
      first.query true = .ok query ∧ first.predicates true = .ok predicates ∧
      second.query true = .ok query ∧ second.predicates true = .ok predicates := by
  -- both queries are read from the one text
  obtain ⟨query, hquery, htext⟩ := Outcome.map_eq_ok hfirst
  obtain ⟨query', hquery', htext'⟩ := Outcome.map_eq_ok hsecond
  obtain ⟨predicates, hpredicates, hcompiled⟩ := exists_isCompiled hquery
  obtain ⟨predicates', hpredicates', hcompiled'⟩ := exists_isCompiled hquery'
  have hlexemes := query.ofText?_text dialect (isPlain_of_mem_tokens hquery (.inl rfl))
  have hlexemes' := query'.ofText?_text dialect (isPlain_of_mem_tokens hquery' (.inl rfl))
  rw [htext] at hlexemes
  rw [htext', hlexemes, Option.some.injEq] at hlexemes'
  obtain ⟨rfl, rfl⟩ := hcompiled.eq_of_lexemes_eq hcompiled' dialect hlexemes'
  exact ⟨query, predicates, hquery, hpredicates, hquery', hpredicates'⟩

/-- A report with a range beside another filter, and with an `AND` in an alias and in a value. -/
def ranged : Configuration where
  tables := ["d.T"]
  fields :=
    [{ table := "d.T", column := "a", asName := some "x] AND y" },
     { table := "U", column := "b", aggregate := some .max }]
  joins :=
    [{ kind := .left, leftTable := "d.T", leftColumn := "a", rightTable := "U"
       rightColumn := "a" }]
  filters :=
    [{ table := "U", column := "b", declaredType := "int", operator := "BETWEEN"
       value := some "1|2" },
     { table := "U", column := "c", declaredType := "text", operator := "="
       value := some "3 AND 4" }]
  groupBy := [{ table := "d.T", column := "a" }]
  sortBy := [{ table := "U", column := "b", direction := .desc }]
  limit := 3

/-- The same report in other words, with a second table and a filter that does not count. -/
def reworded : Configuration :=
  { ranged with
    tables := [" d.T ", "V"]
    filters :=
      [{},
       { table := "U", column := "b", declaredType := "decimal", operator := " between "
         value := some "1 | 2" },
       { table := "U", column := "c", declaredType := "varchar", operator := "equals"
         value := some "3 AND 4" }] }

/-- Two reports that differ, but not in their statement: each has the range and the comparison as
    its predicates, in this order. -/
theorem query_eq_of_statement_eq_reworded :
    let text := "SELECT TOP 3 [d].[T].[a] AS [x]] AND y], MAX([U].[b]) FROM [d].[T] " ++
      "LEFT JOIN [U] ON [d].[T].[a] = [U].[a] " ++
      "WHERE [U].[b] BETWEEN 1 AND 2 AND [U].[c] = '3 AND 4' " ++
      "GROUP BY [d].[T].[a] ORDER BY [U].[b] DESC"
    ranged ≠ reworded ∧
    ranged.statement .tsql true = .ok text ∧ reworded.statement .tsql true = .ok text ∧
    ∃ query predicates,
      ranged.query true = .ok query ∧ ranged.predicates true = .ok predicates ∧
      reworded.query true = .ok query ∧ reworded.predicates true = .ok predicates ∧
      predicates.map Expr.text = ["[U].[b] BETWEEN 1 AND 2", "[U].[c] = '3 AND 4'"] := by
  intro text
  have hfirst : ranged.statement .tsql true = .ok text := by decide +kernel
  have hsecond : reworded.statement .tsql true = .ok text := by decide +kernel
  obtain ⟨query, predicates, hquery, hpredicates, hquery', hpredicates'⟩ :=
    Configuration.query_eq_of_statement_eq hfirst hsecond
  refine ⟨by decide, hfirst, hsecond, query, predicates, hquery, hpredicates, hquery',
    hpredicates', ?_⟩
  have htexts : (ranged.predicates true).map (List.map Expr.text) =
      .ok ["[U].[b] BETWEEN 1 AND 2", "[U].[c] = '3 AND 4'"] := by decide +kernel
  rw [hpredicates] at htexts
  exact Except.ok.inj htexts

end ReportDesk.Report
