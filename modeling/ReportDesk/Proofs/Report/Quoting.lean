import ReportDesk.Proofs.Report.Compiled
import ReportDesk.Proofs.Sql.Spelling

/-! # Quoting in compiled reports

    Whatever names, aliases and values a report has, the statement it compiles to is cut into the
    lexemes of its query and no others. Names and quoted values need no condition for this. A
    value that is written as it is has to be a number, which a strict report checks and any other
    report leaves to its author.
-/

namespace ReportDesk

namespace Sql

/-! ### Tokens of a query, part by part -/

/-- A token that is written without a text of its own choosing: neither a literal that is written
    as it is nor the name of a function. -/
def Token.IsFixed : Token → Prop
  | .verbatim _ | .function _ => False
  | _ => True

variable {P : Token → Prop}

theorem Token.forall_listed (hP : ∀ t : Token, t.IsFixed → P t) {α : Type} {f : α → List Token}
    {as : List α} (h : ∀ a ∈ as, ∀ t ∈ f a, P t) : ∀ t ∈ Token.listed (as.map f), P t := by
  induction as with
  | nil => simp [Token.listed]
  | cons a rest ih =>
    have ha := h a (by simp)
    have hrest := ih fun b hb => h b (by simp [hb])
    cases rest with
    | nil => simpa [Token.listed] using ha
    | cons b rest =>
      intro t ht
      -- between two parts stand a comma and a blank
      have hsplit : t ∈ f a ∨ t = .mark .comma ∨ t = .mark .blank ∨
          t ∈ Token.listed ((b :: rest).map f) := by
        simpa [Token.listed_cons_cons] using ht
      rcases hsplit with ht | rfl | rfl | ht
      · exact ha t ht
      · exact hP _ trivial
      · exact hP _ trivial
      · exact hrest t ht

theorem Token.forall_clause (hP : ∀ t : Token, t.IsFixed → P t) (k : Keyword)
    {content : List Token} (h : ∀ t ∈ content, P t) : ∀ t ∈ Token.clause k content, P t := by
  intro t ht
  simp only [Token.clause, List.mem_cons] at ht
  rcases ht with rfl | rfl | rfl | ht
  · exact hP _ trivial
  · exact hP _ trivial
  · exact hP _ trivial
  · exact h t ht

/-- What stands before a column or star is fixed. -/
theorem Expr.forall_qualifier (hP : ∀ t : Token, t.IsFixed → P t) (table : Option TableName) :
    ∀ t ∈ Expr.qualifier table, P t := by
  cases table with
  | none => simp [Expr.qualifier]
  | some table =>
    have htable : P table.token := hP _ trivial
    have hdot : P (.mark .dot) := hP _ trivial
    simp [Expr.qualifier, htable, hdot]

theorem Expr.forall_column (hP : ∀ t : Token, t.IsFixed → P t) (table : Option TableName)
    (name : String) : ∀ t ∈ (Expr.column table name).tokens, P t := by
  have hname : ∀ t ∈ [Token.name name], P t := by simp [hP (.name name) trivial]
  exact List.forall_mem_append.mpr ⟨forall_qualifier hP table, hname⟩

theorem SelectItem.forall_tokens (hP : ∀ t : Token, t.IsFixed → P t) (item : SelectItem)
    (h : ∀ t ∈ item.expr.tokens, P t) : ∀ t ∈ item.tokens, P t := by
  obtain ⟨expr, asName⟩ := item
  cases asName with
  | none => simpa [SelectItem.tokens] using h
  | some name =>
    have hname : ∀ t ∈ [Token.name name], P t := by simp [hP (.name name) trivial]
    exact List.forall_mem_append.mpr ⟨h, Token.forall_clause hP .AS hname⟩

theorem Join.forall_tokens (hP : ∀ t : Token, t.IsFixed → P t) (join : Join)
    (h : ∀ t ∈ join.condition.tokens, P t) : ∀ t ∈ join.tokens, P t := by
  refine List.forall_mem_append.mpr ⟨?_, Token.forall_clause hP .ON h⟩
  intro t ht
  simp only [List.mem_cons, List.not_mem_nil, or_false] at ht
  rcases ht with rfl | rfl | rfl | rfl | rfl <;> exact hP _ trivial

theorem SortItem.forall_tokens (hP : ∀ t : Token, t.IsFixed → P t) (item : SortItem)
    (h : ∀ t ∈ item.expr.tokens, P t) : ∀ t ∈ item.tokens, P t := by
  refine List.forall_mem_append.mpr ⟨h, ?_⟩
  intro t ht
  simp only [List.mem_cons, List.not_mem_nil, or_false] at ht
  rcases ht with rfl | rfl <;> exact hP _ trivial

theorem Query.forall_optionalClause (hP : ∀ t : Token, t.IsFixed → P t) (k : Keyword) {α : Type}
    {f : α → List Token} {as : List α} (h : ∀ a ∈ as, ∀ t ∈ f a, P t) :
    ∀ t ∈ optionalClause k (as.map f), P t := by
  cases as with
  | nil => simp [optionalClause]
  | cons a rest => exact Token.forall_clause hP k (Token.forall_listed hP h)

/-- What holds of fixed tokens and of the tokens of all expressions in a query holds of all its
    tokens. -/
theorem Query.forall_tokens (hP : ∀ t : Token, t.IsFixed → P t) (query : Query)
    (hselect : ∀ item ∈ query.select, ∀ t ∈ item.expr.tokens, P t)
    (hjoins : ∀ join ∈ query.joins, ∀ t ∈ join.condition.tokens, P t)
    (hcondition : ∀ e, query.condition = some e → ∀ t ∈ e.tokens, P t)
    (hgrouping : ∀ e ∈ query.grouping, ∀ t ∈ e.tokens, P t)
    (hordering : ∀ item ∈ query.ordering, ∀ t ∈ item.expr.tokens, P t) :
    ∀ t ∈ query.tokens, P t := by
  have hitems := Token.forall_listed hP fun (item : SelectItem) hitem =>
    item.forall_tokens hP (hselect item hitem)
  have hsource : ∀ t ∈ sourceClause query.source, P t := by
    cases query.source with
    | none => simp [sourceClause]
    | some table =>
      have htable : P table.token := hP _ trivial
      exact Token.forall_clause hP .FROM (by simp [htable])
  have hlinks : ∀ t ∈ query.joins.flatMap (fun join => .mark .blank :: join.tokens), P t := by
    intro t ht
    obtain ⟨join, hjoin, ht⟩ := List.mem_flatMap.mp ht
    rcases List.mem_cons.mp ht with rfl | ht
    · exact hP _ trivial
    · exact join.forall_tokens hP (hjoins join hjoin) t ht
  have hwhere : ∀ t ∈ conditionClause query.condition, P t := by
    cases hc : query.condition with
    | none => simp [conditionClause]
    | some condition => exact Token.forall_clause hP .WHERE (hcondition condition hc)
  have hgroup := forall_optionalClause hP .GROUP_BY hgrouping
  have horder := forall_optionalClause hP .ORDER_BY fun (item : SortItem) hitem =>
    item.forall_tokens hP (hordering item hitem)
  have hclauses : ∀ t ∈ query.clauses, P t := by
    simp only [clauses, List.forall_mem_append]
    exact ⟨⟨⟨⟨hsource, hlinks⟩, hwhere⟩, hgroup⟩, horder⟩
  rw [tokens_eq_body]
  simp only [body, List.forall_mem_cons, List.forall_mem_append]
  exact ⟨hP _ trivial, hP _ trivial, hitems, hclauses⟩

end Sql

namespace Report

open Sql (Dialect Expr Lexeme Query TableName Token)

/-- Whether a text is a decimal number without a sign. -/
def isUnsigned (body : List Char) : Bool :=
  match body.dropWhile Char.isDigit with
  | [] => !body.isEmpty
  | '.' :: fraction => body.head? != some '.' && !fraction.isEmpty && fraction.all Char.isDigit
  | _ => false

theorem isDecimal_of_isUnsigned {body : List Char} (h : isUnsigned body = true) :
    Lexeme.IsDecimal body := by
  have hwhole : ∀ c ∈ body.takeWhile Char.isDigit, c.isDigit = true :=
    List.all_eq_true.mp List.all_takeWhile
  have hsplit : body.takeWhile Char.isDigit ++ body.dropWhile Char.isDigit = body :=
    List.takeWhile_append_dropWhile
  unfold isUnsigned at h
  split at h
  · next hdrop =>
    rw [hdrop, List.append_nil] at hsplit
    refine ⟨body, by simpa using h, ?_, .inl rfl⟩
    rwa [hsplit] at hwhole
  · next fraction hdrop =>
    simp only [Bool.and_eq_true, bne_iff_ne, Bool.not_eq_true', List.isEmpty_eq_false_iff,
      List.all_eq_true] at h
    obtain ⟨⟨hhead, hne⟩, hfraction⟩ := h
    rw [hdrop] at hsplit
    refine ⟨body.takeWhile Char.isDigit, ?_, hwhole, .inr ⟨fraction, hne, hfraction, hsplit.symm⟩⟩
    -- with no digit before the point the text would begin with it
    intro hnil
    rw [hnil, List.nil_append] at hsplit
    exact hhead (by simp [← hsplit])
  · cases h

/-- What is accepted as a number is one lexeme of a statement. -/
theorem isNumber_of_isNumeral {cs : List Char} (h : isNumeral cs = true) : Lexeme.IsNumber cs := by
  unfold isNumeral at h
  split at h
  · next rest => exact .inr ⟨rest, isDecimal_of_isUnsigned h, rfl⟩
  · exact .inl (isDecimal_of_isUnsigned h)

theorem isUnsigned_of_isDecimal {body : List Char} (h : Lexeme.IsDecimal body) :
    isUnsigned body = true := by
  obtain ⟨whole, hne, hwhole, rfl | ⟨fraction, hfraction, hdigits, rfl⟩⟩ := h
  · have hdrop : body.dropWhile Char.isDigit = [] := List.dropWhile_eq_nil_iff.mpr hwhole
    simp [isUnsigned, hdrop, hne]
  · have hdrop : (whole ++ '.' :: fraction).dropWhile Char.isDigit = '.' :: fraction := by
      rw [List.dropWhile_append_of_pos hwhole, List.dropWhile_cons_of_neg (by decide)]
    -- the first character is a digit, since there is one before the point
    have hhead : (whole ++ '.' :: fraction).head? ≠ some '.' := by
      obtain ⟨digit, others, rfl⟩ := List.exists_cons_of_ne_nil hne
      intro hdot
      obtain rfl : digit = '.' := by simpa using hdot
      exact absurd (hwhole '.' (by simp)) (by decide)
    unfold isUnsigned
    rw [hdrop]
    simp only [Bool.and_eq_true, bne_iff_ne, Bool.not_eq_true', List.isEmpty_eq_false_iff,
      List.all_eq_true]
    exact ⟨⟨hhead, hfraction⟩, hdigits⟩

/-- The texts that are accepted as numbers are the decimal numbers. -/
theorem isNumeral_iff {cs : List Char} : isNumeral cs = true ↔ Lexeme.IsNumber cs := by
  refine ⟨isNumber_of_isNumeral, ?_⟩
  rintro (h | ⟨body, h, rfl⟩)
  · unfold isNumeral
    split
    · -- a number without a sign does not begin with one
      obtain ⟨digit, others, hcons, hdigit⟩ := h.eq_cons
      cases hcons
      exact absurd hdigit (by decide)
    · exact isUnsigned_of_isDecimal h
  · exact isUnsigned_of_isDecimal h

/-! ### Tokens of a compiled report -/

section

variable {P : Token → Prop} {strict : Bool}

/-- The tokens of a literal are fixed, or one that is written as it is. -/
theorem IsLiteral.forall_tokens (hP : ∀ t : Token, t.IsFixed → P t)
    (hverbatim : ∀ v, (strict = true → isNumeral v.toList = true) → P (.verbatim v))
    {literal : Expr} (h : IsLiteral strict literal) : ∀ t ∈ literal.tokens, P t := by
  cases h with
  | string text => simp [Expr.tokens, hP (.string text) trivial]
  | verbatim text htext => simp [Expr.tokens, hverbatim text htext]

/-- Apart from the filtered column a predicate has fixed tokens and those of its literals. -/
theorem IsPredicate.forall_tokens (hP : ∀ t : Token, t.IsFixed → P t)
    (hverbatim : ∀ v, (strict = true → isNumeral v.toList = true) → P (.verbatim v))
    {subject predicate : Expr} (hsubject : ∀ t ∈ subject.tokens, P t)
    (h : IsPredicate strict subject predicate) : ∀ t ∈ predicate.tokens, P t := by
  have hmark : ∀ m : Sql.Mark, P (.mark m) := fun m => hP _ trivial
  cases h with
  | @compare op value hop hvalue =>
    have hop : P op.token := by cases op <;> exact hP _ trivial
    have hvalue := hvalue.forall_tokens hP hverbatim
    simp only [Expr.tokens, List.forall_mem_append, List.forall_mem_cons]
    exact ⟨hsubject, hmark _, hop, hmark _, hvalue⟩
  | like pattern =>
    have hpattern : ∀ t ∈ (Expr.string pattern).tokens, P t := by
      simp [Expr.tokens, hP (.string pattern) trivial]
    exact List.forall_mem_append.mpr ⟨hsubject, Token.forall_clause hP .LIKE hpattern⟩
  | @oneOf values hne hvalues =>
    have hlist := Token.forall_listed hP fun v hv => (hvalues v hv).forall_tokens hP hverbatim
    refine List.forall_mem_append.mpr ⟨hsubject, Token.forall_clause hP .IN ?_⟩
    rw [Expr.tokensOfEach_eq_map]
    simp only [List.cons_append, List.forall_mem_cons, List.forall_mem_append]
    exact ⟨hmark _, hlist, hmark _, by simp⟩
  | between hlow hhigh =>
    have hlow := Token.forall_clause hP .BETWEEN (hlow.forall_tokens hP hverbatim)
    have hhigh := Token.forall_clause hP .AND (hhigh.forall_tokens hP hverbatim)
    simp only [Expr.tokens, List.forall_mem_append]
    exact ⟨⟨hsubject, hlow⟩, hhigh⟩
  | isNull negated =>
    have hword : ∀ k : Sql.Keyword, P (.word k) := fun k => hP _ trivial
    simp only [Expr.tokens, List.forall_mem_append, List.forall_mem_cons]
    exact ⟨hsubject, hmark _, hword _, by simp⟩

theorem forall_tokens_foldl_and (hP : ∀ t : Token, t.IsFixed → P t) (predicates : List Expr)
    {first : Expr} (hfirst : ∀ t ∈ first.tokens, P t)
    (h : ∀ p ∈ predicates, ∀ t ∈ p.tokens, P t) :
    ∀ t ∈ (predicates.foldl Expr.and first).tokens, P t := by
  induction predicates generalizing first with
  | nil => exact hfirst
  | cons predicate rest ih =>
    refine ih ?_ fun p hp => h p (by simp [hp])
    simp only [Expr.and, Expr.tokens, List.forall_mem_append, List.forall_mem_cons]
    exact ⟨hfirst, hP _ trivial, hP _ trivial, hP _ trivial, h predicate (by simp)⟩

/-- The tokens of a compiled report: fixed ones, names of aggregate functions, and the values that
    are written as they are, which in a strict report are numbers. -/
theorem IsCompiled.forall_tokens {query : Query} {predicates : List Expr}
    (h : IsCompiled strict query predicates) (hP : ∀ t : Token, t.IsFixed → P t)
    (hfunction : ∀ a : Aggregate, P (.function a.name))
    (hverbatim : ∀ v, (strict = true → isNumeral v.toList = true) → P (.verbatim v)) :
    ∀ t ∈ query.tokens, P t := by
  have hcolumn : ∀ expr, IsColumn expr → ∀ t ∈ expr.tokens, P t := by
    rintro _ ⟨table, name⟩
    exact Expr.forall_column hP _ _
  have hall : ∀ p ∈ predicates, ∀ t ∈ p.tokens, P t := by
    intro p hp
    obtain ⟨subject, hsubject, hshape⟩ := h.predicates p hp
    exact hshape.forall_tokens hP hverbatim (hcolumn subject hsubject)
  apply Query.forall_tokens hP
  · intro item hitem
    have hselected := h.select item hitem
    generalize item.expr = expr at hselected ⊢
    cases hselected with
    | column hexpr => exact hcolumn _ hexpr
    | aggregate a hexpr =>
      simp only [Expr.tokens, Expr.tokensOfEach, Token.listed, List.intercalate_singleton,
        List.cons_append, List.forall_mem_cons, List.forall_mem_append]
      exact ⟨hfunction a, hP _ trivial, hcolumn _ hexpr, hP _ trivial, by simp⟩
    | star table =>
      have hstar : ∀ t ∈ [Token.mark .star], P t := by simp [hP (.mark .star) trivial]
      exact List.forall_mem_append.mpr ⟨Expr.forall_qualifier hP _, hstar⟩
  · intro join hjoin
    obtain ⟨left, right, hleft, hright, hcondition⟩ := h.joins join hjoin
    simp only [hcondition, Expr.tokens, List.forall_mem_append, List.forall_mem_cons]
    exact ⟨hcolumn _ hleft, hP _ trivial, hP _ trivial, hP _ trivial, hcolumn _ hright⟩
  · intro e he
    rw [h.condition] at he
    cases predicates with
    | nil => cases he
    | cons first rest =>
      cases he
      exact forall_tokens_foldl_and hP rest (hall first (by simp)) fun p hp => hall p (by simp [hp])
  · intro e he
    exact hcolumn e (h.grouping e he)
  · intro item hitem
    exact hcolumn _ (h.ordering item hitem)

end

/-- The names of aggregate functions are words, in upper case already. -/
theorem Aggregate.isWord_upper (a : Aggregate) : Lexeme.IsWord (Text.upper a.name.toList) := by
  cases a <;> exact .of_check rfl

/-- A token that is written plainly if it is a function, or if the report is strict. -/
def IsChecked (strict : Bool) : Token → Prop
  | .verbatim v => strict = true → isNumeral v.toList = true
  | t => t.IsPlain

/-- All tokens of a compiled report are written plainly, once its open values are numbers. -/
theorem Configuration.isPlain_of_mem_tokens {config : Configuration} {strict : Bool}
    {query : Query} (hquery : config.query strict = .ok query)
    (hnumbers : strict = true ∨ ∀ v, Token.verbatim v ∈ query.tokens → isNumeral v.toList = true) :
    ∀ t ∈ query.tokens, t.IsPlain := by
  obtain ⟨predicates, -, hcompiled⟩ := exists_isCompiled hquery
  -- what is known of a token without looking at `hnumbers`
  have hchecked : ∀ t ∈ query.tokens, IsChecked strict t := by
    refine hcompiled.forall_tokens (P := IsChecked strict) ?_ ?_ ?_
    · intro t ht
      cases t <;> trivial
    · intro a
      exact a.isWord_upper
    · intro v hv
      exact hv
  intro t ht
  have hc := hchecked t ht
  cases t with
  | verbatim v =>
    apply isNumber_of_isNumeral
    rcases hnumbers with hstrict | hnumbers
    · exact hc hstrict
    · exact hnumbers v ht
  | _ => exact hc

/-! ### Statements -/

/-- The statement of a report for T-SQL is cut into the lexemes of its query, in order, with the
    row limit directly after `SELECT` if there is one. Each schema, table, column and alias is one
    name that reads back as it was given, each quoted value one string, each value written as it is
    one number. No name or value ends its own quoting or adds a lexeme. -/
theorem Configuration.ofText?_statement {config : Configuration} {strict : Bool} {query : Query}
    {text : String} (hquery : config.query strict = .ok query)
    (htext : config.statement .tsql strict = .ok text)
    (hnumbers : strict = true ∨ ∀ v, Token.verbatim v ∈ query.tokens → isNumeral v.toList = true) :
    Lexeme.ofText? text =
      some (.word "SELECT" ::
        (if config.limit = 0 then [] else [.word "TOP", .number (toString config.limit.toNat)]) ++
          query.bodyLexemes) := by
  have hplain := isPlain_of_mem_tokens hquery hnumbers
  obtain rfl : query.text .tsql = text := by
    simpa [statement, hquery, Except.map] using htext
  rw [query.ofText?_text .tsql hplain]
  obtain ⟨primary, predicates, -, -, rfl⟩ := query_eq_ok_iff.mp hquery
  by_cases hlimit : config.limit = 0
  · simp [Query.lexemes, compiled, hlimit]
  · have hnat : config.limit.toNat ≠ 0 := by
      intro h
      exact hlimit (UInt64.toNat_inj.mp h)
    simp [Query.lexemes, compiled, hlimit, hnat]

/-- A report with closing brackets, quotes and commas in its names and values. -/
def awkward : Configuration where
  tables := ["a]b.c]]"]
  fields := [{ table := "T", column := "x'], [y", asName := some "]" }]
  filters :=
    [{ table := "T", column := "]", declaredType := "varchar", operator := "="
       value := some "'', ']" },
     { table := "T", column := "n", declaredType := "int", operator := ">", value := some "-1.5" }]
  limit := 3

/-- The predicates of `awkward`. -/
def awkwardPredicates : List Expr :=
  [.binary (.column (some { table := "T" }) "]") .eq (.string "'', ']"),
   .binary (.column (some { table := "T" }) "n") .gt (.verbatim "-1.5")]

theorem predicates_awkward : awkward.predicates false = .ok awkwardPredicates := by
  have hfirst : Filter.predicate
      { table := "T", column := "]", declaredType := "varchar", operator := "="
        value := some "'', ']" } false =
      .ok (.binary (.column (some { table := "T" }) "]") .eq (.string "'', ']")) := by cbv
  have hsecond : Filter.predicate
      { table := "T", column := "n", declaredType := "int", operator := ">"
        value := some "-1.5" } false =
      .ok (.binary (.column (some { table := "T" }) "n") .gt (.verbatim "-1.5")) := by cbv
  have hactive : awkward.activeFilters = awkward.filters := by cbv
  rw [Configuration.predicates, hactive]
  simp only [awkward, List.mapM_cons, hfirst, hsecond]
  rfl

theorem query_awkward : awkward.query false =
    .ok (awkward.compiled { schema := some "a]b", table := "c]]" } awkwardPredicates) :=
  Configuration.query_eq_ok_iff.mpr ⟨"a]b.c]]", awkwardPredicates, rfl, predicates_awkward, rfl⟩

theorem ofText?_statement_awkward : ∃ text,
    awkward.statement .tsql false = .ok text ∧
    Lexeme.ofText? text =
      some [.word "SELECT", .word "TOP", .number "3", .name "T", .mark .dot, .name "x'], [y",
        .word "AS", .name "]", .word "FROM", .name "a]b", .mark .dot, .name "c]]", .word "WHERE",
        .name "T", .mark .dot, .name "]", .mark .eq, .string "'', ']", .word "AND", .name "T",
        .mark .dot, .name "n", .mark .gt, .number "-1.5"] := by
  have htext := congrArg (Except.map fun query => Query.text query .tsql) query_awkward
  refine ⟨_, htext, Configuration.ofText?_statement query_awkward htext (.inr ?_)⟩
  -- the only value that is written as it is
  have hopen : (Query.tokens (awkward.compiled { schema := some "a]b", table := "c]]" }
      awkwardPredicates)).filter (fun t => t matches .verbatim _) = [.verbatim "-1.5"] := rfl
  intro v hv
  have hmem := hopen ▸ List.mem_filter.mpr ⟨hv, rfl⟩
  obtain rfl : v = "-1.5" := by simpa using hmem
  decide

end Report

end ReportDesk
