import ReportDesk.Proofs.Sql.Lexeme
import ReportDesk.Proofs.Text.Trimming
import ReportDesk.Sql.Query

/-! # Spelling of queries

    The lexemes of a query are those of its parts, in order: each schema, table, column and alias
    is one name, each quoted literal one string, each literal written as it is one number.

    The main statement is that the text of a query is cut into exactly these lexemes, in both
    dialects. It needs that literals written as they are are numbers and that functions are words;
    names and strings can be anything. Tokens `Spell` lexemes when this is so before any text that
    ends a lexeme, and longer runs of tokens are put together from shorter ones at their blanks,
    commas and brackets.
-/

namespace ReportDesk.Sql

/-! ### The lexemes of a query -/

/-- Lexemes one after another, with a comma between. -/
def Lexeme.listed (parts : List (List Lexeme)) : List Lexeme :=
  [Lexeme.mark .comma].intercalate parts

/-- A keyword is one word, or several. -/
def Keyword.lexemes : Keyword → List Lexeme
  | .SELECT => [.word "SELECT"]
  | .FROM => [.word "FROM"]
  | .WHERE => [.word "WHERE"]
  | .AND => [.word "AND"]
  | .AS => [.word "AS"]
  | .ON => [.word "ON"]
  | .JOIN => [.word "JOIN"]
  | .INNER => [.word "INNER"]
  | .LEFT => [.word "LEFT"]
  | .RIGHT => [.word "RIGHT"]
  | .FULL => [.word "FULL"]
  | .GROUP_BY => [.word "GROUP", .word "BY"]
  | .ORDER_BY => [.word "ORDER", .word "BY"]
  | .ASC => [.word "ASC"]
  | .DESC => [.word "DESC"]
  | .LIMIT => [.word "LIMIT"]
  | .IN => [.word "IN"]
  | .BETWEEN => [.word "BETWEEN"]
  | .LIKE => [.word "LIKE"]
  | .IS_NULL => [.word "IS", .word "NULL"]
  | .IS_NOT_NULL => [.word "IS", .word "NOT", .word "NULL"]

/-- A table is its schema, a dot and its own name, or its own name alone. -/
def TableName.lexemes (name : TableName) : List Lexeme :=
  match name.schema with
  | some schema => [.name schema, .mark .dot, .name name.table]
  | none => [.name name.table]

/-- An operator between two expressions. -/
def BinaryOp.lexeme : BinaryOp → Lexeme
  | .eq => .mark .eq
  | .ne => .mark .ne
  | .lt => .mark .lt
  | .gt => .mark .gt
  | .le => .mark .le
  | .ge => .mark .ge
  | .and => .word "AND"

namespace Expr

/-- What stands before a column or star of a table. -/
def qualifierLexemes : Option TableName → List Lexeme
  | some table => table.lexemes ++ [.mark .dot]
  | none => []

mutual

/-- The lexemes of an expression. -/
def lexemes : Expr → List Lexeme
  | .column table name => qualifierLexemes table ++ [.name name]
  | .star table => qualifierLexemes table ++ [.mark .star]
  | .string text => [.string text]
  | .verbatim text => [.number text]
  | .binary left op right => left.lexemes ++ op.lexeme :: right.lexemes
  | .call function arguments =>
    .word (String.ofList (Text.upper function.toList)) :: .mark .opening ::
      Lexeme.listed (lexemesOfEach arguments) ++ [.mark .closing]
  | .like subject pattern => subject.lexemes ++ .word "LIKE" :: pattern.lexemes
  | .oneOf subject values =>
    subject.lexemes ++ .word "IN" :: .mark .opening :: Lexeme.listed (lexemesOfEach values) ++
      [.mark .closing]
  | .between subject low high =>
    subject.lexemes ++ .word "BETWEEN" :: low.lexemes ++ .word "AND" :: high.lexemes
  | .isNull subject negated =>
    subject.lexemes ++ .word "IS" :: (if negated then [.word "NOT"] else []) ++ [.word "NULL"]

/-- The lexemes of each expression of a list. -/
def lexemesOfEach : List Expr → List (List Lexeme)
  | [] => []
  | expr :: rest => expr.lexemes :: lexemesOfEach rest

end

theorem tokensOfEach_eq_map (exprs : List Expr) : tokensOfEach exprs = exprs.map tokens := by
  induction exprs with
  | nil => rfl
  | cons expr rest ih => simp [tokensOfEach, ih]

theorem lexemesOfEach_eq_map (exprs : List Expr) : lexemesOfEach exprs = exprs.map lexemes := by
  induction exprs with
  | nil => rfl
  | cons expr rest ih => simp [lexemesOfEach, ih]

end Expr

/-- The lexemes of an alias, none when there is none. -/
def SelectItem.aliasLexemes : Option String → List Lexeme
  | some name => [.word "AS", .name name]
  | none => []

/-- The lexemes of an item of the select list. -/
def SelectItem.lexemes (item : SelectItem) : List Lexeme :=
  item.expr.lexemes ++ aliasLexemes item.asName

/-- The lexemes of a join. -/
def Join.lexemes (join : Join) : List Lexeme :=
  join.kind.keyword.lexemes ++ .word "JOIN" :: join.table.lexemes ++
    .word "ON" :: join.condition.lexemes

/-- The lexemes of a sort key. -/
def SortItem.lexemes (item : SortItem) : List Lexeme :=
  item.expr.lexemes ++ item.direction.keyword.lexemes

namespace Query

/-- The lexemes of a clause that lists its content, none when there is none. -/
def listClause (keyword : Keyword) (parts : List (List Lexeme)) : List Lexeme :=
  if parts.isEmpty then [] else keyword.lexemes ++ Lexeme.listed parts

/-- The lexemes of the clause of the first table, none when there is none. -/
def sourceLexemes : Option TableName → List Lexeme
  | some table => .word "FROM" :: table.lexemes
  | none => []

/-- The lexemes of the clause of the condition, none when there is none. -/
def conditionLexemes : Option Expr → List Lexeme
  | some condition => .word "WHERE" :: condition.lexemes
  | none => []

/-- What follows the select list: the lexemes of all other clauses but the row limit. -/
def clauseLexemes (query : Query) : List Lexeme :=
  sourceLexemes query.source ++ query.joins.flatMap Join.lexemes ++
    conditionLexemes query.condition ++
    listClause .GROUP_BY (query.grouping.map Expr.lexemes) ++
    listClause .ORDER_BY (query.ordering.map SortItem.lexemes)

/-- The lexemes after `SELECT` and the row limit that may follow it. -/
def bodyLexemes (query : Query) : List Lexeme :=
  Lexeme.listed (query.select.map SelectItem.lexemes) ++ query.clauseLexemes

/-- The lexemes of a query in a dialect. -/
def lexemes (query : Query) (dialect : Dialect) : List Lexeme :=
  match dialect, query.limit with
  | _, none => .word "SELECT" :: query.bodyLexemes
  | .tsql, some n => .word "SELECT" :: .word "TOP" :: .number (toString n) :: query.bodyLexemes
  | .sqlite, some n =>
    .word "SELECT" :: query.bodyLexemes ++ [.word "LIMIT", .number (toString n)]

end Query

/-! ### Spelling -/

/-- A token whose text needs no quoting: it has none, or it is a number or a word. -/
def Token.IsPlain : Token → Prop
  | .verbatim text => Lexeme.IsNumber text.toList
  | .function f => Lexeme.IsWord (Text.upper f.toList)
  | _ => True

/-- The characters that tokens are written with. -/
def Token.chars (tokens : List Token) : List Char :=
  tokens.flatMap fun t => t.text.toList

theorem Token.toList_join (tokens : List Token) : (Token.join tokens).toList = chars tokens := by
  simp [Token.join, chars, List.flatMap_map]

/-- A comma and a blank stand between each two parts of a list. -/
theorem Token.listed_cons_cons (part next : List Token) (rest : List (List Token)) :
    listed (part :: next :: rest) =
      part ++ .mark .comma :: .mark .blank :: listed (next :: rest) := by
  simp [listed, List.intercalate]

/-- Tokens spell lexemes if their text, before any text that ends a lexeme, is cut into these. -/
def Spells (tokens : List Token) (lexemes : List Lexeme) : Prop :=
  (∀ t ∈ tokens, t.IsPlain) → ∀ rest more, Lexeme.Ends rest → Lexeme.Cuts rest more →
    Lexeme.Cuts (Token.chars tokens ++ rest) (lexemes ++ more)

/-- Tokens that can follow any others: there are none, or the first one ends a lexeme. -/
def Begins (tokens : List Token) : Prop :=
  ∀ t, tokens.head? = some t →
    t = .mark .blank ∨ t = .mark .comma ∨ t = .mark .opening ∨ t = .mark .closing

open Lexeme (Cuts Ends)

theorem Begins.ends {tokens : List Token} {rest : List Char} (h : Begins tokens)
    (hrest : Ends rest) : Ends (Token.chars tokens ++ rest) := by
  cases tokens with
  | nil => simpa [Token.chars] using hrest
  | cons t tokens =>
    intro c hc
    rcases h t rfl with rfl | rfl | rfl | rfl <;>
      simp [Token.chars, Token.text, Mark.text] at hc <;> simp [← hc]

theorem Begins.append {front back : List Token} (hfront : Begins front) (hback : Begins back) :
    Begins (front ++ back) := by
  cases front with
  | nil => simpa using hback
  | cons t front => simpa [Begins] using hfront

theorem begins_blank (tokens : List Token) : Begins (.mark .blank :: tokens) := by
  simp [Begins]

/-! ### Putting spellings together -/

namespace Spells

variable {front back : List Token} {first second : List Lexeme}

theorem nil : Spells [] [] := by
  intro _ rest more _ h
  simpa [Token.chars] using h

/-- Tokens may be followed by others that end their last lexeme. -/
theorem append (hfront : Spells front first) (hback : Spells back second)
    (hbegins : Begins back) : Spells (front ++ back) (first ++ second) := by
  intro hplain rest more hrest h
  -- the back, with what follows it, is what follows the front
  have hback' : Cuts (Token.chars back ++ rest) (second ++ more) :=
    hback (fun t ht => hplain t (by simp [ht])) rest more hrest h
  have hfront' := hfront (fun t ht => hplain t (by simp [ht])) _ _ (hbegins.ends hrest) hback'
  simpa [Token.chars] using hfront'

/-- A blank before tokens adds no lexeme. -/
theorem blank (h : Spells back second) : Spells (.mark .blank :: back) second := by
  intro hplain rest more hrest hmore
  have hback := h (fun t ht => hplain t (by simp [ht])) rest more hrest hmore
  simpa [Token.chars, Token.text, Mark.text] using hback.blank

/-- A mark of one character before tokens is a lexeme of its own. -/
theorem mark (m : Mark) (hm : m ≠ .blank ∧ m ≠ .lt ∧ m ≠ .gt) (h : Spells back second) :
    Spells (.mark m :: back) (.mark m :: second) := by
  intro hplain rest more hrest hmore
  have hback := h (fun t ht => hplain t (by simp [ht])) rest more hrest hmore
  have hmark := Cuts.mark m hm.1 (.inr hm.2) hback
  simpa [Token.chars, Token.text] using hmark

/-- What follows a table name and a dot can be anything. -/
theorem qualified (table : TableName) (h : Spells back second) :
    Spells (table.token :: .mark .dot :: back) (table.lexemes ++ .mark .dot :: second) := by
  intro hplain rest more hrest hmore
  -- a dot ends a name but no other lexeme, so this is no case of `append`
  have hdot := mark .dot (by decide) h (fun t ht => hplain t (by simp [ht])) rest more hrest hmore
  have hname : ∀ name, Cuts ((quoteName name).toList ++
      (Token.chars (.mark .dot :: back) ++ rest)) (.name name :: .mark .dot :: (second ++ more)) :=
    fun name => Cuts.name name (by simp [Token.chars, Token.text, Mark.text]) hdot
  obtain ⟨schema, name⟩ := table
  cases schema with
  | none => simpa [Token.chars, TableName.token, TableName.lexemes, Token.text] using hname name
  | some schema =>
    have hschema := Cuts.name schema (by simp [Mark.text])
      (Cuts.mark .dot (by decide) (.inr (by decide)) (hname name))
    simpa [Token.chars, TableName.token, TableName.lexemes, Token.text, Mark.text] using hschema

/-- Tokens that are the end of a text are cut into what they spell. -/
theorem cuts (h : Spells back second) (hplain : ∀ t ∈ back, t.IsPlain) :
    Cuts (Token.chars back) second := by
  have hends : Ends [] := by
    intro c hc
    simp at hc
  simpa using h hplain [] [] hends Cuts.nil

/-! ### Single tokens -/

/-- One token, whose lexemes its own text is cut into. -/
theorem singleton {t : Token} {lexemes : List Lexeme}
    (h : t.IsPlain → ∀ rest more, Ends rest → Cuts rest more →
      Cuts (t.text.toList ++ rest) (lexemes ++ more)) : Spells [t] lexemes := by
  intro hplain rest more hrest hmore
  simpa [Token.chars] using h (hplain t (by simp)) rest more hrest hmore

theorem name (text : String) : Spells [.name text] [.name text] := by
  refine singleton fun _ rest more hrest h => Cuts.name text ?_ h
  intro hc
  exact absurd (hrest _ hc) (by decide)

theorem table (name : TableName) : Spells [name.token] name.lexemes := by
  refine singleton fun _ rest more hrest h => ?_
  have hclosing : rest.head? ≠ some ']' := by
    intro hc
    exact absurd (hrest _ hc) (by decide)
  obtain ⟨schema, name⟩ := name
  cases schema with
  | none => exact Cuts.name name hclosing h
  | some schema =>
    have hname := Cuts.name schema (by simp [Mark.text])
      (Cuts.mark .dot (by decide) (.inr (by decide)) (Cuts.name name hclosing h))
    simpa [TableName.token, TableName.lexemes, Token.text, Mark.text] using hname

theorem string (text : String) : Spells [.string text] [.string text] :=
  singleton fun _ _ _ hrest h => Cuts.string text hrest h

theorem verbatim (text : String) : Spells [.verbatim text] [.number text] :=
  singleton fun hplain _ _ hrest h => Cuts.number text hplain hrest h

theorem function (name : String) :
    Spells [.function name] [.word (String.ofList (Text.upper name.toList))] := by
  refine singleton fun hplain rest more hrest h => ?_
  have hword : Lexeme.IsWord (String.ofList (Text.upper name.toList)).toList := by
    rw [String.toList_ofList]
    exact hplain
  exact Cuts.word _ hword hrest h

theorem star : Spells [.mark .star] [.mark .star] :=
  mark .star (by decide) nil

/-- A count of rows is a number. -/
theorem count (n : Nat) : Spells [.count n] [.number (toString n)] := by
  refine singleton fun _ rest more hrest h => Cuts.number _ (.inl ?_) hrest h
  refine ⟨(toString n).toList, ?_, ?_, .inl rfl⟩
  · simp [Nat.toDigits_ne_nil]
  · intro c hc
    rw [Nat.toString_eq_repr, Nat.toList_repr] at hc
    exact Nat.isDigit_of_mem_toDigits (by decide) (by decide) hc

/-- A keyword is cut at the blanks in it. -/
theorem keyword (k : Keyword) : Spells [.word k] k.lexemes := by
  refine singleton fun _ rest more hrest h => ?_
  have hword : ∀ text : String, Lexeme.IsWord text.toList →
      Cuts (text.toList ++ rest) (.word text :: more) :=
    fun text htext => Cuts.word text htext hrest h
  -- what follows the keyword follows its last word
  have hby := hword "BY" (.of_check rfl)
  have hnull := hword "NULL" (.of_check rfl)
  cases k with
  | GROUP_BY => exact Cuts.word_blank "GROUP" (.of_check rfl) hby
  | ORDER_BY => exact Cuts.word_blank "ORDER" (.of_check rfl) hby
  | IS_NULL => exact Cuts.word_blank "IS" (.of_check rfl) hnull
  | IS_NOT_NULL =>
    exact Cuts.word_blank "IS" (.of_check rfl)
      (Cuts.word_blank "NOT" (.of_check rfl) hnull)
  | _ => exact hword _ (.of_check rfl)

/-- An operator is a sign or a word. -/
theorem operator (op : BinaryOp) : Spells [op.token] [op.lexeme] := by
  cases op with
  | and => exact keyword .AND
  | _ => exact singleton fun _ _ _ hrest h => Cuts.mark _ (by decide) (.inl hrest) h

/-- A clause after tokens: its keyword, and what it holds. -/
theorem clause (k : Keyword) (hfront : Spells front first) (hback : Spells back second) :
    Spells (front ++ Token.clause k back) (first ++ (k.lexemes ++ second)) := by
  have hk : Spells (.word k :: .mark .blank :: back) (k.lexemes ++ second) :=
    append (keyword k) hback.blank (begins_blank back)
  exact hfront.append hk.blank (begins_blank _)

/-- A list of tokens with commas between is spelled part by part. -/
theorem listed {α : Type} {tokens : α → List Token} {lexemes : α → List Lexeme} (as : List α)
    (h : ∀ a ∈ as, Spells (tokens a) (lexemes a)) :
    Spells (Token.listed (as.map tokens)) (Lexeme.listed (as.map lexemes)) := by
  induction as with
  | nil => exact nil
  | cons a rest ih =>
    have ha := h a (by simp)
    have hrest := ih fun b hb => h b (by simp [hb])
    -- a comma needs a second part behind it
    cases rest with
    | nil => simpa [Token.listed, Lexeme.listed] using ha
    | cons b rest =>
      have hcomma := mark .comma (by decide) hrest.blank
      have hall := ha.append hcomma (by simp [Begins])
      simpa [Token.listed_cons_cons, Lexeme.listed, List.intercalate] using hall

/-- Tokens between round brackets. -/
theorem bracketed (h : Spells back second) :
    Spells (.mark .opening :: (back ++ [.mark .closing]))
      (.mark .opening :: (second ++ [.mark .closing])) := by
  have hclosing : Spells [.mark .closing] [.mark .closing] := mark .closing (by decide) nil
  exact mark .opening (by decide) (h.append hclosing (by simp [Begins]))

end Spells

/-! ### Expressions -/

namespace Expr

/-- A column or star is spelled with the table that qualifies it. -/
theorem spells_qualified (table : Option TableName) {back : List Token} {second : List Lexeme}
    (h : Spells back second) :
    Spells (qualifier table ++ back) (qualifierLexemes table ++ second) := by
  cases table with
  | none => exact h
  | some table => simpa [qualifier, qualifierLexemes] using h.qualified table

mutual

/-- Every expression is spelled as its lexemes. -/
theorem spells : (expr : Expr) → Spells expr.tokens expr.lexemes
  | .column table name => spells_qualified table (Spells.name name)
  | .star table => spells_qualified table Spells.star
  | .string text => Spells.string text
  | .verbatim text => Spells.verbatim text
  | .binary left op right => by
    have hop := (Spells.operator op).append (spells right).blank (begins_blank _)
    have hall := (spells left).append hop.blank (begins_blank _)
    simpa [tokens, lexemes] using hall
  | .call function arguments => by
    have hlist := Spells.listed arguments (spells_of_mem arguments)
    have hall := (Spells.function function).append hlist.bracketed (by simp [Begins])
    simpa [tokens, lexemes, tokensOfEach_eq_map, lexemesOfEach_eq_map] using hall
  | .like subject pattern => (spells subject).clause .LIKE (spells pattern)
  | .oneOf subject values => by
    have hlist := Spells.listed values (spells_of_mem values)
    have hall := (spells subject).clause .IN hlist.bracketed
    simpa [tokens, lexemes, tokensOfEach_eq_map, lexemesOfEach_eq_map, Keyword.lexemes] using hall
  | .between subject low high => by
    have hlow := (spells subject).clause .BETWEEN (spells low)
    have hall := hlow.clause .AND (spells high)
    simpa [tokens, lexemes, Keyword.lexemes] using hall
  | .isNull subject negated => by
    cases negated with
    | true =>
      have hall := (spells subject).append (Spells.keyword .IS_NOT_NULL).blank (begins_blank _)
      simpa [tokens, lexemes, Keyword.lexemes] using hall
    | false =>
      have hall := (spells subject).append (Spells.keyword .IS_NULL).blank (begins_blank _)
      simpa [tokens, lexemes, Keyword.lexemes] using hall

/-- Every expression of a list is spelled as its lexemes. -/
theorem spells_of_mem : (exprs : List Expr) →
    ∀ expr ∈ exprs, Spells expr.tokens expr.lexemes
  | [], _, h => absurd h (by simp)
  | expr :: rest, other, h => by
    rcases List.mem_cons.mp h with he | h
    · rw [he]
      exact spells expr
    · exact spells_of_mem rest other h

end

end Expr

/-! ### Queries -/

theorem SelectItem.spells (item : SelectItem) : Spells item.tokens item.lexemes := by
  obtain ⟨expr, asName⟩ := item
  cases asName with
  | none => simpa [tokens, lexemes, aliasLexemes] using expr.spells
  | some name =>
    have hall := expr.spells.clause .AS (Spells.name name)
    simpa [tokens, lexemes, aliasLexemes, Keyword.lexemes] using hall

theorem Join.spells (join : Join) : Spells join.tokens join.lexemes := by
  have hjoin : Spells [.word .JOIN, .mark .blank, join.table.token]
      (.word "JOIN" :: join.table.lexemes) :=
    (Spells.keyword .JOIN).append (Spells.table join.table).blank (begins_blank _)
  have hkind := (Spells.keyword join.kind.keyword).append hjoin.blank (begins_blank _)
  have hall := hkind.clause .ON join.condition.spells
  simpa [tokens, lexemes, Keyword.lexemes] using hall

theorem SortItem.spells (item : SortItem) : Spells item.tokens item.lexemes :=
  item.expr.spells.append (Spells.keyword item.direction.keyword).blank (begins_blank _)

namespace Query

/-- A part of a query that can be absent and can follow any other part. -/
structure IsClause (tokens : List Token) (lexemes : List Lexeme) : Prop where
  /-- It begins with a blank, if it is there. -/
  begins : Begins tokens
  /-- It is spelled as its lexemes. -/
  spells : Spells tokens lexemes

theorem IsClause.nil : IsClause [] [] :=
  ⟨by simp [Begins], Spells.nil⟩

theorem IsClause.keyword (k : Keyword) {content : List Token} {lexemes : List Lexeme}
    (h : Spells content lexemes) : IsClause (Token.clause k content) (k.lexemes ++ lexemes) :=
  ⟨begins_blank _, Spells.nil.clause k h⟩

theorem IsClause.append {front back : List Token} {first second : List Lexeme}
    (hfront : IsClause front first) (hback : IsClause back second) :
    IsClause (front ++ back) (first ++ second) :=
  ⟨hfront.begins.append hback.begins, hfront.spells.append hback.spells hback.begins⟩

theorem IsClause.joins (joins : List Join) :
    IsClause (joins.flatMap fun join => .mark .blank :: join.tokens)
      (joins.flatMap Join.lexemes) := by
  induction joins with
  | nil => exact IsClause.nil
  | cons join rest ih =>
    have hjoin : IsClause (.mark .blank :: join.tokens) join.lexemes :=
      ⟨begins_blank _, join.spells.blank⟩
    simpa using hjoin.append ih

/-- A clause that lists its content, or is absent when there is none. -/
theorem IsClause.list {α : Type} (k : Keyword) {tokens : α → List Token}
    {lexemes : α → List Lexeme} (as : List α) (h : ∀ a, Spells (tokens a) (lexemes a)) :
    IsClause (optionalClause k (as.map tokens)) (listClause k (as.map lexemes)) := by
  cases as with
  | nil => exact IsClause.nil
  | cons a rest => exact IsClause.keyword k (Spells.listed (a :: rest) fun b _ => h b)

/-- The tokens of the clause of the first table, none when there is none. -/
def sourceClause : Option TableName → List Token
  | some table => Token.clause .FROM [table.token]
  | none => []

theorem IsClause.source (source : Option TableName) :
    IsClause (sourceClause source) (sourceLexemes source) := by
  cases source with
  | none => exact IsClause.nil
  | some table => exact IsClause.keyword .FROM (Spells.table table)

/-- The tokens of the clause of the condition, none when there is none. -/
def conditionClause : Option Expr → List Token
  | some condition => Token.clause .WHERE condition.tokens
  | none => []

theorem IsClause.condition (condition : Option Expr) :
    IsClause (conditionClause condition) (conditionLexemes condition) := by
  cases condition with
  | none => exact IsClause.nil
  | some condition => exact IsClause.keyword .WHERE condition.spells

/-- The tokens of the clauses after the select list. -/
def clauses (query : Query) : List Token :=
  sourceClause query.source ++
    query.joins.flatMap (fun join => .mark .blank :: join.tokens) ++
    conditionClause query.condition ++
    optionalClause .GROUP_BY (query.grouping.map Expr.tokens) ++
    optionalClause .ORDER_BY (query.ordering.map SortItem.tokens)

/-- The tokens after `SELECT` and the blank behind it. -/
def body (query : Query) : List Token :=
  Token.listed (query.select.map SelectItem.tokens) ++ query.clauses

theorem tokens_eq_body (query : Query) :
    query.tokens = .word .SELECT :: .mark .blank :: query.body := by
  obtain ⟨select, source, joins, condition, grouping, ordering, limit⟩ := query
  cases source <;> cases condition <;>
    simp [tokens, body, clauses, sourceClause, conditionClause]

theorem isClause_clauses (query : Query) : IsClause query.clauses query.clauseLexemes := by
  have hgrouping := IsClause.list .GROUP_BY query.grouping Expr.spells
  have hordering := IsClause.list .ORDER_BY query.ordering SortItem.spells
  have hlinked := (IsClause.source query.source).append (IsClause.joins query.joins)
  exact ((hlinked.append (IsClause.condition query.condition)).append hgrouping).append hordering

theorem spells_body (query : Query) : Spells query.body query.bodyLexemes :=
  (Spells.listed query.select fun item _ => item.spells).append query.isClause_clauses.spells
    query.isClause_clauses.begins

/-! ### Texts of queries -/

/-- A query is written as `SELECT`, a blank and its body, whatever stands behind it. -/
theorem toList_join_append (query : Query) (more : List Token) :
    (Token.join (query.tokens ++ more)).toList =
      "SELECT".toList ++ ' ' :: Token.chars (query.body ++ more) := by
  rw [Token.toList_join, tokens_eq_body]
  simp [Token.chars, Token.text, Keyword.text, Mark.text]

theorem toList_join_tokens (query : Query) :
    (Token.join query.tokens).toList = "SELECT".toList ++ ' ' :: Token.chars query.body := by
  simpa using toList_join_append query []

/-- The row limit of T-SQL stands between `SELECT` and what follows it without a limit. -/
theorem toList_insertTop (query : Query) (n : Nat) :
    (insertTop (Token.join query.tokens) n).toList =
      "SELECT".toList ++ ' ' :: ("TOP".toList ++ ' ' :: ((toString n).toList ++
        ' ' :: Token.chars query.body)) := by
  have htext : (Token.join query.tokens).toList = "SELECT ".toList ++ Token.chars query.body := by
    rw [toList_join_tokens]
    rfl
  -- the text begins with `SELECT` and a blank, so the limit is not lost
  unfold insertTop
  rw [htext, Text.after?_append]
  simp

/-- What T-SQL has between `SELECT` and the body: the row limit, if there is one. -/
def topChars (query : Query) : Dialect → List Char
  | .tsql =>
    match query.limit with
    | some n => "TOP".toList ++ ' ' :: ((toString n).toList ++ [' '])
    | none => []
  | .sqlite => []

/-- What SQLite has behind the body: the row limit as a clause, if there is one. -/
def limitClause (query : Query) : Dialect → List Token
  | .tsql => []
  | .sqlite =>
    match query.limit with
    | some n => Token.clause .LIMIT [.count n]
    | none => []

/-- The text of a query in either dialect, with the two places a row limit can have. -/
theorem toList_text (query : Query) (dialect : Dialect) :
    (query.text dialect).toList =
      "SELECT".toList ++ ' ' :: (query.topChars dialect ++
        Token.chars (query.body ++ query.limitClause dialect)) := by
  cases hlimit : query.limit with
  | none =>
    rw [text_of_limit_eq_none hlimit]
    cases dialect <;>
      simpa [topChars, limitClause, hlimit] using query.toList_join_append []
  | some n =>
    cases dialect with
    | tsql =>
      rw [text_tsql_of_limit_eq_some hlimit]
      simp [topChars, limitClause, hlimit, toList_insertTop]
    | sqlite =>
      have hclause : Token.mark .blank :: trailingLimit n = Token.clause .LIMIT [.count n] := rfl
      rw [text_sqlite_of_limit_eq_some hlimit]
      simpa [topChars, limitClause, hlimit, hclause] using
        query.toList_join_append (Token.clause .LIMIT [.count n])

/-- The text of a query, in either dialect, is cut into just the lexemes of the query: no name and
    no string ends its quoting early, and nothing adds a lexeme. -/
theorem ofText?_text (query : Query) (dialect : Dialect)
    (hplain : ∀ t ∈ query.tokens, t.IsPlain) :
    Lexeme.ofText? (query.text dialect) = some (query.lexemes dialect) := by
  have hselect : Lexeme.IsWord "SELECT".toList := .of_check rfl
  have hbody : ∀ t ∈ query.body, t.IsPlain := by
    intro t ht
    exact hplain t (by simp [tokens_eq_body, ht])
  apply Cuts.ofText?
  cases hlimit : query.limit with
  | none =>
    simp only [text_of_limit_eq_none hlimit, lexemes, hlimit, toList_join_tokens]
    exact Cuts.word_blank "SELECT" hselect (query.spells_body.cuts hbody)
  | some n =>
    cases dialect with
    | tsql =>
      have htop : Lexeme.IsWord "TOP".toList := .of_check rfl
      have hcount := (Spells.count n).append query.spells_body.blank (begins_blank _)
      have hcuts := hcount.cuts (by simpa [Token.IsPlain] using hbody)
      simp only [text_tsql_of_limit_eq_some hlimit, lexemes, hlimit, toList_insertTop]
      apply Cuts.word_blank "SELECT" hselect
      apply Cuts.word_blank "TOP" htop
      simpa [Token.chars, Token.text, Mark.text] using hcuts
    | sqlite =>
      -- the row limit is one more clause at the end
      have hlimited := query.spells_body.clause .LIMIT (Spells.count n)
      have hplain' : ∀ t ∈ query.body ++ Token.clause .LIMIT [.count n], t.IsPlain := by
        intro t ht
        rcases List.mem_append.mp ht with ht | ht
        · exact hbody t ht
        · simp only [Token.clause, List.mem_cons, List.not_mem_nil, or_false] at ht
          rcases ht with rfl | rfl | rfl | rfl <;> trivial
      have hwhole := toList_join_append query (Token.clause .LIMIT [.count n])
      simp only [text_sqlite_of_limit_eq_some hlimit, lexemes, hlimit]
      exact hwhole ▸ Cuts.word_blank "SELECT" hselect (hlimited.cuts hplain')

end Query

end ReportDesk.Sql
