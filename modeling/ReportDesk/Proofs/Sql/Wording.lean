import ReportDesk.Proofs.Sql.Spelling
import ReportDesk.Proofs.Text.Occurrence

/-! # Words in statements

    A statement mentions a word just when a text does that one of its tokens carries. The word can
    be any in capital letters that the fixed words of statements do not mention.

    A word does not go beyond one token, because of each two tokens side by side one is a mark, and
    marks have no letters: tokens are `Apart`, whatever the query. In a token it does not go beyond
    the brackets, quotes and dots around the texts, and doubling closing marks inside of a text
    neither makes nor hides words, since these marks are no letters either.
-/

namespace ReportDesk.Sql

open Text (IsCapital Mentions Separates mentions_append_append_iff mentions_append_cons_iff
  mentions_concat_iff mentions_cons_iff not_mentions_nil not_mentions_of_separates)

/-! ### Texts of tokens -/

/-- The texts that a token carries: names, and literals without their quotes. -/
def Token.texts : Token → List String
  | .name text => [text]
  | .table schema own => schema.toList ++ [own]
  | .string text => [text]
  | .verbatim text => [text]
  | _ => []

theorem Token.texts_clause (k : Keyword) (content : List Token) :
    (clause k content).flatMap texts = content.flatMap texts := by
  simp [clause, texts]

/-- A list has the texts of its parts. -/
theorem Token.texts_listed {α : Type} (tokens : α → List Token) (as : List α) :
    (listed (as.map tokens)).flatMap texts = as.flatMap fun a => (tokens a).flatMap texts := by
  induction as with
  | nil => rfl
  | cons a rest ih =>
    -- a comma needs a second part behind it, and carries no text
    cases rest with
    | nil => simp [listed]
    | cons b rest =>
      rw [List.map_cons] at ih
      rw [List.map_cons, List.map_cons, listed_cons_cons, List.flatMap_append, List.flatMap_cons,
        List.flatMap_cons, ih]
      simp [texts]

theorem Query.texts_optionalClause {α : Type} (k : Keyword) (tokens : α → List Token)
    (as : List α) :
    (optionalClause k (as.map tokens)).flatMap Token.texts =
      as.flatMap fun a => (tokens a).flatMap Token.texts := by
  cases as with
  | nil => rfl
  | cons a rest =>
    have hclause : optionalClause k ((a :: rest).map tokens) =
        Token.clause k (Token.listed ((a :: rest).map tokens)) := rfl
    rw [hclause, Token.texts_clause, Token.texts_listed]

namespace Expr

/-- The texts of an expression. -/
def texts (expr : Expr) : List String :=
  expr.tokens.flatMap Token.texts

theorem texts_binary (left : Expr) (op : BinaryOp) (right : Expr) :
    (Expr.binary left op right).texts = left.texts ++ right.texts := by
  cases op <;> simp [texts, tokens, Token.texts, BinaryOp.token]

theorem texts_like (subject : Expr) (pattern : String) :
    (Expr.like subject (.string pattern)).texts = subject.texts ++ [pattern] := by
  simp [texts, tokens, Token.texts_clause, Token.texts]

theorem texts_oneOf (subject : Expr) (values : List Expr) :
    (Expr.oneOf subject values).texts = subject.texts ++ values.flatMap texts := by
  have hvalues : (Token.listed (values.map tokens)).flatMap Token.texts =
      values.flatMap texts := Token.texts_listed _ _
  rw [texts, tokens, tokensOfEach_eq_map, List.flatMap_append, Token.texts_clause,
    List.cons_append, List.flatMap_cons, List.flatMap_append, hvalues]
  simp [Token.texts, texts]

theorem texts_between (subject low high : Expr) :
    (Expr.between subject low high).texts = subject.texts ++ low.texts ++ high.texts := by
  simp [texts, tokens, Token.texts_clause]

theorem texts_isNull (subject : Expr) (negated : Bool) :
    (Expr.isNull subject negated).texts = subject.texts := by
  simp [texts, tokens, Token.texts]

end Expr

/-! ### Words in a token -/

/-- A word that no fixed word of a statement mentions. -/
structure IsForeign (word : List Char) : Prop where
  /-- It is in capital letters. -/
  isCapital : IsCapital word
  /-- Keywords do not mention it. -/
  keyword : ∀ k : Keyword, ¬ Mentions word k.text.toList
  /-- The word of the row limit of T-SQL does not. -/
  top : ¬ Mentions word "TOP".toList

section

variable {word : List Char}

/-- Doubling a mark that separates makes and hides no word, also behind other text. -/
theorem mentions_append_doubling_iff (hword : IsCapital word) {mark : Char} (hmark : Separates mark)
    (front cs : List Char) :
    Mentions word (front ++ doubling mark cs) ↔ Mentions word (front ++ cs) := by
  -- by induction behind any text, since a word can begin before the first mark
  induction cs generalizing front with
  | nil => rfl
  | cons c rest ih =>
    by_cases hc : c = mark
    · have hdouble : doubling mark (c :: rest) = mark :: mark :: doubling mark rest := by
        simp [doubling, hc]
      rw [hdouble, hc, mentions_append_cons_iff hword hmark, mentions_append_cons_iff hword hmark,
        mentions_cons_iff hword hmark]
      exact or_congr_right (ih [])
    · have hsingle : doubling mark (c :: rest) = [c] ++ doubling mark rest := by
        simp [doubling, hc]
      rw [hsingle, ← List.append_assoc, ih, List.append_assoc]
      rfl

/-- A quoted text mentions what the text does. -/
theorem mentions_quoted_iff (hword : IsCapital word) {opening closing : Char}
    (hopening : Separates opening) (hclosing : Separates closing) (cs : List Char) :
    Mentions word (opening :: (doubling closing cs ++ [closing])) ↔ Mentions word cs := by
  rw [mentions_cons_iff hword hopening, mentions_concat_iff hword hclosing]
  exact mentions_append_doubling_iff hword hclosing [] cs

theorem mentions_quoteName_iff (hword : IsCapital word) (name : String) :
    Mentions word (quoteName name).toList ↔ Mentions word name.toList := by
  have htext : (quoteName name).toList = '[' :: (doubling ']' name.toList ++ [']']) := by
    simp [quoteName]
  rw [htext]
  exact mentions_quoted_iff hword (by decide) (by decide) _

theorem mentions_quoteString_iff (hword : IsCapital word) (text : String) :
    Mentions word (quoteString text).toList ↔ Mentions word text.toList := by
  have htext : (quoteString text).toList = '\'' :: (doubling '\'' text.toList ++ ['\'']) := by
    simp [quoteString, escapeString]
  rw [htext]
  exact mentions_quoted_iff hword (by decide) (by decide) _

theorem Mark.separates (m : Mark) : ∀ c ∈ m.text.toList, Separates c := by
  have hall : m.text.toList.all (fun c => decide (Separates c)) = true := by cases m <;> decide
  simpa using hall

theorem Mark.toList_text_ne_nil (m : Mark) : m.text.toList ≠ [] := by
  cases m <;> decide

theorem not_mentions_count (hword : IsCapital word) (n : Nat) :
    ¬ Mentions word (toString n).toList := by
  apply not_mentions_of_separates hword
  intro c hc
  rw [Nat.toString_eq_repr, Nat.toList_repr] at hc
  exact Text.separates_of_isDigit (Nat.isDigit_of_mem_toDigits (by decide) (by decide) hc)

/-- A token mentions a word just when a text does that it carries, unless it is a function that
    does. -/
theorem Token.mentions_text_iff (hword : IsForeign word) {t : Token}
    (hfunction : ∀ f, t = .function f → ¬ Mentions word t.text.toList) :
    Mentions word t.text.toList ↔ ∃ text ∈ t.texts, Mentions word text.toList := by
  have hcapital := hword.isCapital
  cases t with
  | word k => simpa [texts, text] using hword.keyword k
  | mark m => simpa [texts, text] using not_mentions_of_separates hcapital m.separates
  | name own => simpa [texts, text] using mentions_quoteName_iff hcapital own
  | table schema own =>
    cases schema with
    | none => simpa [texts, text] using mentions_quoteName_iff hcapital own
    | some schema =>
      have htext : (Token.table (some schema) own).text.toList =
          (quoteName schema).toList ++ '.' :: (quoteName own).toList := by simp [text]
      rw [htext, mentions_append_cons_iff hcapital (by decide), mentions_quoteName_iff hcapital,
        mentions_quoteName_iff hcapital]
      simp [texts]
  | count n => simpa [texts, text] using not_mentions_count hcapital n
  | string value => simpa [texts, text] using mentions_quoteString_iff hcapital value
  | function f => simpa [texts] using hfunction f rfl
  | verbatim value => simp [texts, text]

/-! ### Words in a list of tokens -/

/-- Of each two tokens side by side one is a mark. -/
def Apart (tokens : List Token) : Prop :=
  tokens.IsChain fun a b => (∃ m, a = .mark m) ∨ ∃ m, b = .mark m

theorem mentions_chars_mark_iff (hword : IsCapital word) (m : Mark) (front : List Char)
    (tokens : List Token) :
    Mentions word (front ++ Token.chars (.mark m :: tokens)) ↔
      Mentions word front ∨ Mentions word (Token.chars tokens) := by
  have hchars : Token.chars (.mark m :: tokens) = m.text.toList ++ Token.chars tokens := by
    simp [Token.chars, Token.text]
  rw [hchars]
  exact mentions_append_append_iff hword m.toList_text_ne_nil m.separates _ _

/-- A word does not go beyond the first of tokens that are apart. -/
theorem Apart.mentions_chars_cons_iff (hword : IsCapital word) {t : Token} {rest : List Token}
    (h : Apart (t :: rest)) :
    Mentions word (Token.chars (t :: rest)) ↔
      Mentions word t.text.toList ∨ Mentions word (Token.chars rest) := by
  have hnil := not_mentions_nil hword
  cases rest with
  | nil => simp [Token.chars, hnil]
  | cons next rest =>
    rcases (List.isChain_cons_cons.mp h).1 with ⟨m, rfl⟩ | ⟨m, rfl⟩
    · have hmark := not_mentions_of_separates hword m.separates
      simpa [hnil, hmark, Token.text] using mentions_chars_mark_iff hword m [] (next :: rest)
    · have hmark := mentions_chars_mark_iff hword m [] rest
      have hchars : Token.chars (t :: .mark m :: rest) =
          t.text.toList ++ Token.chars (.mark m :: rest) := by simp [Token.chars]
      rw [List.nil_append] at hmark
      rw [hchars, mentions_chars_mark_iff hword, hmark]
      simp [hnil]

/-- A word in tokens that are apart is in one of them. -/
theorem Apart.mentions_chars_iff (hword : IsCapital word) {tokens : List Token}
    (h : Apart tokens) :
    Mentions word (Token.chars tokens) ↔ ∃ t ∈ tokens, Mentions word t.text.toList := by
  induction tokens with
  | nil => simpa [Token.chars] using not_mentions_nil hword
  | cons t rest ih =>
    rw [h.mentions_chars_cons_iff hword, ih h.tail]
    simp

namespace Apart

variable {front back : List Token}

theorem singleton (t : Token) : Apart [t] :=
  List.isChain_singleton t

/-- Between tokens that are apart can stand a mark. -/
theorem append_mark (hfront : Apart front) (m : Mark) (hback : Apart back) :
    Apart (front ++ .mark m :: back) := by
  refine List.isChain_append.mpr ⟨hfront, ?_, ?_⟩
  · cases back with
    | nil => exact List.isChain_singleton _
    | cons t rest => exact List.isChain_cons_cons.mpr ⟨.inl ⟨m, rfl⟩, hback⟩
  · intro t _ u hu
    obtain rfl : Token.mark m = u := by simpa using hu
    exact .inr ⟨m, rfl⟩

theorem mark_cons (m : Mark) (hback : Apart back) : Apart (.mark m :: back) :=
  append_mark List.isChain_nil m hback

/-- A clause can follow tokens. -/
theorem clause (hfront : Apart front) (k : Keyword) (hback : Apart back) :
    Apart (front ++ Token.clause k back) :=
  hfront.append_mark .blank ((singleton (.word k)).append_mark .blank hback)

/-- A list of tokens with commas between is apart if its parts are. -/
theorem listed {α : Type} {tokens : α → List Token} {as : List α}
    (h : ∀ a ∈ as, Apart (tokens a)) : Apart (Token.listed (as.map tokens)) := by
  induction as with
  | nil => exact List.isChain_nil
  | cons a rest ih =>
    have ha := h a (by simp)
    have hrest := ih fun b hb => h b (by simp [hb])
    -- a comma needs a second part behind it
    cases rest with
    | nil => simpa [Token.listed] using ha
    | cons b rest =>
      have hall := ha.append_mark .comma (hrest.mark_cons .blank)
      simpa [Token.listed_cons_cons] using hall

/-- Tokens between round brackets. -/
theorem bracketed (h : Apart back) : Apart (.mark .opening :: (back ++ [.mark .closing])) :=
  (h.append_mark .closing List.isChain_nil).mark_cons .opening

end Apart

end

/-! ### Tokens of queries -/

namespace Expr

/-- A table stands before a column or star with a dot between. -/
theorem apart_qualifier (table : Option TableName) (t : Token) :
    Apart (qualifier table ++ [t]) := by
  cases table with
  | none => exact .singleton t
  | some table => exact (Apart.singleton table.token).append_mark .dot (.singleton t)

mutual

/-- The tokens of every expression are apart. -/
theorem apart : (expr : Expr) → Apart expr.tokens
  | .column table name => apart_qualifier table (.name name)
  | .star table => apart_qualifier table (.mark .star)
  | .string text => .singleton (.string text)
  | .verbatim text => .singleton (.verbatim text)
  | .binary left op right => by
    have hright := (Apart.singleton op.token).append_mark .blank (apart right)
    exact (apart left).append_mark .blank hright
  | .call function arguments => by
    have hlist := (Apart.listed (apart_of_mem arguments)).append_mark .closing List.isChain_nil
    simpa [tokens, tokensOfEach_eq_map] using
      (Apart.singleton (.function function)).append_mark .opening hlist
  | .like subject pattern => (apart subject).clause .LIKE (apart pattern)
  | .oneOf subject values => by
    have hlist := (Apart.listed (apart_of_mem values)).bracketed
    simpa [tokens, tokensOfEach_eq_map] using (apart subject).clause .IN hlist
  | .between subject low high =>
    ((apart subject).clause .BETWEEN (apart low)).clause .AND (apart high)
  | .isNull subject _ => (apart subject).append_mark .blank (.singleton _)

/-- The tokens of every expression of a list are apart. -/
theorem apart_of_mem : (exprs : List Expr) → ∀ expr ∈ exprs, Apart expr.tokens
  | [], _, h => absurd h (by simp)
  | expr :: rest, other, h => by
    rcases List.mem_cons.mp h with he | h
    · rw [he]
      exact apart expr
    · exact apart_of_mem rest other h

end

end Expr

theorem SelectItem.apart (item : SelectItem) : Apart item.tokens := by
  obtain ⟨expr, asName⟩ := item
  cases asName with
  | none => simpa [tokens] using expr.apart
  | some name => exact expr.apart.clause .AS (.singleton (.name name))

theorem Join.apart (join : Join) : Apart join.tokens := by
  have htable := (Apart.singleton (.word .JOIN)).append_mark .blank (.singleton join.table.token)
  have hjoin := (Apart.singleton (.word join.kind.keyword)).append_mark .blank htable
  exact hjoin.clause .ON join.condition.apart

theorem SortItem.apart (item : SortItem) : Apart item.tokens :=
  item.expr.apart.append_mark .blank (.singleton _)

namespace Query

variable {front : List Token}

theorem apart_joins (hfront : Apart front) (joins : List Join) :
    Apart (front ++ joins.flatMap fun join => .mark .blank :: join.tokens) := by
  induction joins generalizing front with
  | nil => simpa using hfront
  | cons join rest ih =>
    have hnext := ih (hfront.append_mark .blank join.apart)
    simpa using hnext

theorem apart_optionalClause (hfront : Apart front) (k : Keyword) {α : Type}
    {tokens : α → List Token} (h : ∀ a, Apart (tokens a)) (as : List α) :
    Apart (front ++ optionalClause k (as.map tokens)) := by
  cases as with
  | nil => simpa [optionalClause] using hfront
  | cons a rest => exact hfront.clause k (Apart.listed fun b _ => h b)

theorem apart_sourceClause (hfront : Apart front) (source : Option TableName) :
    Apart (front ++ sourceClause source) := by
  cases source with
  | none => simpa [sourceClause] using hfront
  | some table => exact hfront.clause .FROM (.singleton table.token)

theorem apart_conditionClause (hfront : Apart front) (condition : Option Expr) :
    Apart (front ++ conditionClause condition) := by
  cases condition with
  | none => simpa [conditionClause] using hfront
  | some condition => exact hfront.clause .WHERE condition.apart

/-- The tokens of every query are apart, and each clause can be followed by the next. -/
theorem apart_body (query : Query) : Apart query.body := by
  have hselect : Apart (Token.listed (query.select.map SelectItem.tokens)) :=
    Apart.listed fun item _ => item.apart
  have hjoins := apart_joins (apart_sourceClause hselect query.source) query.joins
  have hgrouping := apart_optionalClause (apart_conditionClause hjoins query.condition) .GROUP_BY
    Expr.apart query.grouping
  have hordering := apart_optionalClause hgrouping .ORDER_BY SortItem.apart query.ordering
  simpa [body, clauses] using hordering

/-- The row limit of T-SQL is no part of a word and has none in it. -/
theorem mentions_topChars_iff {word : List Char} (hword : IsForeign word) (query : Query)
    (dialect : Dialect) (back : List Char) :
    Mentions word (query.topChars dialect ++ back) ↔ Mentions word back := by
  have hcapital := hword.isCapital
  cases dialect with
  | sqlite => rfl
  | tsql =>
    cases hlimit : query.limit with
    | none => simp only [topChars, hlimit, List.nil_append]
    | some n =>
      have hsplit : query.topChars .tsql ++ back =
          "TOP".toList ++ ' ' :: ((toString n).toList ++ ' ' :: back) := by
        simp [topChars, hlimit]
      rw [hsplit, mentions_append_cons_iff hcapital (by decide),
        mentions_append_cons_iff hcapital (by decide)]
      simp only [hword.top, not_mentions_count hcapital n, false_or]

/-- The row limit of SQLite has no word in it. -/
theorem not_mentions_limitClause {word : List Char} (hword : IsForeign word) (query : Query)
    (dialect : Dialect) : ∀ t ∈ query.limitClause dialect, ¬ Mentions word t.text.toList := by
  have hblank : ¬ Mentions word (Token.mark .blank).text.toList :=
    not_mentions_of_separates hword.isCapital (Mark.separates .blank)
  have hkeyword : ¬ Mentions word (Token.word .LIMIT).text.toList := hword.keyword .LIMIT
  cases dialect with
  | tsql => simp [limitClause]
  | sqlite =>
    cases hlimit : query.limit with
    | none => simp [limitClause, hlimit]
    | some n =>
      have hcount := not_mentions_count hword.isCapital n
      simp only [limitClause, hlimit, Token.clause, List.forall_mem_cons, List.not_mem_nil]
      exact ⟨hblank, hkeyword, hblank, hcount, by simp⟩

theorem apart_limitClause (query : Query) (dialect : Dialect) :
    Apart (query.body ++ query.limitClause dialect) := by
  cases dialect with
  | tsql => simpa [limitClause] using query.apart_body
  | sqlite =>
    cases hlimit : query.limit with
    | none => simpa [limitClause, hlimit] using query.apart_body
    | some n =>
      simpa [limitClause, hlimit] using query.apart_body.clause .LIMIT (.singleton (.count n))

/-- A query mentions a word just when a token of its body does: what stands around the body is
    fixed. -/
theorem mentions_text_iff {word : List Char} (hword : IsForeign word) (query : Query)
    (dialect : Dialect) :
    Mentions word (query.text dialect).toList ↔
      ∃ t ∈ query.body, Mentions word t.text.toList := by
  have hselect : ¬ Mentions word "SELECT".toList := hword.keyword .SELECT
  have hlimit := query.not_mentions_limitClause hword dialect
  rw [toList_text, mentions_append_cons_iff hword.isCapital (by decide),
    mentions_topChars_iff hword,
    (query.apart_limitClause dialect).mentions_chars_iff hword.isCapital]
  simp only [hselect, false_or, List.mem_append, or_and_right, exists_or]
  refine or_iff_left ?_
  rintro ⟨t, ht, hmentions⟩
  exact hlimit t ht hmentions

/-- A query mentions a word just when a text does that one of its tokens carries, unless a function
    in it does. -/
theorem mentions_iff_texts {word : List Char} (hword : IsForeign word) (query : Query)
    (dialect : Dialect)
    (hfunction : ∀ t ∈ query.body, ∀ f, t = .function f → ¬ Mentions word t.text.toList) :
    Mentions word (query.text dialect).toList ↔
      ∃ text ∈ query.body.flatMap Token.texts, Mentions word text.toList := by
  rw [query.mentions_text_iff hword]
  simp only [List.mem_flatMap]
  constructor
  · rintro ⟨t, ht, hmentions⟩
    obtain ⟨text, htext, hmentions⟩ := (Token.mentions_text_iff hword (hfunction t ht)).mp hmentions
    exact ⟨text, ⟨t, ht, htext⟩, hmentions⟩
  · rintro ⟨text, ⟨t, ht, htext⟩, hmentions⟩
    exact ⟨t, ht, (Token.mentions_text_iff hword (hfunction t ht)).mpr ⟨text, htext, hmentions⟩⟩

end Query

end ReportDesk.Sql
