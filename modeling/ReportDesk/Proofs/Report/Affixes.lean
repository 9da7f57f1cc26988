import ReportDesk.Proofs.Report.Validity

/-! # Filters for beginnings and ends

    A filter for texts that start or end with a value becomes a comparison with a pattern: the value
    with a percent sign behind or before it. The quotation marks of the value are doubled and read
    back as they were, so the database has the value itself in its pattern. It has it as a pattern
    though. A value with a percent sign or an underscore selects texts that do not start or end with
    it, because nothing marks these two as themselves.
-/

namespace ReportDesk

namespace Sql

/-! ### Patterns -/

/-- Whether a character of a pattern does not stand for itself. -/
def IsWildcard (c : Char) : Prop :=
  c = '%' ∨ c = '_'

instance (c : Char) : Decidable (IsWildcard c) :=
  inferInstanceAs (Decidable (_ ∨ _))

/-- The texts that one character of a pattern stands for. -/
inductive Covers : Char → List Char → Prop where
  /-- A percent sign stands for any text. -/
  | text (piece : List Char) : Covers '%' piece
  /-- An underscore stands for any one character. -/
  | one (c : Char) : Covers '_' [c]
  /-- Every other character stands for itself. -/
  | self {c : Char} (hplain : ¬ IsWildcard c) : Covers c [c]

/-- Whether a text is like a pattern: it is what the characters of the pattern stand for, one after
    another. -/
inductive Like : List Char → List Char → Prop where
  | nil : Like [] []
  | cons {c : Char} {pattern front back : List Char} (hfront : Covers c front)
      (hback : Like pattern back) : Like (c :: pattern) (front ++ back)

namespace Like

/-- A text is like two patterns in a row just when it has two parts that are like them. -/
theorem append_iff {first second text : List Char} :
    Like (first ++ second) text ↔
      ∃ front back, text = front ++ back ∧ Like first front ∧ Like second back := by
  constructor
  · intro h
    induction first generalizing text with
    | nil => exact ⟨[], text, rfl, .nil, h⟩
    | cons c first ih =>
      cases h with
      | cons hpiece hrest =>
        obtain ⟨front, back, rfl, hfront, hback⟩ := ih hrest
        exact ⟨_, back, (List.append_assoc ..).symm, .cons hpiece hfront, hback⟩
  · rintro ⟨front, back, rfl, hfront, hback⟩
    induction hfront with
    | nil => exact hback
    | cons hpiece _ ih =>
      rw [List.append_assoc]
      exact .cons hpiece ih

/-- Every text is like a percent sign. -/
theorem percent (text : List Char) : Like ['%'] text := by
  have h := cons (.text text) nil
  rwa [List.append_nil] at h

/-- A pattern without wildcards is like itself only. -/
theorem iff_eq_of_plain {pattern text : List Char} (hplain : ∀ c ∈ pattern, ¬ IsWildcard c) :
    Like pattern text ↔ text = pattern := by
  induction pattern generalizing text with
  | nil =>
    constructor
    · rintro ⟨⟩
      rfl
    · rintro rfl
      exact .nil
  | cons c pattern ih =>
    rw [List.forall_mem_cons] at hplain
    constructor
    · intro h
      cases h with
      | cons hpiece hrest =>
        rw [(ih hplain.2).mp hrest]
        cases hpiece with
        | text => exact absurd (.inl rfl) hplain.1
        | one => exact absurd (.inr rfl) hplain.1
        | self => rfl
    · rintro rfl
      exact .cons (.self hplain.1) ((ih hplain.2).mpr rfl)

/-- A character for each of a pattern, none of them a wildcard. -/
def filled (pattern : List Char) : List Char :=
  pattern.map fun c => if IsWildcard c then 'x' else c

theorem length_filled (pattern : List Char) : (filled pattern).length = pattern.length :=
  List.length_map _

theorem of_filled (pattern : List Char) : Like pattern (filled pattern) := by
  induction pattern with
  | nil => exact .nil
  | cons c pattern ih =>
    show Like (c :: pattern) ([if IsWildcard c then 'x' else c] ++ filled pattern)
    refine .cons ?_ ih
    split
    · next hwild =>
      rcases hwild with rfl | rfl
      · exact .text _
      · exact .one _
    · next hplain => exact .self hplain

theorem filled_eq_iff {pattern : List Char} :
    filled pattern = pattern ↔ ∀ c ∈ pattern, ¬ IsWildcard c := by
  have hmap : filled pattern = pattern ↔
      ∀ c ∈ pattern, (if IsWildcard c then 'x' else c) = c := by
    conv_lhs => rhs; rw [← List.map_id pattern]
    exact List.map_inj_left
  rw [hmap]
  refine forall₂_congr fun c _ => ⟨fun h hwild => ?_, fun hplain => if_neg hplain⟩
  rw [if_pos hwild] at h
  exact absurd (h ▸ hwild) (by decide)

/-- A pattern for beginnings holds of the texts that begin with something like it. -/
theorem percent_behind_iff {pattern text : List Char} :
    Like (pattern ++ ['%']) text ↔ ∃ front, front <+: text ∧ Like pattern front := by
  rw [append_iff]
  constructor
  · rintro ⟨front, back, rfl, hfront, -⟩
    exact ⟨front, ⟨back, rfl⟩, hfront⟩
  · rintro ⟨front, ⟨back, rfl⟩, hfront⟩
    exact ⟨front, back, rfl, hfront, percent back⟩

/-- A pattern for ends holds of the texts that end with something like it. -/
theorem percent_before_iff {pattern text : List Char} :
    Like ('%' :: pattern) text ↔ ∃ back, back <:+ text ∧ Like pattern back := by
  rw [← List.singleton_append, append_iff]
  constructor
  · rintro ⟨front, back, rfl, -, hback⟩
    exact ⟨back, ⟨front, rfl⟩, hback⟩
  · rintro ⟨back, ⟨front, rfl⟩, hback⟩
    exact ⟨front, back, rfl, percent front, hback⟩

/-- Beginning or ending with something like a pattern is doing so with the pattern itself just when
    it has no wildcards, `Affix` being the relation of a part to the whole. -/
theorem affix_iff_plain {Affix : List Char → List Char → Prop} (hrefl : ∀ text, Affix text text)
    (heq : ∀ part text, Affix part text → part.length = text.length → part = text)
    (pattern : List Char) :
    (∀ text, (∃ part, Affix part text ∧ Like pattern part) ↔ Affix pattern text) ↔
      ∀ c ∈ pattern, ¬ IsWildcard c := by
  constructor
  · intro h
    have haffix := (h (filled pattern)).mp ⟨_, hrefl _, of_filled pattern⟩
    exact filled_eq_iff.mp (heq _ _ haffix (length_filled pattern).symm).symm
  · intro hplain text
    simp only [iff_eq_of_plain hplain, exists_eq_right]

end Like

end Sql

namespace Report.Filter

open Sql (Expr IsWildcard Lexeme Like Token)

variable {filter : Filter} {strict : Bool}

/-! ### The pattern of a filter -/

/-- Whether a filter's predicate compares its column with a pattern, which is the one that a reader
    of the written predicate finds there. -/
def Matches (filter : Filter) (strict : Bool) (pattern : String) : Prop :=
  ∃ predicate, filter.predicate strict = .ok predicate ∧
    Lexeme.ofText? predicate.text =
      some (filter.subject.lexemes ++ [.word "LIKE", .string pattern])

theorem ofText?_like (filter : Filter) (pattern : String) :
    Lexeme.ofText? (Expr.like filter.subject (.string pattern)).text =
      some (filter.subject.lexemes ++ [.word "LIKE", .string pattern]) := by
  have hfixed : ∀ t : Token, t.IsFixed → t.IsPlain := by
    intro t ht
    cases t <;> trivial
  have hshape : IsPredicate true filter.subject (.like filter.subject (.string pattern)) :=
    .like pattern
  have hplain := hshape.forall_tokens hfixed (fun v hv => isNumber_of_isNumeral (hv rfl))
    (Expr.forall_column hfixed _ _)
  apply Lexeme.Cuts.ofText?
  rw [Expr.text, Token.toList_join]
  exact (Expr.spells _).cuts hplain

theorem matches_startsWith (hop : Operator.startsWith.IsNamedBy filter.operator)
    (hgiven : filter.given ≠ "") : filter.Matches strict (filter.given ++ "%") :=
  ⟨_, predicate_of_given hop fun _ => hgiven, ofText?_like ..⟩

theorem matches_endsWith (hop : Operator.endsWith.IsNamedBy filter.operator)
    (hgiven : filter.given ≠ "") : filter.Matches strict ("%" ++ filter.given) :=
  ⟨_, predicate_of_given hop fun _ => hgiven, ofText?_like ..⟩

/-! ### What the patterns select -/

/-- A filter for beginnings selects the texts of which some beginning is like its value, and a
    filter for ends those of which some end is. These are the texts that start, or end, with the
    value itself just when it has neither percent signs nor underscores. -/
theorem affixes_selected (filter : Filter) (strict : Bool) (hgiven : filter.given ≠ "") :
    (Operator.startsWith.IsNamedBy filter.operator → ∃ pattern, filter.Matches strict pattern ∧
      (∀ text, Like pattern.toList text ↔
        ∃ front, front <+: text ∧ Like filter.given.toList front) ∧
      ((∀ text, Like pattern.toList text ↔ filter.given.toList <+: text) ↔
        ∀ c ∈ filter.given.toList, ¬ IsWildcard c)) ∧
    (Operator.endsWith.IsNamedBy filter.operator → ∃ pattern, filter.Matches strict pattern ∧
      (∀ text, Like pattern.toList text ↔
        ∃ back, back <:+ text ∧ Like filter.given.toList back) ∧
      ((∀ text, Like pattern.toList text ↔ filter.given.toList <:+ text) ↔
        ∀ c ∈ filter.given.toList, ¬ IsWildcard c)) := by
  constructor
  · intro hop
    have hlike : ∀ text, Like (filter.given ++ "%").toList text ↔
        ∃ front, front <+: text ∧ Like filter.given.toList front := by
      intro text
      rw [String.toList_append]
      exact Like.percent_behind_iff
    have hplain := Like.affix_iff_plain List.prefix_refl
      (fun _ _ => List.IsPrefix.eq_of_length) filter.given.toList
    simp only [← hlike] at hplain
    exact ⟨_, matches_startsWith hop hgiven, hlike, hplain⟩
  · intro hop
    have hlike : ∀ text, Like ("%" ++ filter.given).toList text ↔
        ∃ back, back <:+ text ∧ Like filter.given.toList back := by
      intro text
      rw [String.toList_append]
      exact Like.percent_before_iff
    have hplain := Like.affix_iff_plain List.suffix_refl
      (fun _ _ => List.IsSuffix.eq_of_length) filter.given.toList
    simp only [← hlike] at hplain
    exact ⟨_, matches_endsWith hop hgiven, hlike, hplain⟩

/-- A filter on a column of texts. -/
def onText (operator value : String) : Filter where
  table := "T"
  column := "x"
  declaredType := "varchar"
  operator := operator
  value := some value

theorem isNamedBy_startsWith : Operator.startsWith.IsNamedBy "starts_with" :=
  Operator.parse?_eq_some_iff.mp (by decide +kernel)

theorem isNamedBy_endsWith : Operator.endsWith.IsNamedBy "ENDS_WITH" :=
  Operator.parse?_eq_some_iff.mp (by decide +kernel)

/-- Quotation marks in a value are no wildcards, a percent sign is one. -/
theorem affixes_selected_marked :
    (∃ pattern, (onText "starts_with" "o'").Matches true pattern ∧
      ((∀ text, Like pattern.toList text ↔ ['o', '\''] <+: text) ↔
        ∀ c ∈ ['o', '\''], ¬ IsWildcard c)) ∧
    ∃ pattern, (onText "ENDS_WITH" "5%").Matches true pattern ∧
      ((∀ text, Like pattern.toList text ↔ ['5', '%'] <:+ text) ↔
        ∀ c ∈ ['5', '%'], ¬ IsWildcard c) := by
  have hstarts :=
    (affixes_selected (onText "starts_with" "o'") true (by decide)).1 isNamedBy_startsWith
  have hends := (affixes_selected (onText "ENDS_WITH" "5%") true (by decide)).2 isNamedBy_endsWith
  obtain ⟨quoted, hquoted, -, hplain⟩ := hstarts
  obtain ⟨rate, hrate, -, hwild⟩ := hends
  exact ⟨⟨quoted, hquoted, hplain⟩, rate, hrate, hwild⟩

/-- A text can be selected by its beginning without having it. -/
theorem selected_without_prefix : ¬ ∀ (filter : Filter) (strict : Bool), filter.given ≠ "" →
    Operator.startsWith.IsNamedBy filter.operator → ∀ pattern, filter.Matches strict pattern →
      ∀ text, Like pattern.toList text ↔ filter.given.toList <+: text := by
  intro hclaim
  have hgiven : (onText "starts_with" "_").given ≠ "" := by decide
  have hprefix := (hclaim _ true hgiven isNamedBy_startsWith _
    (matches_startsWith isNamedBy_startsWith hgiven) ['v']).mp
    (Like.percent_behind_iff.mpr ⟨['v'], ⟨[], rfl⟩, .cons (.one 'v') .nil⟩)
  exact absurd hprefix (by decide)

end Report.Filter

end ReportDesk
