import ReportDesk.Proofs.Decimal.Magnitude
import ReportDesk.Proofs.Json.Accepting
import ReportDesk.Proofs.Json.Reading
import ReportDesk.Proofs.Report.Validity
import ReportDesk.Report.Format

/-! # Numbers as values of filters

    A filter keeps its value as a text, and a number in a JSON document becomes the text that a JSON
    printer would write. A strict report then asks whether that text is a decimal number. It is for
    whole numbers, zero, and doubles from `10^-5` up to below `10^16` in size. All other doubles are
    written with an exponent, which no decimal number has, and the filter that had them is refused.
-/

namespace ReportDesk

namespace Decimal

open Sql (Lexeme)

/-! ### Texts without letters -/

/-- No letter stands in a decimal number. -/
theorem not_isAlpha_of_isNumber {cs : List Char} (h : Lexeme.IsNumber cs) :
    ∀ c ∈ cs, c.isAlpha = false := by
  have hdigits : ∀ {ds : List Char}, (∀ c ∈ ds, c.isDigit = true) → ∀ c ∈ ds, c.isAlpha = false :=
    fun hds c hc => Lexeme.isAlpha_of_isDigit (hds c hc)
  have hdecimal : ∀ {ds : List Char}, Lexeme.IsDecimal ds → ∀ c ∈ ds, c.isAlpha = false := by
    rintro _ ⟨whole, -, hwhole, rfl | ⟨fraction, -, hfraction, rfl⟩⟩
    · exact hdigits hwhole
    · rw [List.forall_mem_append, List.forall_mem_cons]
      exact ⟨hdigits hwhole, by decide, hdigits hfraction⟩
  rcases h with h | ⟨body, h, rfl⟩
  · exact hdecimal h
  · rw [List.forall_mem_cons]
    exact ⟨by decide, hdecimal h⟩

theorem isDigit_of_mem_replicate {n : Nat} : ∀ c ∈ List.replicate n '0', c.isDigit = true := by
  intro c hc
  rw [List.eq_of_mem_replicate hc]
  decide

/-- Digits without an exponent are a decimal number, wherever the point is. -/
theorem isDecimal_plain {ds : List Char} (hne : ds ≠ []) (hds : ∀ c ∈ ds, c.isDigit = true)
    (e : Int) : Lexeme.IsDecimal (plain ds e) := by
  unfold plain
  split
  · refine ⟨ds ++ List.replicate e.toNat '0', by simp [hne], ?_, .inr ⟨['0'], by simp, ?_, rfl⟩⟩
    · exact List.forall_mem_append.mpr ⟨hds, isDigit_of_mem_replicate⟩
    · simp
  · next hneg =>
    dsimp only
    split
    · next hlong =>
      refine ⟨_, ?_, fun c hc => hds c (List.mem_of_mem_take hc),
        .inr ⟨_, ?_, fun c hc => hds c (List.mem_of_mem_drop hc), rfl⟩⟩
      · rw [← List.length_pos_iff, List.length_take]
        omega
      · rw [← List.length_pos_iff, List.length_drop]
        omega
    · refine ⟨['0'], by simp, by simp,
        .inr ⟨List.replicate _ '0' ++ ds, by simp [hne], ?_, rfl⟩⟩
      exact List.forall_mem_append.mpr ⟨isDigit_of_mem_replicate, hds⟩

theorem isDecimal_zero : Lexeme.IsDecimal ['0', '.', '0'] :=
  ⟨['0'], by simp, by simp, .inr ⟨['0'], by simp, by simp, rfl⟩⟩

/-! ### Texts of doubles -/

/-- Whether a double is zero, or from `10^-5` up to below `10^16` in size. -/
def IsModerate (x : Float) : Prop :=
  ∃ negative m q, Parts.ofFloat x = .finite negative m q ∧
    (m = 0 ∨ (10 : ℚ) ^ (-5 : Int) ≤ m * 2 ^ q ∧ (m * 2 ^ q : ℚ) < 10 ^ (16 : Int))

/-- Whether a text shows a condition: with it the text is a decimal number, and without it there is
    a letter in the text. -/
def Shows (condition : Prop) (text : List Char) : Prop :=
  (condition → Lexeme.IsDecimal text) ∧ (¬ condition → ∃ c ∈ text, c.isAlpha = true)

theorem shows_digits (d : Digits) :
    Shows (-5 ≤ d.first ∧ d.first ≤ 15) (Layout.json.digits d) := by
  have hdigits : ∀ c ∈ Nat.toDigits 10 d.digits, c.isDigit = true :=
    fun c hc => Nat.isDigit_of_mem_toDigits (by decide) (by decide) hc
  have hchoice : Layout.json.digits d =
      if -5 ≤ d.first ∧ d.first ≤ 15 then plain (Nat.toDigits 10 d.digits) d.exponent
      else Layout.json.exponential (Nat.toDigits 10 d.digits) d.first := by
    unfold Layout.digits
    simp only [Bool.and_eq_true, decide_eq_true_eq]
    rfl
  rw [hchoice]
  refine ⟨fun h => ?_, fun h => ⟨'e', ?_, by decide⟩⟩
  · rw [if_pos h]
    exact isDecimal_plain Nat.toDigits_ne_nil hdigits _
  · rw [if_neg h]
    unfold Layout.exponential
    simp only [List.mem_append]
    refine .inl (.inr ?_)
    split <;> decide

/-- A double in JSON shows in the same way whether it is moderate, its sign and what is no number
    included. -/
theorem shows_text (x : Float) :
    (IsModerate x → Lexeme.IsNumber (Json.float x).compact.toList) ∧
      (¬ IsModerate x → ∃ c ∈ (Json.float x).compact.toList, c.isAlpha = true) := by
  have hcompact : (Json.float x).compact =
      if isFinite x then Layout.json.text x else "null" := rfl
  have hnull : ∃ c ∈ "null".toList, c.isAlpha = true := ⟨'n', by decide, by decide⟩
  rw [hcompact]
  unfold isFinite Layout.text
  cases hparts : Parts.ofFloat x with
  | nan =>
    refine ⟨?_, fun _ => hnull⟩
    rintro ⟨negative, m, q, hfinite, -⟩
    cases hparts.symm.trans hfinite
  | infinite negative =>
    refine ⟨?_, fun _ => hnull⟩
    rintro ⟨negative, m, q, hfinite, -⟩
    cases hparts.symm.trans hfinite
  | finite negative m q =>
    have hmoderate : IsModerate x ↔ m = 0 ∨ (10 : ℚ) ^ (-5 : Int) ≤ m * 2 ^ q ∧
        (m * 2 ^ q : ℚ) < 10 ^ (16 : Int) := by
      constructor
      · rintro ⟨negative', m', q', hfinite, h⟩
        cases hparts.symm.trans hfinite
        exact h
      · exact fun h => ⟨negative, m, q, hparts, h⟩
    have hbody : Shows (IsModerate x)
        (if m = 0 then ['0', '.', '0'] else Layout.json.digits (shortest m q)) := by
      rw [hmoderate]
      split
      · next hm => exact ⟨fun _ => isDecimal_zero, fun h => absurd (.inl hm) h⟩
      · next hm =>
        rw [or_iff_right hm, ← first_shortest_mem_iff (isDouble_of_ofFloat hparts) hm]
        exact shows_digits _
    -- a sign in front makes no difference
    simp only [if_true, String.toList_ofList]
    generalize (if m = 0 then _ else _) = body at hbody ⊢
    cases negative
    · exact ⟨fun h => .inl (hbody.1 h), hbody.2⟩
    · refine ⟨fun h => .inr ⟨body, hbody.1 h, rfl⟩, fun h => ?_⟩
      obtain ⟨c, hc, hletter⟩ := hbody.2 h
      exact ⟨c, List.mem_cons_of_mem _ hc, hletter⟩

end Decimal

namespace Report

open Json (Decoder Scope)
open Sql (BinaryOp Lexeme)

/-! ### Numbers in documents -/

/-- Whether a document is a number that is written without an exponent. -/
inductive IsPlainNumber : Json → Prop where
  | integer (n : Int) : IsPlainNumber (.integer n)
  | float {x : Float} (hx : Decimal.IsModerate x) : IsPlainNumber (.float x)

/-- Whether a document is a number. -/
inductive IsJsonNumber : Json → Prop where
  | integer (n : Int) : IsJsonNumber (.integer n)
  | float (x : Float) : IsJsonNumber (.float x)

theorem isNumber_toString (n : Int) : Lexeme.IsNumber (toString n).toList := by
  have hdecimal : ∀ k, Lexeme.IsDecimal (Nat.toDigits 10 k) := fun k =>
    ⟨_, Nat.toDigits_ne_nil,
      fun _ hc => Nat.isDigit_of_mem_toDigits (by decide) (by decide) hc, .inl rfl⟩
  cases n with
  | ofNat n =>
    rw [Json.toList_toString_ofNat]
    exact .inl (hdecimal n)
  | negSucc n =>
    rw [Json.toList_toString_negSucc]
    exact .inr ⟨_, hdecimal (n + 1), rfl⟩

theorem ne_empty_of_isNumber {text : String} (h : Lexeme.IsNumber text.toList) : text ≠ "" := by
  rintro rfl
  rcases h with h | ⟨body, -, hbody⟩
  · obtain ⟨c, rest, hcons, -⟩ := h.eq_cons
    cases hcons
  · cases hbody

/-- The text of a number is never empty, and is a decimal number just when it has no exponent. -/
theorem isNumber_compact_iff {json : Json} (h : IsJsonNumber json) :
    json.compact ≠ "" ∧ (Lexeme.IsNumber json.compact.toList ↔ IsPlainNumber json) := by
  cases h with
  | integer n =>
    have hnumber : Lexeme.IsNumber (Json.integer n).compact.toList := isNumber_toString n
    exact ⟨ne_empty_of_isNumber hnumber, iff_of_true hnumber (.integer n)⟩
  | float x =>
    obtain ⟨hplain, hother⟩ := Decimal.shows_text x
    by_cases hx : Decimal.IsModerate x
    · exact ⟨ne_empty_of_isNumber (hplain hx), iff_of_true (hplain hx) (.float hx)⟩
    · obtain ⟨c, hc, hletter⟩ := hother hx
      refine ⟨?_, iff_of_false (fun hnumber => ?_) ?_⟩
      · intro hempty
        simp [hempty] at hc
      · exact absurd hletter (by simp [Decimal.not_isAlpha_of_isNumber hnumber c hc])
      · rintro (_ | hmoderate)
        exact hx hmoderate

/-! ### Values of decoded filters -/

/-- The value that a document gives for a filter, by key or in its place. -/
inductive GivesValue : Json → Json → Prop where
  | byKey {members : List (String × Json)} {value : Json} (h : ("value", value) ∈ members) :
      GivesValue (.object members) value
  | inOrder {items : List Json} {value : Json} (h : items[4]? = some value) :
      GivesValue (.array items) value

theorem scalarDecoder_number {scope : Scope} {json : Json} (h : IsJsonNumber json) :
    scalarDecoder scope json = .ok (some json.compact) := by
  cases h <;> rfl

theorem field_value_of_decoder {record : Json.Record} {filter : Filter}
    (h : Filter.mk <$> record.orElse 0 ["table"] .string ""
      <*> record.orElse 1 ["column"] .string ""
      <*> record.orElse 2 ["declaredType"] .string ""
      <*> record.orElse 3 ["operator"] .string ""
      <*> record.orElse 4 ["value"] scalarDecoder none = .done filter) :
    record.orElse 4 ["value"] scalarDecoder none = .done filter.value := by
  obtain ⟨four, value, hfour, hvalue, rfl⟩ := Json.Reading.seq_eq_done h
  obtain ⟨three, operator, hthree, -, rfl⟩ := Json.Reading.seq_eq_done hfour
  obtain ⟨two, declaredType, htwo, -, rfl⟩ := Json.Reading.seq_eq_done hthree
  obtain ⟨one, column, hone, -, rfl⟩ := Json.Reading.seq_eq_done htwo
  obtain ⟨table, -, rfl⟩ := Json.Reading.map_eq_done hone
  exact hvalue

/-- A number is kept as the text that it has in JSON. -/
theorem value_of_number {scope : Scope} {document value : Json} {filter : Filter}
    (hfilter : Filter.decoder scope document = .ok filter) (hgives : GivesValue document value)
    (hnumber : IsJsonNumber value) : filter.value = some value.compact := by
  cases hgives with
  | @byKey members _ hmem =>
    have hfield := field_value_of_decoder (Json.Decoder.record_object_eq_ok_iff.mp hfilter).1
    rw [Json.Record.orElse, Json.Record.field_byKey_eq_done_iff rfl] at hfield
    have hnamed : ("value", value) ∈ Json.named ["value"] members := by simp [Json.named, hmem]
    rcases hfield with ⟨hnone, -⟩ | ⟨key, item, hone, hitem⟩
    · simp [hnone] at hnamed
    · rw [hone, List.mem_singleton] at hnamed
      cases hnamed
      rw [scalarDecoder_number hnumber] at hitem
      exact (Except.ok.inj hitem).symm
  | @inOrder items _ hplace =>
    have hfield := field_value_of_decoder (Json.Decoder.record_array_eq_ok_iff.mp hfilter).1
    rw [Json.Record.orElse, Json.Record.field_inOrder_eq_done_iff rfl] at hfield
    rcases hfield with ⟨hnone, -⟩ | ⟨item, hone, hitem⟩
    · cases hplace.symm.trans hnone
    · cases hplace.symm.trans hone
      rw [scalarDecoder_number hnumber] at hitem
      exact (Except.ok.inj hitem).symm

/-! ### Strict comparisons with a number -/

/-- The sign of an operator that compares with one value in whole. -/
def Operator.sign? : Operator → Option BinaryOp
  | .equals => some .eq
  | .notEquals => some .ne
  | .greaterThan => some .gt
  | .greaterThanOrEqual => some .ge
  | .lessThan => some .lt
  | .lessThanOrEqual => some .le
  | .contains | .startsWith | .endsWith | .isNull | .isNotNull | .oneOf | .between => none

namespace Filter

variable {scope : Scope} {document value : Json} {filter : Filter} {op : Operator}
  {sign : BinaryOp}

theorem compare_of_sign (htype : ¬ IsStringType filter.declaredType)
    (hsign : op.sign? = some sign) (strict : Bool) (text : String) :
    filter.compare strict text op =
      (filter.verbatim strict text).map (.binary filter.subject sign) := by
  have hliteral : filter.literal strict text = filter.verbatim strict text := by
    simp [literal, isStringType_eq, htype]
  cases op with
  | equals | notEquals =>
    cases hsign
    rw [compare, hliteral]
  | greaterThan | greaterThanOrEqual | lessThan | lessThanOrEqual =>
    cases hsign
    rfl
  | _ => cases hsign

/-- What a strict report makes of a comparison with a number of a document. -/
theorem predicate_of_number (hfilter : Filter.decoder scope document = .ok filter)
    (hgives : GivesValue document value) (hnumber : IsJsonNumber value)
    (htype : ¬ IsStringType filter.declaredType) (hop : op.IsNamedBy filter.operator)
    (hsign : op.sign? = some sign) :
    filter.predicate true =
      (filter.verbatim true value.compact).map (.binary filter.subject sign) := by
  have hgiven : filter.given = value.compact := by
    rw [given, value_of_number hfilter hgives hnumber, Option.getD_some]
  have hne : filter.given ≠ "" := by
    rw [hgiven]
    exact (isNumber_compact_iff hnumber).1
  rw [predicate_of_given hop fun _ => hne, hgiven]
  exact compare_of_sign htype hsign true _

/-- A filter whose value is a number in JSON, that compares it with a column of other than strings.
    In a strict report it has a predicate just when the number is whole, zero, or from `10^-5` up to
    below `10^16` in size; the predicate has the number as JSON writes it. Any other number is
    refused under the text that JSON writes for it. -/
theorem strict_of_number (hfilter : Filter.decoder scope document = .ok filter)
    (hgives : GivesValue document value) (hnumber : IsJsonNumber value)
    (htype : ¬ IsStringType filter.declaredType) (hop : op.IsNamedBy filter.operator)
    (hsign : op.sign? = some sign) :
    (IsPlainNumber value → filter.predicate true =
      .ok (.binary filter.subject sign (.verbatim value.compact))) ∧
    (¬ IsPlainNumber value →
      filter.predicate true = .error (.notNumeric filter.column value.compact)) := by
  rw [← (isNumber_compact_iff hnumber).2, ← isNumeral_iff,
    predicate_of_number hfilter hgives hnumber htype hop hsign]
  unfold verbatim
  constructor
  · intro hplain
    simp [hplain, Except.map]
  · intro hother
    simp [hother, Except.map]

end Filter

/-! ### Numbers on both sides of a bound -/

/-- A filter that compares a column of numbers with a number. -/
def comparison (value : Json) : Json :=
  .object
    [("table", .string "T"), ("column", .string "n"), ("declaredType", .string "float"),
     ("operator", .string "="), ("value", value)]

/-- The filter that a comparison is read as. -/
def compared (text : String) : Filter where
  table := "T"
  column := "n"
  declaredType := "float"
  operator := "="
  value := some text

theorem decoder_comparison {value : Json} (h : IsJsonNumber value) :
    Filter.decoder { origin := .text } (comparison value) = .ok (compared value.compact) := by
  cases h <;> rfl

theorem isNamedBy_equals : Operator.equals.IsNamedBy "=" :=
  Operator.parse?_eq_some_iff.mp (by decide +kernel)

theorem isPlainNumber_half : IsPlainNumber (.float 0.5) := by
  have hparts : Decimal.Parts.ofFloat 0.5 = .finite false 4503599627370496 (-53) := by
    decide +kernel
  exact .float ⟨_, _, _, hparts, .inr (by norm_num)⟩

theorem not_isStringType_float : ¬ IsStringType "float" := by
  decide +kernel

theorem strict_of_number_half :
    (compared (Json.float 0.5).compact).predicate true =
      .ok (.binary (.column (some { table := "T" }) "n") .eq
        (.verbatim (Json.float 0.5).compact)) := by
  have hgives : GivesValue (comparison (.float 0.5)) (.float 0.5) := .byKey (by simp)
  exact (Filter.strict_of_number (decoder_comparison (.float 0.5)) hgives (.float 0.5)
    not_isStringType_float isNamedBy_equals rfl).1 isPlainNumber_half

/-- A number with an exponent is refused. -/
theorem not_accepted_when_great : ¬ ∀ (scope : Scope) (document value : Json) (filter : Filter)
    (op : Operator) (sign : BinaryOp), Filter.decoder scope document = .ok filter →
      GivesValue document value → IsJsonNumber value → ¬ IsStringType filter.declaredType →
      op.IsNamedBy filter.operator → op.sign? = some sign →
      ∃ predicate, filter.predicate true = .ok predicate := by
  intro hclaim
  have hcompact : (Json.float 1e16).compact = "1e+16" := by decide +kernel
  have hfilter := decoder_comparison (.float 1e16)
  have hgives : GivesValue (comparison (.float 1e16)) (.float 1e16) := .byKey (by simp)
  obtain ⟨predicate, haccepted⟩ := hclaim _ _ _ _ _ .eq hfilter hgives (.float 1e16)
    not_isStringType_float isNamedBy_equals rfl
  rw [Filter.predicate_of_number hfilter hgives (.float 1e16) not_isStringType_float
    isNamedBy_equals rfl, hcompact] at haccepted
  cases haccepted

end Report

end ReportDesk
