import ReportDesk.Proofs.Outcome
import ReportDesk.Proofs.Text.Trimming
import ReportDesk.Settings.Environment

/-! # References in settings

    A text is written in segments (`IsWritten`): what is kept as it is, references in braces and
    without, and dollar signs that begin no reference. A reference without braces ends where no
    further character can belong to its name, so what may follow a segment is part of how it is
    written. Every text is written in segments, if a reference in braces that is never closed is one
    as well.

    Expanding goes through the segments once, from the left (`expandChars_eq`). What stands for a
    reference is put in as it is and not looked at again, and the first reference to a variable that
    is not defined is the error.
-/

namespace ReportDesk.Environment

open Text (takeWhile_append_of_stop dropWhile_append_of_stop)

/-! ### Segments -/

/-- A segment of a text with references. -/
inductive Segment where
  /-- A text that is kept. -/
  | plain (text : String)
  /-- A reference in braces. -/
  | braced (name : String)
  /-- A reference without braces. -/
  | bare (name : String)
  /-- A dollar sign that begins no reference. -/
  | dollar
  /-- A reference that goes on to the end of the text because its brace is not closed. -/
  | unclosed (name : String)
  deriving DecidableEq, Repr

/-- Whether a text is written as a sequence of segments. -/
inductive IsWritten : List Segment → List Char → Prop where
  | nil : IsWritten [] []
  /-- A kept text has no dollar sign. -/
  | plain (text : String) {segments : List Segment} {rest : List Char}
      (hdollar : '$' ∉ text.toList) (hrest : IsWritten segments rest) :
      IsWritten (.plain text :: segments) (text.toList ++ rest)
  /-- A name in braces has no closing brace. -/
  | braced (name : String) {segments : List Segment} {rest : List Char}
      (hclosing : '\x7d' ∉ name.toList) (hrest : IsWritten segments rest) :
      IsWritten (.braced name :: segments) ('$' :: '\x7b' :: (name.toList ++ '\x7d' :: rest))
  /-- A name without braces is not empty, and nothing follows it that could belong to it. -/
  | bare (name : String) {segments : List Segment} {rest : List Char} (hname : name ≠ "")
      (hchars : ∀ c ∈ name.toList, isNameChar c = true)
      (hstop : ∀ c, rest.head? = some c → isNameChar c = false) (hrest : IsWritten segments rest) :
      IsWritten (.bare name :: segments) ('$' :: (name.toList ++ rest))
  /-- A dollar sign is followed by nothing that would make it a reference. -/
  | dollar {segments : List Segment} {rest : List Char}
      (hstop : ∀ c, rest.head? = some c → c ≠ '\x7b' ∧ isNameChar c = false)
      (hrest : IsWritten segments rest) : IsWritten (.dollar :: segments) ('$' :: rest)
  /-- Nothing follows a reference that is not closed. -/
  | unclosed (name : String) (hclosing : '\x7d' ∉ name.toList) :
      IsWritten [.unclosed name] ('$' :: '\x7b' :: name.toList)

namespace Segment

/-- The name of the variable that a segment refers to. -/
def name? : Segment → Option String
  | braced name | bare name | unclosed name => some name
  | plain _ | dollar => none

/-- What stands for a segment in the expanded text, if its variable is defined. -/
def value? (env : Environment) : Segment → Option String
  | plain text => some text
  | braced name | bare name | unclosed name => env.get? name
  | dollar => some "$"

/-- What stands for a segment, or the name that no variable has. -/
def fill (env : Environment) : Segment → Except String String
  | plain text => .ok text
  | braced name | bare name | unclosed name =>
    match env.get? name with
    | some value => .ok value
    | none => .error name
  | dollar => .ok "$"

variable {env : Environment} {segment : Segment}

theorem fill_eq_ok_iff {value : String} :
    segment.fill env = .ok value ↔ segment.value? env = some value := by
  cases segment with
  | plain text => simp [fill, value?]
  | dollar => simp [fill, value?]
  | braced name | bare name | unclosed name => cases h : env.get? name <;> simp [fill, value?, h]

theorem fill_eq_error_iff {name : String} :
    segment.fill env = .error name ↔ segment.name? = some name ∧ env.get? name = none := by
  cases segment with
  | plain text => simp [fill, name?]
  | dollar => simp [fill, name?]
  | braced other | bare other | unclosed other =>
    cases h : env.get? other with
    | none =>
      simp only [fill, h, name?, Except.error.injEq, Option.some.injEq]
      exact ⟨fun hname => ⟨hname, hname ▸ h⟩, And.left⟩
    | some value =>
      simp only [fill, h, name?, Option.some.injEq, reduceCtorEq, false_iff, not_and]
      rintro rfl
      simp [h]

end Segment

/-! ### Every text is written in segments -/

/-- A dollar sign with a text after it is written in segments if all shorter texts are. -/
theorem exists_isWritten_dollar {rest : List Char}
    (hshorter : ∀ cs : List Char, cs.length ≤ rest.length → ∃ segments, IsWritten segments cs) :
    ∃ segments, IsWritten segments ('$' :: rest) := by
  by_cases hbrace : rest.head? = some '\x7b'
  · obtain ⟨inner, rfl⟩ := List.head?_eq_some_iff.mp hbrace
    by_cases hclosed : '\x7d' ∈ inner
    · obtain ⟨name, after, rfl, hname⟩ := List.eq_append_cons_of_mem hclosed
      obtain ⟨segments, hafter⟩ := hshorter after (by simp; omega)
      refine ⟨.braced (String.ofList name) :: segments, ?_⟩
      simpa using IsWritten.braced (String.ofList name) (by simpa using hname) hafter
    · refine ⟨[.unclosed (String.ofList inner)], ?_⟩
      simpa using IsWritten.unclosed (String.ofList inner) (by simpa using hclosed)
  · by_cases hname : rest.takeWhile isNameChar = []
    · obtain ⟨segments, hrest⟩ := hshorter rest le_rfl
      refine ⟨.dollar :: segments, .dollar (fun c hc => ⟨?_, ?_⟩) hrest⟩
      · rintro rfl
        exact hbrace hc
      · obtain ⟨after, rfl⟩ := List.head?_eq_some_iff.mp hc
        simpa [List.takeWhile_cons] using hname
    · -- the name is as long as it can be
      obtain ⟨segments, hafter⟩ := hshorter (rest.dropWhile isNameChar)
        (List.dropWhile_sublist isNameChar).length_le
      refine ⟨.bare (String.ofList (rest.takeWhile isNameChar)) :: segments, ?_⟩
      have hwritten := IsWritten.bare (String.ofList (rest.takeWhile isNameChar))
        (by simpa using hname) (by simpa using fun c => List.mem_takeWhile_imp)
        (fun c hc => ?_) hafter
      · simpa using hwritten
      · have hstop := List.head?_dropWhile_not isNameChar rest
        rwa [hc] at hstop

/-- Every text is written in segments. -/
theorem exists_isWritten (cs : List Char) : ∃ segments, IsWritten segments cs := by
  induction hlength : cs.length using Nat.strong_induction_on generalizing cs with
  | _ n ih =>
    cases cs with
    | nil => exact ⟨[], .nil⟩
    | cons c rest =>
      have hshorter : ∀ cs : List Char, cs.length ≤ rest.length →
          ∃ segments, IsWritten segments cs :=
        fun cs hcs => ih cs.length (by simp at hlength; omega) cs rfl
      by_cases hdollar : c = '$'
      · rw [hdollar]
        exact exists_isWritten_dollar hshorter
      · obtain ⟨segments, hrest⟩ := hshorter rest le_rfl
        refine ⟨.plain (String.ofList [c]) :: segments, ?_⟩
        simpa using IsWritten.plain (String.ofList [c]) (by simpa using Ne.symm hdollar) hrest

/-! ### Expanding a segment -/

variable {env : Environment}

theorem expandChars_plain {text rest : List Char} (h : '$' ∉ text) :
    env.expandChars (text ++ rest) = (env.expandChars rest).map (text ++ ·) := by
  induction text with
  | nil => cases hrest : env.expandChars rest <;> simp [hrest, Except.map]
  | cons c text ih =>
    rw [List.mem_cons, not_or] at h
    rw [List.cons_append, expandChars, ih h.2]
    · cases env.expandChars rest <;> rfl
    · rintro _ rfl
      exact absurd rfl h.1
    · rintro rfl
      exact absurd rfl h.1

theorem expandChars_braced {name : String} {rest : List Char} (h : '\x7d' ∉ name.toList) :
    env.expandChars ('$' :: '\x7b' :: (name.toList ++ '\x7d' :: rest)) =
      ((Segment.braced name).fill env).bind fun value =>
        (env.expandChars rest).map (value.toList ++ ·) := by
  have hname : ∀ c ∈ name.toList, decide (c ≠ '\x7d') = true := fun c hc =>
    decide_eq_true (ne_of_mem_of_not_mem hc h)
  have hstop : ∀ c, ('\x7d' :: rest).head? = some c → decide (c ≠ '\x7d') = false := by simp
  rw [expandChars, takeWhile_append_of_stop hname hstop, dropWhile_append_of_stop hname hstop]
  simp only [String.ofList_toList, List.drop_one, List.tail_cons, Segment.fill]
  cases env.get? name <;> rfl

/-- The end of the text closes a reference. -/
theorem expandChars_unclosed {name : String} (h : '\x7d' ∉ name.toList) :
    env.expandChars ('$' :: '\x7b' :: name.toList) =
      ((Segment.unclosed name).fill env).map String.toList := by
  have hname : ∀ c ∈ name.toList, decide (c ≠ '\x7d') = true := fun c hc =>
    decide_eq_true (ne_of_mem_of_not_mem hc h)
  rw [expandChars, List.takeWhile_eq_self_iff.mpr hname, List.dropWhile_eq_nil_iff.mpr hname]
  simp only [String.ofList_toList, List.drop_nil, Segment.fill]
  cases env.get? name with
  | none => rfl
  | some value => simp [expandChars, Except.map]

theorem expandChars_bare {name : String} {rest : List Char} (hname : name ≠ "")
    (hchars : ∀ c ∈ name.toList, isNameChar c = true)
    (hstop : ∀ c, rest.head? = some c → isNameChar c = false) :
    env.expandChars ('$' :: (name.toList ++ rest)) =
      ((Segment.bare name).fill env).bind fun value =>
        (env.expandChars rest).map (value.toList ++ ·) := by
  have hne : name.toList ≠ [] := by simpa using hname
  rw [expandChars, takeWhile_append_of_stop hchars hstop, dropWhile_append_of_stop hchars hstop]
  · simp only [String.ofList_toList, Segment.fill, List.isEmpty_iff, hne, if_false]
    cases env.get? name <;> rfl
  · -- a name does not begin with a brace
    intro after hafter
    obtain ⟨c, cs, hcs⟩ := List.exists_cons_of_ne_nil hne
    rw [hcs, List.cons_append, List.cons.injEq] at hafter
    have hc := hchars c (by simp [hcs])
    rw [hafter.1] at hc
    exact absurd hc (by decide)

theorem expandChars_dollar {rest : List Char}
    (hstop : ∀ c, rest.head? = some c → c ≠ '\x7b' ∧ isNameChar c = false) :
    env.expandChars ('$' :: rest) = (env.expandChars rest).map ('$' :: ·) := by
  have hnone : rest.takeWhile isNameChar = [] := by
    cases rest with
    | nil => rfl
    | cons c cs => simp [(hstop c rfl).2]
  rw [expandChars, hnone]
  · rfl
  · rintro after rfl
    exact (hstop _ rfl).1 rfl

/-! ### Expanding a text -/

/-- What a segment becomes stands before what the segments after it become. -/
theorem bind_fill_eq (segment : Segment) {others : List Segment}
    {outcome : Except String (List Char)}
    (h : outcome = (others.mapM (Segment.fill env)).map (List.flatMap String.toList)) :
    ((segment.fill env).bind fun value => outcome.map (value.toList ++ ·)) =
      ((segment :: others).mapM (Segment.fill env)).map (List.flatMap String.toList) := by
  rw [h, List.mapM_cons]
  cases segment.fill env with
  | error name => rfl
  | ok value => cases others.mapM (Segment.fill env) <;> rfl

/-- A text is expanded segment by segment, from the left. -/
theorem expandChars_eq {segments : List Segment} {cs : List Char} (h : IsWritten segments cs) :
    env.expandChars cs =
      (segments.mapM (Segment.fill env)).map (List.flatMap String.toList) := by
  induction h with
  | nil => rw [expandChars]; rfl
  | plain text hdollar _ ih =>
    rw [expandChars_plain hdollar]
    exact bind_fill_eq (.plain text) ih
  | braced name hclosing _ ih =>
    rw [expandChars_braced hclosing]
    exact bind_fill_eq _ ih
  | bare name hname hchars hstop _ ih =>
    rw [expandChars_bare hname hchars hstop]
    exact bind_fill_eq _ ih
  | dollar hstop _ ih =>
    rw [expandChars_dollar hstop]
    exact bind_fill_eq .dollar ih
  | unclosed name hclosing =>
    rw [expandChars_unclosed hclosing, List.mapM_cons]
    cases (Segment.unclosed name).fill env with
    | error other => rfl
    | ok value => simp [Except.map, bind, Except.bind, pure, Except.pure]

theorem expand_eq {segments : List Segment} {text : String} (h : IsWritten segments text.toList) :
    env.expand text = (segments.mapM (Segment.fill env)).map String.join := by
  have hjoin : ∀ values : List String, String.ofList (values.flatMap String.toList) =
      String.join values := by
    intro values
    rw [← String.toList_inj, String.toList_ofList]
    simp [String.toList_join]
  rw [expand, expandChars_eq h]
  cases segments.mapM (Segment.fill env) with
  | error name => rfl
  | ok values => exact congrArg Except.ok (hjoin values)

/-- Every text is written in segments. However it is, expanding succeeds just when there is a value
    for each of them, a kept text and a lone dollar sign being their own and a variable's value
    being taken as it is, and gives these values one after another. It fails just when a segment
    refers to a variable that is not defined, with the name of the first one from the left. A text
    without dollar signs stays the same. -/
theorem expand_of_segments (env : Environment) (text : String) :
    (∃ segments, IsWritten segments text.toList) ∧
    (∀ segments, IsWritten segments text.toList →
      (∀ result, env.expand text = .ok result ↔
        ∃ values, List.Forall₂ (fun segment value => segment.value? env = some value)
          segments values ∧ result = String.join values) ∧
      ∀ name, env.expand text = .error name ↔
        ∃ before segment after, segments = before ++ segment :: after ∧
          (∀ earlier ∈ before, ∃ value, earlier.value? env = some value) ∧
          segment.name? = some name ∧ env.get? name = none) ∧
    ('$' ∉ text.toList → env.expand text = .ok text) := by
  refine ⟨exists_isWritten _, fun segments h => ⟨fun result => ?_, fun name => ?_⟩, fun h => ?_⟩
  · simp only [← Segment.fill_eq_ok_iff, ← Outcome.mapM_eq_ok_iff, expand_eq h]
    cases segments.mapM (Segment.fill env) with
    | error name => simp [Except.map]
    | ok values => simp [Except.map, eq_comm]
  · simp only [← Segment.fill_eq_ok_iff, ← Segment.fill_eq_error_iff,
      ← Outcome.mapM_eq_error_iff, expand_eq h, Outcome.map_eq_error_iff]
  · have hplain : IsWritten [.plain text] text.toList := by simpa using IsWritten.plain text h .nil
    rw [expand_eq hplain]
    exact congrArg Except.ok (by simp)

/-- References next to each other and to dollar signs, in a text that ends with one; the values hold
    what would be references. -/
theorem expand_of_segments_adjacent :
    let env : Environment := { entries := [("A", "$B"), ("B", "\x7d$\x7bA\x7d")] }
    let segments : List Segment := [.dollar, .bare "A", .braced "B", .plain "x", .dollar]
    IsWritten segments "$$A$\x7bB\x7dx$".toList ∧
      env.expand "$$A$\x7bB\x7dx$" = .ok "$$B\x7d$\x7bA\x7dx$" ∧
      expand { entries := [("A", "$B")] } "$$A$\x7bB\x7dx$" = .error "B" ∧
      expand {} "price" = .ok "price" := by
  intro env segments
  have hname : isNameChar 'A' = true := by decide
  have hdollar : isNameChar '$' = false := by decide
  have hwritten : IsWritten segments "$$A$\x7bB\x7dx$".toList := by
    refine .dollar ?_ <| .bare "A" (by decide) (by simpa using hname) ?_ <|
      .braced "B" (by decide) <| .plain "x" (by decide) <|
      .dollar (by simp) .nil
    · rintro _ ⟨⟩
      exact ⟨by decide, hdollar⟩
    · rintro _ ⟨⟩
      exact hdollar
  obtain ⟨-, hdefined, -⟩ := expand_of_segments env "$$A$\x7bB\x7dx$"
  obtain ⟨-, hundefined, -⟩ := expand_of_segments { entries := [("A", "$B")] } "$$A$\x7bB\x7dx$"
  obtain ⟨-, -, hplain⟩ := expand_of_segments {} "price"
  refine ⟨hwritten, ((hdefined _ hwritten).1 _).mpr ?_, ((hundefined _ hwritten).2 _).mpr ?_,
    hplain (by decide)⟩
  · refine ⟨["$", "$B", "\x7d$\x7bA\x7d", "x", "$"], ?_, by decide⟩
    exact .cons rfl (.cons rfl (.cons rfl (.cons rfl (.cons rfl .nil))))
  · refine ⟨[.dollar, .bare "A"], .braced "B", [.plain "x", .dollar], rfl, ?_, rfl, rfl⟩
    simpa using ⟨⟨_, rfl⟩, _, rfl⟩

end ReportDesk.Environment
