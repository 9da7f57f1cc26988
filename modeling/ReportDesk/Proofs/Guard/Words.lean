import ReportDesk.Guard.Grammar.Statements
import ReportDesk.Guard.ReadOnly
import ReportDesk.Proofs.Text.Occurrence

/-! # Words of statements that only read

    What the guard looks for in a text, told without the order in which it looks: the text begins
    with SELECT, and mentions no forbidden word. Blanks around the text matter only to the first.

    The words are looked at in both modes, so whatever a spelling of a forbidden word is made of
    and whatever stands around it, the text is rejected. This is so whatever a parser makes of it.
-/

namespace ReportDesk.Guard

open Text (IsCapital Mentions)

theorem isCapital_of_mem {word : String} (h : word ∈ forbiddenWords) : IsCapital word.toList := by
  have hall : forbiddenWords.all (fun word => !word.isEmpty && word.toList.all Char.isUpper) =
      true := by decide
  have hword := List.all_eq_true.mp hall word h
  simp only [Bool.and_eq_true, List.all_eq_true] at hword
  refine ⟨?_, hword.2⟩
  simpa using hword.1

/-- A text passes just when it begins with SELECT and mentions none of the forbidden words. -/
theorem checkWords_eq_ok_iff (sql : String) :
    checkWords sql = .ok () ↔
      "SELECT".toList <+: Text.upper (Text.trimBoth sql.toList) ∧
        ∀ word ∈ forbiddenWords, ¬ Mentions word.toList sql.toList := by
  have hmentions : ∀ word ∈ forbiddenWords,
      Text.occursIn word.toList (Text.upper (Text.trimBoth sql.toList)) = true ↔
        Mentions word.toList sql.toList := fun word hword =>
    (Text.occursIn_iff _ _).trans (Text.mentions_trimBoth_iff (isCapital_of_mem hword) _)
  -- the words are looked for only after the beginning, which decides the first case
  unfold checkWords
  by_cases hselect : "SELECT".toList <+: Text.upper (Text.trimBoth sql.toList)
  · have hfound := List.isPrefixOf_iff_prefix.mpr hselect
    simp only [hfound, Bool.not_true, Bool.false_eq_true, if_false, hselect, true_and]
    constructor
    · intro h word hword hmention
      split at h
      · cases h
      · next hnone =>
        exact List.find?_eq_none.mp hnone word hword ((hmentions word hword).mpr hmention)
    · intro h
      have hnone : (forbiddenWords.find? fun word =>
          Text.occursIn word.toList (Text.upper (Text.trimBoth sql.toList))) = none := by
        refine List.find?_eq_none.mpr fun word hword hoccurs => ?_
        exact h word hword ((hmentions word hword).mp hoccurs)
      rw [hnone]
  · have hfound : "SELECT".toList.isPrefixOf (Text.upper (Text.trimBoth sql.toList)) = false := by
      simpa [← List.isPrefixOf_iff_prefix] using hselect
    simp only [hfound, Bool.not_false, if_true, hselect, false_and, reduceCtorEq]

/-- A text that begins with SELECT, in capital letters and with no blank before, passes just when it
    mentions none of the forbidden words. -/
theorem checkWords_select_iff {sql : String} {rest : List Char}
    (h : sql.toList = "SELECT".toList ++ rest) :
    checkWords sql = .ok () ↔ ∀ word ∈ forbiddenWords, ¬ Mentions word.toList sql.toList := by
  have hfirst : Text.isBlank 'S' = false := by decide
  have hlast : Text.isBlank 'T' = false := by decide
  -- the blanks that go are behind the word
  obtain ⟨kept, hkept⟩ := Text.exists_trimBoth_append hfirst hlast "ELEC".toList rest
  have hbegins : "SELECT".toList <+: Text.upper (Text.trimBoth sql.toList) := by
    rw [h, show "SELECT".toList ++ rest = 'S' :: "ELEC".toList ++ 'T' :: rest from rfl, hkept]
    exact ⟨Text.upper kept, rfl⟩
  rw [checkWords_eq_ok_iff]
  exact and_iff_right hbegins

/-! ### Both modes -/

section

variable {parse : Parser} {sql : String}

/-- A text that fails for its words fails in both modes, and for the same reason. -/
theorem check_of_checkWords_eq_error {reason : Rejection} (h : checkWords sql = .error reason)
    (mode : Mode) : checkBy parse sql mode = .error reason := by
  cases mode with
  | denylist => exact h
  | parsed => simp only [checkBy, h, bind, Except.bind]

/-- What passes in either mode passes for its words. -/
theorem checkWords_of_check {mode : Mode} (h : checkBy parse sql mode = .ok ()) :
    checkWords sql = .ok () := by
  cases hwords : checkWords sql with
  | ok => rfl
  | error reason =>
    rw [check_of_checkWords_eq_error hwords] at h
    cases h

/-- A text fails for its words because of how it begins or because of one of them. -/
theorem checkWords_eq_error {reason : Rejection} (h : checkWords sql = .error reason) :
    reason = .notSelect ∨ ∃ word ∈ forbiddenWords, reason = .forbidden word := by
  simp only [checkWords] at h
  split at h
  · cases h
    exact .inl rfl
  · split at h
    · next word hfound =>
      cases h
      exact .inr ⟨word, List.mem_of_find?_eq_some hfound, rfl⟩
    · cases h

theorem exists_error_of_mentions {word : String} (hword : word ∈ forbiddenWords)
    (h : Mentions word.toList sql.toList) : ∃ reason, checkWords sql = .error reason := by
  cases hwords : checkWords sql with
  | error reason => exact ⟨reason, rfl⟩
  | ok => exact absurd h (((checkWords_eq_ok_iff sql).mp hwords).2 word hword)

end

/-- No spelling of a forbidden word gets past the guard, wherever in a text it stands and whatever
    stands around it: neither one in small and capital letters, nor one in other characters that
    have the word as their upper case. Both modes reject the text, before its structure is looked
    at. What passes in either mode begins with SELECT, in any case and after blanks, and what
    passes for its structure passes for its words. -/
theorem spellings_rejected (parse : Parser) :
    (∀ word ∈ forbiddenWords, ∀ before spelling after : String,
      Text.asciiUpper spelling = word ∨ Text.upper spelling.toList = word.toList →
        ∃ reason, (reason = .notSelect ∨ ∃ found ∈ forbiddenWords, reason = .forbidden found) ∧
          ∀ mode, checkBy parse (before ++ spelling ++ after) mode = .error reason) ∧
    (∀ sql mode, checkBy parse sql mode = .ok () →
      "SELECT".toList <+: Text.upper (Text.trimFront sql.toList)) ∧
    ∀ sql, checkBy parse sql .parsed = .ok () → checkBy parse sql .denylist = .ok () := by
  refine ⟨?_, ?_, ?_⟩
  · intro word hword before spelling after hspelling
    have hupper : Text.upper spelling.toList = word.toList := by
      rcases hspelling with hascii | hupper
      · refine Text.upper_of_map_toUpper (isCapital_of_mem hword) ?_
        rw [← hascii, Text.asciiUpper, String.toList_map]
      · exact hupper
    have hmention : Mentions word.toList (before ++ spelling ++ after).toList := by
      simpa using Text.mentions_of_upper hupper before.toList after.toList
    obtain ⟨reason, hreason⟩ := exists_error_of_mentions hword hmention
    exact ⟨reason, checkWords_eq_error hreason, check_of_checkWords_eq_error hreason⟩
  · intro sql mode h
    have hbegins := ((checkWords_eq_ok_iff sql).mp (checkWords_of_check h)).1
    exact hbegins.trans (Text.upper_prefix (Text.trimBoth_prefix sql.toList))
  · intro sql h
    exact checkWords_of_check h

/-- A word in small and capital letters, one with a dotless i and a long s in it, and a query that
    passes. -/
theorem spellings_rejected_mixed :
    let parse := Grammar.parse
    (∃ reason, ∀ mode, checkBy parse "select 1;deLEte from t" mode = .error reason) ∧
    (∃ reason, ∀ mode, checkBy parse "SELECT 1 AS [ınſertion]" mode = .error reason) ∧
    checkBy parse "\n select 1" .parsed = .ok () ∧
    "SELECT".toList <+: Text.upper (Text.trimFront "\n select 1".toList) ∧
    checkBy parse "\n select 1" .denylist = .ok () := by
  intro parse
  obtain ⟨hrejected, hbegins, hwords⟩ := spellings_rejected parse
  have hpasses : checkBy parse "\n select 1" .parsed = .ok () := by decide +kernel
  refine ⟨?_, ?_, hpasses, hbegins _ _ hpasses, hwords _ hpasses⟩
  · obtain ⟨reason, -, hreason⟩ :=
      hrejected "DELETE" (by decide) "select 1;" "deLEte" " from t" (.inl (by cbv))
    exact ⟨reason, hreason⟩
  · obtain ⟨reason, -, hreason⟩ :=
      hrejected "INSERT" (by decide) "SELECT 1 AS [" "ınſert" "ion]" (.inr (by decide))
    exact ⟨reason, hreason⟩

end ReportDesk.Guard
