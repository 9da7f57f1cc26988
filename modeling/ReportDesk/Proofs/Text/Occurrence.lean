import Mathlib
import ReportDesk.Proofs.Text.Trimming
import ReportDesk.Text.Blank
import ReportDesk.Text.Case
import ReportDesk.Text.Pieces

/-! # Words in texts

    Whether a text has a word in it, in whatever case. The words are in capital letters A to Z, and
    the text is put into upper case before it is searched, so one character of it can give several.

    Characters that are no letters separate: a word lies on one side of them. This is all that is
    needed to take a long text apart, since blanks, brackets, quotes, dots and digits separate.
-/

namespace ReportDesk.Text

theorem occursIn_iff (part cs : List Char) : occursIn part cs = true ↔ part <:+: cs := by
  induction cs with
  | nil => simp [occursIn]
  | cons c rest ih => simp [occursIn, ih, List.infix_cons_iff]

/-- A word in capital letters. -/
structure IsCapital (word : List Char) : Prop where
  /-- It has a letter. -/
  ne_nil : word ≠ []
  /-- All its characters are letters A to Z. -/
  isUpper : ∀ c ∈ word, c.isUpper = true

/-- A text has a word in it, once it is in upper case. -/
def Mentions (word cs : List Char) : Prop :=
  word <:+: upper cs

instance (word cs : List Char) : Decidable (Mentions word cs) :=
  decidable_of_iff _ (occursIn_iff word (upper cs))

/-- A character that no word can go across: it is its own upper case and no capital letter. -/
structure Separates (c : Char) : Prop where
  /-- It stays as it is. -/
  upper : upperChar c = [c]
  /-- It is in no word. -/
  not_isUpper : c.isUpper = false

instance (c : Char) : Decidable (Separates c) :=
  decidable_of_iff (upperChar c = [c] ∧ c.isUpper = false)
    ⟨fun h => ⟨h.1, h.2⟩, fun h => ⟨h.upper, h.not_isUpper⟩⟩

/-! ### Separated texts -/

/-- A list with no `c` in it lies before or behind each `c`. -/
theorem infix_append_cons_iff {α : Type} {part : List α} {c : α} (hne : part ≠ []) (hc : c ∉ part)
    (front back : List α) : part <:+: front ++ c :: back ↔ part <:+: front ∨ part <:+: back := by
  have hnil : ∀ l, l <+: c :: back → c ∉ l → l = [] := by
    intro l hl hcl
    rcases List.prefix_cons_iff.mp hl with hl | ⟨t, rfl, -⟩
    · exact hl
    · simp at hcl
  constructor
  · intro h
    rcases List.infix_append_iff.mp h with h | h | ⟨l₁, l₂, rfl, h₁, h₂⟩
    · exact .inl h
    · rcases List.infix_cons_iff.mp h with h | h
      · exact absurd (hnil part h hc) hne
      · exact .inr h
    · -- what lies across the end of the front lies before `c`, so there is none of it behind
      obtain rfl := hnil l₂ h₂ fun hmem => hc (by simp [hmem])
      rw [List.append_nil]
      exact .inl h₁.isInfix
  · rintro (h | h)
    · exact h.trans (List.prefix_append _ _).isInfix
    · exact h.trans ((List.suffix_cons c back).trans (List.suffix_append front _)).isInfix

theorem upper_append (front back : List Char) :
    upper (front ++ back) = upper front ++ upper back :=
  List.flatMap_append

theorem upper_cons (c : Char) (rest : List Char) : upper (c :: rest) = upperChar c ++ upper rest :=
  List.flatMap_cons

section

variable {word : List Char} {c : Char}

/-- A word is on one side of a character that separates. -/
theorem mentions_append_cons_iff (hword : IsCapital word) (hc : Separates c)
    (front back : List Char) :
    Mentions word (front ++ c :: back) ↔ Mentions word front ∨ Mentions word back := by
  have hmem : c ∉ word := fun h => absurd (hword.isUpper c h) (by simp [hc.not_isUpper])
  unfold Mentions
  rw [upper_append, upper_cons, hc.upper]
  exact infix_append_cons_iff hword.ne_nil hmem _ _

theorem not_mentions_nil (hword : IsCapital word) : ¬ Mentions word [] := by
  intro h
  exact hword.ne_nil (List.infix_nil.mp h)

theorem mentions_cons_iff (hword : IsCapital word) (hc : Separates c) (back : List Char) :
    Mentions word (c :: back) ↔ Mentions word back := by
  rw [← List.nil_append (c :: back), mentions_append_cons_iff hword hc]
  simp [not_mentions_nil hword]

theorem mentions_concat_iff (hword : IsCapital word) (hc : Separates c) (front : List Char) :
    Mentions word (front ++ [c]) ↔ Mentions word front := by
  rw [mentions_append_cons_iff hword hc]
  simp [not_mentions_nil hword]

theorem not_mentions_of_separates (hword : IsCapital word) {cs : List Char}
    (h : ∀ c ∈ cs, Separates c) : ¬ Mentions word cs := by
  induction cs with
  | nil => exact not_mentions_nil hword
  | cons c rest ih =>
    rw [mentions_cons_iff hword (h c (by simp))]
    exact ih fun d hd => h d (by simp [hd])

/-- A word is on one side of characters that separate. -/
theorem mentions_append_append_iff (hword : IsCapital word) {between : List Char}
    (hne : between ≠ []) (h : ∀ c ∈ between, Separates c) (front back : List Char) :
    Mentions word (front ++ (between ++ back)) ↔ Mentions word front ∨ Mentions word back := by
  induction between generalizing front with
  | nil => exact absurd rfl hne
  | cons c rest ih =>
    rw [List.cons_append, mentions_append_cons_iff hword (h c (by simp))]
    by_cases hrest : rest = []
    · simp [hrest]
    · -- the others separate `back` from nothing
      have hothers := ih hrest (fun d hd => h d (by simp [hd])) []
      simp only [List.nil_append, not_mentions_nil hword, false_or] at hothers
      rw [hothers]

end

/-! ### Blanks and digits -/

theorem separates_of_isBlank {c : Char} (h : isBlank c = true) : Separates c := by
  have hall : ∀ n ∈ blanks, Separates (Char.ofNat n) := by decide +kernel
  have hc := hall _ (isBlank_iff.mp h)
  rwa [Char.ofNat_toNat] at hc

theorem separates_of_isDigit {c : Char} (h : c.isDigit = true) : Separates c := by
  have hall : ∀ i < 10, Separates (Char.ofNat (48 + i)) := by decide
  have hrange : 48 ≤ c.toNat ∧ c.toNat ≤ 57 := by
    simpa [Char.isDigit, UInt32.le_iff_toNat_le, ← Char.toNat_val] using h
  have hc := hall (c.toNat - 48) (by omega)
  rwa [Nat.add_sub_cancel' hrange.1, Char.ofNat_toNat] at hc

section

variable {word : List Char}

theorem mentions_trimFront_iff (hword : IsCapital word) (cs : List Char) :
    Mentions word (trimFront cs) ↔ Mentions word cs := by
  induction cs with
  | nil => rfl
  | cons c rest ih =>
    by_cases hc : isBlank c = true
    · rw [mentions_cons_iff hword (separates_of_isBlank hc), ← ih]
      simp [trimFront, hc]
    · simp [trimFront, hc]

theorem mentions_trimBack_iff (hword : IsCapital word) (cs : List Char) :
    Mentions word (trimFront cs.reverse).reverse ↔ Mentions word cs := by
  -- from the back, which is where characters are taken away
  induction cs using List.reverseRecOn with
  | nil => rfl
  | append_singleton front c ih =>
    by_cases hc : isBlank c = true
    · rw [mentions_concat_iff hword (separates_of_isBlank hc), ← ih]
      simp [trimFront, hc]
    · simp [trimFront, hc]

/-- Blanks at the ends of a text do not matter. -/
theorem mentions_trimBoth_iff (hword : IsCapital word) (cs : List Char) :
    Mentions word (trimBoth cs) ↔ Mentions word cs := by
  rw [trimBoth, mentions_trimBack_iff hword, mentions_trimFront_iff hword]

end

/-- A text keeps a beginning that neither begins nor ends with a blank. -/
theorem exists_trimBoth_append {first last : Char} (hfirst : isBlank first = false)
    (hlast : isBlank last = false) (middle rest : List Char) :
    ∃ kept, trimBoth (first :: middle ++ last :: rest) = first :: middle ++ last :: kept := by
  have hfront : trimFront (first :: middle ++ last :: rest) = first :: middle ++ last :: rest := by
    simp [trimFront, hfirst]
  have hsplit : (first :: middle ++ last :: rest).reverse =
      rest.reverse ++ last :: (first :: middle).reverse := by simp
  refine ⟨(trimFront rest.reverse).reverse, ?_⟩
  rw [trimBoth, hfront, hsplit, trimFront, List.dropWhile_append]
  split
  · next hempty =>
    rw [List.isEmpty_iff] at hempty
    simp [trimFront, hempty, hlast]
  · simp [trimFront]

/-! ### Spellings -/

/-- A character that ASCII takes to a capital letter has that letter as its upper case. -/
theorem upperChar_of_isUpper {c : Char} (h : c.toUpper.isUpper = true) :
    upperChar c = [c.toUpper] := by
  have hascii : c.toNat < 128 := by
    have hz : 'z'.val.toNat = 122 := rfl
    have hZ : 'Z'.val.toNat = 90 := rfl
    -- it is a small letter that moved, or a capital letter that stayed
    unfold Char.toUpper at h
    split at h
    · next hsmall =>
      have hle := UInt32.le_iff_toNat_le.mp hsmall.2
      rw [Char.toNat_val] at hle
      omega
    · have hle := UInt32.le_iff_toNat_le.mp (of_decide_eq_true h).2
      rw [Char.toNat_val] at hle
      omega
  simp [upperChar, hascii]

/-- What is a word up to the case of its letters has the word as its upper case. -/
theorem upper_of_map_toUpper {word cs : List Char} (hword : IsCapital word)
    (h : cs.map Char.toUpper = word) : upper cs = word := by
  have heach : ∀ c ∈ cs, upperChar c = [c.toUpper] := by
    intro c hc
    apply upperChar_of_isUpper
    exact hword.isUpper _ (h ▸ List.mem_map_of_mem hc)
  rw [upper, List.flatMap_congr heach, ← List.map_eq_flatMap, h]

/-- A text mentions each word that a piece of it has as its upper case. -/
theorem mentions_of_upper {word piece : List Char} (h : upper piece = word)
    (front back : List Char) : Mentions word (front ++ piece ++ back) := by
  refine ⟨upper front, upper back, ?_⟩
  rw [upper_append, upper_append, h]

/-! ### Beginnings -/

theorem upper_prefix {front cs : List Char} (h : front <+: cs) : upper front <+: upper cs := by
  obtain ⟨back, rfl⟩ := h
  exact ⟨upper back, (upper_append front back).symm⟩

end ReportDesk.Text
