import Mathlib
import ReportDesk.Text.Blank
import ReportDesk.Text.Pieces

/-! # Trimming and cutting texts

    Which characters are blank and what is left of a text when the blanks at its ends are taken
    away, told with the operations of lists; what the parts of a text are that is cut at the first
    of certain marks or at all of them; and where a run of characters of a class ends.
-/

namespace ReportDesk.Text

/-! ### Blanks -/

/-- The numbers of the blank characters. -/
def blanks : List Nat :=
  [9, 10, 11, 12, 13, 0x20, 0x85, 0xA0, 0x1680, 0x2000, 0x2001, 0x2002, 0x2003, 0x2004, 0x2005,
   0x2006, 0x2007, 0x2008, 0x2009, 0x200A, 0x2028, 0x2029, 0x202F, 0x205F, 0x3000]

theorem isBlank_iff {c : Char} : isBlank c = true ↔ c.toNat ∈ blanks := by
  simp only [isBlank, Bool.or_eq_true, Bool.and_eq_true, decide_eq_true_eq, beq_iff_eq, blanks,
    List.mem_cons, List.not_mem_nil, or_false]
  omega

theorem isBlank_eq (c : Char) : isBlank c = decide (c.toNat ∈ blanks) := by
  rw [Bool.eq_iff_iff, isBlank_iff, decide_eq_true_iff]

/-- Whether a text has a character that is not blank. -/
def HasInk (text : String) : Prop :=
  ∃ c ∈ text.toList, c.toNat ∉ blanks

instance (text : String) : Decidable (HasInk text) :=
  List.decidableBEx (fun c : Char => c.toNat ∉ blanks) text.toList

theorem isBlankText_eq_true_iff {text : String} : isBlankText text = true ↔ ¬ HasInk text := by
  simp [isBlankText, HasInk, isBlank_iff]

theorem isBlankText_eq_false_iff {text : String} : isBlankText text = false ↔ HasInk text := by
  rw [← Bool.not_eq_true, isBlankText_eq_true_iff, not_not]

/-- A text without the blanks at its ends. -/
def stripped (text : String) : String :=
  String.ofList
    ((text.toList.dropWhile fun c => c.toNat ∈ blanks).rdropWhile fun c => c.toNat ∈ blanks)

theorem trim_eq_stripped : trim = stripped := by
  have hblank : isBlank = fun c => decide (c.toNat ∈ blanks) := funext isBlank_eq
  funext text
  simp only [trim, trimBoth, trimFront, stripped, List.rdropWhile, hblank]

/-- What there is of a text without the blanks at its ends: nothing if there is no text, or none but
    a blank one. -/
def remaining : Option String → Option String
  | none => none
  | some text => if HasInk text then some (stripped text) else none

/-! ### Trimming -/

theorem trimFront_trimFront (cs : List Char) : trimFront (trimFront cs) = trimFront cs :=
  List.dropWhile_idempotent isBlank cs

/-- Trimming at the back takes nothing from the front. -/
theorem trimBoth_prefix (cs : List Char) : trimBoth cs <+: trimFront cs := by
  have hsuffix : trimFront (trimFront cs).reverse <:+ (trimFront cs).reverse :=
    List.dropWhile_suffix isBlank
  simpa [trimBoth] using List.reverse_prefix.mpr hsuffix

/-- What begins a text without blanks at its front has none there either. -/
theorem trimFront_of_prefix {front cs : List Char} (h : front <+: trimFront cs) :
    trimFront front = front := by
  cases front with
  | nil => rfl
  | cons c rest =>
    obtain ⟨back, hback⟩ := h
    have hagain := trimFront_trimFront cs
    rw [← hback, List.cons_append] at hagain
    have hc : isBlank c = false := by
      by_contra hblank
      have hshorter := (List.dropWhile_suffix isBlank (l := rest ++ back)).length_le
      -- a blank in front would be taken away, and the text would get shorter
      rw [Bool.not_eq_false] at hblank
      rw [trimFront, List.dropWhile_cons_of_pos hblank] at hagain
      rw [hagain] at hshorter
      simp at hshorter
    simp [trimFront, hc]

/-- Taking away the blanks at both ends a second time changes nothing. -/
theorem trim_trim (s : String) : trim (trim s) = trim s := by
  have hfront : trimFront (trimBoth s.toList) = trimBoth s.toList := by
    have hbegins := trimBoth_prefix s.toList
    exact trimFront_of_prefix hbegins
  have hboth : trimBoth (trimBoth s.toList) = trimBoth s.toList := by
    rw [trimBoth, hfront, trimBoth, List.reverse_reverse, trimFront_trimFront]
  rw [trim, trim, String.toList_ofList, hboth]

/-- A text that is not blank keeps something when the blanks around it are taken away. -/
theorem trim_ne_empty {text : String} (h : isBlankText text = false) : trim text ≠ "" := by
  have hfront : (trimFront text.toList).all isBlank = false := by
    have hany : (trimFront text.toList).any (fun c => !isBlank c) = true := by
      rw [trimFront, List.any_dropWhile, show text.toList.all isBlank = false from h]
      rfl
    simpa using hany
  intro hempty
  have hback : trimFront (trimFront text.toList).reverse = [] := by
    simpa [trim, trimBoth] using hempty
  have hany : (trimFront (trimFront text.toList).reverse).any (fun c => !isBlank c) = true := by
    rw [trimFront, List.any_dropWhile, List.all_reverse, hfront]
    rfl
  simp [hback] at hany

theorem stripped_of_not_hasInk {text : String} (h : ¬ HasInk text) : stripped text = "" := by
  have hblank : ∀ c ∈ text.toList, decide (c.toNat ∈ blanks) = true := by
    simpa [HasInk] using h
  simp [stripped, List.dropWhile_eq_nil_iff.mpr hblank]

/-- Trimming a text, and dropping it if nothing is left. -/
theorem filter_trim_eq_remaining (text : Option String) :
    ((text.map trim).filter fun text => !text.isEmpty) = remaining text := by
  cases text with
  | none => rfl
  | some text =>
    rw [trim_eq_stripped, Option.map_some, remaining]
    by_cases hink : HasInk text
    · have hne := trim_ne_empty (isBlankText_eq_false_iff.mpr hink)
      rw [trim_eq_stripped] at hne
      simp [hink, hne]
    · simp [hink, stripped_of_not_hasInk hink]

/-! ### Runs of characters of a class -/

/-- `takeWhile` stops where a list of the class ends. -/
theorem takeWhile_append_of_stop {p : Char → Bool} {cs rest : List Char} (hcs : ∀ c ∈ cs, p c)
    (hrest : ∀ c, rest.head? = some c → p c = false) : (cs ++ rest).takeWhile p = cs := by
  rw [List.takeWhile_append_of_pos hcs]
  cases rest with
  | nil => simp
  | cons c rest => simp [hrest c rfl]

/-- `dropWhile` goes on where a list of the class ends. -/
theorem dropWhile_append_of_stop {p : Char → Bool} {cs rest : List Char} (hcs : ∀ c ∈ cs, p c)
    (hrest : ∀ c, rest.head? = some c → p c = false) : (cs ++ rest).dropWhile p = rest := by
  rw [List.dropWhile_append_of_pos hcs]
  cases rest with
  | nil => rfl
  | cons c rest => simp [hrest c rfl]

/-! ### Cutting -/

theorem cutAt_eq (mark : Char) (cs : List Char) :
    cutAt mark cs =
      match cs.dropWhile (· ≠ mark) with
      | [] => none
      | _ :: back => some (cs.takeWhile (· ≠ mark), back) := by
  induction cs with
  | nil => rfl
  | cons c rest ih =>
    by_cases h : c = mark
    · simp [cutAt, h]
    · simp only [cutAt, h, if_false, ih, ne_eq, not_false_eq_true, decide_true,
        List.dropWhile_cons_of_pos, List.takeWhile_cons_of_pos]
      split <;> rfl

/-- A text is cut at its first mark: the part before it has none. -/
theorem cutAt_eq_some_iff {mark : Char} {cs front back : List Char} :
    cutAt mark cs = some (front, back) ↔ cs = front ++ mark :: back ∧ mark ∉ front := by
  rw [cutAt_eq]
  constructor
  · intro h
    split at h
    · cases h
    · next c rest hdrop =>
      cases h
      have hc : c = mark := by
        have hstop := List.head?_dropWhile_not (fun c => decide (c ≠ mark)) cs
        rw [hdrop] at hstop
        simpa using hstop
      refine ⟨?_, fun hmem => by simpa using List.mem_takeWhile_imp hmem⟩
      rw [hc] at hdrop
      rw [← hdrop, List.takeWhile_append_dropWhile]
  · rintro ⟨rfl, hmark⟩
    have hfront : ∀ c ∈ front, decide (c ≠ mark) = true := fun c hc =>
      decide_eq_true (ne_of_mem_of_not_mem hc hmark)
    rw [List.dropWhile_append_of_pos hfront, List.takeWhile_append_of_pos hfront]
    simp

theorem pieces_eq_splitOn (mark : Char) (cs : List Char) : pieces mark cs = cs.splitOn mark := by
  induction cs with
  | nil => rfl
  | cons c rest ih =>
    have hcons : (c :: rest).splitOn mark =
        if c == mark then [] :: rest.splitOn mark else (rest.splitOn mark).modifyHead (c :: ·) :=
      List.splitOnP_cons_eq_if_modifyHead c rest
    rw [hcons, pieces, ih]
    by_cases hc : c = mark
    · simp [hc]
    · -- there is a first piece, which the character comes before
      cases hrest : rest.splitOn mark with
      | nil => exact absurd (ih.trans hrest) (pieces_ne_nil mark rest)
      | cons first others => simp [hc]

/-- Looking past a front that is there leaves what follows it. -/
theorem after?_append (front cs : List Char) : after? front (front ++ cs) = some cs := by
  simp [after?]

end ReportDesk.Text
