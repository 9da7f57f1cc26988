import Mathlib
import ReportDesk.Export.Wrap

/-! # Lines and the text they come from

    Breaking a text into lines loses nothing but blanks. A text is cut into paragraphs at line
    breaks, a paragraph into words at blanks, and words are put together again with one blank
    between them, or cut where they are longer than a line. What is left of a text when its blanks
    are taken away goes through all of this as it is.
-/

namespace ReportDesk

/-! ### Texts without their blanks -/

namespace Text

/-- The characters of a text that are not blank, in order. -/
def ink (cs : List Char) : List Char :=
  cs.filter fun c => !isBlank c

@[simp]
theorem ink_nil : ink [] = [] :=
  rfl

@[simp]
theorem ink_append (front back : List Char) : ink (front ++ back) = ink front ++ ink back :=
  List.filter_append front back

theorem ink_cons (c : Char) (cs : List Char) : ink (c :: cs) = ink [c] ++ ink cs :=
  ink_append [c] cs

theorem ink_cons_of_blank {c : Char} (h : isBlank c = true) (cs : List Char) :
    ink (c :: cs) = ink cs := by
  simp [ink, h]

theorem ink_flatten_wordsFrom (word cs : List Char) :
    ink (wordsFrom word cs).flatten = ink word.reverse ++ ink cs := by
  induction cs generalizing word with
  | nil =>
    cases word with
    | nil => simp [wordsFrom]
    | cons c rest => simp [wordsFrom]
  | cons c rest ih =>
    by_cases hc : isBlank c = true
    · rw [ink_cons_of_blank hc]
      cases word with
      | nil => simpa [wordsFrom, hc] using ih []
      | cons d others =>
        have hrest := ih []
        simp only [wordsFrom, hc, if_true, List.isEmpty_cons, Bool.false_eq_true, if_false,
          List.flatten_cons, ink_append, hrest, List.reverse_nil, ink_nil, List.nil_append]
    · have hrest := ih (c :: word)
      rw [wordsFrom, if_neg hc, hrest, List.reverse_cons, ink_append, ink_cons c rest,
        List.append_assoc]

/-- The words of a text have all of it but its blanks. -/
theorem ink_flatten_words (cs : List Char) : ink (words cs).flatten = ink cs := by
  simp [words, ink_flatten_wordsFrom]

/-- The pieces of a text that is cut at a blank have all of it but its blanks. -/
theorem ink_flatten_pieces {mark : Char} (h : isBlank mark = true) (cs : List Char) :
    ink (pieces mark cs).flatten = ink cs := by
  induction cs with
  | nil => simp [pieces]
  | cons c rest ih =>
    by_cases hc : c = mark
    · rw [hc, ink_cons_of_blank h, ← ih]
      simp [pieces]
    · cases hpieces : pieces mark rest with
      | nil => exact absurd hpieces (pieces_ne_nil mark rest)
      | cons first others =>
        have hrest : ink rest = ink (first ++ others.flatten) := by
          rw [← ih, hpieces, List.flatten_cons]
        have hcut : pieces mark (c :: rest) = (c :: first) :: others := by
          simp [pieces, hc, hpieces]
        -- the character stands before the first piece, whether or not it is blank
        rw [hcut, List.flatten_cons, List.cons_append, ink_cons, ink_cons c rest, hrest]

end Text

namespace Export

open Text (ink ink_append ink_cons_of_blank)

/-! ### Words in pieces -/

theorem flatten_chunks (width : Nat) (word : List Char) : (chunks width word).flatten = word := by
  induction word using chunks.induct width with
  | case1 word h => simp [chunks, h]
  | case2 word h ih =>
    rw [chunks, dif_neg h, List.flatten_cons, ih, List.take_append_drop]

theorem chunks_ne_nil (width : Nat) (word : List Char) : chunks width word ≠ [] := by
  unfold chunks
  split <;> simp

/-- The last piece of a word stays in the line in progress; with those before it, it is the
    word. -/
theorem flatten_dropLast_chunks (width : Nat) (word : List Char) :
    (chunks width word).dropLast.flatten ++ (chunks width word).getLastD [] = word := by
  have hne := chunks_ne_nil width word
  have hlast : (chunks width word).getLastD [] = (chunks width word).getLast hne := by
    rw [List.getLastD_eq_getLast?, List.getLast?_eq_getLast_of_ne_nil hne, Option.getD_some]
  calc (chunks width word).dropLast.flatten ++ (chunks width word).getLastD []
      = ((chunks width word).dropLast ++ [(chunks width word).getLast hne]).flatten := by
        rw [hlast, List.flatten_append, List.flatten_singleton]
    _ = (chunks width word).flatten := by rw [List.dropLast_append_getLast]
    _ = word := flatten_chunks width word

/-! ### Lines -/

/-- Filling lines adds and takes away nothing but blanks. -/
theorem ink_flatten_fill (width : Nat) (line : List Char) (words : List (List Char)) :
    ink (fill width line words).flatten = ink line ++ ink words.flatten := by
  induction words generalizing line with
  | nil =>
    cases line with
    | nil => simp [fill]
    | cons c rest => simp [fill]
  | cons word rest ih =>
    -- a word that is cut goes to the end of its pieces, the last of which is filled up
    have hcut : ∀ word : List Char,
        ink ((chunks width word).dropLast ++
          fill width ((chunks width word).getLastD []) rest).flatten =
            ink word ++ ink rest.flatten := by
      intro word
      rw [List.flatten_append, ink_append, ih, ← List.append_assoc, ← ink_append,
        flatten_dropLast_chunks]
    rw [fill, List.flatten_cons, ink_append]
    split
    · next hempty =>
      rw [List.isEmpty_iff] at hempty
      rw [hempty, hcut]
      simp
    · split
      · have hblank : ink (' ' :: word) = ink word := ink_cons_of_blank (by decide) word
        rw [ih, ink_append, hblank, List.append_assoc]
      · rw [List.flatten_cons, ink_append, hcut]

/-- The lines of a text have all of it but its blanks. -/
theorem ink_flatten_wrapChars (text : List Char) (width : Nat) :
    ink (wrapChars text width).flatten = ink text := by
  have hparagraphs : ∀ paragraphs : List (List Char),
      ink (paragraphs.flatMap fun p => fill (max width 1) [] (Text.words p)).flatten =
        ink paragraphs.flatten := by
    intro paragraphs
    induction paragraphs with
    | nil => rfl
    | cons paragraph rest ih =>
      rw [List.flatMap_cons, List.flatten_append, ink_append, ih, ink_flatten_fill,
        List.flatten_cons, ink_append, Text.ink_flatten_words]
      simp
  have hlines := (hparagraphs (Text.pieces '\n' text)).trans
    (Text.ink_flatten_pieces (by decide) text)
  unfold wrapChars
  dsimp only
  split
  · next hempty =>
    -- no line at all and one empty line have the same characters
    rw [List.isEmpty_iff] at hempty
    rw [← hlines, hempty]
    rfl
  · exact hlines

/-- The lines that a text is drawn with in a cell: those that are not empty. -/
def drawnLines (width : Nat) (text : String) : List String :=
  (wrap text width).filter fun line => !line.isEmpty

/-- Nothing of a text but its blanks is missing from the lines that it is drawn with. -/
theorem ink_drawnLines (width : Nat) (text : String) :
    ink ((drawnLines width text).flatMap String.toList) = ink text.toList := by
  have hdrawn : ∀ lines : List (List Char),
      ((lines.map String.ofList).filter fun line => !line.isEmpty).flatMap String.toList =
        lines.flatten := by
    intro lines
    induction lines with
    | nil => rfl
    | cons line rest ih =>
      cases line with
      | nil => simpa using ih
      | cons c others => simpa using ih
  rw [drawnLines, wrap, hdrawn, ink_flatten_wrapChars]

end Export

end ReportDesk
