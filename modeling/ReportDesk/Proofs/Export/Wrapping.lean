import ReportDesk.Proofs.Export.Lines

/-! # How full lines are

    A word that is longer than a line is cut into pieces that fill lines, and the pieces of a
    paragraph's words go on lines in order, one blank between any two on a line. A line ends only
    where the next piece has no place on it, or with the paragraph. Since a piece has no blanks, the
    pieces on a line are the words that are read from it.
-/

namespace ReportDesk

/-! ### Words of a text -/

namespace Text

/-- Some characters, none of them blank. -/
structure IsWord (word : List Char) : Prop where
  ne_nil : word ≠ []
  unbroken : ∀ c ∈ word, isBlank c = false

theorem wordsFrom_append_blank {mark : Char} (hmark : isBlank mark = true)
    (word front back : List Char) :
    wordsFrom word (front ++ mark :: back) = wordsFrom word front ++ words back := by
  induction front generalizing word with
  | nil => cases word <;> simp [wordsFrom, words, hmark]
  | cons c front ih =>
    by_cases hc : isBlank c = true
    · cases word <;> simp [wordsFrom, hc, ih]
    · simp [wordsFrom, hc, ih]

/-- A blank ends a word. -/
theorem words_append_blank {mark : Char} (hmark : isBlank mark = true) (front back : List Char) :
    words (front ++ mark :: back) = words front ++ words back :=
  wordsFrom_append_blank hmark [] front back

/-- Texts with a blank between them have their words in order. -/
theorem words_intercalate {mark : Char} (hmark : isBlank mark = true) (parts : List (List Char)) :
    words ([mark].intercalate parts) = parts.flatMap words := by
  induction parts with
  | nil => rfl
  | cons part rest ih =>
    cases rest with
    | nil => simp
    | cons next rest =>
      rw [List.intercalate_cons_cons, List.append_assoc, List.singleton_append,
        words_append_blank hmark, ih]
      rfl

theorem intercalate_pieces (mark : Char) (cs : List Char) :
    [mark].intercalate (pieces mark cs) = cs := by
  induction cs with
  | nil => rfl
  | cons c rest ih =>
    cases hrest : pieces mark rest with
    | nil => exact absurd hrest (pieces_ne_nil mark rest)
    | cons first others =>
      rw [hrest] at ih
      by_cases hc : c = mark
      · simp [pieces, hc, hrest, List.intercalate_cons_cons, ih]
      · cases others with
        | nil => simpa [pieces, hc, hrest] using ih
        | cons next others =>
          simpa [pieces, hc, hrest, List.intercalate_cons_cons] using ih

/-- A text that is cut at a blank has the words of its pieces. -/
theorem flatMap_words_pieces {mark : Char} (hmark : isBlank mark = true) (cs : List Char) :
    (pieces mark cs).flatMap words = words cs := by
  rw [← words_intercalate hmark, intercalate_pieces]

theorem isWord_of_mem_wordsFrom {start cs word : List Char}
    (hstart : ∀ c ∈ start, isBlank c = false) (hword : word ∈ wordsFrom start cs) :
    IsWord word := by
  -- the word in progress, once it has a character
  have hreverse : start ≠ [] → IsWord start.reverse := fun hne =>
    ⟨by simpa using hne, by simpa using hstart⟩
  induction cs generalizing start with
  | nil =>
    cases start with
    | nil => simp [wordsFrom] at hword
    | cons d start =>
      obtain rfl : word = (d :: start).reverse := by simpa [wordsFrom] using hword
      exact hreverse (by simp)
  | cons c rest ih =>
    by_cases hc : isBlank c = true
    · cases start with
      | nil => exact ih hstart (by simpa [wordsFrom, hc] using hword) hreverse
      | cons d start =>
        have hcases : word = (d :: start).reverse ∨ word ∈ wordsFrom [] rest := by
          simpa [wordsFrom, hc] using hword
        rcases hcases with rfl | hlater
        · exact hreverse (by simp)
        · exact ih (by simp) hlater (by simp)
    · have hlonger : ∀ d ∈ c :: start, isBlank d = false := by simpa [hc] using hstart
      rw [wordsFrom, if_neg hc] at hword
      exact ih hlonger hword fun _ => ⟨by simp, by simpa [or_comm] using hlonger⟩

theorem isWord_of_mem_words {cs word : List Char} (hword : word ∈ words cs) : IsWord word :=
  isWord_of_mem_wordsFrom (by simp) hword

theorem words_eq_nil_iff {cs : List Char} : words cs = [] ↔ ∀ c ∈ cs, isBlank c = true := by
  constructor
  · intro hnone
    have hink := ink_flatten_words cs
    rw [hnone] at hink
    simpa [ink] using hink.symm
  · intro hblank
    induction cs with
    | nil => rfl
    | cons c rest ih =>
      rw [← List.nil_append (c :: rest), words_append_blank (hblank c (by simp))]
      exact ih fun d hd => hblank d (by simp [hd])

theorem wordsFrom_of_unbroken {start cs : List Char} (hcs : ∀ c ∈ cs, isBlank c = false) :
    wordsFrom start cs = wordsFrom (cs.reverse ++ start) [] := by
  induction cs generalizing start with
  | nil => rfl
  | cons c rest ih =>
    have hc : isBlank c = false := hcs c (by simp)
    have hstep : wordsFrom start (c :: rest) = wordsFrom (c :: start) rest := by
      simp [wordsFrom, hc]
    rw [hstep, ih fun d hd => hcs d (by simp [hd])]
    simp

theorem IsWord.words_eq {word : List Char} (h : IsWord word) : words word = [word] := by
  rw [words, wordsFrom_of_unbroken h.unbroken]
  simp [wordsFrom, h.ne_nil]

end Text

namespace Export

open Text (IsWord ink isBlankText pieces words)

/-! ### Cut words -/

/-- A word in pieces for lines of `width` characters. A piece that is not the last of the word fills
    its line. -/
structure IsCut (width : Nat) (word : List Char) (pieces : List (List Char)) : Prop where
  whole : pieces.flatten = word
  full : ∀ piece ∈ pieces.dropLast, piece.length = width
  fits : ∀ piece ∈ pieces, piece ≠ [] ∧ piece.length ≤ width

section

variable {width : Nat} {word : List Char}

theorem chunks_of_length_le (h : word.length ≤ width) : chunks width word = [word] := by
  rw [chunks, dif_pos (.inl h)]

theorem chunks_of_lt_length (hwidth : 0 < width) (h : width < word.length) :
    chunks width word = word.take width :: chunks width (word.drop width) := by
  rw [chunks, dif_neg (by omega)]

theorem isCut_chunks (hwidth : 0 < width) (hword : word ≠ []) :
    IsCut width word (chunks width word) := by
  induction word using chunks.induct width with
  | case1 word h =>
    have hshort : word.length ≤ width := by omega
    rw [chunks_of_length_le hshort]
    exact ⟨by simp, by simp, by simpa using ⟨hword, hshort⟩⟩
  | case2 word h ih =>
    have hlong : width < word.length := by omega
    have hrest : word.drop width ≠ [] := by simpa using hlong
    obtain ⟨-, hfull, hfits⟩ := ih hrest
    refine ⟨flatten_chunks width word, ?_, ?_⟩
    -- the first piece is as long as a line, and another one follows it
    · rw [chunks_of_lt_length hwidth hlong, List.dropLast_cons_of_ne_nil (chunks_ne_nil _ _)]
      simpa [hlong.le] using hfull
    · rw [chunks_of_lt_length hwidth hlong]
      simpa [hword, hwidth.ne', hlong.le] using hfits

/-- The pieces of a word have no blanks, since it has none. -/
theorem isWord_of_mem_chunks (hwidth : 0 < width) (hword : IsWord word) {piece : List Char}
    (hpiece : piece ∈ chunks width word) : IsWord piece := by
  have hcut := isCut_chunks hwidth hword.ne_nil
  refine ⟨(hcut.fits piece hpiece).1, fun c hc => hword.unbroken c ?_⟩
  rw [← hcut.whole]
  exact List.mem_flatten_of_mem hpiece hc

end

/-! ### Lines of pieces -/

/-- Pieces on a line, one blank between any two that follow each other. -/
def joined (pieces : List (List Char)) : List Char :=
  [' '].intercalate pieces

/-- Pieces on lines that have at most `width` characters. A line has at least one of them, and ends
    before a piece only if that had no place on it. -/
inductive IsLaidOut (width : Nat) : List (List Char) → List (List Char) → Prop where
  | nil : IsLaidOut width [] []
  | line {front back lines : List (List Char)} (hfront : front ≠ [])
      (hfits : (joined front).length ≤ width)
      (hfull : ∀ piece ∈ back.head?, width < (joined front).length + 1 + piece.length)
      (hlines : IsLaidOut width back lines) :
      IsLaidOut width (front ++ back) (joined front :: lines)

/-- The words of a paragraph on lines. -/
def IsFilled (width : Nat) (words lines : List (List Char)) : Prop :=
  ∃ cuts, List.Forall₂ (IsCut width) words cuts ∧ IsLaidOut width cuts.flatten lines

@[simp]
theorem joined_singleton (piece : List Char) : joined [piece] = piece := by
  simp [joined]

theorem joined_append_singleton {front : List (List Char)} (hfront : front ≠ [])
    (piece : List Char) : joined (front ++ [piece]) = joined front ++ ' ' :: piece := by
  induction front with
  | nil => exact absurd rfl hfront
  | cons first rest ih =>
    cases rest with
    | nil => simp [joined]
    | cons second rest =>
      have hrest := ih (by simp)
      simp only [joined, List.cons_append, List.intercalate_cons_cons] at hrest ⊢
      simp [hrest]

theorem joined_ne_nil {front : List (List Char)} (hfront : front ≠ [])
    (hpieces : ∀ piece ∈ front, piece ≠ []) : joined front ≠ [] := by
  cases front with
  | nil => exact absurd rfl hfront
  | cons first rest =>
    have hfirst : first ≠ [] := hpieces first (by simp)
    cases rest <;> simp [joined, List.intercalate_cons_cons, hfirst]

/-- The words that are read from a line are the pieces on it. -/
theorem words_joined {front : List (List Char)} (h : ∀ piece ∈ front, IsWord piece) :
    words (joined front) = front := by
  have hsingle : front.flatMap words = front.flatMap fun piece => [piece] :=
    List.flatMap_congr fun piece hpiece => (h piece hpiece).words_eq
  rw [joined, Text.words_intercalate (by decide), hsingle]
  simp

namespace IsLaidOut

variable {width : Nat} {pieces lines : List (List Char)}

theorem eq_nil_iff (h : IsLaidOut width pieces lines) : lines = [] ↔ pieces = [] := by
  cases h with
  | nil => simp
  | line hfront => simp [hfront]

/-- Lines lose no piece, and have them in order. -/
theorem flatMap_words (h : IsLaidOut width pieces lines)
    (hpieces : ∀ piece ∈ pieces, IsWord piece) : lines.flatMap words = pieces := by
  induction h with
  | nil => rfl
  | line _ _ _ _ ih =>
    obtain ⟨hwords, hlater⟩ := List.forall_mem_append.mp hpieces
    rw [List.flatMap_cons, words_joined hwords, ih hlater]

/-- A line has a character, and not more than it may have, and single blanks between its words. -/
theorem of_mem (h : IsLaidOut width pieces lines) (hpieces : ∀ piece ∈ pieces, IsWord piece)
    {line : List Char} (hline : line ∈ lines) :
    line ≠ [] ∧ line.length ≤ width ∧ line = joined (words line) := by
  induction h with
  | nil => cases hline
  | line hfront hfits _ _ ih =>
    obtain ⟨hwords, hlater⟩ := List.forall_mem_append.mp hpieces
    rcases List.mem_cons.mp hline with rfl | hline
    · exact ⟨joined_ne_nil hfront fun piece hpiece => (hwords piece hpiece).ne_nil, hfits,
        by rw [words_joined hwords]⟩
    · exact ih hlater hline

end IsLaidOut

/-! ### Filling -/

section

variable {width : Nat}

theorem fill_cons_of_fits {line word : List Char} (hline : line ≠ [])
    (hfits : line.length + 1 + word.length ≤ width) (rest : List (List Char)) :
    fill width line (word :: rest) = fill width (line ++ ' ' :: word) rest := by
  simp [fill, hline, hfits]

theorem fill_cons_of_full {line word : List Char} (hline : line ≠ [])
    (hfull : width < line.length + 1 + word.length) (rest : List (List Char)) :
    fill width line (word :: rest) = line :: fill width [] (word :: rest) := by
  simp [fill, hline, Nat.not_le.mpr hfull]

theorem fill_nil_cons_of_short {word : List Char} (hshort : word.length ≤ width)
    (rest : List (List Char)) : fill width [] (word :: rest) = fill width word rest := by
  simp [fill, chunks_of_length_le hshort]

/-- A word that is longer than a line fills one, and goes on like a word of its own. -/
theorem fill_nil_cons_of_long {word : List Char} (hwidth : 0 < width)
    (hlong : width < word.length) (rest : List (List Char)) :
    fill width [] (word :: rest) =
      word.take width :: fill width [] (word.drop width :: rest) := by
  have hne := chunks_ne_nil width (word.drop width)
  have hlast : (chunks width word).getLastD [] = (chunks width (word.drop width)).getLastD [] := by
    rw [chunks_of_lt_length hwidth hlong, List.getLastD_cons,
      List.getLastD_eq_getLast?, List.getLastD_eq_getLast?, List.getLast?_eq_getLast_of_ne_nil hne]
    rfl
  have hinit : (chunks width word).dropLast =
      word.take width :: (chunks width (word.drop width)).dropLast := by
    rw [chunks_of_lt_length hwidth hlong, List.dropLast_cons_of_ne_nil hne]
  simp only [fill, List.isEmpty_nil, if_true, hlast, hinit, List.cons_append]

/-- A word is put on lines as its pieces are. -/
theorem fill_chunks_append (hwidth : 0 < width) (line word : List Char) (hword : word ≠ [])
    (rest : List (List Char)) :
    fill width line (chunks width word ++ rest) = fill width line (word :: rest) := by
  induction word using chunks.induct width generalizing line with
  | case1 word h => rw [chunks_of_length_le (by omega), List.singleton_append]
  | case2 word h ih =>
    have hlong : width < word.length := by omega
    have hdrop : word.drop width ≠ [] := by simpa using hlong
    have hsome : 0 < (word.drop width).length := List.length_pos_iff.mpr hdrop
    have htake : (word.take width).length = width := by simpa using hlong.le
    have htake_ne : word.take width ≠ [] := List.length_pos_iff.mp (by omega)
    -- the first piece is a line of its own, so the next one begins a line
    have hbegin : fill width [] (chunks width word ++ rest) = fill width [] (word :: rest) := by
      rw [chunks_of_lt_length hwidth hlong, List.cons_append, fill_nil_cons_of_short htake.le,
        ih _ hdrop, fill_cons_of_full htake_ne (by omega), fill_nil_cons_of_long hwidth hlong]
    by_cases hline : line = []
    · rw [hline, hbegin]
    · have hpos : 0 < line.length := List.length_pos_iff.mpr hline
      rw [fill_cons_of_full hline (by omega), ← hbegin, chunks_of_lt_length hwidth hlong,
        List.cons_append, fill_cons_of_full hline (by omega)]

theorem fill_flatMap_chunks (hwidth : 0 < width) (line : List Char) {words : List (List Char)}
    (hwords : ∀ word ∈ words, word ≠ []) :
    fill width line (words.flatMap (chunks width)) = fill width line words := by
  induction words generalizing line with
  | nil => rfl
  | cons word rest ih =>
    have hrest : ∀ line, fill width line (rest.flatMap (chunks width)) = fill width line rest :=
      fun line => ih line fun word hword => hwords word (by simp [hword])
    rw [List.flatMap_cons, fill_chunks_append hwidth line word (hwords word (by simp))]
    simp only [fill, hrest]

/-- Pieces that are no longer than a line are laid out behind those that are on the line in
    progress. The line in progress fits, and so it still does when it ends. -/
theorem isLaidOut_fill_joined {front pieces : List (List Char)} (hfront : front ≠ [])
    (hfits : (joined front).length ≤ width)
    (hpieces : ∀ piece ∈ front ++ pieces, piece ≠ [] ∧ piece.length ≤ width) :
    IsLaidOut width (front ++ pieces) (fill width (joined front) pieces) := by
  induction pieces generalizing front with
  | nil =>
    have hline : joined front ≠ [] :=
      joined_ne_nil hfront fun piece hpiece => (hpieces piece (by simp [hpiece])).1
    have hlast : fill width (joined front) [] = [joined front] := by simp [fill, hline]
    rw [hlast]
    exact .line hfront hfits (by simp) .nil
  | cons piece rest ih =>
    have hline : joined front ≠ [] :=
      joined_ne_nil hfront fun piece hpiece => (hpieces piece (by simp [hpiece])).1
    by_cases hplace : (joined front).length + 1 + piece.length ≤ width
    -- the piece joins the line in progress
    · have hlonger : joined (front ++ [piece]) = joined front ++ ' ' :: piece :=
        joined_append_singleton hfront piece
      rw [fill_cons_of_fits hline hplace, ← hlonger, List.append_cons]
      refine ih (by simp) ?_ (by rwa [List.append_cons] at hpieces)
      rw [hlonger, List.length_append, List.length_cons]
      omega
    -- the line in progress ends because of the piece, which begins the next one
    · have hshort : piece.length ≤ width := (hpieces piece (by simp)).2
      have hrest : IsLaidOut width ([piece] ++ rest) (fill width (joined [piece]) rest) :=
        ih (by simp) (by simpa using hshort) fun other hother =>
          hpieces other (List.mem_append_right front hother)
      rw [fill_cons_of_full hline (by omega), fill_nil_cons_of_short hshort]
      rw [joined_singleton] at hrest
      exact .line hfront hfits (by simpa using by omega) hrest

theorem isLaidOut_fill_nil {pieces : List (List Char)}
    (hpieces : ∀ piece ∈ pieces, piece ≠ [] ∧ piece.length ≤ width) :
    IsLaidOut width pieces (fill width [] pieces) := by
  cases pieces with
  | nil => exact .nil
  | cons piece rest =>
    have hshort : piece.length ≤ width := (hpieces piece (by simp)).2
    have hrest : IsLaidOut width ([piece] ++ rest) (fill width (joined [piece]) rest) :=
      isLaidOut_fill_joined (by simp) (by simpa using hshort) hpieces
    rwa [joined_singleton, ← fill_nil_cons_of_short hshort] at hrest

end

/-! ### Paragraphs -/

/-- The pieces of a paragraph's words, in order. -/
def cutWords (width : Nat) (paragraph : List Char) : List (List Char) :=
  (words paragraph).flatMap (chunks width)

/-- The lines of a paragraph. -/
def paragraphLines (width : Nat) (paragraph : List Char) : List (List Char) :=
  fill width [] (words paragraph)

section

variable {width : Nat} {paragraph : List Char}

theorem isWord_of_mem_cutWords (hwidth : 0 < width) {piece : List Char}
    (hpiece : piece ∈ cutWords width paragraph) : IsWord piece := by
  obtain ⟨word, hword, hpiece⟩ := List.mem_flatMap.mp hpiece
  exact isWord_of_mem_chunks hwidth (Text.isWord_of_mem_words hword) hpiece

theorem isLaidOut_paragraphLines (hwidth : 0 < width) (paragraph : List Char) :
    IsLaidOut width (cutWords width paragraph) (paragraphLines width paragraph) := by
  have hwords : ∀ word ∈ words paragraph, word ≠ [] := fun word hword =>
    (Text.isWord_of_mem_words hword).ne_nil
  rw [paragraphLines, ← fill_flatMap_chunks hwidth [] hwords]
  refine isLaidOut_fill_nil fun piece hpiece => ?_
  obtain ⟨word, hword, hpiece⟩ := List.mem_flatMap.mp hpiece
  exact (isCut_chunks hwidth (hwords word hword)).fits piece hpiece

theorem isFilled_paragraphLines (hwidth : 0 < width) (paragraph : List Char) :
    IsFilled width (words paragraph) (paragraphLines width paragraph) := by
  refine ⟨(words paragraph).map (chunks width), ?_, ?_⟩
  · rw [List.forall₂_map_right_iff, List.forall₂_same]
    exact fun word hword => isCut_chunks hwidth (Text.isWord_of_mem_words hword).ne_nil
  · exact isLaidOut_paragraphLines hwidth paragraph

theorem paragraphLines_eq_nil_iff (hwidth : 0 < width) :
    paragraphLines width paragraph = [] ↔ words paragraph = [] := by
  rw [(isLaidOut_paragraphLines hwidth paragraph).eq_nil_iff, cutWords, List.flatMap_eq_nil_iff]
  constructor
  · intro hnone
    refine List.eq_nil_iff_forall_not_mem.mpr fun word hword => ?_
    exact chunks_ne_nil width word (hnone word hword)
  · intro hnone
    simp [hnone]

theorem of_mem_paragraphLines (hwidth : 0 < width) {line : List Char}
    (hline : line ∈ paragraphLines width paragraph) :
    line ≠ [] ∧ line.length ≤ width ∧ line = joined (words line) :=
  (isLaidOut_paragraphLines hwidth paragraph).of_mem (fun _ => isWord_of_mem_cutWords hwidth) hline

/-- A word that is not too long for a line is one of the words on some line. -/
theorem exists_mem_paragraphLines (hwidth : 0 < width) {word : List Char}
    (hword : word ∈ words paragraph) (hshort : word.length ≤ width) :
    ∃ line ∈ paragraphLines width paragraph, word ∈ words line := by
  have hpiece : word ∈ cutWords width paragraph :=
    List.mem_flatMap.mpr ⟨word, hword, by rw [chunks_of_length_le hshort]; exact .head _⟩
  rw [← (isLaidOut_paragraphLines hwidth paragraph).flatMap_words fun _ =>
    isWord_of_mem_cutWords hwidth] at hpiece
  exact List.mem_flatMap.mp hpiece

end

/-! ### Texts -/

theorem flatMap_words_paragraphs (text : List Char) :
    (pieces '\n' text).flatMap words = words text :=
  Text.flatMap_words_pieces (by decide) text

/-- The lines of a text are those of its paragraphs, unless it is blank. -/
theorem wrapChars_eq (text : List Char) (width : Nat) :
    wrapChars text width =
      if ∀ c ∈ text, Text.isBlank c = true then [[]]
      else (pieces '\n' text).flatMap (paragraphLines (max width 1)) := by
  have hwidth : 0 < max width 1 := by omega
  -- lines come from words, and a text without words is blank
  have hnone : (pieces '\n' text).flatMap (paragraphLines (max width 1)) = [] ↔
      ∀ c ∈ text, Text.isBlank c = true := by
    rw [← Text.words_eq_nil_iff, ← flatMap_words_paragraphs, List.flatMap_eq_nil_iff,
      List.flatMap_eq_nil_iff]
    simp only [paragraphLines_eq_nil_iff hwidth]
  simp only [← hnone, ← List.isEmpty_iff]
  rfl

theorem wrapChars_ne_nil (text : List Char) (width : Nat) : wrapChars text width ≠ [] := by
  unfold wrapChars
  dsimp only
  split
  · simp
  · next hsome => simpa using hsome

/-- A line has at most as many characters as it may have, but one if it may have none, and single
    blanks between its words. -/
theorem of_mem_wrapChars {text line : List Char} {width : Nat}
    (hline : line ∈ wrapChars text width) :
    line.length ≤ max width 1 ∧ line = joined (words line) := by
  rw [wrapChars_eq] at hline
  split at hline
  · obtain rfl := List.mem_singleton.mp hline
    exact ⟨by simp, rfl⟩
  · obtain ⟨paragraph, -, hline⟩ := List.mem_flatMap.mp hline
    exact (of_mem_paragraphLines (by omega) hline).2

theorem nil_not_mem_wrapChars {text : List Char} (width : Nat)
    (htext : ¬ ∀ c ∈ text, Text.isBlank c = true) : [] ∉ wrapChars text width := by
  rw [wrapChars_eq, if_neg htext]
  intro hline
  obtain ⟨paragraph, -, hline⟩ := List.mem_flatMap.mp hline
  exact (of_mem_paragraphLines (by omega) hline).1 rfl

theorem exists_mem_wrapChars {text word : List Char} {width : Nat} (hword : word ∈ words text)
    (hshort : word.length ≤ max width 1) : ∃ line ∈ wrapChars text width, word ∈ words line := by
  have htext : ¬ ∀ c ∈ text, Text.isBlank c = true := by
    rw [← Text.words_eq_nil_iff]
    exact List.ne_nil_of_mem hword
  rw [← flatMap_words_paragraphs] at hword
  obtain ⟨paragraph, hparagraph, hword⟩ := List.mem_flatMap.mp hword
  obtain ⟨line, hline, hmem⟩ := exists_mem_paragraphLines (by omega) hword hshort
  rw [wrapChars_eq, if_neg htext]
  exact ⟨line, List.mem_flatMap.mpr ⟨paragraph, hparagraph, hline⟩, hmem⟩

/-- A text has at least one line. No line is too long, the words on one have single blanks between
    them, and only the one line of a text without words is empty. The lines have the characters of
    the text in order, blanks apart, and a word that is not too long for a line is whole on one.
    Each paragraph has lines of its own, and they are as full as they can be: one ends only where
    the next word, or the next piece of a word that is too long, has no place on it. -/
theorem wrap_fills_lines (text : String) (width : Nat) :
    let lines := (wrap text width).map String.toList
    let most := max width 1
    lines ≠ [] ∧
    (∀ line ∈ lines, line.length ≤ most ∧ line = joined (words line)) ∧
    (isBlankText text = true → lines = [[]]) ∧
    (isBlankText text = false → [] ∉ lines) ∧
    ink lines.flatten = ink text.toList ∧
    (∀ word ∈ words text.toList, word.length ≤ most → ∃ line ∈ lines, word ∈ words line) ∧
    ∃ blocks,
      List.Forall₂ (fun paragraph block => IsFilled most (words paragraph) block)
        (pieces '\n' text.toList) blocks ∧
      lines = if isBlankText text then [[]] else blocks.flatten := by
  intro lines most
  have hlines : lines = wrapChars text.toList width := by
    simp [lines, wrap, Function.comp_def]
  have hblank : isBlankText text = true ↔ ∀ c ∈ text.toList, Text.isBlank c = true :=
    List.all_eq_true
  rw [hlines]
  refine ⟨wrapChars_ne_nil _ _, fun line => of_mem_wrapChars, ?_, ?_, ink_flatten_wrapChars _ _,
    fun word => exists_mem_wrapChars, (pieces '\n' text.toList).map (paragraphLines most), ?_, ?_⟩
  · intro htext
    rw [wrapChars_eq, if_pos (hblank.mp htext)]
  · intro htext
    refine nil_not_mem_wrapChars width fun hall => ?_
    rw [hblank.mpr hall] at htext
    cases htext
  · rw [List.forall₂_map_right_iff, List.forall₂_same]
    exact fun paragraph _ => isFilled_paragraphLines (by omega) paragraph
  · simp only [wrapChars_eq, hblank, List.flatMap_def]
    rfl

/-- A word that is too long for a line, between words that are not, in a text of more than one
    paragraph. -/
theorem wrap_fills_lines_thermometer :
    let lines := (wrap "a new thermometer is\n\n in" 5).map String.toList
    wrap "a new thermometer is\n\n in" 5 = ["a new", "therm", "omete", "r is", "in"] ∧
    isBlankText "a new thermometer is\n\n in" = false ∧ [] ∉ lines ∧
    "new".toList ∈ words "a new thermometer is\n\n in".toList ∧
    ∃ line ∈ lines, "new".toList ∈ words line := by
  intro lines
  obtain ⟨-, -, -, hsome, -, hwhole, -⟩ := wrap_fills_lines "a new thermometer is\n\n in" 5
  have htext : isBlankText "a new thermometer is\n\n in" = false := by decide +kernel
  have hword : "new".toList ∈ words "a new thermometer is\n\n in".toList := by decide +kernel
  exact ⟨by decide +kernel, htext, hsome htext, hword, hwhole _ hword (by decide)⟩

end Export

end ReportDesk
