import Mathlib
import ReportDesk.Guard.Lexeme
import ReportDesk.Proofs.Text.Trimming
import ReportDesk.Sql.Token

/-! # Lexemes of a written statement

    How a server cuts the text of a report statement. A name stands between brackets and a string
    between single quotes, the closing mark doubled inside; there are words, decimal numbers,
    punctuation and comparison signs, and blanks between. Nothing else is a lexeme, so a text that
    is cut at all holds no comment and no stray mark.

    The second half says how each kind of lexeme is found at the front of a text, whatever follows
    it within the rules of `Ends`.
-/

namespace ReportDesk.Sql

open Text (takeWhile_append_of_stop dropWhile_append_of_stop)

/-! ### Lexemes -/

/-- A lexeme, its quoting undone. -/
inductive Lexeme where
  /-- A word: a part of a keyword, or the name of a function. -/
  | word (text : String)
  /-- A name that stood between brackets. -/
  | name (text : String)
  /-- A string that stood between single quotes. -/
  | string (text : String)
  /-- A decimal number, as it was written. -/
  | number (text : String)
  /-- Punctuation or a comparison sign. -/
  | mark (mark : Mark)
  deriving DecidableEq, Repr

namespace Lexeme

/-! ### Cutting -/

/-- Whether a word can go on with a character. -/
def isWordPart (c : Char) : Bool :=
  c.isAlphanum || c == '_'

/-- A name or string whose opening mark is passed, up to its closing mark. -/
def quoted? (closing : Char) (make : String → Lexeme) (cs : List Char) :
    Option (Lexeme × List Char) :=
  (Guard.Lexeme.untilClosing? closing cs).map fun (text, after) =>
    (make (String.ofList text), after)

/-- The digits at the front of a text, with a point and more digits if these follow, and what is
    left. -/
def decimal (cs : List Char) : List Char × List Char :=
  let whole := cs.takeWhile Char.isDigit
  match cs.dropWhile Char.isDigit with
  | '.' :: rest =>
    let fraction := rest.takeWhile Char.isDigit
    if fraction.isEmpty then (whole, '.' :: rest)
    else (whole ++ '.' :: fraction, rest.dropWhile Char.isDigit)
  | rest => (whole, rest)

/-- The mark at the front of a text, the longest one that fits. -/
def mark? : List Char → Option (Mark × List Char)
  | '<' :: '>' :: rest => some (.ne, rest)
  | '<' :: '=' :: rest => some (.le, rest)
  | '>' :: '=' :: rest => some (.ge, rest)
  | '<' :: rest => some (.lt, rest)
  | '>' :: rest => some (.gt, rest)
  | '=' :: rest => some (.eq, rest)
  | ',' :: rest => some (.comma, rest)
  | '.' :: rest => some (.dot, rest)
  | '*' :: rest => some (.star, rest)
  | '(' :: rest => some (.opening, rest)
  | ')' :: rest => some (.closing, rest)
  | _ => none

/-- The lexeme at the front of a text that does not begin with a blank, and what follows it. -/
def next? : List Char → Option (Lexeme × List Char)
  | [] => none
  | c :: rest =>
    if c = '[' then quoted? ']' .name rest
    else if c = '\'' then quoted? '\'' .string rest
    else if c.isAlpha then
      some (.word (String.ofList (c :: rest.takeWhile isWordPart)), rest.dropWhile isWordPart)
    else if c.isDigit then
      let (text, after) := decimal (c :: rest)
      some (.number (String.ofList text), after)
    else if c = '-' && rest.head?.any Char.isDigit then
      let (text, after) := decimal rest
      some (.number (String.ofList ('-' :: text)), after)
    else (mark? (c :: rest)).map fun (m, after) => (.mark m, after)

/-- The lexemes of a text, blanks left out, or nothing when some piece of it is no lexeme. -/
def scan? : Nat → List Char → Option (List Lexeme)
  | 0, _ => none
  | _ + 1, [] => some []
  | fuel + 1, c :: rest =>
    if c = ' ' then scan? fuel rest
    else
      match next? (c :: rest) with
      | none => none
      | some (lexeme, after) => (scan? fuel after).map (lexeme :: ·)

/-- The lexemes of a statement's text. -/
def ofText? (text : String) : Option (List Lexeme) :=
  scan? (text.toList.length + 1) text.toList

example : ofText? "SELECT [a]]b].[c] = 'O''B', -1.5" =
    some [.word "SELECT", .name "a]b", .mark .dot, .name "c", .mark .eq, .string "O'B",
      .mark .comma, .number "-1.5"] := by
  cbv

/-! ### Texts and their lexemes -/

/-- A text is cut into lexemes, however long the scan may go on. -/
def Cuts (cs : List Char) (lexemes : List Lexeme) : Prop :=
  ∀ fuel, cs.length < fuel → scan? fuel cs = some lexemes

/-- What can follow a lexeme of any kind: nothing, or what is a blank, a comma or a round
    bracket. -/
def Ends (rest : List Char) : Prop :=
  ∀ c, rest.head? = some c → c = ' ' ∨ c = ',' ∨ c = '(' ∨ c = ')'

theorem Cuts.ofText? {text : String} {lexemes : List Lexeme} (h : Cuts text.toList lexemes) :
    ofText? text = some lexemes :=
  h _ (Nat.lt_succ_self _)

theorem Cuts.nil : Cuts [] [] := by
  intro fuel h
  obtain ⟨n, rfl⟩ : ∃ n, fuel = n + 1 := ⟨fuel - 1, by simp at h; omega⟩
  rfl

/-- A blank adds no lexeme. -/
theorem Cuts.blank {cs : List Char} {lexemes : List Lexeme} (h : Cuts cs lexemes) :
    Cuts (' ' :: cs) lexemes := by
  intro fuel hf
  obtain ⟨n, rfl⟩ : ∃ n, fuel = n + 1 := ⟨fuel - 1, by simp at hf; omega⟩
  have hn : cs.length < n := by simpa using hf
  simpa [scan?] using h n hn

/-- A lexeme at the front is the first of those that a text is cut into. -/
theorem Cuts.next {cs rest : List Char} {lexeme : Lexeme} {lexemes : List Lexeme}
    (hnext : next? cs = some (lexeme, rest)) (hblank : cs.head? ≠ some ' ')
    (hlen : rest.length < cs.length) (h : Cuts rest lexemes) :
    Cuts cs (lexeme :: lexemes) := by
  intro fuel hf
  cases cs with
  | nil => simp at hlen
  | cons c cs =>
    obtain ⟨n, rfl⟩ : ∃ n, fuel = n + 1 := ⟨fuel - 1, by simp at hf; omega⟩
    have hc : c ≠ ' ' := by
      intro hc
      exact hblank (by simp [hc])
    have hn : rest.length < n := by
      simp only [List.length_cons] at hlen hf
      omega
    simp [scan?, hc, hnext, h n hn]

/-! ### Ends of words and numbers -/

/-- Nothing that ends a lexeme goes on with a word. -/
theorem Ends.not_isWordPart {rest : List Char} (h : Ends rest) (c : Char)
    (hc : rest.head? = some c) : isWordPart c = false := by
  rcases h c hc with rfl | rfl | rfl | rfl <;> decide

/-- Nothing that ends a lexeme goes on with a number. -/
theorem Ends.not_isDigit {rest : List Char} (h : Ends rest) (c : Char)
    (hc : rest.head? = some c) : c.isDigit = false := by
  rcases h c hc with rfl | rfl | rfl | rfl <;> decide

/-! ### Names and strings -/

/-- A text whose closing marks are doubled is read up to the closing mark that is not, and gives
    the text before doubling. -/
theorem untilClosing?_doubling (closing : Char) (cs rest : List Char)
    (hrest : rest.head? ≠ some closing) :
    Guard.Lexeme.untilClosing? closing (doubling closing cs ++ closing :: rest) =
      some (cs, rest) := by
  -- by induction on the text before doubling, so that a doubled mark is one step
  induction cs with
  | nil =>
    cases rest with
    | nil => simp [doubling, Guard.Lexeme.untilClosing?]
    | cons d rest =>
      have hd : d ≠ closing := by simpa using hrest
      simp [doubling, Guard.Lexeme.untilClosing?, hd]
  | cons c cs ih =>
    have hstep : doubling closing (c :: cs) =
        (if c = closing then [c, c] else [c]) ++ doubling closing cs := by
      simp [doubling]
    rw [hstep]
    by_cases hc : c = closing
    · simp [hc, Guard.Lexeme.untilClosing?, ih]
    · -- the reader looks one character ahead, so what is left has to be seen to be there
      obtain ⟨d, tail, htail⟩ : ∃ d tail, doubling closing cs ++ closing :: rest = d :: tail := by
        cases hcs : doubling closing cs with
        | nil => exact ⟨closing, rest, rfl⟩
        | cons d tail => exact ⟨d, tail ++ closing :: rest, rfl⟩
      rw [htail] at ih
      simp [hc, htail, Guard.Lexeme.untilClosing?, ih]

/-- Between brackets stands one name, whatever it is made of. -/
theorem Cuts.name (text : String) {rest : List Char} {lexemes : List Lexeme}
    (hrest : rest.head? ≠ some ']') (h : Cuts rest lexemes) :
    Cuts ((quoteName text).toList ++ rest) (.name text :: lexemes) := by
  have hcs : (quoteName text).toList ++ rest =
      '[' :: (doubling ']' text.toList ++ ']' :: rest) := by
    simp [quoteName]
  rw [hcs]
  apply Cuts.next _ _ _ h
  · simp [next?, quoted?, untilClosing?_doubling _ _ _ hrest]
  · simp
  · simp
    omega

/-- Between single quotes stands one string, whatever it is made of. -/
theorem Cuts.string (text : String) {rest : List Char} {lexemes : List Lexeme}
    (hrest : Ends rest) (h : Cuts rest lexemes) :
    Cuts ((quoteString text).toList ++ rest) (.string text :: lexemes) := by
  have hcs : (quoteString text).toList ++ rest =
      '\'' :: (doubling '\'' text.toList ++ '\'' :: rest) := by
    simp [quoteString, escapeString]
  have hquote : rest.head? ≠ some '\'' := by
    intro hc
    exact absurd (hrest '\'' hc) (by decide)
  rw [hcs]
  apply Cuts.next _ _ _ h
  · simp [next?, quoted?, untilClosing?_doubling _ _ _ hquote]
  · simp
  · simp
    omega

/-! ### Words -/

/-- Whether a text is a word. -/
def IsWord (cs : List Char) : Prop :=
  ∃ c rest, cs = c :: rest ∧ c.isAlpha = true ∧ ∀ d ∈ rest, isWordPart d = true

/-- A text is checked to be a word by looking at each of its characters. -/
theorem IsWord.of_check {cs : List Char}
    (h : (match cs with
      | c :: rest => c.isAlpha && rest.all isWordPart
      | [] => false) = true) : IsWord cs := by
  cases cs with
  | nil => cases h
  | cons c rest =>
    obtain ⟨hc, hrest⟩ := Bool.and_eq_true_iff.mp h
    exact ⟨c, rest, rfl, hc, List.all_eq_true.mp hrest⟩

/-- A word is one lexeme. -/
theorem Cuts.word (text : String) {rest : List Char} {lexemes : List Lexeme}
    (htext : IsWord text.toList) (hrest : Ends rest) (h : Cuts rest lexemes) :
    Cuts (text.toList ++ rest) (.word text :: lexemes) := by
  obtain ⟨c, tail, hcs, hc, htail⟩ := htext
  have hword : String.ofList (c :: tail) = text := by
    rw [← hcs, String.ofList_toList]
  -- a letter opens neither a name nor a string
  have hne : c ≠ '[' ∧ c ≠ '\'' ∧ c ≠ ' ' := by
    refine ⟨?_, ?_, ?_⟩ <;> (intro he; subst he; revert hc; decide)
  rw [hcs]
  apply Cuts.next _ _ _ h
  · have htake := takeWhile_append_of_stop htail hrest.not_isWordPart
    have hdrop := dropWhile_append_of_stop htail hrest.not_isWordPart
    simp [next?, hne, hc, htake, hdrop, hword]
  · simp [hne]
  · simp only [List.length_append, List.length_cons]
    omega

/-- A word and a blank after it. -/
theorem Cuts.word_blank (text : String) {rest : List Char} {lexemes : List Lexeme}
    (htext : IsWord text.toList) (h : Cuts rest lexemes) :
    Cuts (text.toList ++ ' ' :: rest) (.word text :: lexemes) := by
  have hends : Ends (' ' :: rest) := by
    intro c hc
    exact .inl (by simpa using hc.symm)
  exact Cuts.word text htext hends h.blank

/-! ### Numbers -/

/-- A text of digits, and perhaps a point with digits after it. -/
def IsDecimal (cs : List Char) : Prop :=
  ∃ whole, whole ≠ [] ∧ (∀ c ∈ whole, c.isDigit = true) ∧
    (cs = whole ∨ ∃ fraction, fraction ≠ [] ∧ (∀ c ∈ fraction, c.isDigit = true) ∧
      cs = whole ++ '.' :: fraction)

/-- A decimal number, with a minus sign or without. -/
def IsNumber (cs : List Char) : Prop :=
  IsDecimal cs ∨ ∃ body, IsDecimal body ∧ cs = '-' :: body

/-- A decimal number is read as a whole. -/
theorem decimal_append {cs rest : List Char} (hcs : IsDecimal cs) (hrest : Ends rest) :
    decimal (cs ++ rest) = (cs, rest) := by
  obtain ⟨whole, -, hwhole, rfl | ⟨fraction, hne, hfraction, rfl⟩⟩ := hcs
  · have htake := takeWhile_append_of_stop hwhole hrest.not_isDigit
    have hdrop := dropWhile_append_of_stop hwhole hrest.not_isDigit
    unfold decimal
    rw [htake, hdrop]
    split
    · next tail =>
      exact absurd (hrest '.' rfl) (by decide)
    · rfl
  · -- the point ends the first run of digits, and what follows the number the second
    have hdot : ∀ c, ('.' :: (fraction ++ rest)).head? = some c → c.isDigit = false := by
      intro c hc
      obtain rfl : '.' = c := by simpa using hc
      decide
    have htake := takeWhile_append_of_stop hwhole hdot
    have hdrop := dropWhile_append_of_stop hwhole hdot
    have htake' := takeWhile_append_of_stop hfraction hrest.not_isDigit
    have hdrop' := dropWhile_append_of_stop hfraction hrest.not_isDigit
    unfold decimal
    rw [List.append_assoc, List.cons_append, htake, hdrop]
    simp [htake', hdrop', hne]

/-- A decimal number begins with a digit. -/
theorem IsDecimal.eq_cons {cs : List Char} (h : IsDecimal cs) :
    ∃ c rest, cs = c :: rest ∧ c.isDigit = true := by
  obtain ⟨whole, hne, hwhole, hcs⟩ := h
  obtain ⟨c, tail, rfl⟩ := List.exists_cons_of_ne_nil hne
  have hc : c.isDigit = true := hwhole c (by simp)
  rcases hcs with rfl | ⟨fraction, -, -, rfl⟩
  · exact ⟨c, tail, rfl, hc⟩
  · exact ⟨c, tail ++ '.' :: fraction, rfl, hc⟩

/-- No digit is a letter. -/
theorem isAlpha_of_isDigit {c : Char} (h : c.isDigit = true) : c.isAlpha = false := by
  have h0 : '0'.val.toNat = 48 := rfl
  have h9 : '9'.val.toNat = 57 := rfl
  have hA : 'A'.val.toNat = 65 := rfl
  have ha : 'a'.val.toNat = 97 := rfl
  simp only [Char.isDigit, Bool.and_eq_true, decide_eq_true_eq, ge_iff_le,
    UInt32.le_iff_toNat_le] at h
  simp only [Char.isAlpha, Char.isUpper, Char.isLower, Bool.or_eq_false_iff, Bool.and_eq_false_iff,
    decide_eq_false_iff_not, ge_iff_le, UInt32.le_iff_toNat_le]
  omega

/-- A decimal number is one lexeme, its sign included. -/
theorem Cuts.number (text : String) {rest : List Char} {lexemes : List Lexeme}
    (htext : IsNumber text.toList) (hrest : Ends rest) (h : Cuts rest lexemes) :
    Cuts (text.toList ++ rest) (.number text :: lexemes) := by
  rcases htext with hcs | ⟨body, hbody, hcs⟩
  · have hread := decimal_append hcs hrest
    obtain ⟨c, tail, hcons, hc⟩ := hcs.eq_cons
    have hnumber : String.ofList (c :: tail) = text := by
      rw [← hcons, String.ofList_toList]
    have hne : c ≠ '[' ∧ c ≠ '\'' ∧ c ≠ ' ' := by
      refine ⟨?_, ?_, ?_⟩ <;> (intro he; subst he; revert hc; decide)
    rw [hcons] at hread ⊢
    apply Cuts.next _ _ _ h
    · rw [List.cons_append] at hread ⊢
      simp [next?, hne, isAlpha_of_isDigit hc, hc, hread, hnumber]
    · simp [hne]
    · simp only [List.length_append, List.length_cons]
      omega
  · -- no mark is a minus sign, so with a digit behind it it can only begin a number
    have hread := decimal_append hbody hrest
    obtain ⟨c, tail, rfl, hc⟩ := hbody.eq_cons
    have hnumber : String.ofList ('-' :: c :: tail) = text := by
      rw [← hcs, String.ofList_toList]
    rw [hcs]
    apply Cuts.next _ _ _ h
    · have hminus : '-'.isAlpha = false ∧ '-'.isDigit = false := by decide
      rw [List.cons_append] at hread
      simp [next?, hminus, hc, hread, hnumber]
    · simp
    · simp only [List.cons_append, List.length_append, List.length_cons]
      omega

/-! ### Marks -/

/-- A mark is read as a whole. A sign that could be the front of a longer one needs something
    behind it that ends it. -/
theorem mark?_append (m : Mark) {rest : List Char} (hm : m ≠ .blank)
    (hrest : Ends rest ∨ m ≠ .lt ∧ m ≠ .gt) :
    mark? (m.text.toList ++ rest) = some (m, rest) := by
  -- `<>`, `<=` and `>=` are the only marks that begin like a shorter one
  have hsign : (m = .lt ∨ m = .gt) → rest.head? ≠ some '>' ∧ rest.head? ≠ some '=' := by
    rintro hlt
    have hends : Ends rest := by
      rcases hrest with hrest | ⟨hne, hne'⟩
      · exact hrest
      · rcases hlt with rfl | rfl
        · exact absurd rfl hne
        · exact absurd rfl hne'
    constructor <;> (intro hc; exact absurd (hends _ hc) (by decide))
  cases m with
  | blank => exact absurd rfl hm
  | lt =>
    cases rest with
    | nil => rfl
    | cons c rest =>
      have hc := hsign (.inl rfl)
      simp only [List.head?_cons, ne_eq, Option.some.injEq] at hc
      simp [Mark.text, mark?, hc]
  | gt =>
    cases rest with
    | nil => rfl
    | cons c rest =>
      have hc := hsign (.inr rfl)
      simp only [List.head?_cons, ne_eq, Option.some.injEq] at hc
      simp [Mark.text, mark?, hc]
  | _ => rfl

/-- A mark other than a blank is one lexeme. -/
theorem Cuts.mark (m : Mark) {rest : List Char} {lexemes : List Lexeme} (hm : m ≠ .blank)
    (hrest : Ends rest ∨ m ≠ .lt ∧ m ≠ .gt) (h : Cuts rest lexemes) :
    Cuts (m.text.toList ++ rest) (.mark m :: lexemes) := by
  have hread := mark?_append m hm hrest
  obtain ⟨c, tail, htext, hc⟩ : ∃ c tail, m.text.toList = c :: tail ∧
      c ∈ ['<', '>', '=', ',', '.', '*', '(', ')'] := by
    cases m with
    | blank => exact absurd rfl hm
    | _ => exact ⟨_, _, rfl, by decide⟩
  rw [htext] at hread ⊢
  -- no mark begins like a lexeme of another kind
  have hother : c ≠ '[' ∧ c ≠ '\'' ∧ c.isAlpha = false ∧ c.isDigit = false ∧ c ≠ '-' ∧ c ≠ ' ' := by
    revert hc
    simp only [List.mem_cons, List.not_mem_nil, or_false]
    rintro (rfl | rfl | rfl | rfl | rfl | rfl | rfl | rfl) <;> decide
  apply Cuts.next _ _ _ h
  · rw [List.cons_append] at hread ⊢
    simp [next?, hother, hread]
  · simp [hother]
  · simp only [List.length_append, List.length_cons]
    omega

end Lexeme

end ReportDesk.Sql
