import ReportDesk.Json.Printer
import ReportDesk.Json.Reader
import ReportDesk.Proofs.Json.Decoding

/-! # Texts of documents

    What is written of a document on one line is read as the document again, as long as it says
    nothing that JSON has no exact form for here: no doubles, and no integers beyond 64 bits. Every
    string comes back as it was, whatever characters it has.

    A value is followed by the end of the text or by the mark that ends it in an array or an object.
    This is where digits stop, so the reading lemmas are about a value in front of such a rest.
-/

namespace ReportDesk.Json

/-! ### Strings -/

section

variable {done : Option (List Char)} {rest : List Char}

theorem readString_escaped {c e : Char} (h : escaped? c = some e) :
    readString done ('\\' :: c :: rest) = readString (done.map (e :: ·)) rest := by
  have hu : c ≠ 'u' := by
    rintro rfl
    cases h
  rw [readString.eq_def]
  simp [h, hu]

theorem readString_unit {a b c d : Char} {unit : Nat} (h : hexUnit? a b c d = some unit)
    (hsmall : unit < 0x20) :
    readString done ('\\' :: 'u' :: a :: b :: c :: d :: rest) =
      readString (done.map (Char.ofNat unit :: ·)) rest := by
  have hhigh : isHighSurrogate unit = false := by simp [isHighSurrogate]; omega
  have hlow : isLowSurrogate unit = false := by simp [isLowSurrogate]; omega
  rw [readString.eq_def]
  simp [h, hhigh, hlow]

theorem readString_self {c : Char} (hquote : c ≠ '"') (hslash : c ≠ '\\') (hprints : ¬ c < ' ') :
    readString done (c :: rest) = readString (done.map (c :: ·)) rest := by
  rw [readString.eq_def]
  split
  · next h => cases h
  · next h => exact absurd (List.cons.inj h).1 hquote
  · next h => exact absurd (List.cons.inj h).1 hslash
  · next h => exact absurd (List.cons.inj h).1 hslash
  · next h =>
    obtain ⟨rfl, rfl⟩ := List.cons.inj h
    simp [hslash, hprints]

/-- Characters that do not print are escaped, by a letter or by their number. -/
theorem escapeChar_control {n : Nat} (h : n < 0x20) :
    (∃ c, escapeChar (Char.ofNat n) = ['\\', c] ∧ escaped? c = some (Char.ofNat n)) ∨
      ∃ c d, escapeChar (Char.ofNat n) = ['\\', 'u', '0', '0', c, d] ∧
        hexUnit? '0' '0' c d = some n := by
  interval_cases n
  case «8» | «9» | «10» | «12» | «13» => exact .inl ⟨_, rfl, rfl⟩
  all_goals exact .inr ⟨_, _, rfl, rfl⟩

theorem escapeChar_self {c : Char} (hquote : c ≠ '"') (hslash : c ≠ '\\')
    (hprints : ¬ c.toNat < 0x20) : escapeChar c = [c] := by
  have hspace : ¬ c < ' ' := hprints
  have hdigit : ¬ c.toNat < 0x10 := by omega
  unfold escapeChar
  split
  · exact absurd rfl hquote
  · exact absurd rfl hslash
  · simp at hprints
  · simp at hprints
  · simp at hprints
  · simp at hprints
  · simp at hprints
  · rw [if_neg hdigit, if_neg hspace]

/-- What is written for a character is read as it. -/
theorem readString_escapeChar (c : Char) :
    readString done (escapeChar c ++ rest) = readString (done.map (c :: ·)) rest := by
  by_cases hcontrol : c.toNat < 0x20
  · have h := escapeChar_control hcontrol
    rw [Char.ofNat_toNat] at h
    rcases h with ⟨e, hc, he⟩ | ⟨a, b, hc, hunit⟩
    · rw [hc]
      exact readString_escaped he
    · have hread : readString done ('\\' :: 'u' :: '0' :: '0' :: a :: b :: rest) = _ :=
        readString_unit hunit hcontrol
      rw [hc]
      rwa [Char.ofNat_toNat] at hread
  · by_cases hquote : c = '"'
    · subst hquote
      exact readString_escaped rfl
    · by_cases hslash : c = '\\'
      · subst hslash
        exact readString_escaped rfl
      · rw [escapeChar_self hquote hslash hcontrol]
        exact readString_self hquote hslash hcontrol

theorem readString_flatMap (cs done : List Char) :
    readString (some done) (cs.flatMap escapeChar ++ '"' :: rest) =
      some (.string (String.ofList (done.reverse ++ cs)), rest) := by
  induction cs generalizing done with
  | nil => simp [readString]
  | cons c cs ih =>
    rw [List.flatMap_cons, List.append_assoc, readString_escapeChar]
    simpa using ih (c :: done)

theorem toList_quote (text : String) :
    (quote text).toList = '"' :: (text.toList.flatMap escapeChar ++ ['"']) := by
  simp [quote]

/-- A string literal is read as the text it was written for. -/
theorem readString_quote (text : String) (rest : List Char) :
    readString (some []) (text.toList.flatMap escapeChar ++ '"' :: rest) =
      some (.string text, rest) := by
  simpa using readString_flatMap text.toList []

end

/-! ### Integers -/

theorem le_ofDigitChars (cs : List Char) (n : Nat) : n ≤ Nat.ofDigitChars 10 cs n := by
  induction cs generalizing n with
  | nil => exact le_refl n
  | cons c cs ih =>
    rw [Nat.ofDigitChars_cons]
    exact le_trans (by omega) (ih _)

/-- Digits whose number fits make that number. -/
theorem foldl_addWhole {cs : List Char} {n : Nat}
    (h : Nat.ofDigitChars 10 cs n < Decimal.unsignedLimit) :
    cs.foldl Significand.addWhole { value := n } = { value := Nat.ofDigitChars 10 cs n } := by
  induction cs generalizing n with
  | nil => rfl
  | cons c cs ih =>
    rw [Nat.ofDigitChars_cons] at h
    have hnext : n * 10 + Significand.digit c = 10 * n + (c.toNat - '0'.toNat) := by
      rw [Significand.digit, mul_comm]
    -- more digits only make the number greater, so it fits all the way
    have hfits : ¬ 10 * n + (c.toNat - '0'.toNat) ≥ Decimal.unsignedLimit := by
      have hle := le_ofDigitChars cs (10 * n + (c.toNat - '0'.toNat))
      omega
    have hstep : Significand.addWhole { value := n } c =
        { value := 10 * n + (c.toNat - '0'.toNat) } := by
      simp only [Significand.addWhole, hnext, Bool.false_or, decide_eq_true_eq, if_neg hfits]
    rw [List.foldl_cons, hstep, ih h, Nat.ofDigitChars_cons]

/-- Only zero is written with a zero in front. -/
theorem head?_toDigits {n : Nat} (h : 0 < n) : (Nat.toDigits 10 n).head? ≠ some '0' := by
  induction n using Nat.strong_induction_on with
  | _ n ih =>
    rw [Nat.toDigits_eq_if (by decide)]
    split
    · next hsmall => interval_cases n <;> decide
    · next hlarge =>
      have hfront := ih (n / 10) (by omega) (by omega)
      rwa [List.head?_append_of_ne_nil _ Nat.toDigits_ne_nil]

/-- What may stand after a value: the end of the text, a comma or a closing bracket. -/
def Stops : List Char → Prop
  | [] => True
  | c :: _ => c = ',' ∨ c = ']' ∨ c = '\x7d'

section

variable {rest : List Char}

theorem takeDigits_toDigits (n : Nat) (hrest : Stops rest) :
    takeDigits (Nat.toDigits 10 n ++ rest) = (Nat.toDigits 10 n, rest) := by
  have hdigits : ∀ c ∈ Nat.toDigits 10 n, c.isDigit = true := fun c hc =>
    Nat.isDigit_of_mem_toDigits (by decide) (by decide) hc
  have hstop : rest.takeWhile Char.isDigit = [] ∧ rest.dropWhile Char.isDigit = rest := by
    cases rest with
    | nil => simp
    | cons c rest => rcases hrest with rfl | rfl | rfl <;> simp [Char.isDigit]
  rw [takeDigits, List.takeWhile_append_of_pos hdigits, List.dropWhile_append_of_pos hdigits,
    hstop.1, hstop.2, List.append_nil]

theorem readNumeral?_toDigits (negative : Bool) (n : Nat) (hrest : Stops rest) :
    readNumeral? negative (Nat.toDigits 10 n ++ rest) =
      some (ofNumeral negative (Nat.toDigits 10 n) none none, rest) := by
  have hfraction : readFraction? rest = some (none, rest) := by
    cases rest with
    | nil => rfl
    | cons c rest => rcases hrest with rfl | rfl | rfl <;> rfl
  have hexponent : readExponent? rest = some (none, rest) := by
    cases rest with
    | nil => rfl
    | cons c rest => rcases hrest with rfl | rfl | rfl <;> rfl
  -- a zero in front is refused, unless it is the whole numeral
  have hzero : ¬ ((Nat.toDigits 10 n).isEmpty ||
      ((Nat.toDigits 10 n).head? == some '0' && (Nat.toDigits 10 n).length > 1)) = true := by
    rcases Nat.eq_zero_or_pos n with rfl | hpos
    · decide
    · simp [Nat.toDigits_ne_nil, head?_toDigits hpos]
  simp only [readNumeral?, takeDigits_toDigits n hrest, hzero]
  simp [hfraction, hexponent]

theorem ofNumeral_toDigits {n : Nat} (h : n < Decimal.unsignedLimit) :
    ofNumeral false (Nat.toDigits 10 n) none none = .integer n := by
  have hnumber : Nat.ofDigitChars 10 (Nat.toDigits 10 n) 0 = n :=
    Nat.ofDigitChars_toDigits (by decide) (by decide)
  have hfold : (Nat.toDigits 10 n).foldl Significand.addWhole { value := 0 } = { value := n } := by
    rw [foldl_addWhole (by rwa [hnumber]), hnumber]
  simp [ofNumeral, hfold]

theorem ofNumeral_toDigits_neg {n : Nat} (hpos : 0 < n) (h : n ≤ Decimal.signedLimit.toNat) :
    ofNumeral true (Nat.toDigits 10 n) none none = .integer (-n) := by
  have hnumber : Nat.ofDigitChars 10 (Nat.toDigits 10 n) 0 = n :=
    Nat.ofDigitChars_toDigits (by decide) (by decide)
  have hlimit : Decimal.signedLimit.toNat < Decimal.unsignedLimit := by decide
  have hfold : (Nat.toDigits 10 n).foldl Significand.addWhole { value := 0 } = { value := n } := by
    rw [foldl_addWhole (by rw [hnumber]; omega), hnumber]
  have hzero : n ≠ 0 := by omega
  simp [ofNumeral, hfold, hzero, h]

/-! ### Leaves -/

theorem skipSpace_cons {c : Char} {cs : List Char}
    (h : c ∉ [' ', '\n', '\t', '\r']) : skipSpace (c :: cs) = c :: cs := by
  simp only [List.mem_cons, List.not_mem_nil, or_false, not_or] at h
  simp [skipSpace, h]

/-- A leaf is read where neither an array nor an object begins. -/
theorem readValue_of_leaf {c : Char} {cs after : List Char} {leaf : Json} {fuel : Nat}
    (hc : c ∉ [' ', '\n', '\t', '\r', '[', '\x7b'])
    (h : readLeaf? (c :: cs) = some (leaf, after)) (hfuel : 0 < fuel) :
    readValue fuel (c :: cs) = (leaf, some after) := by
  obtain ⟨fuel, rfl⟩ : ∃ n, fuel = n + 1 := ⟨fuel - 1, by omega⟩
  have hspace : c ∉ [' ', '\n', '\t', '\r'] := fun hmem => hc (List.mem_append_left _ hmem)
  rw [readValue, skipSpace_cons hspace]
  split
  · next heq => simp [(List.cons.inj heq).1] at hc
  · next heq => simp [(List.cons.inj heq).1] at hc
  · rw [h]

theorem not_mem_of_isDigit {c : Char} (hc : c.isDigit = true) {marks : List Char}
    (h : marks.any Char.isDigit = false) : c ∉ marks := by
  rw [List.any_eq_false] at h
  exact fun hmem => h c hmem hc

theorem readLeaf?_of_isDigit {c : Char} {cs : List Char} (hc : c.isDigit = true) :
    readLeaf? (c :: cs) = readNumeral? false (c :: cs) := by
  have hnot : c ∉ ['"', '-', 't', 'f', 'n'] := not_mem_of_isDigit hc rfl
  simp only [List.mem_cons, not_or] at hnot
  obtain ⟨hquote, hminus, ht, hf, hn, -⟩ := hnot
  rw [readLeaf?.eq_def]
  split
  · next heq => exact absurd (List.cons.inj heq).1 hquote
  · next heq => exact absurd (List.cons.inj heq).1 hminus
  · next heq => exact absurd (List.cons.inj heq).1 ht
  · next heq => exact absurd (List.cons.inj heq).1 hf
  · next heq => exact absurd (List.cons.inj heq).1 hn
  · rfl

theorem toList_toString_ofNat (n : Nat) :
    (toString (Int.ofNat n)).toList = Nat.toDigits 10 n := by
  rw [Int.toString_eq_repr, Int.repr, Nat.repr_eq_ofList_toDigits, String.toList_ofList]

theorem toList_toString_negSucc (n : Nat) :
    (toString (Int.negSucc n)).toList = '-' :: Nat.toDigits 10 (n + 1) := by
  rw [Int.toString_eq_repr, Int.repr, Nat.repr_eq_ofList_toDigits]
  simp

theorem exists_toDigits_eq_cons (n : Nat) :
    ∃ c cs, Nat.toDigits 10 n = c :: cs ∧ c.isDigit = true := by
  have hne : Nat.toDigits 10 n ≠ [] := Nat.toDigits_ne_nil
  obtain ⟨c, cs, hcs⟩ := List.exists_cons_of_ne_nil hne
  have hmem : c ∈ Nat.toDigits 10 n := by simp [hcs]
  exact ⟨c, cs, hcs, Nat.isDigit_of_mem_toDigits (by decide) (by decide) hmem⟩

theorem readValue_integer {value : Int} (hlow : -Decimal.signedLimit ≤ value)
    (hhigh : value < Decimal.unsignedLimit) {fuel : Nat} (hfuel : 0 < fuel) (hrest : Stops rest) :
    readValue fuel ((toString value).toList ++ rest) = (.integer value, some rest) := by
  cases value with
  | ofNat n =>
    have hn : n < Decimal.unsignedLimit := Int.ofNat_lt.mp hhigh
    obtain ⟨c, cs, hcs, hc⟩ := exists_toDigits_eq_cons n
    have hread := readNumeral?_toDigits false n hrest
    rw [ofNumeral_toDigits hn, hcs, List.cons_append] at hread
    rw [toList_toString_ofNat, hcs, List.cons_append]
    refine readValue_of_leaf (not_mem_of_isDigit hc rfl) ?_ hfuel
    rwa [readLeaf?_of_isDigit hc]
  | negSucc n =>
    have hn : n + 1 ≤ Decimal.signedLimit.toNat := by
      simp only [Decimal.signedLimit] at hlow ⊢
      omega
    have hread := readNumeral?_toDigits true (n + 1) hrest
    rw [ofNumeral_toDigits_neg (by omega) hn] at hread
    rw [toList_toString_negSucc, List.cons_append]
    exact readValue_of_leaf (by decide) hread hfuel

theorem readValue_string (text : String) {fuel : Nat} (hfuel : 0 < fuel) :
    readValue fuel ((quote text).toList ++ rest) = (.string text, some rest) := by
  rw [toList_quote, List.cons_append, List.append_assoc]
  exact readValue_of_leaf (by decide) (readString_quote text rest) hfuel

end

/-! ### Lists -/

/-- A text that begins neither with white space nor with a mark that is expected between parts. -/
def Begins (cs : List Char) : Prop :=
  ∃ c rest, cs = c :: rest ∧ c ∉ [' ', '\n', '\t', '\r', ',', ']', '\x7d']

theorem Begins.append {cs : List Char} (h : Begins cs) (more : List Char) :
    Begins (cs ++ more) := by
  obtain ⟨c, rest, rfl, hc⟩ := h
  exact ⟨c, rest ++ more, rfl, hc⟩

theorem Begins.skipSpace_eq {cs : List Char} (h : Begins cs) : skipSpace cs = cs := by
  obtain ⟨c, rest, rfl, hc⟩ := h
  exact skipSpace_cons fun hmem => hc (List.mem_append_left _ hmem)

/-- Parts with commas between them. -/
def listed (parts : List (List Char)) : List Char :=
  [','].intercalate parts

theorem listed_singleton (part : List Char) : listed [part] = part := by
  simp [listed]

theorem listed_cons_cons (first second : List Char) (rest : List (List Char)) :
    listed (first :: second :: rest) = first ++ ',' :: listed (second :: rest) := by
  simp [listed, List.intercalate_cons_cons]

theorem begins_listed {part : List Char} (h : Begins part) (parts : List (List Char)) :
    Begins (listed (part :: parts)) := by
  cases parts with
  | nil => rwa [listed_singleton]
  | cons second parts =>
    rw [listed_cons_cons]
    exact h.append _

/-- Parts with commas between them are read one by one, if one part is read before the closing
    bracket and one before a comma and more parts. A part takes two steps, of which its text leaves
    enough. -/
theorem read_listed {γ : Type} {Told : List Char → γ → Prop}
    {read : Nat → List Char → List γ × Option (List Char)} {close : Char} {rest : List Char}
    (hbegins : ∀ part value, Told part value → Begins part)
    (hlast : ∀ part value fuel, Told part value → 3 * part.length ≤ fuel + 1 →
      read (fuel + 2) (part ++ close :: rest) = ([value], some rest))
    (hmore : ∀ part value fuel more values, Told part value → 3 * part.length ≤ fuel + 1 →
      Begins more → read fuel more = (values, some rest) →
        read (fuel + 2) (part ++ ',' :: more) = (value :: values, some rest))
    {part : List Char} {parts : List (List Char)} {value : γ} {values : List γ}
    (hfirst : Told part value) (hothers : List.Forall₂ Told parts values) {fuel : Nat}
    (hfuel : 3 * (listed (part :: parts)).length + 2 ≤ fuel) :
    read fuel (listed (part :: parts) ++ close :: rest) = (value :: values, some rest) := by
  -- over the parts after the first, as the first needs no comma before it
  induction hothers generalizing part value fuel with
  | nil =>
    obtain ⟨fuel, rfl⟩ : ∃ n, fuel = n + 2 := ⟨fuel - 2, by omega⟩
    rw [listed_singleton] at hfuel ⊢
    exact hlast part value fuel hfirst (by omega)
  | @cons second other parts values hsecond hothers ih =>
    obtain ⟨fuel, rfl⟩ : ∃ n, fuel = n + 2 := ⟨fuel - 2, by omega⟩
    rw [listed_cons_cons, List.length_append, List.length_cons] at hfuel
    have hread := ih hsecond (show 3 * (listed (second :: parts)).length + 2 ≤ fuel by omega)
    have hnext := (begins_listed (hbegins _ _ hsecond) parts).append (close :: rest)
    rw [listed_cons_cons, List.append_assoc, List.cons_append]
    exact hmore part value fuel _ _ hfirst (by omega) hnext hread

/-! ### Arrays and objects -/

/-- A text is read as a document, whatever it stands in front of. -/
def ReadsAs (cs : List Char) (json : Json) : Prop :=
  Begins cs ∧ ∀ ⦃fuel : Nat⦄ ⦃rest : List Char⦄, 3 * cs.length ≤ fuel → Stops rest →
    readValue fuel (cs ++ rest) = (json, some rest)

/-- A text is read as a member of an object. -/
def ReadsAsMember (cs : List Char) (member : String × Json) : Prop :=
  ∃ text, cs = (quote member.1).toList ++ ':' :: text ∧ ReadsAs text member.2

section

variable {rest more : List Char} {fuel : Nat}

theorem readItems_first (h : Begins more) :
    readItems (fuel + 1) true more = readItem fuel more := by
  rw [readItems.eq_def]
  simp only [h.skipSpace_eq]
  -- neither a bracket nor a comma stands in front, which leaves the item
  obtain ⟨c, rest, rfl, hc⟩ := h
  split
  · next heq => simp [(List.cons.inj heq).1] at hc
  · contradiction
  · rfl
  · contradiction

theorem readItems_next (h : Begins more) :
    readItems (fuel + 1) false (',' :: more) = readItem fuel more := by
  have hcomma : skipSpace (',' :: more) = ',' :: more := skipSpace_cons (by decide)
  rw [readItems.eq_def]
  simp only [hcomma, h.skipSpace_eq]
  obtain ⟨c, rest, rfl, hc⟩ := h
  split
  · next heq => simp [(List.cons.inj heq).1] at hc
  · rfl

theorem readItems_last {first : Bool} :
    readItems (fuel + 1) first (']' :: rest) = ([], some rest) := by
  have hbracket : skipSpace (']' :: rest) = ']' :: rest := skipSpace_cons (by decide)
  rw [readItems.eq_def]
  simp only [hbracket]

theorem readMembers_first (h : Begins more) :
    readMembers (fuel + 1) true more = readMember fuel more := by
  rw [readMembers.eq_def]
  simp only [h.skipSpace_eq]
  obtain ⟨c, rest, rfl, hc⟩ := h
  split
  · next heq => simp [(List.cons.inj heq).1] at hc
  · contradiction
  · rfl
  · contradiction

theorem readMembers_next (h : Begins more) :
    readMembers (fuel + 1) false (',' :: more) = readMember fuel more := by
  have hcomma : skipSpace (',' :: more) = ',' :: more := skipSpace_cons (by decide)
  rw [readMembers.eq_def]
  simp only [hcomma, h.skipSpace_eq]

theorem readMembers_last {first : Bool} :
    readMembers (fuel + 1) first ('\x7d' :: rest) = ([], some rest) := by
  have hbrace : skipSpace ('\x7d' :: rest) = '\x7d' :: rest := skipSpace_cons (by decide)
  rw [readMembers.eq_def]
  simp only [hbrace]

/-- The items of an array are read up to its bracket. -/
theorem readItems_listed {texts : List (List Char)} {items : List Json}
    (h : List.Forall₂ ReadsAs texts items) (hfuel : 3 * (listed texts).length + 3 ≤ fuel) :
    readItems fuel true (listed texts ++ ']' :: rest) = (items, some rest) := by
  obtain ⟨fuel, rfl⟩ : ∃ n, fuel = n + 1 := ⟨fuel - 1, by omega⟩
  cases h with
  | nil => exact readItems_last
  | @cons text item texts items hfirst hothers =>
    rw [readItems_first ((begins_listed hfirst.1 texts).append _)]
    refine read_listed (fun _ _ htold => htold.1) ?_ ?_ hfirst hothers (by omega)
    · intro text item fuel htold hlength
      have hitem : readValue (fuel + 1) (text ++ ']' :: rest) = (item, some (']' :: rest)) :=
        htold.2 hlength (by simp [Stops])
      rw [readItem, hitem]
      simp only [readItems_last]
    · intro text item fuel more items htold hlength hbegins hread
      have hitem : readValue (fuel + 1) (text ++ ',' :: more) = (item, some (',' :: more)) :=
        htold.2 hlength (by simp [Stops])
      rw [readItem, hitem]
      simp only [readItems_next hbegins, hread]

/-- A member is read as its key and what its value is read as. -/
theorem readMember_eq {cs : List Char} {member : String × Json} (h : ReadsAsMember cs member)
    (hfuel : 3 * cs.length ≤ fuel) (hrest : Stops rest) {members : List (String × Json)}
    {after : Option (List Char)} (hread : readMembers fuel false rest = (members, after)) :
    readMember (fuel + 1) (cs ++ rest) = (member :: members, after) := by
  obtain ⟨text, rfl, htext⟩ := h
  obtain ⟨key, item⟩ := member
  have hkey := readString_quote key (':' :: (text ++ rest))
  have hcolon : skipSpace (':' :: (text ++ rest)) = ':' :: (text ++ rest) :=
    skipSpace_cons (by decide)
  have hitem : readValue fuel (text ++ rest) = (item, some rest) := by
    refine htext.2 ?_ hrest
    rw [List.length_append, List.length_cons] at hfuel
    omega
  simp only [toList_quote, List.append_assoc, List.cons_append, List.nil_append]
  rw [readMember]
  simp only [hkey, hcolon, hitem, hread]

/-- The members of an object are read up to its brace. -/
theorem readMembers_listed {texts : List (List Char)} {members : List (String × Json)}
    (h : List.Forall₂ ReadsAsMember texts members) (hfuel : 3 * (listed texts).length + 3 ≤ fuel) :
    readMembers fuel true (listed texts ++ '\x7d' :: rest) = (members, some rest) := by
  obtain ⟨fuel, rfl⟩ : ∃ n, fuel = n + 1 := ⟨fuel - 1, by omega⟩
  have hbegins : ∀ text member, ReadsAsMember text member → Begins text := by
    rintro _ member ⟨text, rfl, -⟩
    exact ⟨'"', _, by rw [toList_quote, List.cons_append], by decide⟩
  cases h with
  | nil => exact readMembers_last
  | @cons text member texts members hfirst hothers =>
    rw [readMembers_first ((begins_listed (hbegins _ _ hfirst) texts).append _)]
    refine read_listed hbegins ?_ ?_ hfirst hothers (by omega)
    · intro text member fuel htold hlength
      exact readMember_eq htold hlength (by simp [Stops]) readMembers_last
    · intro text member fuel more members htold hlength hmore hread
      refine readMember_eq htold hlength (by simp [Stops]) ?_
      rw [readMembers_next hmore, hread]

end

theorem readsAs_array {texts : List (List Char)} {items : List Json}
    (h : List.Forall₂ ReadsAs texts items) :
    ReadsAs ('[' :: (listed texts ++ [']'])) (.array items) := by
  refine ⟨⟨'[', _, rfl, by decide⟩, fun fuel rest hfuel hrest => ?_⟩
  obtain ⟨fuel, rfl⟩ : ∃ n, fuel = n + 1 := ⟨fuel - 1, by rw [List.length_cons] at hfuel; omega⟩
  simp only [List.length_cons, List.length_append, List.length_nil] at hfuel
  have hitems : readItems fuel true (listed texts ++ ']' :: rest) = (items, some rest) :=
    readItems_listed h (by omega)
  simp only [List.cons_append, List.append_assoc, List.nil_append]
  rw [readValue, skipSpace_cons (by decide)]
  simp only [hitems]

theorem readsAs_object {texts : List (List Char)} {members : List (String × Json)}
    (h : List.Forall₂ ReadsAsMember texts members) :
    ReadsAs ('\x7b' :: (listed texts ++ ['\x7d'])) (.object members) := by
  refine ⟨⟨'\x7b', _, rfl, by decide⟩, fun fuel rest hfuel hrest => ?_⟩
  obtain ⟨fuel, rfl⟩ : ∃ n, fuel = n + 1 := ⟨fuel - 1, by rw [List.length_cons] at hfuel; omega⟩
  simp only [List.length_cons, List.length_append, List.length_nil] at hfuel
  have hmembers : readMembers fuel true (listed texts ++ '\x7d' :: rest) = (members, some rest) :=
    readMembers_listed h (by omega)
  simp only [List.cons_append, List.append_assoc, List.nil_append]
  rw [readValue, skipSpace_cons (by decide)]
  simp only [hmembers]

/-! ### Documents -/

/-- A document of at most `height` arrays and objects inside each other, with nothing in it that is
    not read as it is written. -/
inductive IsPlain : Nat → Json → Prop where
  | null {height : Nat} : IsPlain height .null
  | bool {height : Nat} (value : Bool) : IsPlain height (.bool value)
  | integer {height : Nat} {value : Int} (hlow : -Decimal.signedLimit ≤ value)
      (hhigh : value < Decimal.unsignedLimit) : IsPlain height (.integer value)
  | string {height : Nat} (text : String) : IsPlain height (.string text)
  | array {height : Nat} {items : List Json} (h : ∀ item ∈ items, IsPlain height item) :
      IsPlain (height + 1) (.array items)
  | object {height : Nat} {members : List (String × Json)}
      (h : ∀ m ∈ members, IsPlain height m.2) : IsPlain (height + 1) (.object members)

theorem begins_toString (value : Int) : Begins (toString value).toList := by
  cases value with
  | ofNat n =>
    obtain ⟨c, cs, hcs, hc⟩ := exists_toDigits_eq_cons n
    exact ⟨c, cs, by rw [toList_toString_ofNat, hcs], not_mem_of_isDigit hc rfl⟩
  | negSucc n => exact ⟨'-', _, toList_toString_negSucc n, by decide⟩

theorem readsAs_leaf {cs : List Char} {json : Json} (hbegins : Begins cs)
    (h : ∀ ⦃fuel : Nat⦄ ⦃rest : List Char⦄, 0 < fuel → Stops rest →
      readValue fuel (cs ++ rest) = (json, some rest)) : ReadsAs cs json := by
  refine ⟨hbegins, fun fuel rest hfuel hrest => h ?_ hrest⟩
  obtain ⟨c, cs, rfl, -⟩ := hbegins
  rw [List.length_cons] at hfuel
  omega

theorem toList_compact_array (items : List Json) :
    (compact (.array items)).toList =
      '[' :: (listed (items.map fun item => item.compact.toList) ++ [']']) := by
  have hitems : compactItems items = items.map compact := by
    induction items with
    | nil => rfl
    | cons item rest ih => rw [compactItems, ih, List.map_cons]
  simp [compact, hitems, listed, String.toList_intercalate, Function.comp_def]

theorem toList_compact_object (members : List (String × Json)) :
    (compact (.object members)).toList = '\x7b' :: (listed (members.map fun member =>
      (quote member.1).toList ++ ':' :: member.2.compact.toList) ++ ['\x7d']) := by
  have hmembers : compactMembers members =
      members.map fun member => quote member.1 ++ ":" ++ member.2.compact := by
    induction members with
    | nil => rfl
    | cons member rest ih => rw [compactMembers, ih, List.map_cons]
  simp [compact, hmembers, listed, String.toList_intercalate, Function.comp_def]

/-- A plain document is written on one line as a text that is read as it. -/
theorem IsPlain.readsAs {height : Nat} {json : Json} (h : IsPlain height json) :
    ReadsAs json.compact.toList json := by
  induction h with
  | null =>
    refine readsAs_leaf ⟨'n', _, rfl, by decide⟩ fun fuel rest hfuel _ => ?_
    exact readValue_of_leaf (by decide) rfl hfuel
  | bool value =>
    cases value
    · refine readsAs_leaf ⟨'f', _, rfl, by decide⟩ fun fuel rest hfuel _ => ?_
      exact readValue_of_leaf (by decide) rfl hfuel
    · refine readsAs_leaf ⟨'t', _, rfl, by decide⟩ fun fuel rest hfuel _ => ?_
      exact readValue_of_leaf (by decide) rfl hfuel
  | integer hlow hhigh =>
    exact readsAs_leaf (begins_toString _) fun fuel rest hfuel hrest =>
      readValue_integer hlow hhigh hfuel hrest
  | string text =>
    refine readsAs_leaf ?_ fun fuel rest hfuel _ => readValue_string text hfuel
    exact ⟨'"', _, toList_quote text, by decide⟩
  | @array height items _ ih =>
    rw [toList_compact_array]
    refine readsAs_array ?_
    rw [List.forall₂_map_left_iff, List.forall₂_same]
    exact ih
  | @object height members _ ih =>
    rw [toList_compact_object]
    refine readsAs_object ?_
    rw [List.forall₂_map_left_iff, List.forall₂_same]
    exact fun member hmember => ⟨_, rfl, ih member hmember⟩

/-- A plain document comes back from its text on one line. -/
theorem IsPlain.readText {height : Nat} {json : Json} (h : IsPlain height json) :
    readText json.compact = (json, false) := by
  have hread : readValue (3 * json.compact.toList.length + 3) (json.compact.toList ++ []) =
      (json, some []) := h.readsAs.2 (by omega) trivial
  rw [List.append_nil] at hread
  simp [Json.readText, hread, skipSpace]

theorem IsPlain.isMalformed {height : Nat} {json : Json} (h : IsPlain height json) :
    json.isMalformed = false := by
  induction h with
  | array _ ih => exact anyMalformed_eq_false ih
  | object _ ih => exact anyMemberMalformed_eq_false ih
  | _ => rfl

theorem IsPlain.word64 {height : Nat} (n : UInt64) : IsPlain height (.integer n.toNat) := by
  refine .integer ?_ (toNat_lt_unsignedLimit n)
  simp only [Decimal.signedLimit]
  omega

theorem IsPlain.array_map {α : Type} {write : α → Json} {height : Nat}
    (h : ∀ a, IsPlain height (write a)) (as : List α) :
    IsPlain (height + 1) (.array (as.map write)) :=
  .array (by simpa using fun a _ => h a)

/-- A plain object hides no fault, so it is read as a record just by its fields. -/
theorem IsPlain.record {α : Type} {type : String} {size height : Nat} {scope : Scope}
    {fields : Record → Reading α} {members : List (String × Json)} {value : α}
    (h : IsPlain height (.object members))
    (hfields : fields (.ofObject scope type size members) = .done value) :
    Decoder.record type size fields scope (.object members) = .ok value := by
  cases h with
  | object heach => exact Decoder.record_object hfields fun m hm => (heach m hm).isMalformed

theorem exists_settleMembers {depth : Nat} {members : List (String × Json)}
    (h : ∀ m ∈ members, ∃ settled, m.2.settle depth = .ok settled)
    (done : List (String × Json)) : ∃ sorted, settleMembers depth done members = .ok sorted := by
  induction members generalizing done with
  | nil => exact ⟨done, rfl⟩
  | cons member rest ih =>
    obtain ⟨key, item⟩ := member
    obtain ⟨other, hother⟩ : ∃ settled, item.settle depth = .ok settled := h (key, item) (by simp)
    obtain ⟨sorted, hsorted⟩ := ih (fun m hm => h m (by simp [hm])) (insertMember key other done)
    exact ⟨sorted, by rwa [settleMembers, hother]⟩

/-- A plain document can be settled wherever there is room for its height. -/
theorem IsPlain.exists_settle {height : Nat} {json : Json} (h : IsPlain height json) {depth : Nat}
    (hdepth : depth + height ≤ maxDepth) : ∃ settled, json.settle depth = .ok settled := by
  induction h generalizing depth with
  | @array height items _ ih =>
    have hroom : ¬ depth ≥ maxDepth := by omega
    have heach : ∀ item ∈ items, ∃ settled,
        (id item).settle (depth + 1) = .ok settled ∧ True := by
      intro item hitem
      obtain ⟨settled, hsettled⟩ := ih item hitem (show depth + 1 + height ≤ maxDepth by omega)
      exact ⟨settled, hsettled, trivial⟩
    obtain ⟨others, hothers, -⟩ := exists_settleItems heach
    rw [List.map_id] at hothers
    exact ⟨.array others, by rw [settle, if_neg hroom, hothers]; rfl⟩
  | @object height members _ ih =>
    have hroom : ¬ depth ≥ maxDepth := by omega
    have heach : ∀ m ∈ members, ∃ settled, m.2.settle (depth + 1) = .ok settled :=
      fun m hm => ih m hm (by omega)
    obtain ⟨sorted, hsorted⟩ := exists_settleMembers heach []
    exact ⟨.object sorted, by rw [settle, if_neg hroom, hsorted]; rfl⟩
  | _ => exact ⟨_, rfl⟩

end ReportDesk.Json
