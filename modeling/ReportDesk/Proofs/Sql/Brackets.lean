import ReportDesk.Proofs.Sql.Lexeme
import ReportDesk.Text.Pieces

/-! # Names up to the first closing bracket

    SQLite reads a name in brackets up to the first closing bracket, and nothing stands for a
    closing bracket in it. In all else that is written in a report statement it cuts a text like a
    server that takes a doubled bracket for one.

    So a text that such a server cuts into lexemes is cut into the same ones by SQLite if no name
    in it has a closing bracket. If some name has one, then the name ends too early, at the first
    half of a doubled bracket, and the other half begins no lexeme: the text is not cut at all.
-/

namespace ReportDesk.Sql.Lexeme

/-! ### Cutting -/

namespace Sqlite

/-- The lexeme at the front of a text that does not begin with a blank, and what follows it. A name
    in brackets ends at the first closing bracket. -/
def next? : List Char → Option (Lexeme × List Char)
  | '[' :: rest =>
    (Text.cutAt ']' rest).map fun (text, after) => (.name (String.ofList text), after)
  | cs => Lexeme.next? cs

/-- The lexemes of a text, blanks left out, or nothing when some piece of it is no lexeme. -/
def scan? : Nat → List Char → Option (List Lexeme)
  | 0, _ => none
  | _ + 1, [] => some []
  | fuel + 1, c :: rest =>
    if c = ' ' then scan? fuel rest
    else
      match next? (c :: rest) with
      | none => none
      | some (lexeme, after) => (scan? fuel after).map (lexeme :: ·)

/-- The lexemes of a statement's text. -/
def ofText? (text : String) : Option (List Lexeme) :=
  scan? (text.toList.length + 1) text.toList

example : ofText? "SELECT [a[b].[c] = ']'" =
    some [.word "SELECT", .name "a[b", .mark .dot, .name "c", .mark .eq, .string "]"] := by
  cbv

end Sqlite

/-! ### Names -/

/-- The name that a lexeme is, if it is one. -/
def name? : Lexeme → Option String
  | .name text => some text
  | _ => none

/-- The names among lexemes, in order. -/
def names (lexemes : List Lexeme) : List String :=
  lexemes.filterMap name?

theorem eq_of_name? {lexeme : Lexeme} {text : String} (h : name? lexeme = some text) :
    lexeme = .name text := by
  cases lexeme with
  | name text' =>
    cases h
    rfl
  | _ => cases h

theorem forall_mem_names_cons {P : String → Prop} {lexeme : Lexeme} {lexemes : List Lexeme} :
    (∀ name ∈ names (lexeme :: lexemes), P name) ↔
      (∀ name, name? lexeme = some name → P name) ∧ ∀ name ∈ names lexemes, P name := by
  simp only [names, List.mem_filterMap, List.mem_cons]
  constructor
  · intro h
    exact ⟨fun name hname => h name ⟨lexeme, .inl rfl, hname⟩,
      fun name ⟨other, hmem, hname⟩ => h name ⟨other, .inr hmem, hname⟩⟩
  · rintro ⟨hfirst, hrest⟩ name ⟨other, rfl | hmem, hname⟩
    · exact hfirst name hname
    · exact hrest name ⟨other, hmem, hname⟩

/-- Whether a name has no closing bracket in it. -/
def IsUnbracketed (name : String) : Prop :=
  ']' ∉ name.toList

instance (name : String) : Decidable (IsUnbracketed name) :=
  inferInstanceAs (Decidable (']' ∉ name.toList))

/-! ### Both ways to cut -/

/-- What is read with doubled closing marks is read up to the first one, too, if there is none in
    it. Else what is read up to the first one is followed by another. -/
theorem cutAt_of_untilClosing? {closing : Char} {cs text after : List Char}
    (h : Guard.Lexeme.untilClosing? closing cs = some (text, after)) :
    (closing ∉ text ∧ Text.cutAt closing cs = some (text, after)) ∨
      closing ∈ text ∧ ∃ front rest, Text.cutAt closing cs = some (front, closing :: rest) := by
  fun_induction Guard.Lexeme.untilClosing? closing cs generalizing text after with
  | case1 => cases h
  | case2 =>
    cases h
    simp [Text.cutAt]
  | case3 => cases h
  | case4 rest ih =>
    -- a doubled mark, of which the first half ends the cut
    obtain ⟨⟨tail, after'⟩, -, hpair⟩ := Option.map_eq_some_iff.mp h
    cases hpair
    exact .inr ⟨by simp, [], rest, by simp [Text.cutAt]⟩
  | case5 d rest hd =>
    cases h
    simp [Text.cutAt]
  | case6 c d rest hc ih =>
    obtain ⟨⟨tail, after'⟩, htail, hpair⟩ := Option.map_eq_some_iff.mp h
    cases hpair
    have hne : closing ≠ c := Ne.symm hc
    rw [Text.cutAt, if_neg hc]
    rcases ih htail with ⟨hnot, hcut⟩ | ⟨hmem, front, more, hcut⟩
    · simp [hcut, hne, hnot]
    · simp [hcut, hmem]

/-- Only a bracket opens a name. -/
theorem name?_of_next? {c : Char} {rest after : List Char} {lexeme : Lexeme} (hc : c ≠ '[')
    (h : next? (c :: rest) = some (lexeme, after)) : name? lexeme = none := by
  simp only [next?, if_neg hc] at h
  split_ifs at h with hquote hletter hdigit hminus
  · obtain ⟨⟨text, after'⟩, -, hpair⟩ := Option.map_eq_some_iff.mp h
    cases hpair
    rfl
  · cases h
    rfl
  · cases h
    rfl
  · cases h
    rfl
  · obtain ⟨⟨mark, after'⟩, -, hpair⟩ := Option.map_eq_some_iff.mp h
    cases hpair
    rfl

namespace Sqlite

/-- A lexeme that is no name with a closing bracket in it is found in both ways. -/
theorem next?_of_unbracketed {cs after : List Char} {lexeme : Lexeme}
    (h : Lexeme.next? cs = some (lexeme, after))
    (hlexeme : ∀ name, name? lexeme = some name → IsUnbracketed name) :
    next? cs = some (lexeme, after) := by
  cases cs with
  | nil => cases h
  | cons c rest =>
    by_cases hc : c = '['
    · subst hc
      obtain ⟨⟨text, after'⟩, htext, hpair⟩ := Option.map_eq_some_iff.mp h
      cases hpair
      have hnot : ']' ∉ text := by simpa [IsUnbracketed] using hlexeme _ rfl
      rcases cutAt_of_untilClosing? htext with ⟨-, hcut⟩ | ⟨hmem, -⟩
      · simp [next?, hcut]
      · exact absurd hmem hnot
    · rw [← h, next?]
      simp [hc]

/-- A name with a closing bracket in it ends too early. -/
theorem next?_of_bracketed {cs after : List Char} {name : String}
    (h : Lexeme.next? cs = some (.name name, after)) (hname : ¬ IsUnbracketed name) :
    ∃ early rest, next? cs = some (early, ']' :: rest) := by
  cases cs with
  | nil => cases h
  | cons c rest =>
    by_cases hc : c = '['
    · subst hc
      obtain ⟨⟨text, after'⟩, htext, hpair⟩ := Option.map_eq_some_iff.mp h
      cases hpair
      have hmem : ']' ∈ text := by simpa [IsUnbracketed] using hname
      rcases cutAt_of_untilClosing? htext with ⟨hnot, -⟩ | ⟨-, front, more, hcut⟩
      · exact absurd hmem hnot
      · exact ⟨.name (String.ofList front), more, by simp [next?, hcut]⟩
    · cases name?_of_next? hc h

/-- A closing bracket begins no lexeme. -/
theorem scan?_closing (fuel : Nat) (rest : List Char) : scan? fuel (']' :: rest) = none := by
  cases fuel with
  | zero => rfl
  | succ fuel => rfl

/-- What a server that undoes doubled brackets cuts into lexemes is cut into the same ones, or, if a
    name among them has a closing bracket, not at all. -/
theorem scan?_of_scan? {fuel : Nat} {cs : List Char} {lexemes : List Lexeme}
    (h : Lexeme.scan? fuel cs = some lexemes) :
    scan? fuel cs = if ∀ name ∈ names lexemes, IsUnbracketed name then some lexemes else none := by
  induction fuel generalizing cs lexemes with
  | zero => cases h
  | succ fuel ih =>
    cases cs with
    | nil =>
      cases h
      simp [scan?, names]
    | cons c rest =>
      rw [Lexeme.scan?] at h
      rw [scan?]
      split at h
      · next hblank => rw [if_pos hblank, ih h]
      · next hblank =>
        rw [if_neg hblank]
        split at h
        · cases h
        · next lexeme after hnext =>
          obtain ⟨others, hothers, rfl⟩ := Option.map_eq_some_iff.mp h
          have hrest := ih hothers
          simp only [forall_mem_names_cons]
          by_cases hlexeme : ∀ name, name? lexeme = some name → IsUnbracketed name
          · simp only [next?_of_unbracketed hnext hlexeme, hrest, and_iff_right hlexeme]
            split <;> rfl
          · -- what is left begins with the other half of a doubled bracket
            obtain ⟨name, hname, hbracket⟩ : ∃ name, name? lexeme = some name ∧
                ¬ IsUnbracketed name := by simpa using hlexeme
            obtain rfl : lexeme = .name name := eq_of_name? hname
            obtain ⟨early, more, hearly⟩ := next?_of_bracketed hnext hbracket
            rw [hearly, if_neg fun hall => hlexeme hall.1]
            simp [scan?_closing]

end Sqlite

end ReportDesk.Sql.Lexeme
