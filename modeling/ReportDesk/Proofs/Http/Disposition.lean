import Mathlib
import ReportDesk.Http.Message
import ReportDesk.Proofs.Text.Trimming

/-! # File names in headers

    A response says in a header under which name its document is to be kept, and the name stands
    there between double quotes. Whoever reads it goes on to the first double quote that no
    backslash stands before, so the name must have neither; and no header can have a control
    character other than a tab.

    Of these the first is seen to: the name is read back whole, with other characters for its double
    quotes and backslashes. The second is not: what is written is a header just when the name of the
    file has no control character, and that depends on the name that was asked for.
-/

namespace ReportDesk

namespace Http

/-! ### Control characters -/

/-- Whether a character is a control character of ASCII other than the tab. -/
def IsControl (c : Char) : Prop :=
  (c.toNat < 32 ∧ c ≠ '\t') ∨ c.toNat = 127

instance : DecidablePred IsControl :=
  fun _ => inferInstanceAs (Decidable (_ ∨ _))

/-- Whether a text has a control character of ASCII other than the tab. -/
def HasControl (text : String) : Prop :=
  ∃ c ∈ text.toList, IsControl c

instance (text : String) : Decidable (HasControl text) :=
  inferInstanceAs (Decidable (∃ c ∈ text.toList, IsControl c))

theorem eq_tab_iff {c : Char} : c = '\t' ↔ c.toNat = 9 :=
  Char.toNat_inj.symm

theorem isControl_iff {c : Char} :
    IsControl c ↔ (c.toNat < 32 ∧ c.toNat ≠ 9) ∨ c.toNat = 127 := by
  rw [IsControl, ne_eq, eq_tab_iff]

@[simp]
theorem hasControl_append (a b : String) :
    HasControl (a ++ b) ↔ HasControl a ∨ HasControl b := by
  simp [HasControl, or_and_right, exists_or]

/-! ### Headers -/

/-- Whether a byte can stand in a header. -/
def IsHeaderByte (b : UInt8) : Prop :=
  b.toNat = 9 ∨ (32 ≤ b.toNat ∧ b.toNat ≠ 127)

/-- Whether a text can be a header. -/
def IsHeaderValue (text : String) : Prop :=
  ∀ b ∈ text.toUTF8.data, IsHeaderByte b

theorem isHeaderByte_of_le {n : Nat} (hlow : 128 ≤ n) (hhigh : n < 256) :
    IsHeaderByte (UInt8.ofNat n) := by
  have hn : (UInt8.ofNat n).toNat = n := UInt8.toNat_ofNat_of_lt' hhigh
  refine .inr ⟨?_, ?_⟩ <;> omega

/-- The bytes of a character can stand in a header unless it is a control character. The bytes of a
    character that is not of ASCII are all from 128 on. -/
theorem isHeaderByte_utf8EncodeChar_iff (c : Char) :
    (∀ b ∈ String.utf8EncodeChar c, IsHeaderByte b) ↔ ¬ IsControl c := by
  have hbeyond : 127 < c.toNat → ¬ IsControl c := by
    rw [isControl_iff]
    omega
  fun_cases String.utf8EncodeChar c with
  | case1 v h =>
    have hlow : c.toNat ≤ 127 := h
    have hv : (UInt8.ofNat v).toNat = c.toNat :=
      UInt8.toNat_ofNat_of_lt' (Nat.lt_of_le_of_lt hlow (by decide))
    rw [List.forall_mem_singleton, IsHeaderByte, hv, isControl_iff]
    omega
  | case2 v h h' =>
    simp only [List.forall_mem_cons]
    refine iff_of_true ⟨?_, ?_, by simp⟩ (hbeyond (Nat.lt_of_not_le h)) <;>
      exact isHeaderByte_of_le (by omega) (by omega)
  | case3 v h h' h'' =>
    simp only [List.forall_mem_cons]
    refine iff_of_true ⟨?_, ?_, ?_, by simp⟩ (hbeyond (Nat.lt_of_not_le h)) <;>
      exact isHeaderByte_of_le (by omega) (by omega)
  | case4 v h h' h'' =>
    simp only [List.forall_mem_cons]
    refine iff_of_true ⟨?_, ?_, ?_, ?_, by simp⟩ (hbeyond (Nat.lt_of_not_le h)) <;>
      exact isHeaderByte_of_le (by omega) (by omega)

/-- A text can be a header unless it has a control character. -/
theorem isHeaderValue_iff (text : String) : IsHeaderValue text ↔ ¬ HasControl text := by
  have hbytes : text.toUTF8.data = (text.toList.flatMap String.utf8EncodeChar).toArray := by
    rw [String.toUTF8_eq_toByteArray, ← String.utf8Encode_toList, List.utf8Encode,
      List.data_toByteArray]
  simp only [IsHeaderValue, hbytes, List.mem_toArray, List.mem_flatMap, HasControl, not_exists,
    not_and]
  constructor
  · intro h c hc
    exact (isHeaderByte_utf8EncodeChar_iff c).mp fun b hb => h b ⟨c, hc, hb⟩
  · rintro h b ⟨c, hc, hb⟩
    exact (isHeaderByte_utf8EncodeChar_iff c).mpr (h c hc) b hb

namespace Response

theorem isHeaderChar_iff (c : Char) : isHeaderChar c = true ↔ ¬ IsControl c := by
  simp only [isHeaderChar, isControl_iff, Bool.or_eq_true, beq_iff_eq, Bool.and_eq_true,
    decide_eq_true_eq, bne_iff_ne, eq_tab_iff]
  omega

theorem all_isHeaderChar_iff (text : String) :
    text.toList.all isHeaderChar = true ↔ ¬ HasControl text := by
  simp [HasControl, isHeaderChar_iff]

/-- Only double quotes and backslashes are replaced, so no control character goes or comes. -/
theorem hasControl_quotedName (name : String) : HasControl (quotedName name) ↔ HasControl name := by
  have hsame : ∀ c : Char,
      IsControl (if c == '"' || c == '\\' then '_' else c) ↔ IsControl c := by
    intro c
    split
    · next h =>
      have hc : c = '"' ∨ c = '\\' := by simpa using h
      rcases hc with rfl | rfl <;> decide
    · rfl
  simp only [HasControl, quotedName, String.toList_map, List.mem_map, exists_exists_and_eq_and,
    hsame]

theorem not_mem_quotedName (name : String) :
    '"' ∉ (quotedName name).toList ∧ '\\' ∉ (quotedName name).toList := by
  simp only [quotedName, String.toList_map, List.mem_map, not_exists, not_and]
  constructor <;>
  · intro c _
    split <;> simp_all

/-- The header of a document has a control character just when the name of the file has one. -/
theorem hasControl_dispositionOf (document : Export.Document) :
    HasControl (dispositionOf document) ↔ HasControl document.fileName := by
  have hfront : ¬ HasControl dispositionFront := (all_isHeaderChar_iff _).mp (by decide)
  have hback : ¬ HasControl "\"" := (all_isHeaderChar_iff _).mp (by decide)
  simp only [dispositionOf, hasControl_append, hasControl_quotedName, hfront, hback, false_or,
    or_false]

end Response

/-! ### Names between quotes -/

/-- What a text between double quotes says, read from behind the first of them: a backslash stands
    before a character that is meant, and nothing may follow the double quote that ends it. -/
def unquote? : List Char → Option (List Char)
  | [] => none
  | '"' :: rest => if rest.isEmpty then some [] else none
  | '\\' :: c :: rest => (unquote? rest).map (c :: ·)
  | c :: rest => (unquote? rest).map (c :: ·)

/-- The name under which a header says that a document is to be kept. -/
def nameIn? (disposition : String) : Option String := do
  let quoted ← Text.after? Response.dispositionFront.toList disposition.toList
  return String.ofList (← unquote? quoted)

theorem unquote?_append_quote {cs : List Char} (hquote : '"' ∉ cs) (hslash : '\\' ∉ cs) :
    unquote? (cs ++ ['"']) = some cs := by
  induction cs with
  | nil => rfl
  | cons c cs ih =>
    rw [List.mem_cons, not_or] at hquote hslash
    rw [List.cons_append, unquote?, ih hquote.2 hslash.2]
    · rfl
    · exact fun h => hquote.1 h.symm
    · exact fun d rest' h _ => hslash.1 h.symm

/-- The name of a file is read back up to the last double quote of its header. -/
theorem nameIn?_dispositionOf (document : Export.Document) :
    nameIn? (Response.dispositionOf document) = some (Response.quotedName document.fileName) := by
  obtain ⟨hquote, hslash⟩ := Response.not_mem_quotedName document.fileName
  have hwritten : (Response.dispositionOf document).toList =
      Response.dispositionFront.toList ++
        ((Response.quotedName document.fileName).toList ++ ['"']) := by
    have hend : "\"".toList = ['"'] := by decide
    rw [Response.dispositionOf, String.toList_append, String.toList_append, List.append_assoc, hend]
  rw [nameIn?, hwritten, Text.after?_append, Option.bind_eq_bind, Option.bind_some,
    unquote?_append_quote hquote hslash]
  exact congrArg some String.ofList_toList

/-! ### Names that are asked for -/

/-- The name that a document is to have, without blanks around it: the one that is given, or the
    time if none is given or nothing is left of it. -/
def wantedName (given : Option String) (stamp : String) : String :=
  ((given.map Text.trim).filter fun name => !name.isEmpty).getD stamp

/-- The name of a file has a control character just when the name that it is made from has one. -/
theorem hasControl_fileName (format : Export.Format) (given : Option String) (stamp : String) :
    HasControl (format.fileName given stamp) ↔ HasControl (wantedName given stamp) := by
  have hplain : ∀ text : String, text.toList.all Response.isHeaderChar = true →
      ¬ HasControl text := fun text => (Response.all_isHeaderChar_iff text).mp
  have hreport : ¬ HasControl "Report_" := hplain _ (by decide)
  have hdot : ¬ HasControl "." := hplain _ (by decide)
  have hextension : ¬ HasControl format.extension := hplain _ (by cases format <;> decide)
  unfold Export.Format.fileName wantedName
  cases (given.map Text.trim).filter fun name => !name.isEmpty with
  | none => simp [hreport, hdot, hextension]
  | some name =>
    dsimp only [Option.getD_some]
    split <;> simp [hdot, hextension]

end Http

end ReportDesk
