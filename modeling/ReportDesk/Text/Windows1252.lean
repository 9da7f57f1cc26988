/-! # The character set Windows-1252

    The characters that the standard fonts of a page can show. A text is shown by dropping all
    others.
-/

namespace ReportDesk.Text

/-- The characters at the codes 0x80 to 0x9F. -/
def windows1252Specials : List Char :=
  ['€', '‚', 'ƒ', '„', '…', '†', '‡', 'ˆ', '‰', 'Š', '‹', 'Œ', 'Ž', '‘', '’', '“', '”', '•', '–',
   '—', '˜', '™', 'š', '›', 'œ', 'ž', 'Ÿ']

/-- Whether a character can be shown. -/
def isWindows1252 (c : Char) : Bool :=
  (0x20 ≤ c.toNat && c.toNat ≤ 0x7E) || (0xA0 ≤ c.toNat && c.toNat ≤ 0xFF) ||
    windows1252Specials.contains c

/-- A text without the characters that cannot be shown. -/
def toWindows1252 (s : String) : String :=
  String.ofList (s.toList.filter isWindows1252)

end ReportDesk.Text
