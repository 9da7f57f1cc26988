import ReportDesk.Text.Pieces

/-! # Paths

    A path is cut at its slashes. In a segment a percent sign with two hexadecimal digits stands for
    a byte; all else stands for itself. The bytes of a segment have to make a text.
-/

namespace ReportDesk.Http

/-- The value of a hexadecimal digit. -/
def hexValue? (c : Char) : Option Nat :=
  if c.isDigit then some (c.toNat - '0'.toNat)
  else if 'a' ≤ c && c ≤ 'f' then some (c.toNat - 'a'.toNat + 10)
  else if 'A' ≤ c && c ≤ 'F' then some (c.toNat - 'A'.toNat + 10)
  else none

/-- The bytes of a character. -/
def bytesOfChar (c : Char) : List UInt8 :=
  (String.singleton c).toUTF8.toList

/-- The bytes that a segment stands for. -/
def segmentBytes : List Char → List UInt8
  | '%' :: a :: b :: rest =>
    match hexValue? a, hexValue? b with
    | some high, some low => UInt8.ofNat (high * 16 + low) :: segmentBytes rest
    | _, _ => bytesOfChar '%' ++ segmentBytes (a :: b :: rest)
  | c :: rest => bytesOfChar c ++ segmentBytes rest
  | [] => []

/-- The text that a segment stands for, if its bytes make one. -/
def decodeSegment? (segment : String) : Option String :=
  String.fromUTF8? (ByteArray.mk (segmentBytes segment.toList).toArray)

/-- The segments of a path, without what follows a question mark. -/
def segments (path : String) : List String :=
  let cs := path.toList.takeWhile fun c => c != '?'
  (Text.pieces '/' cs).map String.ofList

end ReportDesk.Http
