/-! # Media types

    A media type is written as two tokens with a slash between and parameters after semicolons. A
    body is taken for JSON if its type is `application/json` or ends in `+json`.
-/

namespace ReportDesk.Http

/-- A media type, in lower case and without its parameters. -/
structure MediaType where
  /-- What stands before the slash. -/
  type : String
  /-- What stands after it, up to the suffix. -/
  subtype : String
  /-- What stands after the last plus sign, if there is one. -/
  suffix : Option String
  deriving DecidableEq, Repr

namespace MediaType

/-- Whether a token can have a character. -/
def isTokenChar (c : Char) : Bool :=
  c.isAlphanum || "!#$%&'*+-.^_\x60|~".toList.contains c

/-- Whether a quoted value can have a character. -/
def isQuotedChar (c : Char) : Bool :=
  c.toNat > 31 && c.toNat < 127

/-- Whether what follows the first semicolon are parameters: names and values with an equals sign
    between, a value being a token or quoted, a parameter after a blank or none. -/
def areParameters : Nat → List Char → Bool
  | 0, _ => false
  | fuel + 1, cs =>
    match cs.dropWhile (· == ' ') with
    | [] => true
    | body =>
      let name := body.takeWhile isTokenChar
      if name.isEmpty then false
      else
        match body.dropWhile isTokenChar with
        | '=' :: '"' :: value =>
          let inner := value.takeWhile fun c => isQuotedChar c && c != '"'
          if inner.isEmpty then false
          else
            match value.drop inner.length with
            | '"' :: after =>
              match after.dropWhile (· == ' ') with
              | [] => true
              | ';' :: rest => areParameters fuel rest
              | _ => false
            | _ => false
        | '=' :: value =>
          match value.dropWhile isTokenChar with
          | [] => true
          | ';' :: rest => !(value.takeWhile isTokenChar).isEmpty && areParameters fuel rest
          | _ => false
        | _ => false

/-- A subtype and its suffix. A plus sign at the beginning makes no suffix. -/
def splitSuffix (cs : List Char) : String × Option String :=
  let suffix := (cs.reverse.takeWhile (· != '+')).reverse
  let front := cs.take (cs.length - suffix.length - 1)
  if suffix.length + 1 < cs.length then (String.ofList front, some (String.ofList suffix))
  else (String.ofList cs, none)

/-- The media type that a text is, if it is one. -/
def parse? (text : String) : Option MediaType :=
  let cs := text.toList.map Char.toLower
  let type := cs.takeWhile isTokenChar
  match cs.dropWhile isTokenChar with
  | '/' :: rest =>
    let (subtype, suffix) := splitSuffix (rest.takeWhile isTokenChar)
    let found : MediaType := { type := String.ofList type, subtype := subtype, suffix := suffix }
    match rest.dropWhile isTokenChar with
    | [] => if type.isEmpty then none else some found
    | ';' :: parameters =>
      if type.isEmpty || subtype.isEmpty || !areParameters (text.length + 1) parameters then none
      else some found
    | _ => none
  | _ => none

/-- Whether a body of this type is JSON. -/
def isJson (media : MediaType) : Bool :=
  media.type == "application" && (media.subtype == "json" || media.suffix == some "json")

end MediaType

end ReportDesk.Http
