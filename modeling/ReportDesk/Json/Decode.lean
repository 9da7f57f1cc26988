import ReportDesk.Decimal.Words
import ReportDesk.Json.Printer
import ReportDesk.Json.Reader

/-! # Typed values from JSON documents

    A decoder turns a document into a value of a type, or says what is wrong first, in the order in
    which the document is read. The parts of a record are decoded on their own; a `Reading` keeps
    beside a failure where in the document it arose, and of two failures the earlier one counts.
-/

namespace ReportDesk.Json

/-! ### Failures -/

/-- What a value is, told to someone who expected something else. -/
inductive Found where
  | null
  | bool (value : Bool)
  | integer (value : Int)
  | float (value : Float)
  | string (text : String)
  | sequence
  | map

/-- A found value in words. -/
def Found.text : Found → String
  | .null => "null"
  | .bool b => "boolean `" ++ (if b then "true" else "false") ++ "`"
  | .integer n => "integer `" ++ toString n ++ "`"
  | .float x => "floating point `" ++ Decimal.Layout.json.text x ++ "`"
  | .string s => "string " ++ quote s
  | .sequence => "sequence"
  | .map => "map"

/-- Why a document does not decode. -/
inductive Cause where
  /-- The text is at fault, not the shape of what it says. -/
  | fault (fault : Fault)
  /-- A value of another type. -/
  | wrongType (found : Found) (expected : String)
  /-- A value of the right type that is not allowed. -/
  | wrongValue (found : Found) (expected : String)
  /-- An array with too few or too many elements. -/
  | wrongLength (length : Nat) (expected : String)
  /-- A field that must be given and is not. -/
  | missingField (name : String)
  /-- A field that is given twice. -/
  | duplicateField (name : String)
  /-- A name that is none of those allowed. -/
  | unknownVariant (name : String) (allowed : List String)
  /-- A value that its type does not accept, in that type's words. -/
  | refused (message : String)

/-- A fault in words. -/
def Fault.message : Fault → String
  | .malformed => "malformed text"
  | .tooDeep => "recursion limit exceeded"
  | .numberOutOfRange => "number out of range"
  | .loneSurrogate => "lone leading surrogate in hex escape"
  | .surplusElement => "trailing characters"
  | .noName => "expected value"

/-- The names that are allowed, in words. -/
def oneOfText : List String → String
  | [] => "there are no variants"
  | [a] => "expected `" ++ a ++ "`"
  | [a, b] => "expected `" ++ a ++ "` or `" ++ b ++ "`"
  | names => "expected one of " ++ ", ".intercalate (names.map fun name => "`" ++ name ++ "`")

/-- A cause in words. -/
def Cause.message : Cause → String
  | .fault f => f.message
  | .wrongType found expected => "invalid type: " ++ found.text ++ ", expected " ++ expected
  | .wrongValue found expected => "invalid value: " ++ found.text ++ ", expected " ++ expected
  | .wrongLength n expected => "invalid length " ++ toString n ++ ", expected " ++ expected
  | .missingField name => "missing field `" ++ name ++ "`"
  | .duplicateField name => "duplicate field `" ++ name ++ "`"
  | .unknownVariant name [] => "unknown variant `" ++ name ++ "`, there are no variants"
  | .unknownVariant name allowed => "unknown variant `" ++ name ++ "`, " ++ oneOfText allowed
  | .refused message => message

/-- A step from a document to a part of it. -/
inductive Step where
  /-- To the value of a key. -/
  | key (name : String)
  /-- To an element of an array. -/
  | index (i : Nat)

/-- Why a document does not decode, and at which part. -/
structure Failure where
  /-- The way to the part, from the root. -/
  path : List Step := []
  /-- What is wrong there. -/
  cause : Cause

/-- A path in words: keys with dots between, indices in brackets. -/
def pathText : List Step → String
  | [] => ""
  | .key name :: rest =>
    name ++ (match rest with | .key _ :: _ => "." | _ => "") ++ pathText rest
  | .index i :: rest =>
    "[" ++ toString i ++ "]" ++ (match rest with | .key _ :: _ => "." | _ => "") ++ pathText rest

/-- A failure in words, after the path to it. -/
def Failure.located (failure : Failure) : String :=
  match failure.path with
  | [] => failure.cause.message
  | path => pathText path ++ ": " ++ failure.cause.message

/-- A failure of the part that a step leads to, seen from the whole. -/
def Failure.below (step : Step) (failure : Failure) : Failure :=
  { failure with path := step :: failure.path }

/-! ### Decoders -/

/-- Where a document comes from. From a text it is decoded while it is read, and an element too
    many or a wrong start of a name counts as a fault of the text. -/
inductive Origin where
  | text
  | value
  deriving DecidableEq

/-- What a decoder knows of the surroundings of its document. -/
structure Scope where
  /-- Where the document comes from. -/
  origin : Origin
  /-- How many arrays and objects it lies in. -/
  depth : Nat := 0

/-- The surroundings of an element or a member. -/
def Scope.inside (scope : Scope) : Scope :=
  { scope with depth := scope.depth + 1 }

/-- A way to read a value of a type from a document. -/
abbrev Decoder (α : Type) :=
  Scope → Json → Except Failure α

/-- A failure at the document itself. -/
def fail {α : Type} (cause : Cause) : Except Failure α :=
  .error { cause := cause }

/-- The failure of a document that is not of the expected type. -/
def unexpected {α : Type} (json : Json) (expected : String) : Except Failure α :=
  match json with
  | .null => fail (.wrongType .null expected)
  | .bool b => fail (.wrongType (.bool b) expected)
  | .integer n => fail (.wrongType (.integer n) expected)
  | .float x => fail (.wrongType (.float x) expected)
  | .string s => fail (.wrongType (.string s) expected)
  | .array _ => fail (.wrongType .sequence expected)
  | .object _ => fail (.wrongType .map expected)
  | .broken fault => fail (.fault fault)

namespace Decoder

/-- Any value, its objects sorted. -/
def untyped : Decoder Json := fun scope json =>
  match json.settle scope.depth with
  | .ok value => .ok value
  | .error fault => fail (.fault fault)

/-- A string. -/
def string : Decoder String := fun _ json =>
  match json with
  | .string s => .ok s
  | _ => unexpected json "a string"

/-- A truth value. -/
def boolean : Decoder Bool := fun _ json =>
  match json with
  | .bool b => .ok b
  | _ => unexpected json "a boolean"

/-- An integer from `low` up to below `high`, called by the name of its type. -/
def integer (low high : Int) (type : String) : Decoder Int := fun _ json =>
  match json with
  | .integer n => if low ≤ n && n < high then .ok n else fail (.wrongValue (.integer n) type)
  | _ => unexpected json type

/-- An unsigned integer of 64 bits. -/
def word64 : Decoder UInt64 := fun scope json =>
  (integer 0 Decimal.unsignedLimit "u64" scope json).map fun n => n.toNat.toUInt64

/-- Nothing for null, else a value. -/
def nullable {α : Type} (decoder : Decoder α) : Decoder (Option α) := fun scope json =>
  match json with
  | .null => .ok none
  | _ => (decoder scope json).map some

/-- The elements of an array from index `i` on. -/
def elements {α : Type} (decoder : Decoder α) (scope : Scope) (i : Nat) :
    List Json → Except Failure (List α)
  | [] => .ok []
  | item :: rest =>
    match decoder scope item with
    | .error failure => .error (failure.below (.index i))
    | .ok value => (elements decoder scope (i + 1) rest).map (value :: ·)

/-- A list. -/
def list {α : Type} (decoder : Decoder α) : Decoder (List α) := fun scope json =>
  match json with
  | .array items => elements decoder scope.inside 0 items
  | _ => unexpected json "a sequence"

/-- The values of an object's members, in order. -/
def memberValues {α : Type} (decoder : Decoder α) (scope : Scope) :
    List (String × Json) → Except Failure (List (String × α))
  | [] => .ok []
  | (key, item) :: rest =>
    match decoder scope item with
    | .error failure => .error (failure.below (.key key))
    | .ok value => (memberValues decoder scope rest).map ((key, value) :: ·)

/-- The members of an object, in order and with repeats. -/
def members {α : Type} (decoder : Decoder α) : Decoder (List (String × α)) := fun scope json =>
  match json with
  | .object ms => memberValues decoder scope.inside ms
  | _ => unexpected json "a map"

/-- One of several named values. Each has one or more names, the one it is written with and others
    that are read; `expected` lists them all in the order in which they are told. -/
def variant {α : Type} (names : List (String × α)) : Decoder α := fun scope json =>
  let named (name : String) : Except Failure α :=
    match names.lookup name with
    | some value => .ok value
    | none => fail (.unknownVariant name (names.map (·.1)))
  let noContent (name : String) (item : Json) (value : α) : Except Failure α :=
    match item with
    | .null => .ok value
    | _ => (unexpected item "unit").mapError (Failure.below (.key name))
  match scope.origin, json with
  | _, .string s => named s
  | _, .broken fault => fail (.fault fault)
  | _, .object [(name, item)] => do noContent name item (← named name)
  | .value, .object _ => fail (.wrongValue .map "map with a single key")
  | .value, _ => unexpected json "string or map"
  | .text, .object ((name, item) :: _) => do
    let _ ← noContent name item (← named name)
    fail (.fault .noName)
  | .text, _ => fail (.fault .noName)

end Decoder

/-! ### Records -/

/-- The outcome of decoding a part of a record, a failure together with its place. -/
inductive Reading (α : Type) where
  | done (value : α)
  | failed (place : Nat) (failure : Failure)

namespace Reading

/-- The value after a further function. -/
def map {α β : Type} (f : α → β) : Reading α → Reading β
  | done value => done (f value)
  | failed place failure => failed place failure

/-- A function and its argument; of two failures the one with the smaller place. -/
def apply {α β : Type} : Reading (α → β) → Reading α → Reading β
  | done f, done value => done (f value)
  | done _, failed place failure => failed place failure
  | failed place failure, done _ => failed place failure
  | failed place failure, failed place' failure' =>
    if place' < place then failed place' failure' else failed place failure

instance : Applicative Reading where
  pure := done
  seq f x := apply f (x ())

/-- Forgets the place. -/
def toExcept {α : Type} : Reading α → Except Failure α
  | done value => .ok value
  | failed _ failure => .error failure

end Reading

/-- The parts of a record as a document gives them: by key, or in their order. -/
inductive Parts where
  | byKey (members : List (String × Json))
  | inOrder (items : List Json)

/-- A document that is read as a record. -/
structure Record where
  /-- The surroundings of the parts. -/
  scope : Scope
  /-- What the record is called. -/
  type : String
  /-- How many fields it has. -/
  size : Nat
  /-- Its parts. -/
  parts : Parts

namespace Record

/-- The members that give a field by one of its names, each with its place. -/
def occurrences (names : List String) : Nat → List (String × Json) → List (Nat × String × Json)
  | _, [] => []
  | place, (key, item) :: rest =>
    if names.contains key then (place, key, item) :: occurrences names (place + 1) rest
    else occurrences names (place + 1) rest

/-- The field number `i` of a record, which goes by `names`, the first being its own. `noKey` and
    `noElement` are its values when it is not given by key or in order, if it may be left out. -/
def field {α : Type} (record : Record) (i : Nat) (names : List String) (decoder : Decoder α)
    (noKey noElement : Option α) : Reading α :=
  let own := names.headD ""
  let decode (place : Nat) (step : Step) (item : Json) : Reading α :=
    match decoder record.scope item with
    | .ok value => .done value
    | .error failure => .failed place (failure.below step)
  match record.parts with
  | .byKey members =>
    match occurrences names 0 members with
    | [] =>
      match noKey with
      | some value => .done value
      | none => .failed (members.length + i) { cause := .missingField own }
    | [(place, key, item)] => decode place (.key key) item
    | (place, key, item) :: (again, _, _) :: _ =>
      match decode place (.key key) item with
      | .done _ => .failed again { cause := .duplicateField own }
      | failed => failed
  | .inOrder items =>
    match items[i]?, noElement with
    | some item, _ => decode i (.index i) item
    | none, some value => .done value
    | none, none =>
      let elements := if record.size = 1 then " element" else " elements"
      .failed i
        { cause := .wrongLength i
            ("struct " ++ record.type ++ " with " ++ toString record.size ++ elements) }

/-- A field that must be given. -/
def required {α : Type} (record : Record) (i : Nat) (names : List String) (decoder : Decoder α) :
    Reading α :=
  record.field i names decoder none none

/-- A field with a value for when it is not given. -/
def orElse {α : Type} (record : Record) (i : Nat) (names : List String) (decoder : Decoder α)
    (absent : α) : Reading α :=
  record.field i names decoder (some absent) (some absent)

/-- A field that may be null or left out. -/
def optional {α : Type} (record : Record) (i : Nat) (names : List String) (decoder : Decoder α) :
    Reading (Option α) :=
  record.field i names (Decoder.nullable decoder) (some none) (some none)

/-- A field that may be null, and whose key may be left out, but that has its place in an array. -/
def orNull {α : Type} (record : Record) (i : Nat) (names : List String) (decoder : Decoder α) :
    Reading (Option α) :=
  record.field i names (Decoder.nullable decoder) (some none) none

/-- A fault in a member that no field asks for, at its place. -/
def faultIn : Nat → List (String × Json) → Reading Unit
  | _, [] => .done ()
  | place, (key, item) :: rest =>
    if item.isMalformed then .failed place ({ cause := .fault .malformed : Failure }.below (.key key))
    else faultIn (place + 1) rest

/-- What is wrong with a record besides its fields: a text that breaks off in a member, or more
    elements than fields. -/
def surplus (record : Record) : Reading Unit :=
  match record.parts with
  | .byKey members => faultIn 0 members
  | .inOrder items =>
    if items.length ≤ record.size then .done ()
    else
      match record.scope.origin with
      | .text => .failed record.size { cause := .fault .surplusElement }
      | .value =>
        .failed record.size { cause := .wrongLength items.length "fewer elements in array" }

end Record

/-- A record of `size` fields, from an object by key or from an array in order. -/
def Decoder.record {α : Type} (type : String) (size : Nat) (fields : Record → Reading α) :
    Decoder α := fun scope json =>
  let read (parts : Parts) : Except Failure α :=
    let record := { scope := scope.inside, type := type, size := size, parts := parts : Record }
    (Reading.apply (Reading.map (fun value _ => value) (fields record)) record.surplus).toExcept
  match json with
  | .object members => read (.byKey members)
  | .array items => read (.inOrder items)
  | _ => unexpected json ("struct " ++ type)

/-! ### Whole documents -/

/-- Decodes a value that is already in memory, its objects sorted. -/
def decodeValue {α : Type} (decoder : Decoder α) (json : Json) : Except Failure α :=
  match json.settle 0 with
  | .ok value => decoder { origin := .value } value
  | .error fault => fail (.fault fault)

/-- Decodes a text while it is read. Nothing but white space may follow. -/
def decodeText {α : Type} (decoder : Decoder α) (text : String) : Except Failure α :=
  match readText text with
  | (json, followed) =>
    match decoder { origin := .text } json with
    | .ok value => if followed then fail (.fault .malformed) else .ok value
    | .error failure => .error failure

end ReportDesk.Json
