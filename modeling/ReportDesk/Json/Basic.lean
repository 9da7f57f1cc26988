import ReportDesk.Decimal.Layout

/-! # JSON documents

    A document is a tree. It keeps the members of an object as they were written: in their order,
    with repeats. A text that is not JSON, or that no value can stand for, becomes a tree too, with
    a leaf that says what is wrong at that place, so that whoever reads the tree meets the fault
    exactly when the reading gets there.
-/

namespace ReportDesk

/-- What can be wrong with a piece of a JSON text. -/
inductive Json.Fault where
  /-- The text stops being JSON here, and nothing after it is known. -/
  | malformed
  /-- Arrays and objects are nested too deeply. -/
  | tooDeep
  /-- A number is greater than every double. -/
  | numberOutOfRange
  /-- An escape names half of a surrogate pair. -/
  | loneSurrogate
  /-- An array goes on after its last expected element. -/
  | surplusElement
  /-- Something other than a name stands where one of several names is expected. -/
  | noName
  deriving DecidableEq, Repr

/-- A JSON document, as far as it could be read. -/
inductive Json where
  | null
  | bool (value : Bool)
  /-- A number without fraction and exponent that fits 64 bits, with or without a sign. -/
  | integer (value : Int)
  /-- Any other number. -/
  | float (value : Float)
  | string (text : String)
  | array (items : List Json)
  /-- An object, its members in the order and number they were written. -/
  | object (members : List (String × Json))
  /-- A place that could not be read. -/
  | broken (fault : Json.Fault)
  deriving Inhabited

namespace Json

/-- The first value that an object's members give for a key. -/
def lookup (key : String) : List (String × Json) → Option Json
  | [] => none
  | (k, v) :: rest => if k = key then some v else lookup key rest

/-- The value of a key of an object; of nothing else. -/
def get? (json : Json) (key : String) : Option Json :=
  match json with
  | .object members => lookup key members
  | _ => none

/-- A member that is left out when there is no value for it. -/
def optionalMember (key : String) : Option Json → List (String × Json)
  | some value => [(key, value)]
  | none => []

/-- A text, or null when there is none. -/
def ofString? : Option String → Json
  | some text => .string text
  | none => .null

/-! ### Untyped values -/

/-- Puts a member into a list sorted by key, replacing one of the same key. -/
def insertMember (key : String) (value : Json) : List (String × Json) → List (String × Json)
  | [] => [(key, value)]
  | (k, v) :: rest =>
    if key < k then (key, value) :: (k, v) :: rest
    else if key = k then (key, value) :: rest
    else (k, v) :: insertMember key value rest

/-- How many arrays and objects may lie inside each other. -/
def maxDepth : Nat := 127

mutual

/-- A document as an untyped value, `depth` arrays and objects being around it: the keys of every
    object in ascending order, of a repeated key the last value. Fails at the first fault. -/
def settle (depth : Nat) : Json → Except Fault Json
  | .array items =>
    if depth ≥ maxDepth then .error .tooDeep
    else (settleItems (depth + 1) items).map .array
  | .object members =>
    if depth ≥ maxDepth then .error .tooDeep
    else (settleMembers (depth + 1) [] members).map .object
  | .broken fault => .error fault
  | json => .ok json

/-- Settles each item, in order. -/
def settleItems (depth : Nat) : List Json → Except Fault (List Json)
  | [] => .ok []
  | item :: rest =>
    match settle depth item with
    | .error fault => .error fault
    | .ok value => (settleItems depth rest).map (value :: ·)

/-- Settles each member, in order, and puts it into the sorted list `done`. -/
def settleMembers (depth : Nat) (done : List (String × Json)) :
    List (String × Json) → Except Fault (List (String × Json))
  | [] => .ok done
  | (key, item) :: rest =>
    match settle depth item with
    | .error fault => .error fault
    | .ok value => settleMembers depth (insertMember key value done) rest

end

mutual

/-- Whether a document stops being JSON somewhere. Only this is noticed of a value that nobody asks
    for. -/
def isMalformed : Json → Bool
  | .array items => anyMalformed items
  | .object members => anyMemberMalformed members
  | .broken fault => fault == .malformed
  | _ => false

/-- Whether one of the items stops being JSON. -/
def anyMalformed : List Json → Bool
  | [] => false
  | item :: rest => item.isMalformed || anyMalformed rest

/-- Whether one of the members stops being JSON. -/
def anyMemberMalformed : List (String × Json) → Bool
  | [] => false
  | (_, item) :: rest => item.isMalformed || anyMemberMalformed rest

end

end Json

end ReportDesk
