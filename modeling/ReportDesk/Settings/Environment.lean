import ReportDesk.Text.Alphanumeric

/-! # Environment variables in settings

    A setting may refer to variables of the environment, as `$name` or `${name}`. A reference is
    replaced by the variable's value, which is not looked through again. A `$` that begins no
    reference stands for itself.
-/

namespace ReportDesk

/-- The variables of the environment, by name. -/
structure Environment where
  /-- Names and values. -/
  entries : List (String × String) := []

/-- The value of a variable. No variable has an empty name or one with an equals sign. -/
def Environment.get? (env : Environment) (name : String) : Option String :=
  if name.isEmpty || name.toList.any fun c => c == '=' || c == '\x00' then none
  else env.entries.lookup name

namespace Environment

/-- Whether a character can belong to a name that is written without braces. -/
def isNameChar (c : Char) : Bool :=
  Text.isAlphanumeric c || c == '_'

/-- A text with its references replaced, or the first name that no variable has. -/
def expandChars (env : Environment) : List Char → Except String (List Char)
  | [] => .ok []
  | '$' :: '\x7b' :: rest =>
    let name := String.ofList (rest.takeWhile (· ≠ '\x7d'))
    match env.get? name with
    | none => .error name
    | some value => (expandChars env ((rest.dropWhile (· ≠ '\x7d')).drop 1)).map (value.toList ++ ·)
  | '$' :: rest =>
    let name := rest.takeWhile isNameChar
    if name.isEmpty then (expandChars env rest).map ('$' :: ·)
    else
      match env.get? (String.ofList name) with
      | none => .error (String.ofList name)
      | some value => (expandChars env (rest.dropWhile isNameChar)).map (value.toList ++ ·)
  | c :: rest => (expandChars env rest).map (c :: ·)
  termination_by cs => cs.length
  decreasing_by
    · have := (List.dropWhile_sublist (l := rest) (fun c : Char => decide (c ≠ '\x7d'))).length_le
      simp only [List.length_drop, List.length_cons]
      omega
    · simp
    · have := (List.dropWhile_sublist (l := rest) isNameChar).length_le
      simp only [List.length_cons]
      omega
    · simp

/-- A text with its references replaced. -/
def expand (env : Environment) (text : String) : Except String String :=
  (env.expandChars text.toList).map String.ofList

end Environment

end ReportDesk
