/-!
# JSON documents

The value a JSON text denotes, and its compact text. Objects keep their members in the order of the text, a repeated key included,
because a record refuses a field given twice. Numbers are kept apart by how they are written: only a number without point and exponent
is an integer.
-/

namespace NavGen

/-- A JSON value. -/
inductive Json where
  | null
  | bool (value : Bool)
  | int (value : Int)
  /-- A number with a point, an exponent or a minus sign before zero, as written. -/
  | real (literal : String)
  | text (value : String)
  | array (items : List Json)
  | object (members : List (String × Json))
  /-- Something well formed that has no value: a text with half a surrogate pair, a number beyond the doubles, or an array or object
  nested too deeply. A reader that passes over it does not mind, any other refuses it. -/
  | unreadable
  deriving Inhabited

namespace Json

mutual

/-- Whether no part of a document is unreadable. -/
def isReadable : Json → Bool
  | .unreadable => false
  | .array items => allReadable items
  | .object members => membersReadable members
  | _ => true

/-- `isReadable` of every document of a list. -/
def allReadable : List Json → Bool
  | [] => true
  | item :: rest => isReadable item && allReadable rest

/-- `isReadable` of the value of every member. -/
def membersReadable : List (String × Json) → Bool
  | [] => true
  | (_, value) :: rest => isReadable value && membersReadable rest

end

/-- The hexadecimal digit of a number below 16. -/
def hexDigit (n : Nat) : Char :=
  if n < 10 then Char.ofNat (0x30 + n) else Char.ofNat (0x61 + (n - 10))

/-- A character inside a quoted text. Quotes, backslashes and control characters are escaped. -/
def escapeChar (c : Char) : List Char :=
  if c = '"' then ['\\', '"']
  else if c = '\\' then ['\\', '\\']
  else if c.toNat < 0x20 then ['\\', 'u', '0', '0', hexDigit (c.toNat / 16), hexDigit (c.toNat % 16)]
  else [c]

/-- A text in quotes. -/
def quote (s : String) : String :=
  String.ofList ('"' :: s.toList.flatMap escapeChar ++ ['"'])

mutual

/-- The compact text of a document. -/
def render : Json → String
  | .null | .unreadable => "null"
  | .bool value => if value then "true" else "false"
  | .int value => toString value
  | .real literal => literal
  | .text value => quote value
  | .array items => "[" ++ ",".intercalate (renderAll items) ++ "]"
  | .object members => "\x7b" ++ ",".intercalate (renderMembers members) ++ "\x7d"

/-- The texts of the documents of a list. -/
def renderAll : List Json → List String
  | [] => []
  | item :: rest => render item :: renderAll rest

/-- The texts of the members of an object. -/
def renderMembers : List (String × Json) → List String
  | [] => []
  | (key, value) :: rest => (quote key ++ ":" ++ render value) :: renderMembers rest

end

/-- A list written as an array. -/
def ofList {α : Type} (write : α → Json) (items : List α) : Json :=
  .array (items.map write)

/-- A list of texts written as an array. -/
def texts (items : List String) : Json :=
  ofList .text items

/-- The member of an optional value: none when the value is absent. -/
def optionalMember {α : Type} (key : String) (write : α → Json) : Option α → List (String × Json)
  | none => []
  | some value => [(key, write value)]

/-- The member of a list that is left out when empty. -/
def nonEmptyMember {α : Type} (key : String) (write : α → Json) (items : List α) : List (String × Json) :=
  if items.isEmpty then [] else [(key, ofList write items)]

end Json

end NavGen
