/-
# JSON values

Values to be written as JSON, and their two written forms: `Json.compact` on one line and
`Json.pretty` over several lines.  The fields of an object stay in the order in which they are
given; `Json.sorted` is the object whose fields are in the order of their names.
-/
import Fingerprinting.Decimal.Shortest
import Fingerprinting.Json.Reader
import Fingerprinting.Text.Blank

namespace Fingerprinting

/-- A JSON value. -/
inductive Json where
  | null
  | bool (b : Bool)
  | number (n : Number)
  | string (s : String)
  | array (items : List Json)
  | object (fields : List (String × Json))
deriving Inhabited

namespace Json

/-! ## Building -/

/-- A whole number. -/
def whole (n : Int) : Json := .number (.whole n)

/-- A natural number. -/
def nat (n : Nat) : Json := .number (.whole n)

/-- An array of strings. -/
def strings (ss : List String) : Json := .array (ss.map .string)

/-- A value that may be absent. -/
def orNull {α : Type} (write : α → Json) : Option α → Json
  | none => .null
  | some a => write a

/-- A text field that is left out when it is empty. -/
def textField (name value : String) : List (String × Json) :=
  if value = "" then [] else [(name, .string value)]

/-- A list field that is left out when it is empty. -/
def stringsField (name : String) (values : List String) : List (String × Json) :=
  if values.isEmpty then [] else [(name, strings values)]

/-- Put a field into a list sorted by name, in the place of a field of that name if there is one. -/
def insertField (name : String) (value : Json) : List (String × Json) → List (String × Json)
  | [] => [(name, value)]
  | (n, v) :: rest =>
      if name < n then (name, value) :: (n, v) :: rest
      else if name = n then (name, value) :: rest
      else (n, v) :: insertField name value rest

/-- The object with these fields sorted by name; of several fields of one name the last counts. -/
def sorted (fields : List (String × Json)) : Json :=
  .object (fields.foldl (fun fs f => insertField f.1 f.2 fs) [])

/-- The field of an object. -/
def field? (name : String) : Json → Option Json
  | .object fields => fields.lookup name
  | _ => none

/-! ## Writing -/

/-- Doubles are positional from `0.00001` up to sixteen digits before the point. -/
def doubleLayout : Decimal.Layout := ⟨16, 5⟩

/-- The text of a number; numbers without a finite value are written as nothing. -/
def numberText : Number → String
  | .whole n => Text.signedDecimal n
  | .double x => if x.isFinite then doubleLayout.write x else "null"

/-- One character inside a string. -/
def escapeChar (c : Char) : List Char :=
  if c = '"' then ['\\', '"']
  else if c = '\\' then ['\\', '\\']
  else if c = '\n' then ['\\', 'n']
  else if c = '\r' then ['\\', 'r']
  else if c = '\t' then ['\\', 't']
  else if c.toNat = 0x08 then ['\\', 'b']
  else if c.toNat = 0x0C then ['\\', 'f']
  else if c.toNat < 0x20 then ['\\', 'u', '0', '0'] ++ Text.hexByte c.toUInt8
  else [c]

/-- A string between quotes. -/
def quote (s : String) : String := String.ofList ('"' :: (s.toList.flatMap escapeChar ++ ['"']))

mutual

/-- A value on one line without blanks. -/
def compact : Json → String
  | .null => "null"
  | .bool b => if b then "true" else "false"
  | .number n => numberText n
  | .string s => quote s
  | .array items => "[" ++ Text.join "," (compactItems items) ++ "]"
  | .object fields => "\x7b" ++ Text.join "," (compactFields fields) ++ "\x7d"

/-- The items of an array, each on one line. -/
def compactItems : List Json → List String
  | [] => []
  | j :: rest => j.compact :: compactItems rest

/-- The fields of an object, each on one line. -/
def compactFields : List (String × Json) → List String
  | [] => []
  | (name, j) :: rest => (quote name ++ ":" ++ j.compact) :: compactFields rest

end

/-- The blanks before a line at some depth. -/
def indent (depth : Nat) : String := String.ofList (List.replicate (2 * depth) ' ')

/-- Parts between brackets, each on a line of its own; nothing stands between the brackets of an
empty value. -/
def block (opening closing : String) (depth : Nat) (parts : List String) : String :=
  match parts with
  | [] => opening ++ closing
  | _ =>
      opening ++ "\n" ++ Text.join ",\n" (parts.map fun p => indent (depth + 1) ++ p) ++ "\n" ++
        indent depth ++ closing

mutual

/-- A value with one item or field a line, inside `depth` others. -/
def prettyAt (depth : Nat) : Json → String
  | .array items => block "[" "]" depth (prettyItems depth items)
  | .object fields => block "\x7b" "\x7d" depth (prettyFields depth fields)
  | j => j.compact

/-- The items of an array inside `depth` values. -/
def prettyItems (depth : Nat) : List Json → List String
  | [] => []
  | j :: rest => j.prettyAt (depth + 1) :: prettyItems depth rest

/-- The fields of an object inside `depth` values. -/
def prettyFields (depth : Nat) : List (String × Json) → List String
  | [] => []
  | (name, j) :: rest =>
      (quote name ++ ": " ++ j.prettyAt (depth + 1)) :: prettyFields depth rest

end

/-- A value over several lines. -/
def pretty (j : Json) : String := j.prettyAt 0

/-! ## Reading -/

mutual

/-- The value of a document, if every scalar in it has one and every key is a text. -/
def ofDocument? : Document → Option Json
  | .null => some .null
  | .bool b => some (.bool b)
  | .number n => some (.number n)
  | .text s => some (.string s)
  | .scalar _ _ s => some (.string s)
  | .unreadable => none
  | .list _ items => do some (.array (← itemsOf? items))
  | .map _ entries => do some (.sorted (← fieldsOf? entries))

/-- The values of some documents. -/
def itemsOf? : List Document → Option (List Json)
  | [] => some []
  | d :: rest => do some ((← ofDocument? d) :: (← itemsOf? rest))

/-- The fields of some entries. -/
def fieldsOf? : List (Document × Document) → Option (List (String × Json))
  | [] => some []
  | (k, v) :: rest => do some ((← k.string?, ← ofDocument? v) :: (← fieldsOf? rest))

end

/-- The value that a JSON text writes. -/
def read? (b : Bytes) : Option Json := do ofDocument? (← Document.ofJson? b)

end Json

end Fingerprinting
