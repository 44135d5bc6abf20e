import LogSearch.Json.Basic

/-!
# Printing structured data

`Json.render` is the compact form that requests are sent in and messages quote; `Json.pretty` puts
every item on a line of its own, two blanks further in than what holds it. Both keep the order of
the fields as it is in the value.
-/

namespace LogSearch.Json

/-- A hexadecimal digit. -/
def hexDigit (n : Nat) : Char := (Nat.toDigits 16 n).headD '0'

/-- One character as it stands in a quoted text. -/
def escapeChar (c : Char) : List Char :=
  if c = '"' then ['\\', '"']
  else if c = '\\' then ['\\', '\\']
  else if c = '\n' then ['\\', 'n']
  else if c = '\r' then ['\\', 'r']
  else if c = '\t' then ['\\', 't']
  else if c = '\x08' then ['\\', 'b']
  else if c = '\x0c' then ['\\', 'f']
  else if c.toNat < 0x20 then
    ['\\', 'u', '0', '0', hexDigit (c.toNat / 16), hexDigit (c.toNat % 16)]
  else [c]

/-- A text in quotes. -/
def renderText (s : String) : String :=
  String.ofList ('"' :: s.toList.flatMap escapeChar ++ ['"'])

/-- A value without content below it. -/
def renderLeaf : Json → String
  | .null => "null"
  | .bool true => "true"
  | .bool false => "false"
  | .num n => n.render
  | .str s => renderText s
  | .arr _ => "[]"
  | .obj _ => "\x7b\x7d"

mutual

/-- The compact text of a value. -/
def render : Json → String
  | .arr items => "[" ++ ",".intercalate (renderItems items) ++ "]"
  | .obj fields => "\x7b" ++ ",".intercalate (renderFields fields) ++ "\x7d"
  | value => renderLeaf value

/-- The texts of the items of an array. -/
def renderItems : List Json → List String
  | [] => []
  | item :: rest => render item :: renderItems rest

/-- The texts of the fields of an object. -/
def renderFields : List (String × Json) → List String
  | [] => []
  | (key, value) :: rest => (renderText key ++ ":" ++ render value) :: renderFields rest

end

/-- A line break and the indentation of a depth. -/
def newline (depth : Nat) : String := String.ofList ('\n' :: List.replicate (2 * depth) ' ')

mutual

/-- The text of a value over several lines, inside something at `depth`. -/
def prettyAt (depth : Nat) : Json → String
  | .arr (item :: rest) =>
    "[" ++ ",".intercalate (prettyItems (depth + 1) (item :: rest)) ++ newline depth ++ "]"
  | .obj (field :: rest) =>
    "\x7b" ++ ",".intercalate (prettyFields (depth + 1) (field :: rest)) ++ newline depth ++ "\x7d"
  | value => renderLeaf value

/-- The texts of the items of an array, each on its line. -/
def prettyItems (depth : Nat) : List Json → List String
  | [] => []
  | item :: rest => (newline depth ++ prettyAt depth item) :: prettyItems depth rest

/-- The texts of the fields of an object, each on its line. -/
def prettyFields (depth : Nat) : List (String × Json) → List String
  | [] => []
  | (key, value) :: rest =>
    (newline depth ++ renderText key ++ ": " ++ prettyAt depth value) :: prettyFields depth rest

end

/-- The text of a value over several lines. -/
def pretty (value : Json) : String := prettyAt 0 value

end LogSearch.Json
