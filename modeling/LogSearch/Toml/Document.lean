import LogSearch.Toml.Scalar
import LogSearch.Toml.Table

/-!
# Reading a settings file

`Toml.parse?` reads a file of the TOML format into structured data. A file is a sequence of lines:
headers, keys with values, comments. A value may be a list, over several lines, or a table in
braces, on one; both these and dotted keys go less than 80 deep.

Every line and every item takes a character, so loops over them count down from the length of the
text.
-/

namespace LogSearch.Toml

/-- How deep values are nested and dotted keys go at most. -/
def nestingLimit : Nat := 79

/-! ## Keys -/

/-- Characters of a key without quotes. -/
def isBareChar (c : Char) : Bool := c.isAlphanum || c == '-' || c == '_'

/-- A key between points. -/
def simpleKey? : List Char → Option (String × List Char)
  | '"' :: rest => (basicText [] rest).map fun (key, after) => (String.ofList key, after)
  | '\'' :: rest => (literalText [] rest).map fun (key, after) => (String.ofList key, after)
  | cs =>
    let bare := cs.takeWhile isBareChar
    if bare.isEmpty then none else some (String.ofList bare, cs.dropWhile isBareChar)

/-- At most `count` keys, each after a point. -/
def moreKeys : (count : Nat) → List Char → Option (List String × List Char)
  | 0, cs => some ([], cs)
  | count + 1, cs =>
    match skipInline cs with
    | '.' :: rest => do
      let (key, after) ← simpleKey? (skipInline rest)
      let (keys, last) ← moreKeys count after
      return (key :: keys, last)
    | _ => some ([], cs)

/-- A dotted key. -/
def key? (cs : List Char) : Option (List String × List Char) := do
  let (key, after) ← simpleKey? (skipInline cs)
  let (keys, last) ← moreKeys after.length after
  if keys.length < nestingLimit then return (key :: keys, last) else none

/-- What follows a character after inline blanks. -/
def sign? (c : Char) (cs : List Char) : Option (List Char) :=
  match skipInline cs with
  | d :: rest => if d = c then some rest else none
  | [] => none

/-! ## Values -/

/-- What follows a comment, if there is one; it ends before the end of the line. -/
def skipComment : List Char → List Char
  | '#' :: rest => rest.dropWhile isPlain
  | cs => cs

/-- Skips blanks, line breaks and comments, at most `count` lines of them. -/
def skipLines : (count : Nat) → List Char → List Char
  | 0, cs => cs
  | count + 1, cs =>
    let rest := skipComment (skipInline cs)
    match lineBreak? rest with
    | some after => skipLines count after
    | none => rest

/-- Skips blanks, line breaks and comments. -/
def skipVoid (cs : List Char) : List Char := skipLines cs.length cs

/-- Reads a value. -/
abbrev ValueReader := List Char → Option (Json × List Char)

/-- The items of a list up to its bracket, at most `count`. -/
def items? (value : ValueReader) : (count : Nat) → List Char → Option (List Json × List Char)
  | 0, _ => none
  | count + 1, cs =>
    match skipVoid cs with
    | ']' :: rest => some ([], rest)
    | cs => do
      let (item, after) ← value cs
      match skipVoid after with
      | ',' :: rest =>
        let (items, last) ← items? value count rest
        return (item :: items, last)
      | ']' :: rest => return ([item], rest)
      | _ => none

/-- A key with a value. -/
def entry? (value : ValueReader) (cs : List Char) :
    Option ((List String × Json) × List Char) := do
  let (path, after) ← key? cs
  let rest ← sign? '=' after
  let (json, last) ← value (skipInline rest)
  return ((path, json), last)

/-- The entries of a table in braces, at least one and at most `count`. -/
def entries? (value : ValueReader) : (count : Nat) → Fields → List Char →
    Option (Fields × List Char)
  | 0, _, _ => none
  | count + 1, fields, cs => do
    let ((path, json), after) ← entry? value cs
    let fields ← fields.put json true path
    match skipInline after with
    | ',' :: rest => entries? value count fields rest
    | '\x7d' :: rest => return (fields, rest)
    | _ => none

/-- A value that holds no others. -/
def scalar? : ValueReader
  | [] => none
  | c :: rest =>
    if c == '"' || c == '\'' then
      (text? (c :: rest)).map fun (text, after) => (.str (String.ofList text), after)
    else
      let (word, after) := token (c :: rest)
      (tokenValue? word).map fun json => (json, after)

/-- A value that nests lists and tables at most `depth` deep. -/
def value? : (depth : Nat) → ValueReader
  | 0 => scalar?
  | depth + 1 => fun cs =>
    match cs with
    | '[' :: rest =>
      (items? (value? depth) (rest.length + 1) rest).map fun (items, after) => (.arr items, after)
    | '\x7b' :: rest =>
      match skipInline rest with
      | '\x7d' :: after => some (.obj [], after)
      | _ =>
        (entries? (value? depth) rest.length [] rest).map fun (fields, after) =>
          (.obj (fieldsToJson fields), after)
    | cs => scalar? cs

/-! ## Lines -/

/-- What is known of a file up to some line: its fields, and the header that lines belong to. -/
structure State where
  fields : Fields
  header : List String

/-- What follows the end of a line, before which only a comment may stand. -/
def endLine? (cs : List Char) : Option (List Char) :=
  match skipComment (skipInline cs) with
  | [] => some []
  | rest => lineBreak? rest

/-- A header; `act` opens its table. -/
def header? (act : String → Fields → Option Fields) (state : State) (cs : List Char) :
    Option (State × List Char) := do
  let (path, after) ← key? cs
  let last ← path.getLast?
  let rest ← sign? ']' after
  let fields ← state.fields.change (act last) path.dropLast
  return (⟨fields, path⟩, rest)

/-- A header or a key with a value. -/
def statement? (state : State) (cs : List Char) : Option (State × List Char) :=
  match cs with
  | '[' :: '[' :: rest => do
    let (state, after) ← header? Fields.openItem state rest
    match after with
    | ']' :: last => return (state, last)
    | _ => none
  | '[' :: rest => header? Fields.openTable state rest
  | cs => do
    let ((path, json), after) ← entry? (value? nestingLimit) cs
    let fields ← state.fields.change (Fields.put json true path) state.header
    return ({ state with fields }, after)

/-- The statements of a file, at most `count`. -/
def statements? : (count : Nat) → State → List Char → Option Fields
  | 0, _, _ => none
  | count + 1, state, cs =>
    match skipVoid cs with
    | [] => some state.fields
    | cs => do
      let (state, after) ← statement? state cs
      statements? count state (← endLine? after)

/-- The structured data of a file. -/
def parse? (text : String) : Option Json :=
  let cs := match text.toList with
    | '\ufeff' :: rest => rest
    | cs => cs
  (statements? (cs.length + 1) ⟨[], []⟩ cs).map fun fields => .obj (fieldsToJson fields)

end LogSearch.Toml
