/-!
# Words of a command line

A command line is a list of words. An option is written by its name, `--size 5` or `--size=5`, or by
its letter, `-s 5`, `-s5` or `-s=5`; a switch takes no value. A word that begins with a dash is
never the value of an option unless it is attached to it. After `--` all words are plain.

`Given.scan` reads the options of one place: it stops at the first plain word where a command is
expected, or takes all words. No option may be given twice at one place, and a place has room for
so many plain words; the first word that is not understood decides.
-/

namespace LogSearch

/-! ## Options -/

/-- What an option is for. -/
inductive OptionKind where
  | switch
  /-- It takes a value, of which not every text is one. -/
  | value (isValid : String → Bool)
  /-- It asks how to use the program. -/
  | help
  /-- It asks for the version of the program. -/
  | version

/-- How an option is written. -/
structure OptionForm where
  name : String
  letter : Option Char
  kind : OptionKind

/-- Why a command line is not carried out. -/
inductive Interruption where
  /-- It is not understood. -/
  | usage
  | help
  | version
  deriving DecidableEq, Repr

/-! ## Words -/

/-- What a word looks like. -/
inductive Spelling where
  | plain
  /-- All that follows is plain. -/
  | separator
  | named (name : String) (attached : Option String)
  | lettered (letter : Char) (attached : Option String)
  deriving DecidableEq, Repr

/-- A text up to an equals sign, and what follows it. -/
def splitEquals (cs : List Char) : List Char × Option String :=
  (cs.takeWhile (· != '='),
    match cs.dropWhile (· != '=') with
    | [] => none
    | _ :: value => some (String.ofList value))

/-- What a word looks like. -/
def Spelling.ofWord (word : String) : Spelling :=
  match word.toList with
  | ['-', '-'] => .separator
  | '-' :: '-' :: cs =>
    let (name, attached) := splitEquals cs
    .named (String.ofList name) attached
  | ['-', c] => .lettered c none
  | '-' :: c :: '=' :: value => .lettered c (some (String.ofList value))
  | '-' :: c :: value => .lettered c (some (String.ofList value))
  | _ => .plain

/-- Whether a word can be the value of the option before it. -/
def isLoose (word : String) : Bool := Spelling.ofWord word == .plain

/-- What a word says where only some forms are known. -/
inductive Saying where
  | plain
  | separator
  /-- An option with its value; a switch has an empty one. -/
  | option (name value : String)
  /-- An option whose value is the next word. -/
  | awaiting (name : String) (isValid : String → Bool)
  | interruption (reason : Interruption)

namespace Saying

/-- What an option says that is written with a name. -/
def ofNamed (form : OptionForm) : (attached : Option String) → Saying
  | none =>
    match form.kind with
    | .switch => .option form.name ""
    | .value isValid => .awaiting form.name isValid
    | .help => .interruption .help
    | .version => .interruption .version
  | some value =>
    match form.kind with
    | .value isValid =>
      if isValid value then .option form.name value else .interruption .usage
    | _ => .interruption .usage

/-- What an option says that is written with a letter; more letters after a question for help or the
version are not looked at. -/
def ofLettered (form : OptionForm) (attached : Option String) : Saying :=
  match form.kind with
  | .help => .interruption .help
  | .version => .interruption .version
  | _ => ofNamed form attached

/-- What a word says. -/
def ofWord (forms : List OptionForm) (word : String) : Saying :=
  match Spelling.ofWord word with
  | .plain => .plain
  | .separator => .separator
  | .named name attached =>
    match forms.find? fun form => form.name == name with
    | some form => ofNamed form attached
    | none => .interruption .usage
  | .lettered letter attached =>
    match forms.find? fun form => form.letter == some letter with
    | some form => ofLettered form attached
    | none => .interruption .usage

end Saying

/-! ## What is given -/

/-- The options and plain words given at one place. -/
structure Given where
  options : List (String × String)
  words : List String
  deriving DecidableEq, Repr

namespace Given

/-- Nothing given. -/
def empty : Given := ⟨[], []⟩

/-- The value of an option. -/
def value? (given : Given) (name : String) : Option String := List.lookup name given.options

/-- Whether an option is given. -/
def has (given : Given) (name : String) : Bool := (given.value? name).isSome

/-- The value of an option as some type, or a default if it is not given. -/
def read? {α : Type} (given : Given) (name : String) (default : α) (read : String → Option α) :
    Option α :=
  match given.value? name with
  | none => some default
  | some text => read text

/-- One more option. -/
def addOption (given : Given) (name value : String) : Except Interruption Given :=
  if given.has name then .error .usage
  else .ok { given with options := given.options ++ [(name, value)] }

/-- One more plain word, where there is room for `room` of them. -/
def addWord (given : Given) (room : Nat) (word : String) : Except Interruption Given :=
  if given.words.length < room then .ok { given with words := given.words ++ [word] }
  else .error .usage

/-- Reads words at a place where some forms are known. Without room for plain words a command is
expected: the first plain word ends the place, and the words from there on are left over. -/
def scan (forms : List OptionForm) (room : Option Nat) :
    Given → List String → Except Interruption (Given × List String)
  | given, [] => .ok (given, [])
  | given, word :: rest =>
    match Saying.ofWord forms word with
    | .interruption reason => .error reason
    | .plain =>
      match room with
      | none => .ok (given, word :: rest)
      | some room => do scan forms room (← given.addWord room word) rest
    | .separator =>
      match room, rest with
      | none, _ :: _ => .error .usage
      | room, rest => do return (← rest.foldlM (fun given => given.addWord (room.getD 0)) given, [])
    | .option name value => do scan forms room (← given.addOption name value) rest
    | .awaiting name isValid =>
      match rest with
      | [] => .error .usage
      | value :: rest =>
        if isLoose value && isValid value then do
          scan forms room (← given.addOption name value) rest
        else .error .usage

end Given

end LogSearch
