import LogSearch.Command.Run

/-!
# A machine of a directory in memory

Commands can be carried out without touching anything: on a `Directory`, which is a list of files
around a root. Its machine has a clock that stands still, and a network given as a function; files
that a command writes are in the directory that it leaves behind.

A place is given by the parts that lead to it from the root, and begins with as many `..` as it is
above. A directory below the root exists as soon as there is a file in it, and all those above the
root exist. A path is followed part by part, so each part but the last must be a directory.
-/

namespace LogSearch

/-- Files around a root, by the parts of their paths. -/
structure Directory where
  /-- What an absolute path to something below the root begins with. -/
  root : String
  files : List (List String × String)
  deriving DecidableEq, Repr

namespace Directory

/-! ## Paths -/

/-- The parts of a path between slashes. -/
def partsOf (path : List Char) : List String := (splitAll '/' path).map String.ofList

/-- Whether parts lead to a directory: the root or one above it, or one that holds a file. -/
def isDirectory (directory : Directory) (parts : List String) : Bool :=
  (parts.all fun part => part == "..")
    || directory.files.any fun file => parts.isPrefixOf file.1 && parts.length < file.1.length

/-- The directory that holds a place. -/
def above (place : List String) : List String :=
  if place.all fun part => part == ".." then place ++ [".."] else place.dropLast

/-- What a path leads to from some directory, as parts from the root. -/
def follow? (directory : Directory) (place : List String) : List String → Option (List String)
  | [] => some place
  | part :: rest =>
    if !directory.isDirectory place then none
    else if part = "" || part = "." then follow? directory place rest
    else if part = ".." then follow? directory (above place) rest
    else follow? directory (place ++ [part]) rest

/-- What a path leads to, as parts from the root. -/
def locate? (directory : Directory) (path : String) : Option (List String) :=
  match stripFront? (directory.root.toList ++ ['/']) path.toList with
  | some rest => directory.follow? [] (partsOf rest)
  | none =>
    if path.toList.head? = some '/' then none else directory.follow? [] (partsOf path.toList)

/-! ## Files -/

/-- A directory of files, from their paths below the root. -/
def ofFiles (root : String) (files : List (String × String)) : Directory :=
  { root, files := files.map fun (path, content) => (partsOf path.toList, content) }

/-- The text of the file at a path. -/
def content? (directory : Directory) (path : String) : Option String :=
  (directory.locate? path).bind fun parts => List.lookup parts directory.files

/-- The directory with a text at a path; there must be a directory to hold it, and none in its
place. -/
def save? (directory : Directory) (path content : String) : Option Directory := do
  let parts ← directory.locate? path
  if directory.isDirectory parts then none
  else
    return { directory with
      files := (parts, content) :: directory.files.filter fun file => file.1 != parts }

/-- The directory with a file at a path, which is empty if there was none. -/
def touch? (directory : Directory) (path : String) : Option Directory :=
  directory.save? path ((directory.content? path).getD "")

/-! ## Running commands -/

/-- Changes the directory, and tells whether that was possible. -/
def update (change : Directory → Option Directory) : StateM Directory Bool := do
  match change (← get) with
  | some after =>
    set after
    return true
  | none => return false

/-- The machine whose files are those of a directory. -/
def machine (environment : Environment) (now : Instant) (network : HttpRequest → Delivery) :
    Machine (StateM Directory) where
  environment := environment
  now := return now
  fileText path := return (← get).content? path
  saveFile path content := update fun directory => directory.save? path content
  openLog path := update fun directory => directory.touch? path
  transport request := return network request

/-- Carries out a command line in a directory. -/
def run (directory : Directory) (environment : Environment) (now : Instant)
    (network : HttpRequest → Delivery) (words : List String) : Report × Directory :=
  ((machine environment now network).run words).run directory

end Directory

end LogSearch
