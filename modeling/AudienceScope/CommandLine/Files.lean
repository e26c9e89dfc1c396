/-!
The files a run works on. A run asks whether a path is a file, reads a whole file as text and writes
a whole file. Writing goes in two steps, as the system has it: the file is created, or emptied if it
is there, and then it is filled. A run that gets no further than the first step leaves an empty file
behind. What the files have to guarantee for that to be all that changes is said by `Files.Confined`
and `Files.Roomy`.

`Workspace` is a tree of files and directories held as a value. Paths are followed in it name by
name as a file system does it, so a name behind a file is told apart from a name that is missing.
-/

set_option autoImplicit false

namespace AudienceScope.CommandLine

/-- Why a file was not read or written: an error of the system, which has a number, or else. -/
inductive FileError where
  | system (reason : String) (number : Nat)
  | plain (reason : String)
deriving DecidableEq

namespace FileError

def notFound : FileError := system "No such file or directory" 2

def notADirectory : FileError := system "Not a directory" 20

def isADirectory : FileError := system "Is a directory" 21

def nameTooLong : FileError := system "File name too long" 36

def notUtf8 : FileError := plain "stream did not contain valid UTF-8"

def message : FileError → String
  | system reason number => reason ++ " (os error " ++ toString number ++ ")"
  | plain reason => reason

end FileError

/-- The operations on files in a monad. A handle stands for a file that is open to be filled. -/
structure Files (m : Type → Type) where
  Handle : Type
  isFile : String → m Bool
  read : String → m (Except FileError String)
  create : String → m (Except FileError Handle)
  fill : Handle → String → m (Except FileError Unit)

namespace Files

variable {m : Type → Type} [Monad m] {σ ν : Type}

def write (files : Files m) (path text : String) : m (Except FileError Unit) := do
  match ← files.create path with
  | .error error => return .error error
  | .ok handle => files.fill handle text

end Files

/-- What the files hold by their names, and the name of the file, there already or not, that a path
for writing leads to. Not every path does: a device holds nothing. -/
structure FileSet (ν : Type) where
  content : ν → Option ByteArray
  target? : String → Option ν

namespace Files

variable {σ ν : Type}

/-- Files that change by writing only, and then at most where the path leads. A file that could not
be created is as it was before; one that was created holds anything until it is filled. -/
structure Confined (files : Files (StateM σ)) (view : σ → FileSet ν) : Prop where
  isFile (path : String) (state : σ) : view ((files.isFile path).run state).2 = view state
  read (path : String) (state : σ) : view ((files.read path).run state).2 = view state
  uncreated {path : String} {error : FileError} {state after : σ} :
    (files.create path).run state = (.error error, after) → view after = view state
  elsewhere {path text : String} {result : Except FileError Unit} {state after : σ} {name : ν} :
    (files.write path text).run state = (result, after) → (view state).target? path ≠ some name →
      (view after).content name = (view state).content name
  written {path text : String} {state after : σ} {name : ν} :
    (files.write path text).run state = (.ok (), after) → (view state).target? path = some name →
      (view after).content name = some text.toUTF8

/-- Files that can be filled once they are open, as on a disk that has room left. -/
def Roomy (files : Files (StateM σ)) : Prop :=
  ∀ handle text state, ∃ after, (files.fill handle text).run state = (.ok (), after)

end Files

/-- A tree of files by their names from the root on. A directory is there because a file or `home`
lies in it. Paths that do not begin with a slash start at `home`. -/
structure Workspace where
  home : List String
  files : List (List String × ByteArray)

namespace Workspace

inductive Place where
  | directory
  | file (names : List String) (content : ByteArray)
  | free (names : List String)

def entry (workspace : Workspace) (names : List String) : Place :=
  match workspace.files.lookup names with
  | some content => .file names content
  | none =>
    if (workspace.home :: workspace.files.map Prod.fst).any names.isPrefixOf then .directory
    else .free names

def nameLimit : Nat := 255

def pathLimit : Nat := 4095

/-- Follows names from a directory on. Above the root there is the root again. -/
def follow (workspace : Workspace) : List String → List String → Except FileError Place
  | _, [] => .ok .directory
  | directory, "." :: rest => workspace.follow directory rest
  | directory, ".." :: rest => workspace.follow directory.dropLast rest
  | directory, name :: rest =>
    if nameLimit < name.utf8ByteSize then .error .nameTooLong
    else
      match workspace.entry (directory ++ [name]), rest with
      | .directory, rest => workspace.follow (directory ++ [name]) rest
      | place, [] => .ok place
      | .file _ _, _ :: _ => .error .notADirectory
      | .free _, _ :: _ => .error .notFound

def split (workspace : Workspace) (path : String) : List String × List String × Bool :=
  let chars := path.toList
  let names := ((chars.splitOn '/').map String.ofList).filter (· ≠ "")
  (if chars.head? = some '/' then [] else workspace.home, names, chars.getLast? = some '/')

/-- Where a path leads; behind a slash at the end only a directory will do. -/
def locate (workspace : Workspace) (path : String) : Except FileError Place :=
  let (start, names, slash) := workspace.split path
  if pathLimit < path.utf8ByteSize then .error .nameTooLong
  else if path.isEmpty then .error .notFound
  else workspace.follow start (if slash then names ++ ["."] else names)

def isFile (workspace : Workspace) (path : String) : Bool :=
  match workspace.locate path with
  | .ok (.file _ _) => true
  | _ => false

def read (workspace : Workspace) (path : String) : Except FileError String :=
  match workspace.locate path with
  | .error error => .error error
  | .ok .directory => .error .isADirectory
  | .ok (.free _) => .error .notFound
  | .ok (.file _ content) =>
    match String.fromUTF8? content with
    | some text => .ok text
    | none => .error .notUtf8

def put (workspace : Workspace) (names : List String) (content : ByteArray) : Workspace :=
  { workspace with
    files :=
      if (workspace.files.lookup names).isSome then
        workspace.files.map fun file => if file.1 = names then (names, content) else file
      else workspace.files ++ [(names, content)] }

/-- Where a path for writing leads. A path that ends in a slash is followed up to its last name only
and then counts as a directory, whatever that name is. -/
def locateTarget (workspace : Workspace) (path : String) : Except FileError Place :=
  let (start, names, slash) := workspace.split path
  if slash ∧ path.utf8ByteSize ≤ pathLimit then
    (workspace.follow start (names.dropLast ++ ["."])).map fun _ => .directory
  else workspace.locate path

def target (workspace : Workspace) (path : String) : Except FileError (List String) :=
  match workspace.locateTarget path with
  | .error error => .error error
  | .ok .directory => .error .isADirectory
  | .ok (.file names _) => .ok names
  | .ok (.free names) => .ok names

def access : Files (StateM Workspace) where
  Handle := List String
  isFile path := do return (← get).isFile path
  read path := do return (← get).read path
  create path := do
    match (← get).target path with
    | .error error => return .error error
    | .ok names =>
      modify (·.put names .empty)
      return .ok names
  fill names text := do
    modify (·.put names text.toUTF8)
    return .ok ()

def view (workspace : Workspace) : FileSet (List String) where
  content names := workspace.files.lookup names
  target? path := (workspace.target path).toOption

end Workspace

end AudienceScope.CommandLine
