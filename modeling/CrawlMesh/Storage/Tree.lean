/-
# Directory trees

Directories and files under their paths, a path being the names from the root on; the root is
the empty path and always there. A path as text is walked from its start, or from the home
directory if it does not begin at the root; two points lead back to the directory above.
-/
import CrawlMesh.Json.Basic
import CrawlMesh.Text.Split

namespace CrawlMesh.Storage

set_option autoImplicit false

/-- What is found under a path. -/
inductive Entry
  | directory
  | file (content : Json)
deriving Repr, Inhabited

def Entry.isDirectory : Entry → Bool
  | .directory => true
  | .file _ => false

/-- Why an access fails. -/
inductive Fault
  | missing
  | exists
  | notDirectory
  | isDirectory
  | nameTooLong
  | zeroCharacter
deriving DecidableEq, Repr

namespace Fault

def message : Fault → String
  | .missing => "No such file or directory (os error 2)"
  | .exists => "File exists (os error 17)"
  | .notDirectory => "Not a directory (os error 20)"
  | .isDirectory => "Is a directory (os error 21)"
  | .nameTooLong => "File name too long (os error 36)"
  | .zeroCharacter => "file name contained an unexpected NUL byte"

end Fault

/-- The names from the root to an entry. -/
abbrev Path := List String

/-- A tree of directories and files. -/
structure Tree where
  home : Path
  entries : List (Path × Entry)
deriving Inhabited

/-! ## Paths in text -/

/-- A path behind another one; one that begins at the root stands for itself. -/
def joinPath (base path : String) : String :=
  if path.startsWith "/" || base.isEmpty then path
  else if base.endsWith "/" then base ++ path
  else base ++ "/" ++ path

/-- The names in a path; empty ones and single points mean nothing. -/
def names (path : String) : List String :=
  ((Text.splitWhere (· == '/') path.toList).map String.ofList).filter fun name =>
    !name.isEmpty && name != "."

/-- The longest name in bytes. -/
def maxName : Nat := 255

namespace Tree

/-- A tree of nothing but the directories on the way to its home. -/
def new (home : Path) : Tree :=
  ⟨home, (List.range home.length).map fun n => (home.take (n + 1), .directory)⟩

def get? (t : Tree) (path : Path) : Option Entry :=
  if path.isEmpty then some .directory else (t.entries.find? (·.1 == path)).map (·.2)

def isDirectory (t : Tree) (path : Path) : Bool := ((t.get? path).map Entry.isDirectory).getD false

/-- Put an entry under a path. -/
def set (t : Tree) (path : Path) (entry : Entry) : Tree :=
  { t with entries := t.entries.filter (·.1 != path) ++ [(path, entry)] }

/-- Walk along names from a directory. -/
def walk (t : Tree) (at_ : Path) : List String → Except Fault Path
  | [] => .ok at_
  | name :: rest =>
    if name == ".." then walk t at_.dropLast rest
    else if name.utf8ByteSize > maxName then .error .nameTooLong
    else
      match t.get? (at_ ++ [name]) with
      | none => .error .missing
      | some .directory => walk t (at_ ++ [name]) rest
      | some (.file _) => .error .notDirectory

/-- Make one directory inside one that exists. -/
def makeLast (t : Tree) (start : Path) (parents : List String) (name : String) :
    Except Fault Tree := do
  let parent ← t.walk start parents
  if name == ".." then throw .exists
  else if name.utf8ByteSize > maxName then throw .nameTooLong
  else if (t.get? (parent ++ [name])).isSome then throw .exists
  else return t.set (parent ++ [name]) .directory

/-- Do names lead to a directory? -/
def leadsToDirectory (t : Tree) (start : Path) (path : List String) : Bool :=
  (t.walk start path).isOk

/-- What a directory that could not be made comes to: it may be there already. -/
def settle (t : Tree) (start : Path) (path : List String) (fault : Fault) : Except Fault Unit :=
  if t.leadsToDirectory start path then .ok () else .error fault

/-- Make a directory and those above it that are missing, the names given from the last one on.
What was made before a failure stays. -/
def makeAll (t : Tree) (start : Path) : List String → Except Fault Unit × Tree
  | [] => (.ok (), t)
  | name :: above =>
    match t.makeLast start above.reverse name with
    | .ok t => (.ok (), t)
    | .error .missing =>
      match makeAll t start above with
      | (.error fault, t) => (.error fault, t)
      | (.ok (), t) =>
        match t.makeLast start above.reverse name with
        | .ok t => (.ok (), t)
        | .error fault => (t.settle start (name :: above).reverse fault, t)
    | .error fault => (t.settle start (name :: above).reverse fault, t)

/-- Where a path begins. -/
def startOf (t : Tree) (path : String) : Path := if path.startsWith "/" then [] else t.home

/-- What a path leads to; one that ends in a slash or a point leads to a directory only. -/
def find (t : Tree) (path : String) : Except Fault Entry :=
  if path.toList.contains (Char.ofNat 0) then .error .zeroCharacter
  else
    match (names path).reverse with
    | [] => .ok .directory
    | name :: above => do
      let directory ← t.walk (t.startOf path) above.reverse
      if name == ".." then return .directory
      else if name.utf8ByteSize > maxName then throw .nameTooLong
      else
        match t.get? (directory ++ [name]) with
        | none => throw .missing
        | some .directory => return .directory
        | some (.file content) =>
          if path.endsWith "/" || path.endsWith "/." then throw .notDirectory
          else return .file content

/-- The content of a file. -/
def read (t : Tree) (path : String) : Except Fault Json := do
  match ← t.find path with
  | .directory => throw .isDirectory
  | .file content => return content

/-- Does a path end in a single point? -/
def endsInPoint (path : String) : Bool :=
  ((Text.splitWhere (· == '/') path.toList).filter fun part => !part.isEmpty).getLast? == some ['.']

/-- Make a directory and those above it that are missing. A path that ends in a single point
names a directory that has to be there: only those above it are made. -/
def makeDirectories (t : Tree) (path : String) : Except Fault Unit × Tree :=
  let start := t.startOf path
  let there (t : Tree) : Except Fault Unit := (t.walk start (names path)).map fun _ => ()
  if path.toList.contains (Char.ofNat 0) then (.error .zeroCharacter, t)
  else if endsInPoint path then
    match there t with
    | .error .missing =>
      match t.makeAll start (names path).reverse.tail with
      | (.error fault, t) => (.error fault, t)
      | (.ok (), t) => (there t, t)
    | found => (found, t)
  else t.makeAll start (names path).reverse

/-- Put a file under a path, and the directories above it. -/
def putFile (t : Tree) (path : String) (content : Json) : Tree :=
  let step (p : Path) (name : String) : Path := if name == ".." then p.dropLast else p ++ [name]
  let place := (names path).foldl step (t.startOf path)
  let above := (List.range place.length).map fun n => place.take n
  (above.foldl (fun t p => if p.isEmpty then t else t.set p .directory) t).set place (.file content)

/-- What lies below a directory and has nothing below itself, under the path from there. -/
def leaves (t : Tree) (base : Path) : List (Path × Entry) :=
  let below (p q : Path) : Bool := p.isPrefixOf q && q != p
  let entries := t.entries.filter fun e => below base e.1
  (entries.filter fun e => !entries.any fun f => below e.1 f.1).map fun (p, e) =>
    (p.drop base.length, e)

/-- Write a file into a directory that exists. -/
def writeFile (t : Tree) (directory name : String) (content : Json) : Except Fault Tree := do
  let parent ← t.walk (t.startOf directory) (names directory)
  if t.isDirectory (parent ++ [name]) then throw .exists
  else return t.set (parent ++ [name]) (.file content)

end Tree

end CrawlMesh.Storage
