/-
# Where items go

What the pipelines of a node write: the lines of its log and the files of its directory tree. A
stored file is stamped with the moment and with an identifier of its own.
-/
import CrawlMesh.Error
import CrawlMesh.Item
import CrawlMesh.Json.Printer
import CrawlMesh.Storage.Tree

namespace CrawlMesh

set_option autoImplicit false

/-- A moment and an identifier. The short text of the moment stands in file names. -/
structure Stamp where
  short : String
  time : String
  id : String
deriving DecidableEq, Repr, Inhabited

/-- Stamps of the beginning of the time whose identifiers are numbers. -/
def Stamp.numbered (n : Nat) : Stamp where
  short := "19700101_000000"
  time := "1970-01-01T00:00:00Z"
  id := String.ofList ((Nat.toDigits 10 (Nat.pow 10 36 + n)).drop 1)

/-- The log and the files of a node, and the stamps for its further files. -/
structure Storage where
  lines : List String
  tree : Storage.Tree
  stamps : Nat → Stamp
  stamped : Nat

namespace Storage

/-- A storage with nothing but some files, their paths beginning in its home directory. -/
def ofFiles (home : Path) (files : List (String × Json)) (stamps : Nat → Stamp) : Storage where
  lines := []
  tree := files.foldl (fun t (name, content) => t.putFile name content) (.new home)
  stamps := stamps
  stamped := 0

/-- The next stamp, which no other file will have. -/
def nextStamp (s : Storage) : Stamp × Storage :=
  (s.stamps s.stamped, { s with stamped := s.stamped + 1 })

/-- Add a line to the log. -/
def log (s : Storage) (line : String) : Storage := { s with lines := s.lines ++ [line] }

/-- The lines of the log, which is empty then. -/
def takeLines (s : Storage) : List String × Storage := (s.lines, { s with lines := [] })

/-- The line of an item in the log. -/
def itemLine (spider : String) (item : Item) : String :=
  "[" ++ spider ++ "] item: " ++ (Json.object item).sorted.render

/-- The directory of a spider. -/
def spiderDirectory (base spider : String) : String := joinPath base spider

/-- The address of an item, if it has one. -/
def itemUrl? (item : Item) : Option Url :=
  match Json.Fields.get? item "url" with
  | some (.text s) => (Url.parse s).toOption
  | _ => none

/-- The name of the directory for an item: the host of its address. -/
def itemHost (item : Item) : String := ((itemUrl? item).bind Url.hostText?).getD "unknown"

/-- The name of the file for a stamp. -/
def fileName (stamp : Stamp) : String := stamp.short ++ "_" ++ stamp.id ++ ".json"

/-- What a file for an item holds. -/
def fileContent (stamp : Stamp) (item : Item) : Json :=
  .object [("data", .object item), ("id", .text stamp.id), ("timestamp", .text stamp.time),
    ("url", Json.ofOption (fun u => .text u.text) (itemUrl? item))]

/-- Store an item in the directory of its host under a base directory. -/
def store (s : Storage) (base : String) (item : Item) : Except Fault Unit × Storage :=
  let (stamp, s) := s.nextStamp
  let directory := joinPath base (itemHost item)
  match s.tree.makeDirectories directory with
  | (.error fault, tree) => (.error fault, { s with tree := tree })
  | (.ok (), tree) =>
    match tree.writeFile directory (fileName stamp) (fileContent stamp item) with
    | .error fault => (.error fault, { s with tree := tree })
    | .ok tree => (.ok (), { s with tree := tree })

end Storage

end CrawlMesh
