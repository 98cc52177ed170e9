/-
# Journals

What a node notes for its operator while it runs: lines of a level, each from one part of the
program.
-/
namespace CrawlMesh

set_option autoImplicit false

/-- How much a line matters. -/
inductive Level
  | info
  | warn
  | error
deriving DecidableEq, Repr, Inhabited

def Level.text : Level → String
  | .info => "INFO"
  | .warn => "WARN"
  | .error => "ERROR"

/-- The part of the program a line is from. -/
inductive Origin
  | program
  | node
  | crawler
deriving DecidableEq, Repr, Inhabited

/-- The name of a part of a program. -/
def Origin.text (program : String) : Origin → String
  | .program => program
  | .node => program ++ "::node"
  | .crawler => program ++ "::crawler"

/-- A line of a journal. -/
structure Note where
  level : Level
  origin : Origin
  text : String
deriving DecidableEq, Repr, Inhabited

/-- A line as it is written. -/
def Note.line (program : String) (n : Note) : String :=
  n.level.text ++ " " ++ n.origin.text program ++ " " ++ n.text

/-- The lines noted so far, first one first. -/
abbrev Journal := List Note

end CrawlMesh
