/-
# Membership

The nodes that a node knows of, in ascending order of their names and no two of one name.
-/
import CrawlMesh.Mesh.NodeInfo

namespace CrawlMesh

set_option autoImplicit false

/-- The members of a cluster as one node sees them. -/
structure Membership where
  members : List NodeInfo
deriving DecidableEq, Repr, Inhabited

namespace Membership

def empty : Membership := ⟨[]⟩

def get? (m : Membership) (name : String) : Option NodeInfo := m.members.find? (·.name == name)

def contains (m : Membership) (name : String) : Bool := (m.get? name).isSome

/-- Put a node at its place among nodes in ascending order. -/
def insertNode (node : NodeInfo) : List NodeInfo → List NodeInfo
  | [] => [node]
  | n :: rest =>
    if node.name < n.name then node :: n :: rest
    else if node.name == n.name then node :: rest
    else n :: insertNode node rest

/-- Add a node in place of one of the same name. -/
def insert (m : Membership) (node : NodeInfo) : Membership := ⟨insertNode node m.members⟩

/-- Add a node. The answer tells whether its name was new. -/
def add (m : Membership) (node : NodeInfo) : Bool × Membership :=
  (!m.contains node.name, m.insert node)

def erase (m : Membership) (name : String) : Membership := ⟨m.members.filter (·.name != name)⟩

/-- Delete the node of a name, and tell which one it was. -/
def delete (m : Membership) (name : String) : Option NodeInfo × Membership :=
  (m.get? name, m.erase name)

def size (m : Membership) : Nat := m.members.length

def isEmpty (m : Membership) : Bool := m.members.isEmpty

end Membership

end CrawlMesh
