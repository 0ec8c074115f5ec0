import Provision.Dict

/-!
# Dependency graphs

A node is a name with the ordered list of the names it depends on.  A list may repeat a name and
may name something that is no node.
-/

namespace Provision

structure Graph where
  edges : Dict (List String)

namespace Graph

def empty : Graph := ⟨.empty⟩

def nodes (g : Graph) : List String := g.edges.keys

/-- The names that a node depends on; a name that is no node depends on nothing. -/
def dependencies (g : Graph) (name : String) : List String := (g.edges.get? name).getD []

/-- Adds a node, over an earlier one of its name. -/
def add (g : Graph) (name : String) (dependencies : List String) : Graph :=
  ⟨g.edges.insert name dependencies⟩

/-- The nodes that depend on a name in name order, each as often as it lists the name. -/
def dependents (g : Graph) (name : String) : List String :=
  g.edges.entries.flatMap (fun entry => (entry.2.filter (· = name)).map (fun _ => entry.1))

end Graph

/-- Why the nodes of a graph have no order. -/
inductive Loop where
  /-- A path along dependencies that comes back to where it started. -/
  | path (names : List String)
  /-- The nodes that never become ready. -/
  | blocked (names : List String)
deriving DecidableEq, Repr

namespace Loop

def text : Loop → String
  | .path names => " -> ".intercalate names
  | .blocked names => ", ".intercalate names

end Loop
end Provision
