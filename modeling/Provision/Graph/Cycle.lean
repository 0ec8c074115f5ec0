import Provision.Graph.Basic

/-!
# Search for a cycle

A depth-first search visits the nodes in name order and carries the path of names that led to the
current one.  Coming back to a name on the path closes a cycle; a name whose dependencies have
all been visited is done and is not visited again.
-/

namespace Provision
namespace Graph

/-- The part of a path from a name onwards, closed by that name.  The path lists the latest name
first. -/
def closedPath (name : String) (path : List String) : List String :=
  name :: (path.takeWhile (· ≠ name)).reverse ++ [name]

/-- Visits names one after the other, handing on the names that are done. -/
def visitEach (visit : String → List String → Except Loop (List String)) :
    List String → List String → Except Loop (List String)
  | [], done => .ok done
  | name :: rest, done =>
      match visit name done with
      | .error loop => .error loop
      | .ok done => visitEach visit rest done

/-- Visits a name and everything it depends on, to the given depth; answers the names that are
done. -/
def visit (g : Graph) : (depth : Nat) → (path : List String) → String → List String →
    Except Loop (List String)
  | 0, _, _, done => .ok done
  | depth + 1, path, name, done =>
      if name ∈ done then .ok done
      else if name ∈ path then .error (.path (closedPath name path))
      else
        match visitEach (g.visit depth (name :: path)) (g.dependencies name) done with
        | .error loop => .error loop
        | .ok done => .ok (name :: done)

/-- A path has no name twice and only its last name may be no node, so no search is deeper. -/
def searchDepth (g : Graph) : Nat := g.edges.size + 2

/-- Rejects a graph in which some node depends on itself, directly or through others. -/
def checkAcyclic (g : Graph) : Except Loop Unit :=
  match visitEach (g.visit g.searchDepth []) g.nodes [] with
  | .error loop => .error loop
  | .ok _ => .ok ()

end Graph
end Provision
