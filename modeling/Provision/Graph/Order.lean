import Provision.Graph.Basic

/-!
# Emission order

Every node carries a counter of the dependencies that have not been emitted.  Of the nodes whose
counter is zero the smallest name is emitted next, and its dependents are counted down one by
one.
-/

namespace Provision
namespace Graph

/-- Puts a name in its place in an increasing list, once. -/
def insertName (name : String) : List String → List String
  | [] => [name]
  | first :: rest =>
      if name < first then name :: first :: rest
      else if name = first then first :: rest
      else first :: insertName name rest

/-- The state of the emission. -/
structure Emission where
  /-- Per node, how many entries of its dependency list have not been emitted. -/
  counters : Dict Nat
  /-- The nodes whose counter is zero and that have not been emitted, in increasing order. -/
  ready : List String
  order : List String

namespace Emission

def initial (g : Graph) : Emission :=
  { counters := g.edges.mapValues (fun _ dependencies => dependencies.length)
    ready := (g.edges.entries.filter (fun entry => entry.2.isEmpty)).map Prod.fst
    order := [] }

/-- Counts one entry of a dependent's list as emitted. -/
def countDown (e : Emission) (dependent : String) : Emission :=
  match e.counters.get? dependent with
  | none => e
  | some counter =>
      { e with
        counters := e.counters.insert dependent (counter - 1)
        ready := if counter - 1 = 0 then insertName dependent e.ready else e.ready }

/-- Emits a ready name. -/
def emit (g : Graph) (e : Emission) (current : String) (others : List String) : Emission :=
  (g.dependents current).foldl countDown
    { e with ready := others, order := e.order ++ [current] }

/-- Emits ready names, smallest first, as long as there are any. -/
def run (g : Graph) : (steps : Nat) → Emission → Emission
  | 0, e => e
  | steps + 1, e =>
      match e.ready with
      | [] => e
      | current :: others => run g steps (e.emit g current others)

end Emission

/-- The nodes in an order in which each comes after all of its dependencies and, as far as that
leaves a choice, smaller names come first.  A node is emitted once, so there are at most as many
steps as nodes. -/
def emissionOrder (g : Graph) : Except Loop (List String) :=
  let final := Emission.run g g.edges.size (.initial g)
  if final.order.length ≠ g.edges.size then
    .error (.blocked ((final.counters.entries.filter (fun entry => 0 < entry.2)).map Prod.fst))
  else .ok final.order

end Graph
end Provision
