import Mathlib.Data.List.Chain
import Provision.Proofs.Graph.Acyclic

/-!
# The cycle that a search reports

The path of a search is a walk along dependencies, read from its end.  Coming back to a name on it
cuts off the walk from that name onwards, so what is reported starts and ends with one name, follows
dependencies in between and repeats no other name.
-/

namespace Provision
namespace Graph

variable {g : Graph} {path : List String} {name : String}

/-- A walk along dependencies that comes back to where it started and repeats no other name. -/
def IsCycle (g : Graph) (names : List String) : Prop :=
  ∃ start between, names = start :: (between ++ [start]) ∧ (start :: between).Nodup ∧
    names.IsChain g.DependsOn

/-- The path to a name, the latest first: nodes without repetition, each of which depends on the one
before it. -/
structure Trail (g : Graph) (path : List String) (name : String) : Prop where
  nodup : path.Nodup
  chain : (name :: path).IsChain (fun later earlier => g.DependsOn earlier later)

namespace Trail

theorem nil (name : String) : g.Trail [] name :=
  ⟨List.nodup_nil, .singleton name⟩

theorem step {next : String} (h : g.Trail path name) (hfresh : name ∉ path)
    (hnext : g.DependsOn name next) : g.Trail (name :: path) next :=
  ⟨List.nodup_cons.mpr ⟨hfresh, h.nodup⟩, .cons_cons hnext h.chain⟩

/-- Coming back to a name on the path closes a cycle. -/
theorem isCycle_closedPath (h : g.Trail path name) (hback : name ∈ path) :
    g.IsCycle (closedPath name path) := by
  obtain ⟨later, earlier, rfl, hlater⟩ := List.eq_append_cons_of_mem hback
  have hcut : (later ++ name :: earlier).takeWhile (· ≠ name) = later := by
    have hall : ∀ other ∈ later, decide (other ≠ name) = true := by
      intro other hother
      exact decide_eq_true (fun heq => hlater (heq ▸ hother))
    rw [List.takeWhile_append_of_pos hall]
    simp
  have hwalk : (name :: (later ++ [name])).IsChain (fun after before => g.DependsOn before after) :=
    h.chain.prefix ⟨earlier, by simp⟩
  have hfresh : later.Nodup := (List.nodup_append.mp h.nodup).1
  refine ⟨name, later.reverse, ?_, ?_, ?_⟩
  · rw [closedPath, hcut, List.cons_append]
  · exact List.nodup_cons.mpr ⟨by simpa using hlater, List.nodup_reverse.mpr hfresh⟩
  · rw [closedPath, hcut, ← List.isChain_reverse]
    simpa using hwalk

end Trail

/-- A visit that fails reports a cycle. -/
theorem exists_cycle_of_visit (depth : Nat) {done : List String} {loop : Loop}
    (hpath : g.Trail path name) (herror : g.visit depth path name done = .error loop) :
    ∃ names, loop = .path names ∧ g.IsCycle names := by
  induction depth generalizing path done name with
  | zero => simp [visit] at herror
  | succ depth ih =>
      simp only [visit] at herror
      split at herror
      · contradiction
      · split at herror
        · next hback =>
            cases herror
            exact ⟨_, rfl, hpath.isCycle_closedPath hback⟩
        · next hnew =>
            split at herror
            · next hbelow =>
                cases herror
                obtain ⟨other, hother, done, hvisit⟩ := visitEach_eq_error hbelow
                exact ih (hpath.step hnew hother) hvisit
            · contradiction

/-- The search reports a cycle of the graph and nothing else. -/
theorem exists_cycle_of_checkAcyclic {loop : Loop} (herror : g.checkAcyclic = .error loop) :
    ∃ names, loop = .path names ∧ g.IsCycle names := by
  simp only [checkAcyclic] at herror
  split at herror
  · next hsearch =>
      cases herror
      obtain ⟨name, -, done, hvisit⟩ := visitEach_eq_error hsearch
      exact exists_cycle_of_visit g.searchDepth (.nil name) hvisit
  · contradiction

theorem IsCycle.mem_nodes {names : List String} (h : g.IsCycle names) (hname : name ∈ names) :
    name ∈ g.nodes := by
  obtain ⟨start, between, rfl, -, hchain⟩ := h
  -- Where the cycle ends it starts, so each of its names has one behind it.
  have hearly : name ∈ start :: between := by
    rw [← List.cons_append, List.mem_append, List.mem_singleton] at hname
    rcases hname with hmem | rfl
    · exact hmem
    · exact List.mem_cons_self
  obtain ⟨before, after, hsplit⟩ := List.append_of_mem hearly
  rw [← List.cons_append, hsplit, List.append_assoc, List.cons_append] at hchain
  have hback := hchain.right_of_append
  cases after with
  | nil => exact mem_nodes_of_dependsOn (List.isChain_cons_cons.mp hback).1
  | cons next after => exact mem_nodes_of_dependsOn (List.isChain_cons_cons.mp hback).1

/-- The search succeeds on the graphs in which no name leads back to itself; on every other one it
names, joined by arrows, the nodes of a cycle.  The depth to which it is run never cuts it off. -/
theorem checkAcyclic_succeeds_or_reports_cycle (g : Graph) :
    (g.checkAcyclic = .ok () ↔ ∀ name, ¬ Relation.TransGen g.DependsOn name name) ∧
      (∀ loop, g.checkAcyclic = .error loop →
        ∃ names, loop.text = " -> ".intercalate names ∧ g.IsCycle names ∧
          ∀ name ∈ names, name ∈ g.nodes) ∧
      ∀ depth, g.searchDepth ≤ depth →
        visitEach (g.visit depth []) g.nodes [] =
          visitEach (g.visit g.searchDepth []) g.nodes [] := by
  refine ⟨checkAcyclic_eq_ok_iff_acyclic, ?_, fun _ => visitEach_nodes_eq_of_le⟩
  intro loop herror
  obtain ⟨names, rfl, hcycle⟩ := exists_cycle_of_checkAcyclic herror
  exact ⟨names, rfl, hcycle, fun _ => hcycle.mem_nodes⟩

example : ((empty.add "fmt" ["lint", "fmt"]).add "lint" ["fmt"]).checkAcyclic =
    .error (.path ["fmt", "lint", "fmt"]) := by
  decide +kernel

end Graph
end Provision
