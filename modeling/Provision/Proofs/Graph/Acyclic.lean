import Mathlib.Data.List.Nodup
import Mathlib.Data.List.Perm.Subperm
import Mathlib.Logic.Relation
import Mathlib.Tactic.Common
import Provision.Graph.Cycle
import Provision.Proofs.Dict

/-!
# The search finds a cycle exactly when there is one

A search that ends well leaves a settled list: whatever a name on it depends on stands behind it.
From a settled list no walk returns to where it started.  In the other direction every name on
the path of the search leads to the current one, so that coming back to it closes a cycle.  The
depth of the search never runs out, because the path has no repetition and consists of nodes.
-/

namespace Provision
namespace Graph

variable {g : Graph}

def DependsOn (g : Graph) (a b : String) : Prop := b ∈ g.dependencies a

/-- No name leads back to itself along one or more dependencies. -/
def Acyclic (g : Graph) : Prop := ∀ name, ¬ Relation.TransGen g.DependsOn name name

/-- Only nodes are depended on. -/
def Closed (g : Graph) : Prop := ∀ a b, g.DependsOn a b → b ∈ g.nodes

theorem nodes_nodup (g : Graph) : g.nodes.Nodup := g.edges.keys_nodup

theorem length_le_size {names : List String} (hnodup : names.Nodup)
    (hnodes : ∀ name ∈ names, name ∈ g.nodes) : names.length ≤ g.edges.size := by
  have hlength := (hnodup.subperm hnodes).length_le
  rwa [Graph.nodes, Dict.length_keys] at hlength

theorem mem_nodes_of_dependsOn {a b : String} (h : g.DependsOn a b) : a ∈ g.nodes := by
  by_contra hnode
  have hnone : g.edges.get? a = none := Dict.get?_eq_none_iff.mpr hnode
  simp [DependsOn, dependencies, hnone] at h

/-- Names without repetition, the latest first, each of which comes after all that it depends
on. -/
inductive Settled (g : Graph) : List String → Prop where
  | nil : Settled g []
  | cons {name : String} {rest : List String} (hfresh : name ∉ rest)
      (hdependencies : ∀ other, g.DependsOn name other → other ∈ rest)
      (hrest : Settled g rest) : Settled g (name :: rest)

namespace Settled

theorem nodup {names : List String} (h : g.Settled names) : names.Nodup := by
  induction h with
  | nil => exact List.nodup_nil
  | cons hfresh _ _ ih => exact List.nodup_cons.mpr ⟨hfresh, ih⟩

theorem mem_of_dependsOn {names : List String} (h : g.Settled names) {a b : String}
    (ha : a ∈ names) (hab : g.DependsOn a b) : b ∈ names := by
  induction h with
  | nil => simp at ha
  | cons _ hdependencies _ ih =>
      rcases List.mem_cons.mp ha with rfl | hrest
      · exact List.mem_cons_of_mem _ (hdependencies b hab)
      · exact List.mem_cons_of_mem _ (ih hrest)

theorem mem_of_transGen {names : List String} (h : g.Settled names) {a b : String}
    (ha : a ∈ names) (hab : Relation.TransGen g.DependsOn a b) : b ∈ names := by
  induction hab with
  | single hstep => exact h.mem_of_dependsOn ha hstep
  | tail _ hstep ih => exact h.mem_of_dependsOn ih hstep

/-- A walk from a settled name never comes back to it. -/
theorem not_transGen_self {names : List String} (h : g.Settled names) {a : String}
    (ha : a ∈ names) : ¬ Relation.TransGen g.DependsOn a a := by
  induction h with
  | nil => simp at ha
  | @cons name rest hfresh hdependencies hrest ih =>
      intro hcycle
      rcases List.mem_cons.mp ha with rfl | hmem
      · obtain ⟨next, hfirst, hback⟩ := Relation.TransGen.head'_iff.mp hcycle
        have hnext : next ∈ rest := hdependencies next hfirst
        rcases Relation.reflTransGen_iff_eq_or_transGen.mp hback with rfl | hback
        · exact hfresh hnext
        · exact hfresh (hrest.mem_of_transGen hnext hback)
      · exact ih hmem hcycle

/-- In a settled list what a name depends on stands behind it. -/
theorem mem_after {names before after : List String} {name other : String}
    (h : g.Settled names) (hsplit : names = before ++ name :: after)
    (hother : g.DependsOn name other) : other ∈ after := by
  induction before generalizing names with
  | nil =>
      subst hsplit
      cases h with
      | cons _ hdependencies _ => exact hdependencies other hother
  | cons first before ih =>
      subst hsplit
      cases h with
      | cons _ _ hrest => exact ih hrest rfl

end Settled

/-! ## The path of a search -/

/-- The path to a name: nodes without repetition, each of which leads to the name. -/
structure Leads (g : Graph) (path : List String) (name : String) : Prop where
  nodup : path.Nodup
  nodes : ∀ other ∈ path, other ∈ g.nodes
  leads : ∀ other ∈ path, Relation.TransGen g.DependsOn other name

namespace Leads

theorem nil (name : String) : g.Leads [] name :=
  ⟨List.nodup_nil, by simp, by simp⟩

theorem step {path : List String} {name next : String} (h : g.Leads path name)
    (hfresh : name ∉ path) (hnext : g.DependsOn name next) : g.Leads (name :: path) next := by
  refine ⟨List.nodup_cons.mpr ⟨hfresh, h.nodup⟩, ?_, ?_⟩
  · intro other hother
    rcases List.mem_cons.mp hother with rfl | hpath
    · exact mem_nodes_of_dependsOn hnext
    · exact h.nodes other hpath
  · intro other hother
    rcases List.mem_cons.mp hother with rfl | hpath
    · exact .single hnext
    · exact .tail (h.leads other hpath) hnext

theorem length_le {path : List String} {name : String} (h : g.Leads path name) :
    path.length ≤ g.edges.size :=
  length_le_size h.nodup h.nodes

end Leads

/-! ## What a search leaves behind -/

/-- What a visit under a path adds to the names that are done. -/
structure Extends (g : Graph) (path : List String) (done after : List String) : Prop where
  settled : g.Settled after
  subset : ∀ name ∈ done, name ∈ after
  spares : ∀ name ∈ path, name ∈ after → name ∈ done

theorem visitEach_extends {path : List String}
    {visit : String → List String → Except Loop (List String)} {names done after : List String}
    (hvisit : ∀ name ∈ names, ∀ done after, g.Settled done → visit name done = .ok after →
      g.Extends path done after ∧ name ∈ after)
    (hdone : g.Settled done) (hok : visitEach visit names done = .ok after) :
    g.Extends path done after ∧ ∀ name ∈ names, name ∈ after := by
  induction names generalizing done with
  | nil =>
      cases hok
      exact ⟨⟨hdone, fun _ h => h, fun _ _ h => h⟩, by simp⟩
  | cons name rest ih =>
      simp only [visitEach] at hok
      split at hok
      · contradiction
      · next between hbetween =>
          obtain ⟨hfirst, hname⟩ := hvisit name List.mem_cons_self done between hdone hbetween
          obtain ⟨hothers, hrest⟩ := ih
            (fun other hother => hvisit other (List.mem_cons_of_mem _ hother)) hfirst.settled hok
          refine ⟨⟨hothers.settled, ?_, ?_⟩, ?_⟩
          · intro other hother
            exact hothers.subset other (hfirst.subset other hother)
          · intro other hother hafter
            exact hfirst.spares other hother (hothers.spares other hother hafter)
          · intro other hother
            rcases List.mem_cons.mp hother with rfl | hmem
            · exact hothers.subset _ hname
            · exact hrest other hmem

/-- A visit that ends well settles its name, provided that the depth suffices for the path. -/
theorem visit_extends (depth : Nat) {path done after : List String} {name : String}
    (hpath : g.Leads path name) (hdepth : g.edges.size + 2 ≤ path.length + depth)
    (hdone : g.Settled done) (hok : g.visit depth path name done = .ok after) :
    g.Extends path done after ∧ name ∈ after := by
  induction depth generalizing path done after name with
  | zero =>
      have hlength := hpath.length_le
      omega
  | succ depth ih =>
      simp only [visit] at hok
      split at hok
      · next hmem =>
          cases hok
          exact ⟨⟨hdone, fun _ h => h, fun _ _ h => h⟩, hmem⟩
      · next hfresh =>
          split at hok
          · contradiction
          · next hnew =>
              split at hok
              · contradiction
              · next between hbetween =>
                  cases hok
                  have hdeps : ∀ other ∈ g.dependencies name, ∀ done after, g.Settled done →
                      g.visit depth (name :: path) other done = .ok after →
                      g.Extends (name :: path) done after ∧ other ∈ after := by
                    intro other hother done after hdone hok
                    apply ih (hpath.step hnew hother) _ hdone hok
                    simp only [List.length_cons]
                    omega
                  obtain ⟨hbelow, hall⟩ := visitEach_extends hdeps hdone hbetween
                  have hname : name ∉ between := by
                    intro hmem
                    exact hfresh (hbelow.spares name List.mem_cons_self hmem)
                  refine ⟨⟨.cons hname hall hbelow.settled, ?_, ?_⟩, List.mem_cons_self⟩
                  · intro other hother
                    exact List.mem_cons_of_mem _ (hbelow.subset other hother)
                  · intro other hother hafter
                    rcases List.mem_cons.mp hafter with rfl | hmem
                    · exact absurd hother hnew
                    · exact hbelow.spares other (List.mem_cons_of_mem _ hother) hmem

/-- A search that ends well leaves a settled list of all nodes. -/
theorem settled_of_checkAcyclic (hok : g.checkAcyclic = .ok ()) :
    ∃ done, g.Settled done ∧ ∀ name ∈ g.nodes, name ∈ done := by
  simp only [checkAcyclic] at hok
  split at hok
  · contradiction
  · next done hdone =>
      have hvisit : ∀ name ∈ g.nodes, ∀ done after, g.Settled done →
          g.visit g.searchDepth [] name done = .ok after → g.Extends [] done after ∧ name ∈ after :=
        fun name _ done after hsettled hok =>
          visit_extends g.searchDepth (.nil name) (by simp [searchDepth]) hsettled hok
      obtain ⟨hextends, hall⟩ := visitEach_extends hvisit .nil hdone
      exact ⟨done, hextends.settled, hall⟩

/-! ## What a failure means -/

theorem visitEach_eq_error {visit : String → List String → Except Loop (List String)}
    {names done : List String} {loop : Loop} (herror : visitEach visit names done = .error loop) :
    ∃ name ∈ names, ∃ done, visit name done = .error loop := by
  induction names generalizing done with
  | nil => simp [visitEach] at herror
  | cons name rest ih =>
      simp only [visitEach] at herror
      split at herror
      · next hfirst =>
          cases herror
          exact ⟨name, List.mem_cons_self, done, hfirst⟩
      · obtain ⟨other, hother, found⟩ := ih herror
        exact ⟨other, List.mem_cons_of_mem _ hother, found⟩

/-- A visit that fails has come back to a name on its path. -/
theorem not_acyclic_of_visit (depth : Nat) {path done : List String} {name : String} {loop : Loop}
    (hpath : g.Leads path name) (herror : g.visit depth path name done = .error loop) :
    ¬ g.Acyclic := by
  induction depth generalizing path done name with
  | zero => simp [visit] at herror
  | succ depth ih =>
      simp only [visit] at herror
      split at herror
      · contradiction
      · split at herror
        · next hmem =>
            intro hacyclic
            exact hacyclic name (hpath.leads name hmem)
        · next hnew =>
            split at herror
            · next hbelow =>
                cases herror
                obtain ⟨other, hother, done, hvisit⟩ := visitEach_eq_error hbelow
                exact ih (hpath.step hnew hother) hvisit
            · contradiction

/-- The search succeeds on the graphs without a cycle and on no others. -/
theorem checkAcyclic_eq_ok_iff_acyclic : g.checkAcyclic = .ok () ↔ g.Acyclic := by
  constructor
  · intro hok name hcycle
    obtain ⟨done, hsettled, hall⟩ := settled_of_checkAcyclic hok
    obtain ⟨next, hfirst, _⟩ := Relation.TransGen.head'_iff.mp hcycle
    exact hsettled.not_transGen_self (hall name (mem_nodes_of_dependsOn hfirst)) hcycle
  · intro hacyclic
    simp only [checkAcyclic]
    split
    · next herror =>
        obtain ⟨name, _, done, hvisit⟩ := visitEach_eq_error herror
        exact absurd hacyclic (not_acyclic_of_visit g.searchDepth (.nil name) hvisit)
    · rfl

/-! ## The depth of a search -/

theorem visitEach_congr {visit visit' : String → List String → Except Loop (List String)}
    {names : List String} (hvisit : ∀ name ∈ names, ∀ done, visit name done = visit' name done)
    (done : List String) : visitEach visit names done = visitEach visit' names done := by
  induction names generalizing done with
  | nil => rfl
  | cons name rest ih =>
      simp only [visitEach, hvisit name List.mem_cons_self]
      split
      · rfl
      · exact ih (fun other hother => hvisit other (List.mem_cons_of_mem _ hother)) _

/-- A depth that suffices for the path makes no difference to any greater one. -/
theorem visit_eq_of_le (depth : Nat) {further : Nat} {path : List String} {name : String}
    (hpath : g.Leads path name) (hdepth : g.edges.size + 2 ≤ path.length + depth)
    (hle : depth ≤ further) (done : List String) :
    g.visit further path name done = g.visit depth path name done := by
  induction depth generalizing further path name done with
  | zero =>
      have hlength := hpath.length_le
      omega
  | succ depth ih =>
      obtain ⟨further, rfl⟩ := Nat.exists_eq_add_of_le' (Nat.le_trans (Nat.le_add_left 1 depth) hle)
      simp only [visit]
      split
      · rfl
      · split
        · rfl
        · next hnew =>
            have hdeps : ∀ other ∈ g.dependencies name, ∀ done,
                g.visit further (name :: path) other done =
                  g.visit depth (name :: path) other done := by
              intro other hother done
              apply ih (hpath.step hnew hother) _ (Nat.le_of_succ_le_succ hle)
              simp only [List.length_cons]
              omega
            rw [visitEach_congr hdeps]

/-- No search is cut off: at every greater depth it ends as it does at its own. -/
theorem visitEach_nodes_eq_of_le {depth : Nat} (hdepth : g.searchDepth ≤ depth) :
    visitEach (g.visit depth []) g.nodes [] = visitEach (g.visit g.searchDepth []) g.nodes [] :=
  visitEach_congr (fun name _ => visit_eq_of_le g.searchDepth (.nil name) (by simp [searchDepth])
    hdepth) []

end Graph
end Provision
