import Provision.Proofs.Graph.Emission

/-!
# The nodes that are left over

The emission stops when nothing is ready.  A node that is left over then waits for something that is
no node or for another node that is left over, and as there are only so many nodes, following what
is waited for ends at a name that is no node or comes back to a node that was passed.  What has been
emitted, on the other hand, depends on emitted nodes only and never on itself.  So the nodes that
are left over, and that the failure names, are exactly those from which a cycle or a missing node
can be reached.
-/

namespace Provision
namespace Graph

variable {g : Graph} {name : String}

/-- A name that is depended on and is no node. -/
def Missing (g : Graph) (name : String) : Prop :=
  name ∉ g.nodes ∧ ∃ dependent, g.DependsOn dependent name

/-- A name from which, along any number of dependencies, a name on a cycle or a missing one can be
reached. -/
def Blocked (g : Graph) (name : String) : Prop :=
  ∃ obstacle, Relation.ReflTransGen g.DependsOn name obstacle ∧
    (Relation.TransGen g.DependsOn obstacle obstacle ∨ g.Missing obstacle)

theorem Blocked.of_dependsOn {required : String} (h : g.Blocked required)
    (hrequired : g.DependsOn name required) : g.Blocked name := by
  obtain ⟨obstacle, hreach, hobstacle⟩ := h
  exact ⟨obstacle, .head hrequired hreach, hobstacle⟩

namespace Emission

variable {e : Emission}

theorem Consistent.exists_waitingFor (h : Consistent g e) (hready : e.ready = [])
    (hnode : name ∈ g.nodes) (hleft : name ∉ e.order) :
    ∃ required, g.DependsOn name required ∧ required ∉ e.order := by
  by_contra hnone
  have hmem : name ∈ e.ready := by
    refine (h.ready name).mpr ⟨hnode, hleft, ?_⟩
    intro required hrequired
    by_contra hwaiting
    exact hnone ⟨required, hrequired, hwaiting⟩
  simp [hready] at hmem

/-- From a node that is left over one can go on to what it waits for until a cycle closes or a node
is missing; the path so far is as long as the number of nodes at most. -/
theorem Consistent.blocked_of_notMem (h : Consistent g e) (hready : e.ready = []) (depth : Nat)
    {path : List String} (hpath : g.Leads path name)
    (hdepth : g.edges.size < path.length + depth) (hnode : name ∈ g.nodes)
    (hleft : name ∉ e.order) : g.Blocked name := by
  induction depth generalizing path name with
  | zero =>
      have hlength := hpath.length_le
      omega
  | succ depth ih =>
      by_cases hback : name ∈ path
      · exact ⟨name, .refl, Or.inl (hpath.leads name hback)⟩
      · obtain ⟨required, hrequired, hwaiting⟩ := h.exists_waitingFor hready hnode hleft
        by_cases hmem : required ∈ g.nodes
        · have hfurther : g.edges.size < (name :: path).length + depth := by
            simp only [List.length_cons]
            omega
          exact (ih (hpath.step hback hrequired) hfurther hmem hwaiting).of_dependsOn hrequired
        · exact ⟨required, .single hrequired, Or.inr ⟨hmem, name, hrequired⟩⟩

theorem Consistent.not_blocked_of_mem (h : Consistent g e) (hmem : name ∈ e.order) :
    ¬ g.Blocked name := by
  rintro ⟨obstacle, hreach, hobstacle⟩
  have hemitted : obstacle ∈ e.order.reverse := by
    rcases Relation.reflTransGen_iff_eq_or_transGen.mp hreach with rfl | hpath
    · exact List.mem_reverse.mpr hmem
    · exact h.settled.mem_of_transGen (List.mem_reverse.mpr hmem) hpath
  rcases hobstacle with hcycle | ⟨hmissing, -⟩
  · exact h.settled.not_transGen_self hemitted hcycle
  · exact hmissing (h.nodes obstacle (List.mem_reverse.mp hemitted))

/-- When nothing is ready any more, the nodes that have been emitted are those that are not
blocked. -/
theorem Consistent.mem_order_iff_not_blocked (h : Consistent g e) (hready : e.ready = [])
    (hnode : name ∈ g.nodes) : name ∈ e.order ↔ ¬ g.Blocked name := by
  constructor
  · exact h.not_blocked_of_mem
  · intro hfree
    by_contra hleft
    exact hfree (h.blocked_of_notMem hready (g.edges.size + 1) (.nil name) (by simp) hnode hleft)

theorem Consistent.order_perm_iff_not_blocked (h : Consistent g e) (hready : e.ready = []) :
    e.order.Perm g.nodes ↔ ∀ name ∈ g.nodes, ¬ g.Blocked name := by
  rw [List.perm_ext_iff_of_nodup h.order_nodup g.nodes_nodup]
  constructor
  · intro hall name hnode
    exact h.not_blocked_of_mem ((hall name).mpr hnode)
  · intro hfree name
    exact ⟨h.nodes name, fun hnode =>
      (h.mem_order_iff_not_blocked hready hnode).mpr (hfree name hnode)⟩

/-! ## The counters at the end -/

theorem leftOver_increasing (e : Emission) : e.leftOver.Pairwise (· < ·) :=
  List.pairwise_map.mpr (e.counters.increasing.filter _)

theorem Consistent.mem_leftOver_iff (h : Consistent g e) :
    name ∈ e.leftOver ↔ ∃ required, g.DependsOn name required ∧ required ∉ e.order := by
  have hcounter :
      name ∈ e.leftOver ↔ ∃ count, e.counters.get? name = some count ∧ 0 < count := by
    simp [leftOver, Dict.get?_eq_some_iff]
  rw [hcounter, ← pending_pos_iff]
  constructor
  · rintro ⟨count, hcount, hpositive⟩
    have hnode : name ∈ g.nodes := h.keys ▸ Dict.mem_keys_of_get? hcount
    rw [h.counter name hnode, Option.some.injEq] at hcount
    rwa [hcount]
  · intro hpositive
    obtain ⟨required, hrequired, -⟩ := pending_pos_iff.mp hpositive
    exact ⟨_, h.counter name (mem_nodes_of_dependsOn hrequired), hpositive⟩

theorem Consistent.mem_leftOver_iff_blocked (h : Consistent g e) (hready : e.ready = []) :
    name ∈ e.leftOver ↔ name ∈ g.nodes ∧ g.Blocked name := by
  rw [h.mem_leftOver_iff]
  constructor
  · rintro ⟨required, hrequired, hwaiting⟩
    have hnode : name ∈ g.nodes := mem_nodes_of_dependsOn hrequired
    refine ⟨hnode, ?_⟩
    by_contra hfree
    have hmem : name ∈ e.order := (h.mem_order_iff_not_blocked hready hnode).mpr hfree
    have hemitted := h.settled.mem_of_dependsOn (List.mem_reverse.mpr hmem) hrequired
    exact hwaiting (List.mem_reverse.mp hemitted)
  · rintro ⟨hnode, hblocked⟩
    exact h.exists_waitingFor hready hnode (fun hmem => h.not_blocked_of_mem hmem hblocked)

end Emission

/-! ## Success and failure -/

theorem exists_emissionOrder_iff_not_blocked :
    (∃ order, g.emissionOrder = .ok order) ↔ ∀ name ∈ g.nodes, ¬ g.Blocked name := by
  rw [← (Emission.final_consistent g).order_perm_iff_not_blocked (Emission.ready_final g)]
  constructor
  · rintro ⟨order, hok⟩
    obtain ⟨rfl, hperm⟩ := emissionOrder_eq_ok_iff.mp hok
    exact hperm
  · intro hperm
    exact ⟨_, emissionOrder_eq_ok_iff.mpr ⟨rfl, hperm⟩⟩

/-- The emission orders every graph in which the search finds no cycle and only nodes are depended
on. -/
theorem exists_emissionOrder (hok : g.checkAcyclic = .ok ()) (hclosed : g.Closed) :
    ∃ order, g.emissionOrder = .ok order := by
  refine exists_emissionOrder_iff_not_blocked.mpr ?_
  rintro name - ⟨obstacle, -, hcycle | ⟨hmissing, dependent, hdepends⟩⟩
  · exact checkAcyclic_eq_ok_iff_acyclic.mp hok obstacle hcycle
  · exact hmissing (hclosed dependent obstacle hdepends)

/-- The emission fails exactly when some node is blocked, and then it names the blocked nodes, all
of them and in increasing order. -/
theorem emissionOrder_fails_iff_blocked (g : Graph) :
    ((∃ loop, g.emissionOrder = .error loop) ↔ ∃ name ∈ g.nodes, g.Blocked name) ∧
      ∀ loop, g.emissionOrder = .error loop →
        ∃ names, loop.text = ", ".intercalate names ∧ names.Pairwise (· < ·) ∧
          ∀ name, name ∈ names ↔ name ∈ g.nodes ∧ g.Blocked name := by
  constructor
  · have hfails :
        (∃ loop, g.emissionOrder = .error loop) ↔ ¬ ∃ order, g.emissionOrder = .ok order := by
      cases g.emissionOrder <;> simp
    rw [hfails, exists_emissionOrder_iff_not_blocked]
    simp only [not_forall, not_not, exists_prop]
  · intro loop herror
    obtain rfl := eq_blocked_of_emissionOrder herror
    exact ⟨_, rfl, Emission.leftOver_increasing _, fun name =>
      (Emission.final_consistent g).mem_leftOver_iff_blocked (Emission.ready_final g)⟩

example : (((empty.add "app" ["lib", "zip"]).add "lib" []).add "map" ["app"]).emissionOrder =
    .error (.blocked ["app", "map"]) := by
  decide +kernel

end Graph
end Provision
