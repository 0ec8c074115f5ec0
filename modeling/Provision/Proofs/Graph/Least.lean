import Mathlib.Data.List.Induction
import Mathlib.Data.List.Lex
import Provision.Proofs.Graph.Blocked

/-!
# The emission order is the least

An arrangement of the nodes puts every node behind what it depends on.  Up to the first place at
which an arrangement differs from the emission order both have emitted the same names, so the name
that the arrangement puts there was ready, and the emission took a smaller one.  Among all
arrangements the emission order is therefore the least in the lexicographic order of the names, and
which lists are arrangements decides what the emission does: where its order is an arrangement also
of a graph with more dependencies, it is the emission order of that graph, too.
-/

namespace Provision
namespace Graph

variable {g : Graph} {order other before after : List String} {name : String}

/-! ## Arrangements -/

theorem RespectedBy.of_append (h : g.RespectedBy (before ++ after)) : g.RespectedBy before := by
  intro front name back hsplit required hrequired
  exact h front name (back ++ after) (by simp [hsplit]) required hrequired

theorem RespectedBy.settled_reverse (h : g.RespectedBy order) (hnodup : order.Nodup) :
    g.Settled order.reverse := by
  induction order using List.reverseRecOn with
  | nil => exact .nil
  | append_singleton front name ih =>
      obtain ⟨hfront, -, hfresh⟩ := List.nodup_append.mp hnodup
      rw [List.reverse_append]
      refine .cons ?_ ?_ (ih h.of_append hfront)
      · intro hmem
        exact hfresh name (List.mem_reverse.mp hmem) name List.mem_cons_self rfl
      · intro required hrequired
        exact List.mem_reverse.mpr (h front name [] rfl required hrequired)

/-- The arrangements are the permutations of the nodes in which every node comes after all of its
dependencies. -/
theorem emissionOrdered_iff :
    g.EmissionOrdered order ↔ order.Perm g.nodes ∧ g.RespectedBy order := by
  constructor
  · intro h
    exact ⟨h.perm, h.respectedBy⟩
  · rintro ⟨hperm, hrespected⟩
    have hnodup : order.Nodup := hperm.nodup_iff.mpr g.nodes_nodup
    exact ⟨hperm, hrespected.settled_reverse hnodup⟩

namespace EmissionOrdered

theorem nodup (h : g.EmissionOrdered order) : order.Nodup :=
  h.perm.nodup_iff.mpr g.nodes_nodup

/-- What depends on a name stands somewhere behind it. -/
theorem sublist (h : g.EmissionOrdered order) {required : String}
    (hrequired : g.DependsOn name required) : [required, name].Sublist order := by
  have hname : name ∈ order := h.perm.mem_iff.mpr (mem_nodes_of_dependsOn hrequired)
  obtain ⟨before, after, hsplit⟩ := List.append_of_mem hname
  have hbefore : required ∈ before := h.mem_before hsplit hrequired
  exact List.cons_sublist_iff.mpr ⟨before, name :: after, hsplit, hbefore, by simp⟩

theorem of_sublist (hperm : order.Perm g.nodes)
    (h : ∀ name required, g.DependsOn name required → [required, name].Sublist order) :
    g.EmissionOrdered order := by
  refine emissionOrdered_iff.mpr ⟨hperm, ?_⟩
  intro before name after hsplit required hrequired
  obtain ⟨front, back, hcut, hfront, hback⟩ :=
    List.cons_sublist_iff.mp (h name required hrequired)
  obtain ⟨between, rest, hname⟩ := List.append_of_mem (List.singleton_sublist.mp hback)
  -- A name stands at one place only, so both ways to cut in front of it are the same.
  have hsame : before ++ name :: after = (front ++ between) ++ name :: rest := by
    rw [← hsplit, hcut, hname, List.append_assoc]
  have hfresh : name ∉ before ++ after := by
    have hnodup : order.Nodup := hperm.nodup_iff.mpr g.nodes_nodup
    rw [hsplit, List.nodup_middle] at hnodup
    exact (List.nodup_cons.mp hnodup).1
  rw [List.mem_append, not_or] at hfresh
  have hbefore := ((List.append_cons_inj_of_notMem hfresh.1 hfresh.2).mp hsame).1
  rw [hbefore]
  exact List.mem_append_left _ hfront

/-- Where nodes can be arranged, only nodes are depended on. -/
theorem closed (h : g.EmissionOrdered order) : g.Closed := by
  intro a b hab
  exact h.perm.mem_iff.mp ((h.sublist hab).subset List.mem_cons_self)

end EmissionOrdered

/-- The emission has an order wherever the nodes can be arranged. -/
theorem exists_emissionOrder_iff :
    (∃ order, g.emissionOrder = .ok order) ↔ ∃ order, g.EmissionOrdered order := by
  constructor
  · rintro ⟨order, hok⟩
    exact ⟨order, emissionOrdered_of_emissionOrder hok⟩
  · rintro ⟨order, h⟩
    exact exists_emissionOrder (checkAcyclic_eq_ok_iff_acyclic.mpr h.acyclic) h.closed

/-! ## The smallest name that is ready -/

/-- A node that can come next after some names. -/
structure ReadyAfter (g : Graph) (emitted : List String) (name : String) : Prop where
  node : name ∈ g.nodes
  fresh : name ∉ emitted
  dependencies : ∀ required, g.DependsOn name required → required ∈ emitted

theorem EmissionOrdered.readyAfter (h : g.EmissionOrdered order)
    (hsplit : order = before ++ name :: after) : g.ReadyAfter before name := by
  have hnodup := h.nodup
  rw [hsplit, List.nodup_middle] at hnodup
  refine ⟨h.perm.mem_iff.mp (by simp [hsplit]), ?_, fun _ => h.mem_before hsplit⟩
  intro hmem
  exact (List.nodup_cons.mp hnodup).1 (List.mem_append_left _ hmem)

/-- No name of an order has a smaller one that could have stood in its place. -/
def TakesSmallest (g : Graph) (order : List String) : Prop :=
  ∀ before name after, order = before ++ name :: after →
    ∀ other, g.ReadyAfter before other → ¬ other < name

namespace Emission

theorem Consistent.takesSmallest_append {e : Emission} (h : Consistent g e) {current : String}
    {others : List String} (hready : e.ready = current :: others)
    (hsmallest : g.TakesSmallest e.order) : g.TakesSmallest (e.order ++ [current]) := by
  intro before name after hsplit other hother
  rcases List.eq_nil_or_concat after with rfl | ⟨front, last, rfl⟩
  · -- The last name is the first of the ready ones, which are listed in increasing order.
    obtain ⟨rfl, hlast⟩ := List.append_inj' hsplit rfl
    cases hlast
    have hmem : other ∈ e.ready :=
      (h.ready other).mpr ⟨hother.node, hother.fresh, hother.dependencies⟩
    have hincreasing := h.increasing
    rw [hready] at hmem hincreasing
    rcases List.mem_cons.mp hmem with rfl | hothers
    · exact String.lt_irrefl _
    · exact String.lt_asymm ((List.pairwise_cons.mp hincreasing).1 other hothers)
  · rw [List.concat_eq_append, ← List.cons_append, ← List.append_assoc] at hsplit
    exact hsmallest before name front (List.append_inj' hsplit rfl).1 other hother

theorem takesSmallest_run (steps : Nat) {e : Emission} (h : Consistent g e)
    (hsmallest : g.TakesSmallest e.order) : g.TakesSmallest (run g steps e).order := by
  induction steps generalizing e with
  | zero => exact hsmallest
  | succ steps ih =>
      simp only [run]
      split
      · exact hsmallest
      · next current others hready =>
          apply ih (h.emit hready)
          rw [order_emit]
          exact h.takesSmallest_append hready hsmallest

end Emission

theorem takesSmallest_of_emissionOrder (hok : g.emissionOrder = .ok order) :
    g.TakesSmallest order := by
  obtain ⟨rfl, -⟩ := emissionOrder_eq_ok_iff.mp hok
  apply Emission.takesSmallest_run _ (Emission.initial_consistent g)
  intro before name after hsplit
  simp [Emission.initial] at hsplit

/-! ## Comparing arrangements -/

/-- At the first place where two arrangements differ, one that takes the smallest names has the
smaller one. -/
theorem TakesSmallest.eq_or_lex_behind (hsmallest : g.TakesSmallest order)
    (hother : g.EmissionOrdered other) (front : List String) {rest rest' : List String}
    (horder : order = front ++ rest) (hsplit : other = front ++ rest')
    (hlength : rest.length = rest'.length) : rest = rest' ∨ List.Lex (· < ·) rest rest' := by
  induction rest generalizing front rest' with
  | nil => exact Or.inl (List.length_eq_zero_iff.mp hlength.symm).symm
  | cons name rest ih =>
      cases rest' with
      | nil => simp at hlength
      | cons first rest' =>
          rcases Std.lt_trichotomy name first with hless | rfl | hgreater
          · exact Or.inr (.rel hless)
          · have hbehind : rest = rest' ∨ List.Lex (· < ·) rest rest' :=
              ih (front ++ [name]) (by simp [horder]) (by simp [hsplit]) (Nat.succ.inj hlength)
            exact hbehind.imp (congrArg (List.cons name)) .cons
          · have hready : g.ReadyAfter front first := hother.readyAfter hsplit
            exact absurd hgreater (hsmallest front name rest horder first hready)

theorem eq_or_lex_of_emissionOrder (hok : g.emissionOrder = .ok order)
    (hother : g.EmissionOrdered other) : order = other ∨ List.Lex (· < ·) order other := by
  have horder := emissionOrdered_of_emissionOrder hok
  have hlength := (horder.perm.trans hother.perm.symm).length_eq
  exact (takesSmallest_of_emissionOrder hok).eq_or_lex_behind hother [] rfl rfl hlength

theorem not_lex_emissionOrder (hok : g.emissionOrder = .ok order)
    (hother : g.EmissionOrdered other) : ¬ List.Lex (· < ·) other order := by
  intro hlex
  rcases eq_or_lex_of_emissionOrder hok hother with rfl | hless
  · exact List.lex_irrefl String.lt_irrefl _ hlex
  · exact List.lex_asymm String.lt_asymm hless hlex

/-- The emission order is the least of the permutations of the nodes in which every node comes
after all of its dependencies; where there is none, there is no emission order. -/
theorem emissionOrder_eq_ok_iff_least :
    g.emissionOrder = .ok order ↔
      (order.Perm g.nodes ∧ g.RespectedBy order) ∧
        ∀ other, other.Perm g.nodes → g.RespectedBy other → other ≠ order →
          List.Lex (· < ·) order other := by
  constructor
  · intro hok
    refine ⟨emissionOrdered_iff.mp (emissionOrdered_of_emissionOrder hok), ?_⟩
    intro other hperm hrespected hne
    have hother : g.EmissionOrdered other := emissionOrdered_iff.mpr ⟨hperm, hrespected⟩
    exact (eq_or_lex_of_emissionOrder hok hother).resolve_left (Ne.symm hne)
  · rintro ⟨hordered, hleast⟩
    have horder : g.EmissionOrdered order := emissionOrdered_iff.mpr hordered
    obtain ⟨emitted, hok⟩ := exists_emissionOrder_iff.mpr ⟨order, horder⟩
    obtain ⟨hperm, hrespected⟩ := emissionOrdered_iff.mp (emissionOrdered_of_emissionOrder hok)
    by_cases hsame : emitted = order
    · rw [hok, hsame]
    · exact absurd (hleast emitted hperm hrespected hsame) (not_lex_emissionOrder hok horder)

example : (((empty.add "app" ["lib"]).add "lib" []).add "kit" []).emissionOrder =
    .ok ["kit", "lib", "app"] := by
  decide +kernel

/-! ## More dependencies

A second graph on the same nodes may ask for more.  Its arrangements are arrangements of the first
graph, so where the order of the first one meets the further dependencies it is the least there,
too.
-/

section Stronger

variable {stronger : Graph}

/-- The same nodes, with at least the same dependencies. -/
structure Strengthens (stronger g : Graph) : Prop where
  nodes : stronger.nodes = g.nodes
  dependsOn : ∀ a b, g.DependsOn a b → stronger.DependsOn a b

theorem Strengthens.emissionOrdered (hstronger : Strengthens stronger g)
    (h : stronger.EmissionOrdered order) : g.EmissionOrdered order := by
  refine .of_sublist (hstronger.nodes ▸ h.perm) ?_
  intro name required hrequired
  exact h.sublist (hstronger.dependsOn name required hrequired)

/-- The emission order of a graph meets further dependencies exactly when it is also the emission
order of the graph that has them. -/
theorem respectedBy_iff_emissionOrder_eq (hstronger : Strengthens stronger g)
    {order : List String} (hok : g.emissionOrder = .ok order) :
    stronger.RespectedBy order ↔ stronger.emissionOrder = .ok order := by
  constructor
  · intro hrespected
    have hperm : order.Perm stronger.nodes :=
      hstronger.nodes ▸ (emissionOrdered_of_emissionOrder hok).perm
    have horder : stronger.EmissionOrdered order := emissionOrdered_iff.mpr ⟨hperm, hrespected⟩
    obtain ⟨emitted, hemitted⟩ := exists_emissionOrder_iff.mpr ⟨order, horder⟩
    have hweaker := hstronger.emissionOrdered (emissionOrdered_of_emissionOrder hemitted)
    rcases eq_or_lex_of_emissionOrder hok hweaker with rfl | hless
    · exact hemitted
    · exact absurd hless (not_lex_emissionOrder hemitted horder)
  · intro hok'
    exact (emissionOrdered_of_emissionOrder hok').respectedBy

end Stronger

end Graph
end Provision
