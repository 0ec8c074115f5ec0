import Mathlib.Data.List.Count
import Provision.Graph.Order
import Provision.Proofs.Graph.Acyclic

/-!
# Emission puts dependencies first

At every step the counter of a node is the number of entries of its dependency list that have not
been emitted, so that the ready nodes are those whose dependencies have all been emitted.  This
holds for every graph, also if lists repeat a name or name something that is no node.  The emission
ends when nothing is ready any more, and what it answers is read off that last state.
-/

namespace Provision
namespace Graph

variable {g : Graph}

/-! ## Names in increasing order -/

theorem mem_insertName {name other : String} {names : List String} :
    other ∈ insertName name names ↔ other = name ∨ other ∈ names := by
  induction names with
  | nil => simp [insertName]
  | cons first rest ih =>
      simp only [insertName]
      split
      · simp
      · split
        · next heq => simp [heq]
        · simp only [List.mem_cons, ih]
          exact or_left_comm

theorem insertName_increasing {name : String} {names : List String}
    (h : names.Pairwise (· < ·)) : (insertName name names).Pairwise (· < ·) := by
  induction names with
  | nil => simp [insertName]
  | cons first rest ih =>
      have hcons := List.pairwise_cons.mp h
      simp only [insertName]
      split
      · next hlt =>
          refine List.pairwise_cons.mpr ⟨?_, h⟩
          intro other hother
          rcases List.mem_cons.mp hother with rfl | hrest
          · exact hlt
          · exact String.lt_trans hlt (hcons.1 other hrest)
      · split
        · exact h
        · next hnlt hne =>
            refine List.pairwise_cons.mpr ⟨?_, ih hcons.2⟩
            intro other hother
            rcases mem_insertName.mp hother with rfl | hrest
            · rcases Std.lt_trichotomy other first with hlt | heq | hgt
              · exact absurd hlt hnlt
              · exact absurd heq hne
              · exact hgt
            · exact hcons.1 other hrest

/-! ## Dependents -/

/-- A node stands among the dependents of a name as often as it lists the name. -/
theorem count_dependents (g : Graph) (current name : String) :
    (g.dependents current).count name = (g.dependencies name).count current := by
  have hentries :
      ∀ entries : List (String × List String), (entries.map Prod.fst).Nodup →
        (entries.flatMap (fun entry =>
          (entry.2.filter (· = current)).map (fun _ => entry.1))).count name =
            ((entries.lookup name).getD []).count current := by
    intro entries hkeys
    induction entries with
    | nil => rfl
    | cons entry rest ih =>
        obtain ⟨key, listed⟩ := entry
        simp only [List.map_cons, List.nodup_cons] at hkeys
        have hlisted : ((listed.filter (· = current)).map (fun _ => key)).count name =
            if name = key then listed.count current else 0 := by
          by_cases hname : name = key
          · simp [hname, List.count, List.countP_eq_length_filter, beq_eq_decide]
          · simp [List.count_replicate, Ne.symm hname, hname]
        rw [List.flatMap_cons, List.count_append, hlisted, ih hkeys.2,
          Dict.lookup_cons_eq_ite]
        by_cases hname : name = key
        · have hrest : rest.lookup name = none := by
            rw [hname]
            by_contra hsome
            obtain ⟨value, hvalue⟩ := Option.ne_none_iff_exists'.mp hsome
            exact hkeys.1 (List.mem_map.mpr
              ⟨_, (Dict.lookup_eq_some_iff hkeys.2).mp hvalue, rfl⟩)
          rw [hrest]
          simp [hname]
        · simp [hname]
  exact hentries g.edges.entries g.edges.keys_nodup

theorem mem_dependents_iff {current name : String} :
    name ∈ g.dependents current ↔ g.DependsOn name current := by
  rw [← List.count_pos_iff, count_dependents, List.count_pos_iff]
  rfl

/-! ## Counting down -/

/-- The number of entries of a node's dependency list that have not been emitted. -/
def pending (g : Graph) (order : List String) (name : String) : Nat :=
  (g.dependencies name).countP (fun other => decide (other ∉ order))

theorem pending_eq_zero_iff {order : List String} {name : String} :
    g.pending order name = 0 ↔ ∀ other, g.DependsOn name other → other ∈ order := by
  simp [pending, List.countP_eq_zero, DependsOn]

theorem pending_pos_iff {order : List String} {name : String} :
    0 < g.pending order name ↔ ∃ other, g.DependsOn name other ∧ other ∉ order := by
  rw [Nat.pos_iff_ne_zero, ne_eq, pending_eq_zero_iff]
  simp only [not_forall, exists_prop]

theorem pending_append {order : List String} {current : String} (hnew : current ∉ order)
    (name : String) :
    g.pending (order ++ [current]) name + (g.dependencies name).count current =
      g.pending order name := by
  unfold pending
  induction g.dependencies name with
  | nil => rfl
  | cons first rest ih =>
      simp only [List.countP_cons, List.count_cons, List.mem_append, List.mem_singleton,
        decide_eq_true_eq, beq_iff_eq, not_or] at ih ⊢
      by_cases hfirst : first = current
      · subst hfirst
        simp only [hnew, not_true_eq_false, and_false, if_false, not_false_eq_true, if_true]
        omega
      · simp only [hfirst, not_false_eq_true, and_true, if_false]
        omega

namespace Emission

/-- What counting down along a list of dependents changes. -/
structure CountedDown (names : List String) (e after : Emission) : Prop where
  order : after.order = e.order
  keys : after.counters.keys = e.counters.keys
  counter : ∀ name count, e.counters.get? name = some count →
    after.counters.get? name = some (count - names.count name)
  ready : ∀ name, name ∈ after.ready ↔
    name ∈ e.ready ∨ name ∈ names ∧ e.counters.get? name = some (names.count name)
  increasing : e.ready.Pairwise (· < ·) → after.ready.Pairwise (· < ·)

theorem get?_countDown {e : Emission} {name : String} {count : Nat}
    (hcount : e.counters.get? name = some count) (other : String) :
    (e.countDown name).counters.get? other =
      if other = name then some (count - 1) else e.counters.get? other := by
  simp [countDown, hcount]

theorem mem_ready_countDown {e : Emission} {name : String} {count : Nat}
    (hcount : e.counters.get? name = some count) (other : String) :
    other ∈ (e.countDown name).ready ↔ other ∈ e.ready ∨ other = name ∧ count - 1 = 0 := by
  simp only [countDown, hcount]
  split
  · next hzero => simp [mem_insertName, hzero, or_comm]
  · next hpositive => simp [hpositive]

theorem foldl_countDown {names : List String} {e : Emission}
    (hcounters : ∀ name ∈ names, ∃ count,
      e.counters.get? name = some count ∧ names.count name ≤ count) :
    CountedDown names e (names.foldl countDown e) := by
  induction names generalizing e with
  | nil => exact ⟨rfl, rfl, by simp, by simp, id⟩
  | cons first rest ih =>
      obtain ⟨count, hcount, hle⟩ := hcounters first List.mem_cons_self
      rw [List.count_cons_self] at hle
      have hget := get?_countDown hcount
      have hrest : CountedDown rest (e.countDown first)
          (rest.foldl countDown (e.countDown first)) := by
        apply ih
        intro name hname
        rw [hget]
        by_cases hfirst : name = first
        · subst hfirst
          exact ⟨count - 1, by simp, by omega⟩
        · obtain ⟨other, hother, hbound⟩ := hcounters name (List.mem_cons_of_mem _ hname)
          rw [List.count_cons_of_ne (Ne.symm hfirst)] at hbound
          exact ⟨other, by simpa [hfirst] using hother, hbound⟩
      have hkey : first ∈ e.counters.keys := Dict.mem_keys_of_get? hcount
      refine ⟨?_, ?_, ?_, ?_, ?_⟩
      · rw [List.foldl_cons, hrest.order]
        simp [countDown, hcount]
      · rw [List.foldl_cons, hrest.keys]
        simp [countDown, hcount, Dict.keys_insert_of_mem _ hkey]
      · intro name held hheld
        rw [List.foldl_cons]
        by_cases hfirst : name = first
        · subst hfirst
          rw [hcount, Option.some.injEq] at hheld
          subst hheld
          rw [hrest.counter name (count - 1) (by simp [hget]), List.count_cons_self]
          congr 1
          omega
        · rw [hrest.counter name held (by simpa [hget, hfirst] using hheld),
            List.count_cons_of_ne (Ne.symm hfirst)]
      · intro name
        rw [List.foldl_cons, hrest.ready, mem_ready_countDown hcount, hget]
        by_cases hfirst : name = first
        · subst hfirst
          rw [hcount, List.count_cons_self]
          by_cases hmem : name ∈ rest
          · have hpos : 0 < rest.count name := List.count_pos_iff.mpr hmem
            simp only [true_and, if_true, Option.some.injEq, hmem, List.mem_cons, true_or]
            constructor
            · rintro ((hready | hzero) | heq)
              · exact Or.inl hready
              · omega
              · exact Or.inr (by omega)
            · rintro (hready | heq)
              · exact Or.inl (Or.inl hready)
              · exact Or.inr (by omega)
          · have hzero : rest.count name = 0 := List.count_eq_zero_of_not_mem hmem
            simp only [true_and, hmem, false_and, or_false, List.mem_cons, hzero,
              Option.some.injEq]
            exact or_congr_right ⟨fun h => by omega, fun h => by omega⟩
        · rw [List.count_cons_of_ne (Ne.symm hfirst)]
          simp [hfirst]
      · intro hincreasing
        rw [List.foldl_cons]
        apply hrest.increasing
        simp only [countDown, hcount]
        split
        · exact insertName_increasing hincreasing
        · exact hincreasing

/-! ## What every step preserves -/

structure Consistent (g : Graph) (e : Emission) : Prop where
  keys : e.counters.keys = g.nodes
  counter : ∀ name ∈ g.nodes, e.counters.get? name = some (g.pending e.order name)
  ready : ∀ name, name ∈ e.ready ↔ name ∈ g.nodes ∧ name ∉ e.order ∧
    ∀ other, g.DependsOn name other → other ∈ e.order
  increasing : e.ready.Pairwise (· < ·)
  nodes : ∀ name ∈ e.order, name ∈ g.nodes
  settled : g.Settled e.order.reverse

theorem initial_consistent (g : Graph) : Consistent g (initial g) := by
  have hready : ∀ name, name ∈ (initial g).ready ↔ g.edges.get? name = some [] := by
    intro name
    simp only [initial, List.mem_map, List.mem_filter, List.isEmpty_iff]
    constructor
    · rintro ⟨⟨key, listed⟩, ⟨hentry, hempty⟩, rfl⟩
      simp only at hempty
      subst hempty
      exact Dict.get?_eq_some_iff.mpr hentry
    · intro hget
      exact ⟨(name, []), ⟨Dict.get?_eq_some_iff.mp hget, rfl⟩, rfl⟩
  refine ⟨by simp [initial, Graph.nodes], ?_, ?_, ?_, by simp [initial], .nil⟩
  · intro name hname
    obtain ⟨listed, hlisted⟩ := Dict.exists_get?_of_mem_keys hname
    simp [initial, hlisted, pending, dependencies]
  · intro name
    rw [hready]
    constructor
    · intro hget
      refine ⟨Dict.mem_keys_of_get? hget, by simp [initial], ?_⟩
      intro other hother
      simp [DependsOn, dependencies, hget] at hother
    · rintro ⟨hname, _, hall⟩
      obtain ⟨listed, hlisted⟩ := Dict.exists_get?_of_mem_keys hname
      have hempty : listed = [] := by
        apply List.eq_nil_iff_forall_not_mem.mpr
        intro other hother
        have hmem := hall other (by simpa [DependsOn, dependencies, hlisted] using hother)
        simp [initial] at hmem
      rw [hlisted, hempty]
  · exact List.pairwise_map.mpr (g.edges.increasing.filter _)

/-- Emitting the first ready name keeps every counter true. -/
theorem Consistent.emit {e : Emission} (h : Consistent g e) {current : String}
    {others : List String} (hready : e.ready = current :: others) :
    Consistent g (e.emit g current others) := by
  obtain ⟨hnode, hnew, hdone⟩ := (h.ready current).mp (by simp [hready])
  have hincreasing := h.increasing
  rw [hready, List.pairwise_cons] at hincreasing
  have hnotOthers : current ∉ others := by
    intro hmem
    exact String.lt_irrefl _ (hincreasing.1 current hmem)
  have hcounted : CountedDown (g.dependents current)
      { e with ready := others, order := e.order ++ [current] } (e.emit g current others) := by
    apply foldl_countDown
    intro name hname
    have hdepends := mem_dependents_iff.mp hname
    refine ⟨_, h.counter name (mem_nodes_of_dependsOn hdepends), ?_⟩
    rw [count_dependents, ← pending_append hnew]
    exact Nat.le_add_left _ _
  have horder : (e.emit g current others).order = e.order ++ [current] := hcounted.order
  have hpending : ∀ name, g.pending e.order name - (g.dependents current).count name =
      g.pending (e.order ++ [current]) name := by
    intro name
    rw [count_dependents, ← pending_append hnew]
    exact Nat.add_sub_cancel _ _
  refine ⟨hcounted.keys.trans h.keys, ?_, ?_, hcounted.increasing hincreasing.2, ?_, ?_⟩
  · intro name hname
    rw [hcounted.counter name _ (h.counter name hname), hpending, horder]
  · intro name
    rw [hcounted.ready, horder]
    constructor
    · rintro (hother | ⟨hmem, hcount⟩)
      · obtain ⟨hname, hfresh, hall⟩ := (h.ready name).mp (by simp [hready, hother])
        have hne : name ≠ current := fun heq => hnotOthers (heq ▸ hother)
        exact ⟨hname, by simp [hfresh, hne], fun other hdep => by simp [hall other hdep]⟩
      · have hdepends := mem_dependents_iff.mp hmem
        have hname := mem_nodes_of_dependsOn hdepends
        have hfresh : name ∉ e.order := by
          intro hin
          have hearlier := h.settled.mem_of_dependsOn (List.mem_reverse.mpr hin) hdepends
          exact hnew (List.mem_reverse.mp hearlier)
        have hne : name ≠ current := by
          intro heq
          subst heq
          exact hnew (hdone name hdepends)
        have hzero : g.pending (e.order ++ [current]) name = 0 := by
          have hequal : g.pending e.order name = (g.dependents current).count name :=
            Option.some.inj ((h.counter name hname).symm.trans hcount)
          rw [← hpending, hequal, Nat.sub_self]
        exact ⟨hname, by simp [hfresh, hne], pending_eq_zero_iff.mp hzero⟩
    · rintro ⟨hname, hfresh, hall⟩
      simp only [List.mem_append, List.mem_singleton, not_or] at hfresh
      by_cases hdepends : g.DependsOn name current
      · refine Or.inr ⟨mem_dependents_iff.mpr hdepends, ?_⟩
        have hzero : g.pending (e.order ++ [current]) name = 0 := pending_eq_zero_iff.mpr hall
        rw [h.counter name hname, count_dependents, ← pending_append hnew, hzero, Nat.zero_add]
      · left
        have hmem : name ∈ e.ready := by
          refine (h.ready name).mpr ⟨hname, hfresh.1, ?_⟩
          intro other hother
          rcases List.mem_append.mp (hall other hother) with hin | hcurrent
          · exact hin
          · rw [List.mem_singleton.mp hcurrent] at hother
            exact absurd hother hdepends
        rw [hready] at hmem
        exact (List.mem_cons.mp hmem).resolve_left hfresh.2
  · intro name hname
    rw [horder] at hname
    rcases List.mem_append.mp hname with hin | hcurrent
    · exact h.nodes name hin
    · exact List.mem_singleton.mp hcurrent ▸ hnode
  · rw [horder, List.reverse_append]
    refine .cons (by simpa using hnew) ?_ h.settled
    intro other hother
    exact List.mem_reverse.mpr (hdone other hother)

theorem Consistent.order_nodup {e : Emission} (h : Consistent g e) : e.order.Nodup :=
  List.nodup_reverse.mp h.settled.nodup

theorem order_countDown (e : Emission) (name : String) : (e.countDown name).order = e.order := by
  unfold countDown
  split <;> rfl

theorem order_emit (g : Graph) (e : Emission) (current : String) (others : List String) :
    (e.emit g current others).order = e.order ++ [current] := by
  have hfold : ∀ (names : List String) (start : Emission),
      (names.foldl countDown start).order = start.order := by
    intro names
    induction names with
    | nil => exact fun _ => rfl
    | cons first rest ih =>
        intro start
        rw [List.foldl_cons, ih, order_countDown]
  exact hfold _ _

/-! ## Whole runs -/

theorem run_consistent (steps : Nat) {e : Emission} (h : Consistent g e) :
    Consistent g (run g steps e) := by
  induction steps generalizing e with
  | zero => exact h
  | succ steps ih =>
      simp only [run]
      split
      · exact h
      · next current others hready => exact ih (h.emit hready)

/-- A run of enough steps ends only when nothing is ready. -/
theorem ready_run_eq_nil (steps : Nat) {e : Emission} (h : Consistent g e)
    (hsteps : g.edges.size ≤ e.order.length + steps) : (run g steps e).ready = [] := by
  induction steps generalizing e with
  | zero =>
      simp only [run]
      apply List.eq_nil_iff_forall_not_mem.mpr
      intro name hname
      obtain ⟨hnode, hfresh, _⟩ := (h.ready name).mp hname
      have hlength : (name :: e.order).length ≤ g.edges.size :=
        length_le_size (List.nodup_cons.mpr ⟨hfresh, h.order_nodup⟩)
          (List.forall_mem_cons.mpr ⟨hnode, h.nodes⟩)
      simp only [List.length_cons] at hlength
      omega
  | succ steps ih =>
      simp only [run]
      split
      · next hready => exact hready
      · next current others hready =>
          apply ih (h.emit hready)
          rw [order_emit]
          simp only [List.length_append, List.length_singleton]
          omega

/-! ## The end of a run -/

/-- The state in which the emission of a graph ends. -/
def final (g : Graph) : Emission := run g g.edges.size (initial g)

theorem final_consistent (g : Graph) : Consistent g (final g) :=
  run_consistent g.edges.size (initial_consistent g)

theorem ready_final (g : Graph) : (final g).ready = [] :=
  ready_run_eq_nil g.edges.size (initial_consistent g) (Nat.le_add_left _ _)

/-- The nodes whose counter has not come down to zero. -/
def leftOver (e : Emission) : List String :=
  (e.counters.entries.filter (fun entry => 0 < entry.2)).map Prod.fst

theorem Consistent.order_perm_iff_length {e : Emission} (h : Consistent g e) :
    e.order.Perm g.nodes ↔ e.order.length = g.edges.size := by
  rw [← Dict.length_keys]
  constructor
  · exact List.Perm.length_eq
  · intro hlength
    exact (h.order_nodup.subperm h.nodes).perm_of_length_le (Nat.le_of_eq hlength.symm)

end Emission

theorem emissionOrder_eq (g : Graph) :
    g.emissionOrder =
      if (Emission.final g).order.length = g.edges.size then .ok (Emission.final g).order
      else .error (.blocked (Emission.final g).leftOver) := by
  by_cases hlength : (Emission.final g).order.length = g.edges.size
  · rw [if_pos hlength]
    exact if_neg (not_not.mpr hlength)
  · rw [if_neg hlength]
    exact if_pos hlength

/-- The emission has an order when it ends with all nodes. -/
theorem emissionOrder_eq_ok_iff {order : List String} :
    g.emissionOrder = .ok order ↔ (Emission.final g).order = order ∧ order.Perm g.nodes := by
  have hperm := (Emission.final_consistent g).order_perm_iff_length
  rw [emissionOrder_eq]
  split
  · next hlength =>
      rw [Except.ok.injEq]
      constructor
      · rintro rfl
        exact ⟨rfl, hperm.mpr hlength⟩
      · exact And.left
  · next hlength =>
      constructor
      · intro hok
        contradiction
      · rintro ⟨rfl, hall⟩
        exact absurd (hperm.mp hall) hlength

theorem eq_blocked_of_emissionOrder {loop : Loop} (herror : g.emissionOrder = .error loop) :
    loop = .blocked (Emission.final g).leftOver := by
  rw [emissionOrder_eq] at herror
  split at herror
  · contradiction
  · cases herror
    rfl

/-! ## The order -/

/-- An emission order lists every node once, each behind everything that it depends on. -/
structure EmissionOrdered (g : Graph) (order : List String) : Prop where
  perm : order.Perm g.nodes
  settled : g.Settled order.reverse

theorem EmissionOrdered.mem_before {order before after : List String} {name other : String}
    (h : g.EmissionOrdered order) (hsplit : order = before ++ name :: after)
    (hother : g.DependsOn name other) : other ∈ before := by
  have hreverse : order.reverse = after.reverse ++ name :: before.reverse := by
    rw [hsplit]
    simp
  exact List.mem_reverse.mp (h.settled.mem_after hreverse hother)

/-- A graph with an emission order has no cycle. -/
theorem EmissionOrdered.acyclic {order : List String} (h : g.EmissionOrdered order) :
    g.Acyclic := by
  intro name hcycle
  obtain ⟨other, hother, -⟩ := Relation.TransGen.head'_iff.mp hcycle
  have hnode := mem_nodes_of_dependsOn hother
  exact h.settled.not_transGen_self
    (List.mem_reverse.mpr (h.perm.mem_iff.mpr hnode)) hcycle

/-- Where the emission has an order, the order is complete and puts dependencies first. -/
theorem emissionOrdered_of_emissionOrder {order : List String}
    (hok : g.emissionOrder = .ok order) : g.EmissionOrdered order := by
  obtain ⟨rfl, hperm⟩ := emissionOrder_eq_ok_iff.mp hok
  exact ⟨hperm, (Emission.final_consistent g).settled⟩

/-- Every name of an order has all of its dependencies before it. -/
def RespectedBy (g : Graph) (order : List String) : Prop :=
  ∀ before name after, order = before ++ name :: after →
    ∀ other, g.DependsOn name other → other ∈ before

theorem EmissionOrdered.respectedBy {order : List String} (h : g.EmissionOrdered order) :
    g.RespectedBy order :=
  fun _ _ _ hsplit _ hother => h.mem_before hsplit hother

end Graph
end Provision
