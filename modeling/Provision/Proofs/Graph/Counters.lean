import Mathlib.Data.List.Lattice
import Provision.Proofs.Graph.Emission

/-!
# Every counter is exact at every moment

The emission is taken apart into its smallest steps: one takes the first ready node, and each of the
others processes one entry of a dependency list that names this node.  A record is kept of the
entries processed and of the names that became ready.  After each step the counter of a node is the
number of entries of its list that have not been processed, so an entry that is processed finds a
counter above zero, and a name becomes ready once.
-/

namespace Provision
namespace Graph

/-! ## The lists of dependents -/

/-- Adds a node to the dependents of every name in a list, as often as the name is there. -/
def enlist (name : String) (table : Dict (List String)) (dependencies : List String) :
    Dict (List String) :=
  dependencies.foldl
    (fun table other => table.insert other ((table.get? other).getD [] ++ [name])) table

/-- The dependents of all names, collected in one pass over the dependency lists. -/
def dependentsTable (g : Graph) : Dict (List String) :=
  g.edges.entries.foldl (fun table entry => enlist entry.1 table entry.2) .empty

theorem getD_enlist (name current : String) (table : Dict (List String))
    (dependencies : List String) :
    ((enlist name table dependencies).get? current).getD [] =
      (table.get? current).getD [] ++
        (dependencies.filter (· = current)).map (fun _ => name) := by
  induction dependencies generalizing table with
  | nil => simp [enlist]
  | cons first rest ih =>
      rw [enlist, List.foldl_cons]
      refine (ih _).trans ?_
      rw [Dict.get?_insert]
      by_cases hfirst : first = current
      · simp [hfirst]
      · simp [hfirst, Ne.symm hfirst]

/-- Collecting the dependents of all names gives those of each name. -/
theorem getD_dependentsTable (g : Graph) (current : String) :
    (g.dependentsTable.get? current).getD [] = g.dependents current := by
  have hfold : ∀ (entries : List (String × List String)) (table : Dict (List String)),
      ((entries.foldl (fun table entry => enlist entry.1 table entry.2) table).get?
          current).getD [] =
        (table.get? current).getD [] ++ entries.flatMap (fun entry =>
          (entry.2.filter (· = current)).map (fun _ => entry.1)) := by
    intro entries
    induction entries with
    | nil => simp
    | cons entry rest ih =>
        intro table
        rw [List.foldl_cons, ih, getD_enlist, List.append_assoc, List.flatMap_cons]
  exact hfold g.edges.entries .empty

/-! ## Moments of the emission -/

/-- The names that counting down a dependent makes ready. -/
def Emission.becomesReady (e : Emission) (dependent : String) : List String :=
  match e.counters.get? dependent with
  | none => []
  | some counter => if counter - 1 = 0 then [dependent] else []

/-- The emission between two of its smallest steps.  An entry is a node and the name in its
dependency list. -/
structure Moment where
  emission : Emission
  /-- The entries that name the node emitted last and have not been processed. -/
  waiting : List (String × String) := []
  processed : List (String × String) := []
  /-- The names that became ready, in that order. -/
  entered : List String

namespace Moment

def start (g : Graph) : Moment :=
  { emission := .initial g, entered := (Emission.initial g).ready }

/-- The next moment: the first waiting entry is processed, or the first ready node is emitted. -/
def next? (g : Graph) (m : Moment) : Option Moment :=
  match m.waiting with
  | entry :: rest =>
      some
        { emission := m.emission.countDown entry.1
          waiting := rest
          processed := m.processed ++ [entry]
          entered := m.entered ++ m.emission.becomesReady entry.1 }
  | [] =>
      match m.emission.ready with
      | [] => none
      | current :: others =>
          some { m with
            emission := { m.emission with
              ready := others, order := m.emission.order ++ [current] }
            waiting := (g.dependents current).map (fun dependent => (dependent, current)) }

/-- The names in a node's dependency list of which the entries have been processed. -/
def processedOf (m : Moment) (name : String) : List String :=
  (m.processed.filter (·.1 = name)).map Prod.snd

/-- A node's dependency list without the entries that have been processed. -/
def unprocessed (g : Graph) (m : Moment) (name : String) : List String :=
  (g.dependencies name).diff (m.processedOf name)

end Moment

/-- The moments that the emission of a graph goes through. -/
inductive Reached (g : Graph) : Moment → Prop where
  | start : Reached g (.start g)
  | next {m after : Moment} (h : Reached g m) (hnext : m.next? g = some after) : Reached g after

variable {g : Graph} {m after : Moment}

/-! ## The moments are those of a run -/

theorem Reached.exists_countedDown (h : Reached g m) :
    ∃ after, Reached g after ∧ after.waiting = [] ∧
      after.emission = (m.waiting.map Prod.fst).foldl Emission.countDown m.emission := by
  generalize hwaiting : m.waiting = waiting
  induction waiting generalizing m with
  | nil => exact ⟨m, h, hwaiting, rfl⟩
  | cons entry rest ih =>
      have hnext : m.next? g = some
          { emission := m.emission.countDown entry.1
            waiting := rest
            processed := m.processed ++ [entry]
            entered := m.entered ++ m.emission.becomesReady entry.1 } := by
        rw [Moment.next?, hwaiting]
      exact ih (h.next hnext) rfl

theorem Reached.exists_run (h : Reached g m) (hwaiting : m.waiting = []) (steps : Nat) :
    ∃ after, Reached g after ∧ after.waiting = [] ∧
      after.emission = Emission.run g steps m.emission := by
  induction steps generalizing m with
  | zero => exact ⟨m, h, hwaiting, rfl⟩
  | succ steps ih =>
      rw [Emission.run]
      split
      · exact ⟨m, h, hwaiting, rfl⟩
      · next current others hready =>
          have hnext : m.next? g = some { m with
              emission := { m.emission with
                ready := others, order := m.emission.order ++ [current] }
              waiting := (g.dependents current).map (fun dependent => (dependent, current)) } := by
            rw [Moment.next?, hwaiting, hready]
          obtain ⟨counted, hcounted, hdone, hemission⟩ := (h.next hnext).exists_countedDown
          have hemit : counted.emission = m.emission.emit g current others := by
            rw [hemission, List.map_map]
            exact congrArg (List.foldl Emission.countDown _) (List.map_id _)
          exact hemit ▸ ih hcounted hdone

/-! ## What every step keeps exact -/

theorem insertName_perm {name : String} {names : List String} (h : name ∉ names) :
    (insertName name names).Perm (name :: names) := by
  induction names with
  | nil => exact .refl _
  | cons first rest ih =>
      obtain ⟨hfirst, hrest⟩ := not_or.mp (fun hor => h (List.mem_cons.mpr hor))
      rw [insertName]
      split
      · exact .refl _
      · exact ((ih hrest).cons first).trans (.swap name first rest)

namespace Moment

theorem count_processedOf (m : Moment) (name other : String) :
    (m.processedOf name).count other = m.processed.count (name, other) := by
  unfold processedOf
  induction m.processed with
  | nil => rfl
  | cons entry rest ih =>
      obtain ⟨first, second⟩ := entry
      by_cases hfirst : first = name
      · subst hfirst
        by_cases hsecond : second = other <;> simp [hsecond, ih]
      · simp [hfirst, ih]

/-- All that the tables of the emission say of one another. -/
structure Exact (g : Graph) (m : Moment) : Prop where
  keys : m.emission.counters.keys = g.nodes
  counter : ∀ name ∈ g.nodes,
    m.emission.counters.get? name = some (m.unprocessed g name).length
  /-- The entries that name an emitted node are processed or waiting, and no others are. -/
  entries : ∀ name other, (m.processed ++ m.waiting).count (name, other) =
    if other ∈ m.emission.order then (g.dependencies name).count other else 0
  entered : ∀ name, name ∈ m.entered ↔ m.emission.counters.get? name = some 0
  nodup : m.entered.Nodup
  perm : (m.emission.order ++ m.emission.ready).Perm m.entered

theorem exact_start (g : Graph) : Exact g (start g) := by
  have hcounter : ∀ name ∈ g.nodes, (Emission.initial g).counters.get? name =
      some (g.dependencies name).length := by
    intro name hname
    obtain ⟨listed, hlisted⟩ := Dict.exists_get?_of_mem_keys hname
    simp [Emission.initial, dependencies, hlisted]
  have hconsistent := Emission.initial_consistent g
  refine ⟨hconsistent.keys, hcounter, fun _ _ => by simp [start, Emission.initial], ?_, ?_, ?_⟩
  · intro name
    refine (hconsistent.ready name).trans ⟨?_, ?_⟩
    · rintro ⟨hname, -, hall⟩
      rw [← pending_eq_zero_iff] at hall
      exact (hconsistent.counter name hname).trans (congrArg some hall)
    · intro hzero
      have hname : name ∈ g.nodes := hconsistent.keys ▸ Dict.mem_keys_of_get? hzero
      have hpending := (hconsistent.counter name hname).symm.trans hzero
      exact ⟨hname, by simp [Emission.initial], pending_eq_zero_iff.mp (Option.some.inj hpending)⟩
  · refine hconsistent.increasing.imp ?_
    rintro first _ hlt rfl
    exact String.lt_irrefl first hlt
  · exact .refl _

variable {name current : String} {rest : List (String × String)}

/-- A waiting entry stands in the list of a node and has not been processed. -/
theorem Exact.mem_unprocessed (h : Exact g m) (hwaiting : m.waiting = (name, current) :: rest) :
    current ∈ m.unprocessed g name := by
  have hentries := h.entries name current
  rw [List.count_append, hwaiting, List.count_cons_self, ← count_processedOf] at hentries
  rw [← List.count_pos_iff, unprocessed, List.count_diff]
  split at hentries <;> omega

theorem Exact.mem_nodes (h : Exact g m) (hwaiting : m.waiting = (name, current) :: rest) :
    name ∈ g.nodes := by
  have hmem := List.diff_subset _ _ (h.mem_unprocessed hwaiting)
  exact mem_nodes_of_dependsOn hmem

theorem Exact.count (h : Exact g m) (hwaiting : m.waiting = (name, current) :: rest) :
    Exact g
      { emission := m.emission.countDown name
        waiting := rest
        processed := m.processed ++ [(name, current)]
        entered := m.entered ++ m.emission.becomesReady name } := by
  have hmem := h.mem_unprocessed hwaiting
  have hname := h.mem_nodes hwaiting
  have hcounter := h.counter name hname
  have hpositive : 0 < (m.unprocessed g name).length := List.length_pos_of_mem hmem
  have hget := Emission.get?_countDown hcounter
  have hnew : name ∉ m.entered := by
    rw [h.entered, hcounter, Option.some.injEq]
    omega
  have hbecomes : m.emission.becomesReady name =
      if (m.unprocessed g name).length - 1 = 0 then [name] else [] := by
    rw [Emission.becomesReady, hcounter]
  refine ⟨?_, ?_, ?_, ?_, ?_, ?_⟩
  · rw [← h.keys]
    simp [Emission.countDown, hcounter,
      Dict.keys_insert_of_mem _ (Dict.mem_keys_of_get? hcounter)]
  · intro other hother
    rw [hget]
    by_cases heq : other = name
    · rw [if_pos heq, heq, ← List.length_erase_of_mem hmem]
      simp [unprocessed, processedOf]
    · rw [if_neg heq, h.counter other hother]
      simp [unprocessed, processedOf, Ne.symm heq]
  · intro other target
    rw [Emission.order_countDown, ← h.entries, hwaiting, List.append_assoc]
    rfl
  · intro other
    rw [List.mem_append, h.entered, hget, hbecomes]
    by_cases heq : other = name
    · rw [if_pos heq, heq, hcounter]
      split
      · next hzero => simp [hzero]
      · next hzero =>
          simp only [List.not_mem_nil, or_false, Option.some.injEq, hzero, iff_false]
          exact Nat.ne_of_gt hpositive
    · split <;> simp [heq]
  · rw [hbecomes]
    split
    · exact List.nodup_append.mpr ⟨h.nodup, List.nodup_singleton name, by
        rintro other hother _ hself rfl
        exact hnew (List.mem_singleton.mp hself ▸ hother)⟩
    · rw [List.append_nil]
      exact h.nodup
  · rw [Emission.order_countDown, hbecomes]
    have hready : name ∉ m.emission.ready := fun hmem =>
      hnew (h.perm.subset (List.mem_append_right _ hmem))
    simp only [Emission.countDown, hcounter]
    split
    · calc
        (m.emission.order ++ insertName name m.emission.ready).Perm
            (m.emission.order ++ name :: m.emission.ready) :=
          (insertName_perm hready).append_left _
        List.Perm _ (name :: (m.emission.order ++ m.emission.ready)) := List.perm_middle
        List.Perm _ (name :: m.entered) := h.perm.cons name
        List.Perm _ (m.entered ++ [name]) := (List.perm_append_singleton name m.entered).symm
    · rw [List.append_nil]
      exact h.perm

theorem Exact.emit (h : Exact g m) (hwaiting : m.waiting = []) {others : List String}
    (hready : m.emission.ready = current :: others) :
    Exact g { m with
      emission := { m.emission with ready := others, order := m.emission.order ++ [current] }
      waiting := (g.dependents current).map (fun dependent => (dependent, current)) } := by
  have hperm : (m.emission.order ++ [current] ++ others).Perm m.entered := by
    rw [List.append_assoc, List.singleton_append, ← hready]
    exact h.perm
  have hfresh : current ∉ m.emission.order := by
    have hnodup := hperm.symm.nodup h.nodup
    rw [List.append_assoc, List.singleton_append] at hnodup
    exact fun hmem => List.disjoint_of_nodup_append hnodup hmem List.mem_cons_self
  refine ⟨h.keys, h.counter, ?_, h.entered, h.nodup, hperm⟩
  intro name other
  have hentries := h.entries name other
  rw [hwaiting, List.append_nil] at hentries
  rw [List.count_append, hentries]
  by_cases heq : other = current
  · subst heq
    have hcount := List.count_map_of_injective (g.dependents other)
      (fun dependent => (dependent, other)) (fun a b hab => (Prod.mk.inj hab).1) name
    rw [hcount, count_dependents]
    simp [hfresh]
  · have hcount : ((g.dependents current).map (fun dependent => (dependent, current))).count
        (name, other) = 0 := by
      rw [List.count_eq_zero]
      simp [Ne.symm heq]
    rw [hcount]
    simp [heq]

theorem Exact.next (h : Exact g m) (hnext : m.next? g = some after) : Exact g after := by
  unfold next? at hnext
  split at hnext
  · next entry rest hwaiting =>
      cases hnext
      exact h.count hwaiting
  · next hwaiting =>
      split at hnext
      · contradiction
      · next current others hready =>
          cases hnext
          exact h.emit hwaiting hready

end Moment

theorem Reached.exact (h : Reached g m) : m.Exact g := by
  induction h with
  | start => exact Moment.exact_start g
  | next _ hnext ih => exact ih.next hnext

/-- A run goes through moments at which every counter is the number of entries that have not been
processed; the counter of an entry to be processed is above zero, and no name becomes ready
twice. -/
theorem counters_exact (g : Graph) :
    (∀ current, (g.dependentsTable.get? current).getD [] = g.dependents current) ∧
      (∀ steps, ∃ m, Reached g m ∧ m.waiting = [] ∧
        m.emission = Emission.run g steps (.initial g)) ∧
      ∀ m, Reached g m →
        (∀ name ∈ g.nodes,
          m.emission.counters.get? name = some (m.unprocessed g name).length) ∧
        (∀ entry rest, m.waiting = entry :: rest →
          entry.2 ∈ m.unprocessed g entry.1 ∧
            ∃ counter, m.emission.counters.get? entry.1 = some counter ∧ 0 < counter) ∧
        m.entered.Nodup := by
  refine ⟨getD_dependentsTable g, Reached.start.exists_run rfl, fun m h => ?_⟩
  have hexact := h.exact
  refine ⟨hexact.counter, ?_, hexact.nodup⟩
  rintro ⟨name, current⟩ rest hwaiting
  have hmem := hexact.mem_unprocessed hwaiting
  exact ⟨hmem, _, hexact.counter name (hexact.mem_nodes hwaiting), List.length_pos_of_mem hmem⟩

/-- A list that names one node twice and another name that is no node, and a node that depends on
itself. -/
def tangled : Graph :=
  ((empty.add "app" ["lib", "lib", "gone"]).add "lib" []).add "own" ["own"]

theorem counters_exact_tangled :
    ∃ m, Reached tangled m ∧ m.waiting = [("app", "lib")] ∧
      m.emission.counters.get? "app" = some ["lib", "gone"].length ∧
      m.emission.counters.get? "own" = some ["own"].length ∧ m.entered.Nodup := by
  obtain ⟨first, hfirst⟩ : ∃ m, (Moment.start tangled).next? tangled = some m := ⟨_, rfl⟩
  obtain ⟨second, hsecond⟩ : ∃ m, first.next? tangled = some m := by
    cases hfirst
    exact ⟨_, rfl⟩
  have hreached : Reached tangled second := (Reached.start.next hfirst).next hsecond
  obtain ⟨hcounters, -, hnodup⟩ := (counters_exact tangled).2.2 second hreached
  have happ := hcounters "app" (by decide)
  have hown := hcounters "own" (by decide)
  cases hfirst
  cases hsecond
  exact ⟨_, hreached, rfl, happ, hown, hnodup⟩

end Graph
end Provision
