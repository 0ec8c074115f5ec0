import Provision.Proofs.Graph.Least

/-!
# A new node that nothing depends on

Such a node can be put into an arrangement of the other nodes anywhere behind its dependencies, and
taken out of an arrangement again.  The emission order is the least arrangement.  If the others came
in another order without the new node, that order would be less, and with the new node put into it
at the place of their first difference or behind all others it would be less than the emission order
with the new node, too.
-/

namespace Provision
namespace Graph

variable {g : Graph} {fresh : String} {required order before after : List String}

/-! ## The graph with the new node -/

theorem dependsOn_add_iff {a b : String} :
    (g.add fresh required).DependsOn a b ↔ if a = fresh then b ∈ required else g.DependsOn a b := by
  by_cases hfresh : a = fresh <;> simp [DependsOn, dependencies, add, hfresh]

theorem mem_nodes_add_iff {name : String} :
    name ∈ (g.add fresh required).nodes ↔ name = fresh ∨ name ∈ g.nodes :=
  Dict.mem_keys_insert_iff

theorem nodes_add_perm (hfresh : fresh ∉ g.nodes) :
    (g.add fresh required).nodes.Perm (fresh :: g.nodes) := by
  have hnodup : (fresh :: g.nodes).Nodup := List.nodup_cons.mpr ⟨hfresh, g.nodes_nodup⟩
  refine (List.perm_ext_iff_of_nodup (g.add fresh required).nodes_nodup hnodup).mpr ?_
  intro name
  rw [List.mem_cons]
  exact mem_nodes_add_iff

namespace EmissionOrdered

/-- The new node may stand anywhere behind its dependencies. -/
theorem insert_fresh (h : g.EmissionOrdered (before ++ after)) (hfresh : fresh ∉ g.nodes)
    (hrequired : ∀ name ∈ required, name ∈ before) :
    (g.add fresh required).EmissionOrdered (before ++ fresh :: after) := by
  apply of_sublist
  · exact (List.perm_middle.trans (h.perm.cons fresh)).trans (nodes_add_perm hfresh).symm
  · intro name other hother
    rw [dependsOn_add_iff] at hother
    split at hother
    · next heq =>
        subst heq
        exact List.cons_sublist_iff.mpr
          ⟨before, name :: after, rfl, hrequired other hother, by simp⟩
    · exact (h.sublist hother).trans
        (List.Sublist.append_left (List.sublist_cons_self fresh after) before)

theorem append_fresh (h : g.EmissionOrdered order) (hfresh : fresh ∉ g.nodes)
    (hrequired : ∀ name ∈ required, name ∈ g.nodes) :
    (g.add fresh required).EmissionOrdered (order ++ [fresh]) := by
  apply insert_fresh (by simpa using h) hfresh
  intro name hname
  exact h.perm.mem_iff.mpr (hrequired name hname)

/-- Without the new node the others still stand behind their dependencies. -/
theorem erase_fresh (h : (g.add fresh required).EmissionOrdered order) (hfresh : fresh ∉ g.nodes)
    (hclosed : g.Closed) : g.EmissionOrdered (order.erase fresh) := by
  apply of_sublist
  · have hperm := (h.perm.trans (nodes_add_perm hfresh)).erase fresh
    rwa [List.erase_cons_head] at hperm
  · intro name other hother
    have hname : name ≠ fresh := by
      rintro rfl
      exact hfresh (mem_nodes_of_dependsOn hother)
    have hne : other ≠ fresh := by
      rintro rfl
      exact hfresh (hclosed name other hother)
    have hadded : (g.add fresh required).DependsOn name other := by
      rw [dependsOn_add_iff, if_neg hname]
      exact hother
    have hpair : fresh ∉ [other, name] := by simp [hname.symm, hne.symm]
    rw [← List.erase_of_not_mem hpair]
    exact (h.sublist hadded).erase fresh

end EmissionOrdered

/-! ## The order of the other nodes -/

/-- A list that is less than one in two parts differs from it within the first part, whatever
follows on either side, or has the first part at its front and goes on with less than the second. -/
theorem lex_append_cases {names : List String} (hlength : before.length ≤ names.length)
    (hlex : List.Lex (· < ·) names (before ++ after)) :
    (∀ more rest, List.Lex (· < ·) (names ++ more) (before ++ rest)) ∨
      ∃ rest, names = before ++ rest ∧ List.Lex (· < ·) rest after := by
  induction before generalizing names with
  | nil => exact Or.inr ⟨names, rfl, hlex⟩
  | cons first before ih =>
      cases hlex with
      | nil => simp at hlength
      | rel hless => exact Or.inl (fun _ _ => .rel hless)
      | cons hlex =>
          rcases ih (Nat.le_of_succ_le_succ hlength) hlex with hless | ⟨rest, rfl, hless⟩
          · exact Or.inl (fun more rest => .cons (hless more rest))
          · exact Or.inr ⟨rest, rfl, hless⟩

/-- If the others can be arranged in a smaller order than they have beside the new node, then so
can all nodes. -/
theorem exists_lex_of_lex {others : List String} (hothers : g.EmissionOrdered others)
    (hadded : (g.add fresh required).EmissionOrdered (before ++ fresh :: after))
    (hfresh : fresh ∉ g.nodes) (hrequired : ∀ name ∈ required, name ∈ g.nodes)
    (hless : List.Lex (· < ·) others (before ++ after)) :
    ∃ order, (g.add fresh required).EmissionOrdered order ∧
      List.Lex (· < ·) order (before ++ fresh :: after) := by
  have hlength : before.length ≤ others.length := by
    have hall := (hadded.perm.trans (nodes_add_perm hfresh)).length_eq
    have hnodes := hothers.perm.length_eq
    simp only [List.length_append, List.length_cons] at hall
    omega
  rcases lex_append_cases hlength hless with hfront | ⟨rest, rfl, hback⟩
  · -- The first difference stands before the new node, which may come last.
    exact ⟨others ++ [fresh], hothers.append_fresh hfresh hrequired, hfront _ _⟩
  · refine ⟨before ++ fresh :: rest, ?_, List.Lex.append_left _ (.cons hback) before⟩
    apply hothers.insert_fresh hfresh
    intro name hname
    exact hadded.mem_before rfl (dependsOn_add_iff.mpr (by simpa using hname))

/-- A new node that no other node depends on does not move the others. -/
theorem exists_emissionOrder_add (hacyclic : g.Acyclic) (hclosed : g.Closed)
    (hfresh : fresh ∉ g.nodes) (hrequired : ∀ name ∈ required, name ∈ g.nodes) :
    ∃ order, (g.add fresh required).emissionOrder = .ok order ∧
      g.emissionOrder = .ok (order.erase fresh) := by
  obtain ⟨others, hok⟩ :=
    exists_emissionOrder (checkAcyclic_eq_ok_iff_acyclic.mpr hacyclic) hclosed
  have hothers := emissionOrdered_of_emissionOrder hok
  obtain ⟨order, horder⟩ :=
    exists_emissionOrder_iff.mpr ⟨_, hothers.append_fresh hfresh hrequired⟩
  refine ⟨order, horder, ?_⟩
  have hadded := emissionOrdered_of_emissionOrder horder
  have hmem : fresh ∈ order := hadded.perm.mem_iff.mpr (mem_nodes_add_iff.mpr (Or.inl rfl))
  obtain ⟨before, after, rfl⟩ := List.append_of_mem hmem
  have hwithout := hadded.erase_fresh hfresh hclosed
  rw [List.erase_append_right _ (hadded.readyAfter rfl).fresh, List.erase_cons_head]
    at hwithout ⊢
  rcases eq_or_lex_of_emissionOrder hok hwithout with rfl | hless
  · exact hok
  · obtain ⟨smaller, harranged, hlex⟩ :=
      exists_lex_of_lex hothers hadded hfresh hrequired hless
    exact absurd hlex (not_lex_emissionOrder horder harranged)

/-- Three nodes, the smallest of which waits for the next one. -/
def waiting : Graph := ((empty.add "app" ["lib"]).add "lib" []).add "zip" []

theorem exists_emissionOrder_add_core :
    waiting.Acyclic ∧ waiting.Closed ∧ "core" ∉ waiting.nodes ∧
      (∀ name ∈ ["lib"], name ∈ waiting.nodes) ∧
      ∃ order, (waiting.add "core" ["lib"]).emissionOrder = .ok order ∧
        waiting.emissionOrder = .ok (order.erase "core") := by
  have hok : waiting.emissionOrder = .ok ["lib", "app", "zip"] := by decide +kernel
  have hordered := emissionOrdered_of_emissionOrder hok
  have hfresh : "core" ∉ waiting.nodes := by decide +kernel
  have hrequired : ∀ name ∈ ["lib"], name ∈ waiting.nodes := by decide +kernel
  exact ⟨hordered.acyclic, hordered.closed, hfresh, hrequired,
    exists_emissionOrder_add hordered.acyclic hordered.closed hfresh hrequired⟩

end Graph
end Provision
