import Provision.Template.Parser

/-!
# Reading a template, checked by computation

Whether two plain trees are the same can be computed, so that what a text reads as is settled by
reading it.  The comparison knows the parts of plain trees and says no to any other.
-/

namespace Provision
namespace Template

mutual

def Expr.agrees : Expr → Expr → Bool
  | .literal a, .literal b => a == b
  | .var a, .var b => a == b
  | .dict a, .dict b => agreesEntries a b
  | .unary o a, .unary p b => o == p && a.agrees b
  | .binary o a b, .binary p c d => o == p && a.agrees c && b.agrees d
  | .compare a others, .compare b rest => a.agrees b && agreesChain others rest
  | .choose a b c, .choose d e f => a.agrees d && b.agrees e && agreesOption c f
  | .attribute a n, .attribute b m => n == m && a.agrees b
  | .index a k, .index b l => a.agrees b && k.agrees l
  | .call f others, .call g rest => f.agrees g && agreesArgs others rest
  | .filter n a others, .filter m b rest => n == m && a.agrees b && agreesArgs others rest
  | _, _ => false

def agreesEntries : List (Expr × Expr) → List (Expr × Expr) → Bool
  | [], [] => true
  | (k, a) :: others, (l, b) :: rest => k.agrees l && a.agrees b && agreesEntries others rest
  | _, _ => false

def agreesChain : List (Comparison × Expr) → List (Comparison × Expr) → Bool
  | [], [] => true
  | (c, a) :: others, (d, b) :: rest => c == d && a.agrees b && agreesChain others rest
  | _, _ => false

def agreesArgs : List (ArgKind × Expr) → List (ArgKind × Expr) → Bool
  | [], [] => true
  | (k, a) :: others, (l, b) :: rest => k == l && a.agrees b && agreesArgs others rest
  | _, _ => false

def agreesOption : Option Expr → Option Expr → Bool
  | none, none => true
  | some a, some b => a.agrees b
  | _, _ => false

end

mutual

def Target.agrees : Target → Target → Bool
  | .name a, .name b => a == b
  | .items a, .items b => agreesTargets a b
  | _, _ => false

def agreesTargets : List Target → List Target → Bool
  | [], [] => true
  | a :: others, b :: rest => a.agrees b && agreesTargets others rest
  | _, _ => false

end

mutual

def Stmt.agrees : Stmt → Stmt → Bool
  | .text a, .text b => a == b
  | .emit a, .emit b => a.agrees b
  | .repeat t a c n body empty, .repeat u b d m other empty' =>
      t.agrees u && a.agrees b && agreesOption c d && n == m && agreesBody body other &&
        agreesBody empty empty'
  | .branch c a b, .branch d e f => c.agrees d && agreesBody a e && agreesBody b f
  | .assign t a, .assign u b => t.agrees u && a.agrees b
  | _, _ => false

def agreesBody : List Stmt → List Stmt → Bool
  | [], [] => true
  | a :: others, b :: rest => a.agrees b && agreesBody others rest
  | _, _ => false

end

mutual

theorem Expr.eq_of_agrees : ∀ a b : Expr, a.agrees b = true → a = b
  | .literal a, e, h => by
      cases e <;> simp [Expr.agrees] at h
      rw [h]
  | .var a, e, h => by
      cases e <;> simp [Expr.agrees] at h
      rw [h]
  | .list _, e, h => by simp [Expr.agrees] at h
  | .dict a, e, h => by
      cases e <;> simp [Expr.agrees] at h
      rw [entries_eq_of_agrees _ _ h]
  | .unary o a, e, h => by
      cases e <;> simp [Expr.agrees] at h
      rw [h.1, Expr.eq_of_agrees _ _ h.2]
  | .binary o a b, e, h => by
      cases e <;> simp [Expr.agrees] at h
      rw [h.1.1, Expr.eq_of_agrees _ _ h.1.2, Expr.eq_of_agrees _ _ h.2]
  | .compare a others, e, h => by
      cases e <;> simp [Expr.agrees] at h
      rw [Expr.eq_of_agrees _ _ h.1, chain_eq_of_agrees _ _ h.2]
  | .choose a b c, e, h => by
      cases e <;> simp [Expr.agrees] at h
      rw [Expr.eq_of_agrees _ _ h.1.1, Expr.eq_of_agrees _ _ h.1.2, option_eq_of_agrees _ _ h.2]
  | .attribute a n, e, h => by
      cases e <;> simp [Expr.agrees] at h
      rw [h.1, Expr.eq_of_agrees _ _ h.2]
  | .index a k, e, h => by
      cases e <;> simp [Expr.agrees] at h
      rw [Expr.eq_of_agrees _ _ h.1, Expr.eq_of_agrees _ _ h.2]
  | .slice _ _ _ _, e, h => by simp [Expr.agrees] at h
  | .call f others, e, h => by
      cases e <;> simp [Expr.agrees] at h
      rw [Expr.eq_of_agrees _ _ h.1, args_eq_of_agrees _ _ h.2]
  | .method _ _ _, e, h => by simp [Expr.agrees] at h
  | .filter n a others, e, h => by
      cases e <;> simp [Expr.agrees] at h
      rw [h.1.1, Expr.eq_of_agrees _ _ h.1.2, args_eq_of_agrees _ _ h.2]
  | .test _ _ _, e, h => by simp [Expr.agrees] at h

theorem entries_eq_of_agrees : ∀ a b : List (Expr × Expr), agreesEntries a b = true → a = b
  | [], [], _ => rfl
  | [], _ :: _, h => by simp [agreesEntries] at h
  | _ :: _, [], h => by simp [agreesEntries] at h
  | (k, a) :: others, (l, b) :: rest, h => by
      simp [agreesEntries] at h
      rw [Expr.eq_of_agrees _ _ h.1.1, Expr.eq_of_agrees _ _ h.1.2, entries_eq_of_agrees _ _ h.2]

theorem chain_eq_of_agrees :
    ∀ a b : List (Comparison × Expr), agreesChain a b = true → a = b
  | [], [], _ => rfl
  | [], _ :: _, h => by simp [agreesChain] at h
  | _ :: _, [], h => by simp [agreesChain] at h
  | (c, a) :: others, (d, b) :: rest, h => by
      simp [agreesChain] at h
      rw [h.1.1, Expr.eq_of_agrees _ _ h.1.2, chain_eq_of_agrees _ _ h.2]

theorem args_eq_of_agrees : ∀ a b : List (ArgKind × Expr), agreesArgs a b = true → a = b
  | [], [], _ => rfl
  | [], _ :: _, h => by simp [agreesArgs] at h
  | _ :: _, [], h => by simp [agreesArgs] at h
  | (k, a) :: others, (l, b) :: rest, h => by
      simp [agreesArgs] at h
      rw [h.1.1, Expr.eq_of_agrees _ _ h.1.2, args_eq_of_agrees _ _ h.2]

theorem option_eq_of_agrees : ∀ a b : Option Expr, agreesOption a b = true → a = b
  | none, none, _ => rfl
  | none, some _, h => by simp [agreesOption] at h
  | some _, none, h => by simp [agreesOption] at h
  | some a, some b, h => by
      simp [agreesOption] at h
      rw [Expr.eq_of_agrees _ _ h]

end

mutual

theorem Target.eq_of_agrees : ∀ a b : Target, a.agrees b = true → a = b
  | .name a, t, h => by
      cases t <;> simp [Target.agrees] at h
      rw [h]
  | .field _ _, t, h => by simp [Target.agrees] at h
  | .items a, t, h => by
      cases t <;> simp [Target.agrees] at h
      rw [targets_eq_of_agrees _ _ h]

theorem targets_eq_of_agrees : ∀ a b : List Target, agreesTargets a b = true → a = b
  | [], [], _ => rfl
  | [], _ :: _, h => by simp [agreesTargets] at h
  | _ :: _, [], h => by simp [agreesTargets] at h
  | a :: others, b :: rest, h => by
      simp [agreesTargets] at h
      rw [Target.eq_of_agrees _ _ h.1, targets_eq_of_agrees _ _ h.2]

end

mutual

theorem Stmt.eq_of_agrees : ∀ a b : Stmt, a.agrees b = true → a = b
  | .text a, s, h => by
      cases s <;> simp [Stmt.agrees] at h
      rw [h]
  | .emit a, s, h => by
      cases s <;> simp [Stmt.agrees] at h
      rw [Expr.eq_of_agrees _ _ h]
  | .repeat t a c n body empty, s, h => by
      cases s <;> simp [Stmt.agrees] at h
      obtain ⟨⟨⟨⟨⟨htarget, hsource⟩, hcondition⟩, hnested⟩, hbody⟩, hempty⟩ := h
      rw [Target.eq_of_agrees _ _ htarget, Expr.eq_of_agrees _ _ hsource,
        option_eq_of_agrees _ _ hcondition, hnested, body_eq_of_agrees _ _ hbody,
        body_eq_of_agrees _ _ hempty]
  | .branch c a b, s, h => by
      cases s <;> simp [Stmt.agrees] at h
      rw [Expr.eq_of_agrees _ _ h.1.1, body_eq_of_agrees _ _ h.1.2, body_eq_of_agrees _ _ h.2]
  | .assign t a, s, h => by
      cases s <;> simp [Stmt.agrees] at h
      rw [Target.eq_of_agrees _ _ h.1, Expr.eq_of_agrees _ _ h.2]
  | .capture _ _ _, s, h => by simp [Stmt.agrees] at h
  | .scope _ _, s, h => by simp [Stmt.agrees] at h
  | .filtered _ _, s, h => by simp [Stmt.agrees] at h
  | .escaping _ _, s, h => by simp [Stmt.agrees] at h
  | .run _, s, h => by simp [Stmt.agrees] at h
  | .includeFragment _ _, s, h => by simp [Stmt.agrees] at h
  | .define _ _ _, s, h => by simp [Stmt.agrees] at h
  | .callWith _ _ _, s, h => by simp [Stmt.agrees] at h
  | .block _ _, s, h => by simp [Stmt.agrees] at h
  | .extend _, s, h => by simp [Stmt.agrees] at h
  | .importAll _ _, s, h => by simp [Stmt.agrees] at h
  | .importNames _ _, s, h => by simp [Stmt.agrees] at h

theorem body_eq_of_agrees : ∀ a b : List Stmt, agreesBody a b = true → a = b
  | [], [], _ => rfl
  | [], _ :: _, h => by simp [agreesBody] at h
  | _ :: _, [], h => by simp [agreesBody] at h
  | a :: others, b :: rest, h => by
      simp [agreesBody] at h
      rw [Stmt.eq_of_agrees _ _ h.1, body_eq_of_agrees _ _ h.2]

end

/-- A text reads as a body without blocks if reading it leads to an equal one. -/
theorem ofTokens?_eq_of_agrees {found : Option (List Token)} {body : List Stmt}
    (hagrees : (found.bind ofTokens?).any
      (fun template => agreesBody template.body body && template.blocks.isEmpty) = true) :
    found.bind ofTokens? = some ⟨body, []⟩ := by
  cases hread : found.bind ofTokens? with
  | none => simp [hread] at hagrees
  | some template =>
      obtain ⟨read, blocks⟩ := template
      simp only [hread, Option.any_some, Bool.and_eq_true, List.isEmpty_iff] at hagrees
      rw [body_eq_of_agrees _ _ hagrees.1, hagrees.2]

/-- What a written text reads as is settled by the characters it is written with. -/
theorem ofText?_ofList_eq_of_agrees {source : List Char} {body : List Stmt}
    (hagrees : ((tokens? source).bind ofTokens?).any
      (fun template => agreesBody template.body body && template.blocks.isEmpty) = true) :
    ofText? (String.ofList source) = some ⟨body, []⟩ := by
  unfold ofText?
  rw [String.toList_ofList]
  exact ofTokens?_eq_of_agrees hagrees

end Template
end Provision
