import Mathlib.Logic.Function.Basic
import Provision.Proofs.Template.Record
import Provision.Template.Engine

/-!
# What plain templates mean

A plain template writes text and values, binds names, chooses and repeats.  Its meaning is a
function of what names mean: it neither reads nor changes anything else.  The functions here give
that meaning without a state, and a rendering agrees with them wherever they are defined.
-/

namespace Provision
namespace Template

/-- What names mean. -/
abbrev Env := String → Value

/-- What helpers answer, as far as the answer follows from the arguments. -/
abbrev Answer := Helper → List Value → Option Value

namespace Env

/-- What a name means that is bound to nothing. -/
def outside (name : String) : Value :=
  match Helper.ofName? name with
  | some h => .helper h
  | none => .missing

def ofDict (d : Dict Value) : Env := fun name => (d.get? name).getD (outside name)

def bindAll (env : Env) : List (String × Value) → Env
  | [] => env
  | (name, value) :: rest => bindAll (Function.update env name value) rest

end Env

/-! ## Expressions -/

mutual

def value? (answer : Answer) (env : Env) : Expr → Option Value
  | .literal value => some (literalValue value)
  | .var name => if name = "loop" then none else some (env name)
  | .dict entries => (entries? answer env entries).map .ofEntries
  | .unary .not operand => do
      let value ← value? answer env operand
      let holds ← value.condition?
      some (.bool !holds)
  | .binary .concat left right => do
      let a ← value? answer env left
      let b ← value? answer env right
      Value.concat? a b
  | .compare first rest => do
      let value ← value? answer env first
      let holds ← chain? answer env value rest
      some (.bool holds)
  | .choose condition whenTrue whenFalse => do
      let value ← value? answer env condition
      let holds ← value.condition?
      if holds then value? answer env whenTrue
      else option? answer env (.undefined true) whenFalse
  | .attribute object name => do
      let value ← value? answer env object
      value.attribute? name
  | .index object key => do
      let value ← value? answer env object
      let key ← value? answer env key
      Value.index? key value
  | .call (.var name) args =>
      if name = "super" ∨ name = "loop" then none
      else do
        let args ← args? answer env args
        match env name with
        | .helper h => answer h args
        | _ => none
  | .filter name operand args => do
      let value ← value? answer env operand
      let args ← args? answer env args
      filtered? false name value args
  | _ => none

def entries? (answer : Answer) (env : Env) : List (Expr × Expr) → Option Entries
  | [] => some []
  | (key, e) :: rest => do
      let key ← value? answer env key
      let value ← value? answer env e
      let entries ← entries? answer env rest
      some ((key, value) :: entries)

def chain? (answer : Answer) (env : Env) (value : Value) :
    List (Comparison × Expr) → Option Bool
  | [] => some true
  | (comparison, e) :: rest => do
      let other ← value? answer env e
      let holds ← Value.compare? comparison value other
      if holds then chain? answer env other rest else some false

/-- The values of positional arguments. -/
def args? (answer : Answer) (env : Env) : List (ArgKind × Expr) → Option (List Value)
  | [] => some []
  | (.positional, e) :: rest => do
      let value ← value? answer env e
      let values ← args? answer env rest
      some (value :: values)
  | _ => none

def option? (answer : Answer) (env : Env) (other : Value) : Option Expr → Option Value
  | none => some other
  | some e => value? answer env e

end

/-! ## Statements -/

/-- What a name, or a pair of names, is bound to. -/
def bindings? : Target → Value → Option (List (String × Value))
  | .name n, value => some [(n, value)]
  | .items [.name a, .name b], value =>
      match value.parts? with
      | some [first, second] => some [(a, first), (b, second)]
      | _ => none
  | _, _ => none

/-- The texts of some items one behind the other. -/
def concat? {α : Type} (text? : α → Option String) : List α → Option String
  | [] => some ""
  | item :: rest => do
      let text ← text? item
      let later ← concat? text? rest
      some (text ++ later)

def keep? {α : Type} (holds? : α → Option Bool) : List α → Option (List α)
  | [] => some []
  | item :: rest => do
      let holds ← holds? item
      let kept ← keep? holds? rest
      some (if holds then item :: kept else kept)

/-- Whether an item lets a condition pass that sees what the item is bound to. -/
def passes? (answer : Answer) (env : Env) (target : Target) (condition : Expr) (item : Value) :
    Option Bool := do
  let bound ← bindings? target item
  let value ← value? answer (env.bindAll bound) condition
  value.condition?

def passing? (answer : Answer) (env : Env) (target : Target) (condition : Option Expr)
    (items : List Value) : Option (List Value) :=
  match condition with
  | none => some items
  | some e => keep? (passes? answer env target e) items

mutual

/-- The output of a statement, and what names mean behind it. -/
def text? (answer : Answer) (depth : Nat) (env : Env) : Stmt → Option (String × Env)
  | .text content => some (content, env)
  | .emit e => do
      let value ← value? answer env e
      let text ← emitted? false value
      some (text, env)
  | .repeat target source condition _ body [] =>
      if Run.depthLimit < depth then none
      else do
        let value ← value? answer env source
        let items ← value.iterated?
        let items ← passing? answer env target condition items
        let text ← concat? (fun item => do
          let bound ← bindings? target item
          let result ← texts? answer (depth + 1) (env.bindAll bound) body
          some result.1) items
        some (text, env)
  | .branch condition whenTrue whenFalse => do
      let value ← value? answer env condition
      let holds ← value.condition?
      if holds then texts? answer depth env whenTrue else texts? answer depth env whenFalse
  | .assign (.name n) e => do
      let value ← value? answer env e
      some ("", Function.update env n value)
  | _ => none

def texts? (answer : Answer) (depth : Nat) (env : Env) : List Stmt → Option (String × Env)
  | [] => some ("", env)
  | stmt :: rest => do
      let first ← text? answer depth env stmt
      let later ← texts? answer depth first.2 rest
      some (first.1 ++ later.1, later.2)

end

section Equations

attribute [local simp] value? text? texts?

variable (answer : Answer) (depth : Nat) (env : Env)

@[simp] theorem value?_var {name : String} (hname : name ≠ "loop") :
    value? answer env (.var name) = some (env name) := by
  simp [hname]

theorem text?_text (content : String) :
    text? answer depth env (.text content) = some (content, env) := by
  simp

theorem texts?_append (first rest : List Stmt) :
    texts? answer depth env (first ++ rest) =
      (texts? answer depth env first).bind fun before =>
        (texts? answer depth before.2 rest).map fun later => (before.1 ++ later.1, later.2) := by
  induction first generalizing env with
  | nil =>
      rw [List.nil_append, texts?, Option.bind_some]
      cases texts? answer depth env rest with
      | none => rfl
      | some later => simp
  | cons stmt others ih =>
      rw [List.cons_append, texts?, texts?]
      cases text? answer depth env stmt with
      | none => rfl
      | some found =>
          simp only [Option.bind_eq_bind, Option.bind_some, ih]
          cases texts? answer depth found.2 others with
          | none => rfl
          | some before =>
              simp only [Option.bind_some]
              cases texts? answer depth before.2 rest with
              | none => rfl
              | some later => simp [String.append_assoc]

end Equations

end Template
end Provision
