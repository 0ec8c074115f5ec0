import Provision.Template.Eval

/-!
# Running statements

A statement is run for its output; the output of a list of statements is that of the statements
one behind the other.  Running follows the tree, so that it always ends.
-/

namespace Provision
namespace Template

open Run

/-- The text that a value is emitted as; a missing value cannot be emitted. -/
def emitted? (escape : Bool) (value : Value) : Option String :=
  match value with
  | .undefined silent => if silent then some "" else none
  | .none => some value.display
  | .bool _ => some value.display
  | .int _ => some value.display
  | .real _ => some value.display
  | value => some (if escape then FilterFunction.escaped value else value.display)

def emit (value : Value) : Run String := do
  let text ← need (emitted? (← get).escape value)
  write text

/-- Binds a field of the object that an expression leads to. -/
def assignField (host : Host) (object : Expr) (name : String) (value : Value) : Run Unit := do
  let object ← evaluate host object
  setField object name value

def assign (host : Host) (target : Target) (value : Value) : Run Unit :=
  bindTarget (assignField host) value target

/-- The items for which a condition holds; it sees the names that they are bound to. -/
def passing (host : Host) (target : Target) (condition : Expr) :
    (passed : List Value) → List Value → Run (List Value)
  | passed, [] => pure passed.reverse
  | passed, item :: rest => do
      modify (State.mapTop (fun _ => {}))
      bindNames target item
      let value ← evaluate host condition
      let holds ← need value.condition?
      passing host target condition (if holds then item :: passed else passed) rest

def passingItems (host : Host) (target : Target) (condition : Option Expr)
    (items : List Value) : Run (List Value) :=
  match condition with
  | none => pure items
  | some e => inFrame {} (passing host target e [] items)

def applyFilters (host : Host) : List FilterUse → Value → Run Value
  | [], value => pure value
  | first :: rest, value => do
      let args ← evaluateArgs host first.args
      let value ← applyFilter first.name value args
      applyFilters host rest value

/-- Binds names to the values of expressions, each of which sees the names before it. -/
def bindAll (host : Host) : List (Target × Expr) → Run Unit
  | [] => pure ()
  | (target, e) :: rest => do
      let value ← evaluate host e
      bindNames target value
      bindAll host rest

def bindEach : List String → List Value → Run Unit
  | name :: names, value :: values => do
      bind name value
      bindEach names values
  | _, _ => pure ()

/-- Whether output is escaped under a setting. -/
def escaping? : Value → Option Bool
  | .str "html" _ => some true
  | .str "none" _ => some false
  | .str _ _ => none
  | value => some (Value.same value (.bool true))

/-- Runs a step in which output is escaped or not. -/
def withEscaping (escape : Bool) (step : Run String) : Run String := do
  let outer := (← get).escape
  modify (fun s => { s with escape := escape })
  let text ← step
  modify (fun s => { s with escape := outer })
  return text

mutual

def run (host : Host) : Stmt → Run String
  | .text content => write content
  | .emit e => do
      let value ← evaluate host e
      emit value
  | .repeat target source condition nested body whenEmpty => do
      let value ← evaluate host source
      let items ← need value.iterated?
      let items ← passingItems host target condition items
      if items.isEmpty then runAll host whenEmpty
      else repeated (runAll host body) target (if nested then some (target, body) else none) items
  | .branch condition whenTrue whenFalse => do
      let value ← evaluate host condition
      let holds ← need value.condition?
      if holds then runAll host whenTrue else runAll host whenFalse
  | .assign target e => do
      let value ← evaluate host e
      assign host target value
      return ""
  | .capture target filters body => do
      let output ← captured (runAll host body)
      let value ← applyFilters host filters output
      assign host target value
      return ""
  | .scope bindings body =>
      inFrame {} do
        bindAll host bindings
        runAll host body
  | .filtered filters body => do
      let output ← captured (runAll host body)
      let value ← applyFilters host filters output
      emit value
  | .escaping enabled body => do
      let value ← evaluate host enabled
      let escape ← need (escaping? value)
      withEscaping escape (runAll host body)
  | .run e => do
      let _ ← evaluate host e
      return ""
  | .includeFragment name ignoreMissing => do
      let value ← evaluate host name
      embedAny host ignoreMissing value
  | .define name parameters body => do
      let value ← newRoutine name parameters body
      bind name value
      return ""
  | .callWith call parameters body => do
      let value ← callWith host (newRoutine callerName parameters body) call
      emit value
  | .block name _ => block host name
  | .extend parent => do
      let value ← evaluate host parent
      extend host value
      return ""
  | .importAll fragment target => do
      let value ← evaluate host fragment
      let value ← exports host value
      bind target value
      return ""
  | .importNames fragment names => do
      let value ← evaluate host fragment
      let values ← exported host value (names.map Prod.fst)
      bindEach (names.map Prod.snd) values
      return ""

def runAll (host : Host) : List Stmt → Run String
  | [] => pure ""
  | stmt :: rest => do
      let text ← run host stmt
      let later ← runAll host rest
      return text ++ later

end

end Template
end Provision
