import Provision.Template.Filter
import Provision.Template.Run

/-!
# Evaluation

The value of an expression follows its tree.  What it can change is what the state keeps for
calls: fields, closures and what repetitions were told.
-/

namespace Provision
namespace Template

open Run

/-- Arguments with the named ones, if there can be any, together in one map at their end. -/
def arguments (items : List Value) (named : Option Entries) : List Value :=
  match named with
  | none => items
  | some entries => items ++ [.map .arguments (Value.sortedEntries entries)]

def isNamed : ArgKind → Bool
  | .named _ => true
  | .entries => true
  | _ => false

/-- Whether some arguments are handed on by their names. -/
def anyNamed (args : List (ArgKind × Expr)) : Bool :=
  args.any (fun arg => isNamed arg.1)

def literalValue : Literal → Value
  | .none => .none
  | .bool b => .bool b
  | .int i => .int i
  | .real x => .real x
  | .str s => .text s

def applyFilter (name : String) (value : Value) (args : List Value) : Run Value := do
  need (filtered? (← get).escape name value args)

def applyTest (name : String) (value : Value) (args : List Value) : Run Bool :=
  match test? name with
  | some test => need (test value args)
  | none => fail

/-- Whether an expression leads to a value that is there already and makes no new one. -/
def Expr.isReference : Expr → Bool
  | .var _ => true
  | .attribute _ _ => true
  | .index _ _ => true
  | _ => false

def isContainer : Value → Bool
  | .seq _ _ => true
  | .map _ _ => true
  | _ => false

/-- Whether a test can hold: a new list or map is never one that is there already. -/
def canHold (name : String) (value : Value) (operand : Expr) (args : List (ArgKind × Expr)) :
    Bool :=
  name ≠ "sameas" || !isContainer value ||
    (operand.isReference && args.all (fun arg => arg.2.isReference))

mutual

def evaluate (host : Host) : Expr → Run Value
  | .literal value => pure (literalValue value)
  | .var name => return (← get).lookup name
  | .list items => do
      let items ← evaluateAll host items
      return .list items
  | .dict entries => do
      let entries ← evaluateEntries host entries
      return .ofEntries entries
  | .unary .not operand => do
      let value ← evaluate host operand
      let holds ← need value.condition?
      return .bool !holds
  | .unary .negate operand => do
      let value ← evaluate host operand
      need value.negate?
  | .binary .both left right => do
      let value ← evaluate host left
      let holds ← need value.condition?
      if holds then evaluate host right else return value
  | .binary .either left right => do
      let value ← evaluate host left
      let holds ← need value.condition?
      if holds then return value else evaluate host right
  | .binary op left right => do
      let a ← evaluate host left
      let b ← evaluate host right
      need (Value.operate? op a b)
  | .compare first rest => do
      let value ← evaluate host first
      let holds ← compareChain host value rest
      return .bool holds
  | .choose condition whenTrue whenFalse => do
      let value ← evaluate host condition
      let holds ← need value.condition?
      if holds then evaluate host whenTrue
      else evaluateOption host (.undefined true) whenFalse
  | .attribute object name => do
      let value ← evaluate host object
      need (value.attribute? name)
  | .index object key => do
      let value ← evaluate host object
      let key ← evaluate host key
      need (Value.index? key value)
  | .slice object start stop step => do
      let value ← evaluate host object
      let start ← evaluateOption host .none start
      let stop ← evaluateOption host .none stop
      let step ← evaluateOption host .none step
      need (Value.slice? start stop step value)
  | .call (.var name) args => do
      let args ← evaluateArgs host args
      callName host name args
  | .call function args => do
      let function ← evaluate host function
      let args ← evaluateArgs host args
      call host function args
  | .method (.var "self") name _ => captured (block host name)
  | .method object name args => do
      let object ← evaluate host object
      let args ← evaluateArgs host args
      callMethod host object name args
  | .filter name operand args => do
      let value ← evaluate host operand
      let args ← evaluateArgs host args
      applyFilter name value args
  | .test name operand args => do
      let value ← evaluate host operand
      let values ← evaluateArgs host args
      let holds ← applyTest name value values
      return .bool (holds && canHold name value operand args)

def evaluateAll (host : Host) : List Expr → Run (List Value)
  | [] => pure []
  | e :: rest => do
      let value ← evaluate host e
      let values ← evaluateAll host rest
      return value :: values

def evaluateEntries (host : Host) : List (Expr × Expr) → Run Entries
  | [] => pure []
  | (key, e) :: rest => do
      let key ← evaluate host key
      let value ← evaluate host e
      let entries ← evaluateEntries host rest
      return (key, value) :: entries

/-- Whether a value and the values of expressions compare as stated, pair by pair up to the first
pair that does not. -/
def compareChain (host : Host) (value : Value) : List (Comparison × Expr) → Run Bool
  | [] => pure true
  | (comparison, e) :: rest => do
      let other ← evaluate host e
      let holds ← need (Value.compare? comparison value other)
      if holds then compareChain host other rest else return false

/-- The values of all arguments, the named ones after all others. -/
def evaluateArgs (host : Host) (args : List (ArgKind × Expr)) : Run (List Value) := do
  let items ← evaluateItems host args
  let named ← evaluateNamed host args
  return arguments items (if anyNamed args then some named else none)

def evaluateItems (host : Host) : List (ArgKind × Expr) → Run (List Value)
  | [] => pure []
  | (.positional, e) :: rest => do
      let value ← evaluate host e
      let values ← evaluateItems host rest
      return value :: values
  | (.items, e) :: rest => do
      let value ← evaluate host e
      let items ← need value.items?
      let values ← evaluateItems host rest
      return items ++ values
  | (.named _, _) :: rest => evaluateItems host rest
  | (.entries, _) :: rest => evaluateItems host rest

def evaluateNamed (host : Host) : List (ArgKind × Expr) → Run Entries
  | [] => pure []
  | (.named name, e) :: rest => do
      let value ← evaluate host e
      let entries ← evaluateNamed host rest
      return (.text name, value) :: entries
  | (.entries, e) :: rest => do
      let value ← evaluate host e
      match value with
      | .map _ entries => do
          let others ← evaluateNamed host rest
          return entries ++ others
      | _ => fail
  | (.positional, _) :: rest => evaluateNamed host rest
  | (.items, _) :: rest => evaluateNamed host rest

/-- The value of an expression that may be left out. -/
def evaluateOption (host : Host) (other : Value) : Option Expr → Run Value
  | none => pure other
  | some e => evaluate host e

end

/-- The value of a call that is handed a routine. -/
def callWith (host : Host) (routine : Run Value) : Expr → Run Value
  | .call (.var name) args => do
      let args ← withCaller args
      callName host name args
  | .call function args => do
      let function ← evaluate host function
      let args ← withCaller args
      call host function args
  | .method object name args => do
      let object ← evaluate host object
      let args ← withCaller args
      callMethod host object name args
  | _ => fail
where
  withCaller (args : List (ArgKind × Expr)) : Run (List Value) := do
    let items ← evaluateItems host args
    let named ← evaluateNamed host args
    let caller ← routine
    return arguments items (some (named ++ [(.text callerName, caller)]))

end Template
end Provision
