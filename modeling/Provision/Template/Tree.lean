import Provision.Decimal.Binary64

/-!
# Templates as trees

A template is a list of statements: text, expressions whose value is written out, and blocks that
repeat, choose, bind names, capture output or bring in other templates.
-/

namespace Provision
namespace Template

open Decimal

inductive Literal where
  | none
  | bool (b : Bool)
  | int (i : Int)
  | real (x : Binary64)
  | str (s : String)
deriving DecidableEq, Repr

inductive UnaryOp where
  | not
  | negate
deriving DecidableEq, Repr

inductive BinaryOp where
  | both
  | either
  | add
  | subtract
  | multiply
  | divide
  | divideFloor
  | remainder
  | power
  | concat
deriving DecidableEq, Repr

/-- A relation between two values that stand side by side. -/
inductive Comparison where
  | equal
  | notEqual
  | less
  | lessEqual
  | greater
  | greaterEqual
  | member
  | notMember
deriving DecidableEq, Repr

/-- How the value of an argument is handed on. -/
inductive ArgKind where
  | positional
  | named (name : String)
  /-- Every item is an argument of its own. -/
  | items
  /-- Every entry is a named argument of its own. -/
  | entries
deriving DecidableEq, Repr

inductive Expr where
  | literal (value : Literal)
  | var (name : String)
  | list (items : List Expr)
  | dict (entries : List (Expr × Expr))
  | unary (op : UnaryOp) (operand : Expr)
  | binary (op : BinaryOp) (left right : Expr)
  /-- Holds if every neighbouring pair of values compares as stated. -/
  | compare (first : Expr) (rest : List (Comparison × Expr))
  /-- One of two values; without the second one the result may be nothing. -/
  | choose (condition whenTrue : Expr) (whenFalse : Option Expr)
  | attribute (object : Expr) (name : String)
  | index (object key : Expr)
  | slice (object : Expr) (start stop step : Option Expr)
  | call (function : Expr) (args : List (ArgKind × Expr))
  /-- Calls what an object keeps under a name. -/
  | method (object : Expr) (name : String) (args : List (ArgKind × Expr))
  | filter (name : String) (operand : Expr) (args : List (ArgKind × Expr))
  | test (name : String) (operand : Expr) (args : List (ArgKind × Expr))
deriving Repr, Inhabited

/-- What a value is bound to: a name, a field of an object, or the names for the items of a
list. -/
inductive Target where
  | name (n : String)
  | field (object : Expr) (n : String)
  | items (targets : List Target)
deriving Repr, Inhabited

/-- A filter that is applied to captured output. -/
structure FilterUse where
  name : String
  args : List (ArgKind × Expr)
deriving Repr, Inhabited

/-- A parameter of a routine and the value that it has if it is not given. -/
structure Parameter where
  name : String
  default : Option Expr
deriving Repr, Inhabited

inductive Stmt where
  | text (content : String)
  | emit (e : Expr)
  /-- Repeats a body for the items that a condition lets pass, or runs another body if there
  are none.  A nested repetition may start again with other items. -/
  | repeat (target : Target) (source : Expr) (condition : Option Expr) (nested : Bool)
      (body : List Stmt) (whenEmpty : List Stmt)
  | branch (condition : Expr) (whenTrue whenFalse : List Stmt)
  | assign (target : Target) (value : Expr)
  | capture (target : Target) (filters : List FilterUse) (body : List Stmt)
  | scope (bindings : List (Target × Expr)) (body : List Stmt)
  | filtered (filters : List FilterUse) (body : List Stmt)
  | escaping (enabled : Expr) (body : List Stmt)
  | run (e : Expr)
  | includeFragment (name : Expr) (ignoreMissing : Bool)
  /-- Defines a routine. -/
  | define (name : String) (parameters : List Parameter) (body : List Stmt)
  /-- Writes out a call that is handed a routine of its own. -/
  | callWith (call : Expr) (parameters : List Parameter) (body : List Stmt)
  /-- A part that templates which build on this one may replace. -/
  | block (name : String) (body : List Stmt)
  /-- Builds on another fragment: that one is run, with the blocks of this one. -/
  | extend (parent : Expr)
  /-- Binds all names of a fragment together as one object. -/
  | importAll (fragment : Expr) (target : String)
  /-- Binds some names of a fragment, each to a name of its own. -/
  | importNames (fragment : Expr) (names : List (String × String))
deriving Repr, Inhabited

/-! ## Blocks of a tree -/

/-- Named parts of templates. -/
abbrev Parts := List (String × List Stmt)

mutual

/-- The blocks in a statement, outside of routines. -/
def Stmt.blocks : Stmt → Parts
  | .repeat _ _ _ _ body whenEmpty => blocksOfBody body ++ blocksOfBody whenEmpty
  | .branch _ whenTrue whenFalse => blocksOfBody whenTrue ++ blocksOfBody whenFalse
  | .capture _ _ body => blocksOfBody body
  | .scope _ body => blocksOfBody body
  | .filtered _ body => blocksOfBody body
  | .escaping _ body => blocksOfBody body
  | .block name body => (name, body) :: blocksOfBody body
  | _ => []

def blocksOfBody : List Stmt → Parts
  | [] => []
  | stmt :: rest => stmt.blocks ++ blocksOfBody rest

end

mutual

/-- Whether a block stands inside of a routine. -/
def Stmt.nestsBlock (inRoutine : Bool) : Stmt → Bool
  | .repeat _ _ _ _ body whenEmpty => nestBlock inRoutine body || nestBlock inRoutine whenEmpty
  | .branch _ whenTrue whenFalse => nestBlock inRoutine whenTrue || nestBlock inRoutine whenFalse
  | .capture _ _ body => nestBlock inRoutine body
  | .scope _ body => nestBlock inRoutine body
  | .filtered _ body => nestBlock inRoutine body
  | .escaping _ body => nestBlock inRoutine body
  | .define _ _ body => nestBlock true body
  | .callWith _ _ body => nestBlock true body
  | .block _ body => inRoutine || nestBlock inRoutine body
  | _ => false

def nestBlock (inRoutine : Bool) : List Stmt → Bool
  | [] => false
  | stmt :: rest => stmt.nestsBlock inRoutine || nestBlock inRoutine rest

end

/-- Whether no name stands twice in a list. -/
def distinct : List String → Bool
  | [] => true
  | name :: rest => !rest.contains name && distinct rest

end Template

/-- A template and its blocks. -/
structure Template where
  body : List Template.Stmt
  blocks : Template.Parts
deriving Repr, Inhabited

/-- The template of a list of statements, whose blocks have names of their own and stand outside
of routines. -/
def Template.ofBody? (body : List Template.Stmt) : Option Template :=
  let blocks := Template.blocksOfBody body
  if Template.distinct (blocks.map Prod.fst) && !Template.nestBlock false body then
    some ⟨body, blocks⟩
  else none

end Provision
