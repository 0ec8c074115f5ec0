import Provision.Template.Operator
import Provision.Text.Case

/-!
# Tests

A test asks about a value and answers with true or false, or fails on arguments that it cannot
use.
-/

namespace Provision
namespace Template

/-- The question of a test. -/
abbrev TestFunction := Value → List Value → Option Bool

namespace TestFunction

open Decimal

/-- A question about the value alone. -/
def ofValue (p : Value → Bool) : TestFunction
  | value, [] => some (p value)
  | _, _ => none

/-- A question about the value and one other value. -/
def ofPair (p : Value → Value → Bool) : TestFunction
  | value, [other] => some (p value other)
  | _, _ => none

/-- A question about two values as they are written. -/
def ofTexts (p : List Char → List Char → Bool) : TestFunction
  | value, [other] =>
      match value.written?, other.written? with
      | some s, some t => some (p s.toList t.toList)
      | _, _ => none
  | _, _ => none

def ofChars (p : Char → Bool) : TestFunction
  | .str s _, [] => some (s.toList.all p)
  | _, _ => none

/-- A question about a name. -/
def ofName (names : List String) : TestFunction
  | value, [] => value.written?.map (fun name => names.contains name)
  | _, _ => none

def isNone : Value → Bool
  | .none => true
  | _ => false

def isBool : Value → Bool
  | .bool _ => true
  | _ => false

def isString : Value → Bool
  | .str _ _ => true
  | _ => false

def isInteger : Value → Bool
  | .int _ => true
  | _ => false

def isReal : Value → Bool
  | .real _ => true
  | _ => false

def isSequence : Value → Bool
  | .seq .stream _ => false
  | .seq _ _ => true
  | _ => false

def isMapping : Value → Bool
  | .map _ _ => true
  | _ => false

def divides (value divisor : Value) : Bool :=
  match value.numbers? divisor with
  | some (.ints a b) => b ≠ 0 && a % b == 0
  | some (.reals a b) => (a.rem b).isZero
  | none => false

/-- Whether a value is in another one, which may not be missing. -/
def isIn : TestFunction
  | value, [other] => if other.isMissing then none else some ((value.member? other).getD false)
  | _, _ => none

/-- The names of all filters. -/
def filterNames : List String :=
  ["abs", "arg_value", "attr", "batch", "bool", "capitalize", "chain", "count", "d", "default",
    "dictsort", "e", "escape", "first", "float", "groupby", "indent", "indent_wrap", "int",
    "items", "join", "last", "length", "lines", "list", "lower", "make_value", "map", "max",
    "min", "pprint", "reject", "rejectattr", "replace", "reverse", "round", "safe", "select",
    "selectattr", "slice", "sort", "split", "string", "sum", "title", "trim", "unique", "upper",
    "zip"]

/-- The names of all tests. -/
def testNames : List String :=
  ["!=", "<", "<=", "==", ">", ">=", "boolean", "defined", "divisibleby", "endingwith", "eq",
    "equalto", "escaped", "even", "false", "filter", "float", "ge", "greaterthan", "gt", "in",
    "int", "integer", "iterable", "le", "lessthan", "lower", "lt", "mapping", "ne", "none",
    "number", "odd", "safe", "sameas", "sequence", "startingwith", "string", "test", "true",
    "undefined", "upper"]

end TestFunction

open Provision.Template.TestFunction

def kindTest? : String → Option TestFunction
  | "defined" => some (ofValue (fun value => !value.isUndefined))
  | "undefined" => some (ofValue Value.isUndefined)
  | "none" => some (ofValue isNone)
  | "boolean" => some (ofValue isBool)
  | "true" => some (ofValue (fun value => isBool value && value.truth))
  | "false" => some (ofValue (fun value => isBool value && !value.truth))
  | "number" => some (ofValue (fun value => isInteger value || isReal value))
  | "integer" => some (ofValue isInteger)
  | "int" => some (ofValue isInteger)
  | "float" => some (ofValue isReal)
  | "string" => some (ofValue isString)
  | "sequence" => some (ofValue isSequence)
  | "iterable" => some (ofValue (fun value => value.items?.isSome))
  | "mapping" => some (ofValue isMapping)
  | "safe" => some (ofValue Value.isSafe)
  | "escaped" => some (ofValue Value.isSafe)
  | "filter" => some (ofName filterNames)
  | "test" => some (ofName testNames)
  | _ => none

def propertyTest? : String → Option TestFunction
  | "odd" => some (ofValue (fun value => value.int?.any (fun i => i % 2 ≠ 0)))
  | "even" => some (ofValue (fun value => value.int?.any (fun i => i % 2 = 0)))
  | "divisibleby" => some (ofPair divides)
  | "startingwith" => some (ofTexts (fun s start => start.isPrefixOf s))
  | "endingwith" => some (ofTexts (fun s finish => finish.isSuffixOf s))
  | "lower" => some (ofChars Text.isLower)
  | "upper" => some (ofChars Text.isUpper)
  | "in" => some isIn
  | "sameas" => some (ofPair Value.identical)
  | _ => none

/-- The comparison that a test makes; unlike the operator it takes missing values. -/
def testComparison? : String → Option (Value → Value → Bool)
  | "eq" => some Value.same
  | "equalto" => some Value.same
  | "==" => some Value.same
  | "ne" => some (fun a b => !Value.same a b)
  | "!=" => some (fun a b => !Value.same a b)
  | "lt" => some (fun a b => Value.order a b == .lt)
  | "lessthan" => some (fun a b => Value.order a b == .lt)
  | "<" => some (fun a b => Value.order a b == .lt)
  | "le" => some (fun a b => Value.order a b != .gt)
  | "<=" => some (fun a b => Value.order a b != .gt)
  | "gt" => some (fun a b => Value.order a b == .gt)
  | "greaterthan" => some (fun a b => Value.order a b == .gt)
  | ">" => some (fun a b => Value.order a b == .gt)
  | "ge" => some (fun a b => Value.order a b != .lt)
  | ">=" => some (fun a b => Value.order a b != .lt)
  | _ => none

def test? (name : String) : Option TestFunction :=
  (kindTest? name).orElse fun _ =>
    (propertyTest? name).orElse fun _ => (testComparison? name).map ofPair

end Template
end Provision
