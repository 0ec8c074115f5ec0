import Provision.Decimal.Exponential
import Provision.Template.Order
import Provision.Text.Lines

/-!
# Operators on values

Arithmetic on integers is exact within 128 bits, and a fraction on one side makes the result a
fraction.  A comparison needs two values.
-/

namespace Provision
namespace Template
namespace Value

open Decimal

/-! ## Arithmetic -/

/-- Two numbers of one kind. -/
inductive NumberPair where
  | ints (a b : Int)
  | reals (a b : Binary64)

def numbers? : Value → Value → Option NumberPair
  | .real a, b => b.real?.map (fun b => .reals a b)
  | a, .real b => a.real?.map (fun a => .reals a b)
  | a, b =>
      match a.int?, b.int? with
      | some a, some b => some (.ints a b)
      | _, _ => Option.none

/-- An integer of at most 128 bits. -/
def bounded? (i : Int) : Option Value :=
  if fitsSigned 128 i then some (.int i) else Option.none

def add? : Value → Value → Option Value
  | .seq _ a, .seq _ b => some (stream (a ++ b))
  | .str a _, .str b _ => some (text (a ++ b))
  | a, b =>
      match numbers? a b with
      | some (.ints a b) => bounded? (a + b)
      | some (.reals a b) => some (.real (a.add b))
      | Option.none => Option.none

def subtract? (a b : Value) : Option Value :=
  match numbers? a b with
  | some (.ints a b) => bounded? (a - b)
  | some (.reals a b) => some (.real (a.sub b))
  | Option.none => Option.none

def repeated? {α : Type} (items : List α) (count : Value) : Option (List α) :=
  match count.int? with
  | some n => if n < 0 then Option.none else some (List.replicate n.toNat items).flatten
  | Option.none => Option.none

def multiply? : Value → Value → Option Value
  | .str s _, b => (repeated? s.toList b).map ofChars
  | a, .str s _ => (repeated? s.toList a).map ofChars
  | .seq _ items, b => (repeated? items b).map stream
  | a, .seq _ items => (repeated? items a).map stream
  | a, b =>
      match numbers? a b with
      | some (.ints a b) => bounded? (a * b)
      | some (.reals a b) => some (.real (a.mul b))
      | Option.none => Option.none

/-- The quotient as a fraction. -/
def divide? (a b : Value) : Option Value :=
  match a.real?, b.real? with
  | some a, some b => some (.real (a.div b))
  | _, _ => Option.none

/-- The whole part of a quotient, whose remainder is not negative. -/
def divideFloor? (a b : Value) : Option Value :=
  match numbers? a b with
  | some (.ints a b) => if b = 0 then Option.none else bounded? (a / b)
  | some (.reals a b) => some (.real (a.divWhole b))
  | Option.none => Option.none

def remainder? (a b : Value) : Option Value :=
  match numbers? a b with
  | some (.ints a b) => if b = 0 then Option.none else bounded? (a % b)
  | some (.reals a b) => some (.real (a.rem b))
  | Option.none => Option.none

/-- A power of an integer; a base of two or more leaves the range with the 128th power. -/
def integerPower? (a b : Int) : Option Value :=
  if !fitsUnsigned 32 b then Option.none
  else if a.natAbs ≤ 1 then bounded? (if b = 0 then 1 else if b % 2 = 0 then a * a else a)
  else if 128 < b then Option.none
  else bounded? (Int.pow a b.toNat)

def power? (a b : Value) : Option Value :=
  match numbers? a b with
  | some (.ints a b) => integerPower? a b
  | some (.reals a b) => some (.real (a.pow b))
  | Option.none => Option.none

def negate? : Value → Option Value
  | .int i => bounded? (-i)
  | .real x => some (.real x.neg)
  | _ => Option.none

/-- The texts of two values behind one another. -/
def concat? (a b : Value) : Option Value :=
  if a.isMissing || b.isMissing then Option.none else some (text (a.display ++ b.display))

/-! ## Comparisons -/

/-- Whether one list stands in another one without a gap. -/
def containsRun (part : List Char) : List Char → Bool
  | [] => part.isEmpty
  | c :: rest => part.isPrefixOf (c :: rest) || containsRun part rest

/-- Whether a value is an item of a list, a key of a map or a part of a text. -/
def member? (item : Value) : Value → Option Bool
  | .undefined _ => some false
  | .str s _ => some (containsRun item.display.toList s.toList)
  | .seq _ items => some (items.any (fun other => same item other))
  | .map _ entries => some (valueAt? item entries).isSome
  | .helper _ => some false
  | .routine _ => some false
  | _ => Option.none

/-- Whether two values compare as stated; neither of them may be missing. -/
def compare? (comparison : Comparison) (a b : Value) : Option Bool :=
  if a.isMissing || b.isMissing then Option.none
  else
    match comparison with
    | .equal => some (same a b)
    | .notEqual => some (!same a b)
    | .less => some (order a b == .lt)
    | .lessEqual => some (order a b != .gt)
    | .greater => some (order a b == .gt)
    | .greaterEqual => some (order a b != .lt)
    | .member => member? a b
    | .notMember => (member? a b).map (fun holds => !holds)

/-- The value of an operator whose operands are both needed. -/
def operate? (op : BinaryOp) (a b : Value) : Option Value :=
  match op with
  | .both => (condition? a).map (fun holds => if holds then b else a)
  | .either => (condition? a).map (fun holds => if holds then a else b)
  | .add => add? a b
  | .subtract => subtract? a b
  | .multiply => multiply? a b
  | .divide => divide? a b
  | .divideFloor => divideFloor? a b
  | .remainder => remainder? a b
  | .power => power? a b
  | .concat => concat? a b

/-! ## Parts of values -/

/-- The item at a place; a negative place counts from the end. -/
def itemAt {α : Type} (items : List α) (place : Int) : Option α :=
  if 0 ≤ place then items[place.toNat]?
  else if items.length < place.natAbs then Option.none
  else items[items.length - place.natAbs]?

/-- What can be asked of a routine. -/
def routineField? (r : Routine) : String → Option Value
  | "name" => some (text r.name)
  | "arguments" => some (list (r.parameters.map (fun p => text p.name)))
  | "caller" => some (.bool r.takesCaller)
  | _ => Option.none

/-- The item of a group by its name. -/
def groupItem? (items : List Value) : String → Option Value
  | "grouper" => items[0]?
  | "list" => items[1]?
  | _ => Option.none

/-- What a key selects, if it selects anything. -/
def part? (key : Value) : Value → Option Value
  | .map _ entries => valueAt? key entries
  | .seq kind items =>
      match key.int? with
      | some place => itemAt items place
      | Option.none => if kind = .group then key.str?.bind (groupItem? items) else Option.none
  | .str s _ => (key.int?.bind (itemAt s.toList)).map (fun c => ofChars [c])
  | .routine r => key.str?.bind (routineField? r)
  | _ => Option.none

/-- What a key selects, or nothing.  What is undefined cannot be asked. -/
def index? (key value : Value) : Option Value :=
  if value.isUndefined then Option.none else some ((part? key value).getD missing)

/-- What is kept under a name. -/
def attribute? (name : String) (value : Value) : Option Value :=
  index? (text name) value

/-- What is found along names and numbers with points between them. -/
def follow? : List (List Char) → Value → Option Value
  | [], value => some value
  | step :: rest, value =>
      let key : Value :=
        match natOfDigits? 10 step with
        | some n => .int n
        | Option.none => ofChars step
      (index? key value).bind (follow? rest)

def path? (path : String) (value : Value) : Option Value :=
  follow? (Text.pieces '.' path.toList) value

/-! ## Slices -/

/-- A bound of a slice within a list of some length. -/
def boundWithin (length : Nat) (bound : Int) : Nat :=
  if bound < 0 then (length + bound).toNat else min length bound.toNat

/-- Every item whose distance from the start is a multiple of the step. -/
def everyNth {α : Type} (step : Nat) : (wait : Nat) → List α → List α
  | _, [] => []
  | 0, item :: rest => item :: everyNth step (step - 1) rest
  | wait + 1, _ :: rest => everyNth step wait rest

def sliceForward {α : Type} (start stop : Option Int) (step : Nat) (items : List α) : List α :=
  let first := boundWithin items.length (start.getD 0)
  let last := boundWithin items.length (stop.getD items.length)
  everyNth step 0 ((items.take last).drop first)

/-- The number of items up to and with a bound, which is counted as in a slice. -/
def countThrough (length : Nat) (bound : Int) : Nat :=
  if bound < 0 then (length + bound + 1).toNat else min length (bound.toNat + 1)

/-- The items from one bound back to another one, the last of which is left out. -/
def sliceBackward {α : Type} (start stop : Option Int) (step : Nat) (items : List α) : List α :=
  let first := (start.map (countThrough items.length)).getD items.length
  let last := (stop.map (countThrough items.length)).getD 0
  everyNth step 0 ((items.take first).drop last).reverse

def sliceOf {α : Type} (start stop : Option Int) (step : Int) (items : List α) : List α :=
  if step < 0 then sliceBackward start stop step.natAbs items
  else sliceForward start stop step.natAbs items

/-- A bound or step that may be left open. -/
def bound? : Value → Option (Option Int)
  | .none => some Option.none
  | value => value.int?.map some

def slice? (start stop step : Value) (value : Value) : Option Value :=
  match bound? start, bound? stop, bound? step with
  | some start, some stop, some step =>
      let step := step.getD 1
      if step = 0 then Option.none
      else
        match value with
        | .undefined true => some (list [])
        | .none => some (list [])
        | .str s _ => some (ofChars (sliceOf start stop step s.toList))
        | .seq _ items => some (stream (sliceOf start stop step items))
        | _ => Option.none
  | _, _, _ => Option.none

end Value
end Template
end Provision
