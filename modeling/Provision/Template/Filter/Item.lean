import Provision.Template.Filter.Basic
import Provision.Text.Case

/-!
# Filters on lists and maps

Where items are put in order or told apart, the case of letters does not count unless it is asked
for.
-/

namespace Provision
namespace Template
namespace FilterFunction

/-! ## Parts -/

def length : FilterFunction
  | value, [] => value.size?.map (fun n => .int n)
  | _, _ => none

def pairOf (entry : Value × Value) : Value := .list [entry.1, entry.2]

def items : FilterFunction
  | .map _ entries, [] => some (.stream (entries.map pairOf))
  | _, _ => none

/-- Another value for a missing one, or for one that does not count as true if asked to. -/
def byDefault : FilterFunction
  | value, args =>
      let other := (args.head?.filter (fun value => !value.isOmitted)).getD (.text "")
      let lax := args.tail.head?.any Value.truth
      if 2 < args.length then none
      else if value.isUndefined || (lax && !value.truth) then some other
      else some value

def reverse : FilterFunction
  | .undefined silent, [] => some (.undefined silent)
  | .none, [] => some .none
  | .str s safe, [] => some (.str (String.ofList s.toList.reverse) safe)
  | .seq _ items, [] => some (.stream items.reverse)
  | .map _ entries, [] => some (.stream (entries.map Prod.fst))
  | _, _ => none

def first : FilterFunction
  | .str s _, [] => some ((s.toList.head?.map (fun c => Value.ofChars [c])).getD .missing)
  | value, [] => value.parts?.map (fun items => items.head?.getD .missing)
  | _, _ => none

/-- The last item, or the last character, which is as safe as its text. -/
def last : FilterFunction
  | .str s safe, [] =>
      some ((s.toList.getLast?.map (fun c => .str (String.singleton c) safe)).getD .missing)
  | .seq _ items, [] => some (items.getLast?.getD .missing)
  | _, _ => none

def entryOf : FilterFunction
  | value, [key] => Value.index? key value
  | _, _ => none

def layOut : FilterFunction
  | value, [] => some (.text (value.layout 0))
  | _, _ => none

/-! ## Order -/

/-- The least of some values, the first of several. -/
def least : List Value → Value
  | [] => .missing
  | item :: rest =>
      rest.foldl (fun best other => if Value.order other best == .lt then other else best) item

/-- The greatest of some values, the last of several. -/
def greatest : List Value → Value
  | [] => .missing
  | item :: rest =>
      rest.foldl (fun best other => if Value.order other best == .lt then best else other) item

def lowerAscii (s : String) : String :=
  String.ofList (s.toList.map Char.toLower)

/-- The order of two values, in which the case of plain letters counts only if it is asked for. -/
def orderBy (sensitive : Bool) (a b : Value) : Ordering :=
  match a, b with
  | .str s _, .str t _ =>
      if sensitive then Value.orderTexts s t
      else Value.orderTexts (lowerAscii s) (lowerAscii t)
  | a, b => Value.order a b

/-- The order of two items by what is found along a path, if one is given. -/
def orderAlong (path? : Option String) (sensitive : Bool) (a b : Value) : Ordering :=
  match path? with
  | none => orderBy sensitive a b
  | some path =>
      match a.path? path, b.path? path with
      | some x, some y => orderBy sensitive x y
      | _, _ => .eq

/-- Values in an order that keeps equal ones as they stand, or all of them the other way round. -/
def sortedBy (order : Value → Value → Ordering) (reversed : Bool) (items : List Value) :
    List Value :=
  let sorted := items.mergeSort (fun a b => order a b != .gt)
  if reversed then sorted.reverse else sorted

def sort : FilterFunction
  | value, args => do
      let given := Given.ofArgs args
      let path? ← given.word? "attribute"
      let sensitive ← given.flag? "case_sensitive"
      let reversed ← given.flag? "reverse"
      let items ← value.iterated?
      if !given.items.isEmpty || !given.allows ["attribute", "case_sensitive", "reverse"] then none
      else some (.list (sortedBy (orderAlong path? sensitive) reversed items))

def atPlace (place : Int) (pair : Value) : Value :=
  (Value.index? (.int place) pair).getD .missing

/-- The entries of a map as pairs, by key or by value. -/
def sortEntries : FilterFunction
  | .map _ entries, args => do
      let given := Given.ofArgs args
      let side? ← given.word? "by"
      let sensitive ← given.flag? "case_sensitive"
      let reversed ← given.flag? "reverse"
      let place := if side? = some "value" then 1 else 0
      let order (a b : Value) := orderBy sensitive (atPlace place a) (atPlace place b)
      if !given.items.isEmpty || !given.allows ["by", "case_sensitive", "reverse"] then none
      else some (.list (sortedBy order reversed (entries.map pairOf)))
  | _, _ => none

/-- What an item is told apart by. -/
def keyOf (path? : Option String) (sensitive : Bool) (item : Value) : Value :=
  let key := (path?.map (fun path => (item.path? path).getD .missing)).getD item
  match key with
  | .str s safe => if sensitive then key else .str (Text.lowerText s) safe
  | key => key

/-- The items without those that equal an earlier one. -/
def distinctFrom (key : Value → Value) (seen : List Value) : List Value → List Value
  | [] => []
  | item :: rest =>
      if seen.any (fun other => Value.order (key item) other == .eq) then
        distinctFrom key seen rest
      else item :: distinctFrom key (key item :: seen) rest

def unique : FilterFunction
  | value, args => do
      let given := Given.ofArgs args
      let path? ← given.word? "attribute"
      let sensitive ← given.flag? "case_sensitive"
      let items ← value.iterated?
      if !given.items.isEmpty || !given.allows ["attribute", "case_sensitive"] then none
      else some (.list (distinctFrom (keyOf path? sensitive) [] items))

/-- What is found along a path, or another value. -/
def alongOr (path : String) (other item : Value) : Value :=
  match item.path? path with
  | some value => if value.isUndefined then other else value
  | none => other

/-- Runs of neighbours whose keys are equal, each with the key of its last item. -/
def groupRuns (sameKey : Value → Value → Bool) (key : Value → Value) :
    List Value → List (Value × List Value)
  | [] => []
  | item :: rest =>
      match groupRuns sameKey key rest with
      | [] => [(key item, [item])]
      | (k, members) :: others =>
          match rest.head? with
          | some next =>
              if sameKey (key item) (key next) then (k, item :: members) :: others
              else (key item, [item]) :: (k, members) :: others
          | none => (k, item :: members) :: others

def groupValue (group : Value × List Value) : Value :=
  .seq .group [group.1, .stream group.2]

/-- The items that have equal keys together, by their keys. -/
def groupBy : FilterFunction
  | value, args => do
      let given := Given.ofArgs args
      let path ← (← given.at? 0 "attribute").bind Value.str?
      let sensitive ← given.flag? "case_sensitive"
      let other := (given.get? "default").getD .missing
      let items ← value.items?
      let key := alongOr path other
      let order (a b : Value) := orderBy sensitive (key a) (key b)
      if 1 < given.items.length || !given.allows ["attribute", "case_sensitive", "default"] then
        none
      else
        let sorted := sortedBy order false items
        let sameKey (a b : Value) := orderBy sensitive a b == .eq
        some (.list ((groupRuns sameKey key sorted).map groupValue))

/-! ## Runs -/

/-- Cuts a list into runs of a length, the last of which may be shorter. -/
def runsOf {α : Type} (length : Nat) : (fuel : Nat) → List α → List (List α)
  | 0, _ => []
  | _ + 1, [] => []
  | fuel + 1, item :: rest =>
      (item :: rest).take length :: runsOf length fuel ((item :: rest).drop length)

def padded (length : Nat) (fill? : Option Value) (run : List Value) : List Value :=
  match fill? with
  | some value => run ++ List.replicate (length - run.length) value
  | none => run

/-- A number of runs, and what they are filled up with. -/
def runArgs? : List Value → Option (Nat × Option Value)
  | [count] => (count? count).bind (fun n => if n = 0 then none else some (n, none))
  | [count, fill] =>
      (count? count).bind fun n =>
        if n = 0 then none else some (n, if fill.isOmitted then none else some fill)
  | _ => none

/-- Runs of a length, the last of which may be filled up. -/
def batch : FilterFunction
  | value, args => do
      let (length, fill?) ← runArgs? args
      let items ← value.iterated?
      let runs := runsOf length items.length items
      some (.list (runs.map (fun run => .list (padded length fill? run))))

/-- So many runs of nearly the same length, the longer ones first. -/
def evenRuns (length longer : Nat) (fill? : Option Value) :
    (count : Nat) → List Value → List (List Value)
  | 0, _ => []
  | count + 1, items =>
      let size := if longer = 0 then length else length + 1
      let run := items.take size
      let run := if longer = 0 then run ++ fill?.toList else run
      run :: evenRuns length (longer - 1) fill? count (items.drop size)

def cutEvenly : FilterFunction
  | value, args => do
      let (count, fill?) ← runArgs? args
      let items ← value.iterated?
      let runs := evenRuns (items.length / count) (items.length % count) fill? count items
      some (.list (runs.map .list))

/-! ## Several values -/

def isMap : Value → Bool
  | .map _ _ => true
  | _ => false

def isList : Value → Bool
  | .seq .stream _ => false
  | .seq _ _ => true
  | _ => false

def entriesOf : Value → List (Value × Value)
  | .map _ entries => entries
  | _ => []

/-- Values behind one another: as one map, as one list or as one stream. -/
def chain : FilterFunction
  | value, others =>
      let all := value :: others
      if all.all isMap then some (.ofEntries (all.flatMap entriesOf))
      else
        match all.mapM Value.items? with
        | some parts => some (.seq (if all.all isList then .list else .stream) parts.flatten)
        | none => none

/-- The first items of all lists, then the second ones, as long as there are such. -/
def transpose : (fuel : Nat) → List (List Value) → List (List Value)
  | 0, _ => []
  | fuel + 1, rows =>
      match rows.mapM List.head? with
      | some heads => heads :: transpose fuel (rows.map List.tail)
      | none => []

def zip : FilterFunction
  | value, others => do
      let rows ← (value :: others).mapM Value.items?
      let length := (rows.head?.getD []).length
      some (.stream ((transpose length rows).map .list))

end FilterFunction

open FilterFunction

def itemFilter? : String → Option FilterFunction
  | "length" => some length
  | "count" => some length
  | "items" => some items
  | "default" => some byDefault
  | "d" => some byDefault
  | "reverse" => some reverse
  | "first" => some first
  | "last" => some last
  | "attr" => some entryOf
  | "list" => some (ofItems .list)
  | "pprint" => some layOut
  | "min" => some (ofItems least)
  | "max" => some (ofItems greatest)
  | "sort" => some sort
  | "dictsort" => some sortEntries
  | "unique" => some unique
  | "groupby" => some groupBy
  | "batch" => some batch
  | "slice" => some cutEvenly
  | "chain" => some chain
  | "zip" => some zip
  | _ => none

end Template
end Provision
