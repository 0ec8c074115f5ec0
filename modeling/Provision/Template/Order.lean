import Provision.Template.Value

/-!
# Equality and order of values

A number equals the same number of another kind.  All values stand in one order: first by their
kinds and then within a kind, lists and maps part by part.
-/

namespace Provision
namespace Template
namespace Value

open Decimal

/-- The bounds of the narrowest word that an integer fits in, of 64 bits or of 128. -/
def wordBounds (i : Int) : Int × Int :=
  if fitsSigned 64 i then (-(twoTo 63 : Nat), (twoTo 63 : Nat) - 1)
  else if fitsUnsigned 64 i then (0, (twoTo 64 : Nat) - 1)
  else if fitsSigned 128 i then (-(twoTo 127 : Nat), (twoTo 127 : Nat) - 1)
  else (0, (twoTo 128 : Nat) - 1)

/-- The number nearest to an integer, if it leads back to that integer within its word. -/
def exactReal? (i : Int) : Option Binary64 :=
  let bounds := wordBounds i
  let x := Binary64.ofInt i
  if x.truncateWithin bounds.1 bounds.2 = i then some x else Option.none

/-- Whether two single values are equal numbers, a truth value being zero or one. -/
def sameNumber : Value → Value → Bool
  | .real x, .real y => x.beq y
  | .real x, b => (b.int?.bind exactReal?).any x.beq
  | a, .real y => (a.int?.bind exactReal?).any y.beq
  | a, b =>
      match a.int?, b.int? with
      | some i, some j => i == j
      | _, _ => false

def orderRealInt (x : Binary64) (i : Int) : Ordering :=
  match exactReal? i with
  | some y => x.order y
  | Option.none => (x.compareInt? i).getD .gt

def orderNumbers : Value → Value → Ordering
  | .real x, .real y => x.order y
  | .real x, .int j => orderRealInt x j
  | .int i, .real y => (orderRealInt y i).swap
  | a, b =>
      match a.int?, b.int? with
      | some i, some j => compare i j
      | _, _ => .eq

/-- The place of a value's kind in the order of kinds. -/
def kindRank : Value → Nat
  | .undefined _ => 0
  | .none => 1
  | .bool _ => 2
  | .int _ => 3
  | .real _ => 3
  | .str _ _ => 4
  | .seq .list _ => 5
  | .seq .group _ => 5
  | .map _ _ => 6
  | .seq .stream _ => 7
  | .helper _ => 8
  | .routine _ => 8

def orderTexts (a b : String) : Ordering :=
  if a < b then .lt else if a = b then .eq else .gt

mutual

def order : Value → Value → Ordering
  | .str a _, .str b _ => orderTexts a b
  | .seq j a, .seq k b =>
      (compare (kindRank (.seq j [])) (kindRank (.seq k []))).then (orderItems a b)
  | .map _ a, .map _ b => orderEntries a b
  | a, b => (compare (kindRank a) (kindRank b)).then (orderNumbers a b)

def orderItems : List Value → List Value → Ordering
  | [], [] => .eq
  | [], _ => .lt
  | _, [] => .gt
  | a :: as, b :: bs =>
      match order a b with
      | .eq => orderItems as bs
      | other => other

def orderEntries : List (Value × Value) → List (Value × Value) → Ordering
  | [], [] => .eq
  | [], _ => .lt
  | _, [] => .gt
  | (k, a) :: as, (l, b) :: bs =>
      match order k l with
      | .eq =>
          match order a b with
          | .eq => orderEntries as bs
          | other => other
      | other => other

end

mutual

/-- Whether two values are equal.  Routines are equal only to themselves. -/
def same : Value → Value → Bool
  | .undefined _, .undefined _ => true
  | .none, .none => true
  | .str a _, .str b _ => a == b
  | .seq _ a, .seq _ b => sameItems a b
  | .map _ a, .map _ b => sameEntries a b
  | .helper a, .helper b => a == b
  | .routine a, .routine b => a.name == b.name && a.closure == b.closure
  | a, b => sameNumber a b

def sameItems : List Value → List Value → Bool
  | [], [] => true
  | a :: as, b :: bs => same a b && sameItems as bs
  | _, _ => false

def sameEntries : List (Value × Value) → List (Value × Value) → Bool
  | [], [] => true
  | (k, a) :: as, (l, b) :: bs => same k l && same a b && sameEntries as bs
  | _, _ => false

end

/-- Whether two values are of one kind and equal, an integer and a fraction being of two kinds. -/
def identical : Value → Value → Bool
  | .int _, .real _ => false
  | .real _, .int _ => false
  | a, b => kindRank a == kindRank b && same a b

/-! ## Entries -/

/-- The value of a key. -/
def valueAt? (key : Value) (entries : List (Value × Value)) : Option Value :=
  (entries.find? (fun entry => order entry.1 key == .eq)).map Prod.snd

/-- Puts an entry in its place.  Over an earlier entry of its key it takes the earlier key. -/
def insertEntry (key value : Value) : List (Value × Value) → List (Value × Value)
  | [] => [(key, value)]
  | entry :: rest =>
      match order key entry.1 with
      | .lt => (key, value) :: entry :: rest
      | .eq => (entry.1, value) :: rest
      | .gt => entry :: insertEntry key value rest

/-- A list of entries in the order of their keys, in which the last entry of a key holds. -/
def sortedEntries (entries : List (Value × Value)) : List (Value × Value) :=
  entries.foldl (fun sorted entry => insertEntry entry.1 entry.2 sorted) []

def ofEntries (entries : List (Value × Value)) : Value :=
  .map .plain (sortedEntries entries)

/-- Named values as entries. -/
def namedEntries (entries : List (String × Value)) : List (Value × Value) :=
  entries.map (fun entry => (text entry.1, entry.2))

mutual

def ofJson : Json → Value
  | .null => .none
  | .bool b => .bool b
  | .int i => .int i
  | .real x => .real x
  | .str s => text s
  | .arr items => list (ofJsonItems items)
  | .obj fields => ofEntries (ofJsonFields fields)

def ofJsonItems : List Json → List Value
  | [] => []
  | item :: rest => ofJson item :: ofJsonItems rest

def ofJsonFields : List (String × Json) → List (Value × Value)
  | [] => []
  | (key, value) :: rest => (text key, ofJson value) :: ofJsonFields rest

end

end Value
end Template
end Provision
