import Provision.Template.Failure
import Provision.Template.Order

/-!
# The state of a rendering

Variables live in frames, the innermost of which takes what is bound.  A name means what the
innermost frame that knows it says, and a helper where no frame knows it.  What outlives its frame
is kept in a store under numbers: the variables around the definition of a routine, fields that can
be bound anew, and what repetitions were told.
-/

namespace Provision
namespace Template

/-- Entries by their keys. -/
abbrev Entries := List (Value × Value)

structure Store where
  /-- The next number that is not in use. -/
  next : Nat := 0
  closures : List (Nat × Entries) := []
  fields : List (Nat × Entries) := []
  told : List (Nat × List Value) := []

/-- What is kept under a number, over what was kept there before. -/
def keep {α : Type} (cell : Nat) (value : α) (cells : List (Nat × α)) : List (Nat × α) :=
  (cell, value) :: cells.filter (fun entry => entry.1 != cell)

namespace Value

mutual

/-- A value in which fields have their present values. -/
def refreshed (present : Nat → Option Entries) : Value → Value
  | .seq kind items => .seq kind (refreshItems present items)
  | .map (.fields cell) entries => .map (.fields cell) ((present cell).getD entries)
  | .map kind entries => .map kind (refreshEntries present entries)
  | value => value

def refreshItems (present : Nat → Option Entries) : List Value → List Value
  | [] => []
  | item :: rest => refreshed present item :: refreshItems present rest

def refreshEntries (present : Nat → Option Entries) : Entries → Entries
  | [] => []
  | (key, value) :: rest => (key, refreshed present value) :: refreshEntries present rest

end

mutual

/-- Whether a value holds on to the rendering that it comes from. -/
def isLive : Value → Bool
  | .seq _ items => anyLive items
  | .map (.fields _) _ => true
  | .map (.round _) _ => true
  | .map _ entries => anyLiveEntry entries
  | .routine _ => true
  | _ => false

def anyLive : List Value → Bool
  | [] => false
  | item :: rest => item.isLive || anyLive rest

def anyLiveEntry : Entries → Bool
  | [] => false
  | (key, value) :: rest => key.isLive || value.isLive || anyLiveEntry rest

end

end Value

namespace Store

/-- The present fields under a number, seen through so many levels of fields. -/
def present (store : Store) : (levels : Nat) → Nat → Option Entries
  | 0, cell => store.fields.lookup cell
  | levels + 1, cell =>
      (store.fields.lookup cell).map (Value.refreshEntries (store.present levels))

def refresh (store : Store) (value : Value) : Value :=
  if store.fields.isEmpty then value
  else value.refreshed (store.present store.fields.length)

/-- What is in store at the start of a rendering inside of another one: the objects that its
context holds on to, but not the variables around the routines of the other rendering. -/
def handedOn (store : Store) (context : Value) : Store :=
  if context.isLive then { store with closures := [] } else {}

/-- What is in store behind a rendering inside of another one, at whose end something is left. -/
def takenBack (store left : Store) (context : Value) : Store :=
  if context.isLive then { left with closures := store.closures } else store

end Store

/-- A repetition in progress. -/
structure Loop where
  round : Round
  /-- The item of the round before, and the one of the round behind. -/
  previous : Value := .missing
  next : Value := .missing
  /-- The number of repetitions around it that were started by one another. -/
  depth : Nat
  /-- How the repetition is started again. -/
  again : Option (Target × List Stmt)

namespace Loop

/-- What a repetition knows about its place. -/
def value (loop : Loop) : Value :=
  let index := loop.round.index
  let count := loop.round.count
  .map (.round loop.round) (Value.sortedEntries (Value.namedEntries
    [("index", .int (index + 1)), ("index0", .int index), ("length", .int count),
      ("revindex", .int (count - index)), ("revindex0", .int (count - index - 1)),
      ("first", .bool (index == 0)), ("last", .bool (index + 1 == count)),
      ("depth", .int (loop.depth + 1)), ("depth0", .int loop.depth),
      ("previtem", loop.previous), ("nextitem", loop.next)]))

end Loop

/-- Variables that a frame has from elsewhere. -/
inductive Backdrop where
  | nothing
  /-- The entries of a value. -/
  | context (value : Value)
  /-- The variables around the definition of a routine. -/
  | closure (cell : Nat)

structure Frame where
  locals : List (String × Value) := []
  backdrop : Backdrop := .nothing
  loop : Option Loop := none
  /-- Under this number later bindings are kept for routines that are defined here. -/
  closure : Option Nat := none

namespace Frame

def lookup? (store : Store) (frame : Frame) (name : String) : Option Value :=
  match frame.locals.lookup name, frame.loop with
  | some value, _ => some value
  | none, some loop => if name = "loop" then some loop.value else fromBackdrop
  | none, none => fromBackdrop
where
  fromBackdrop : Option Value :=
    match frame.backdrop with
    | .context (.map _ entries) => Value.valueAt? (.text name) entries
    | .closure cell => (store.closures.lookup cell).bind (Value.valueAt? (.text name))
    | _ => none

end Frame

/-- The blocks of a template by their names, each before those that it replaces. -/
abbrev Layers := List (String × List (List Stmt))

def layersOf (parts : Parts) : Layers :=
  parts.map (fun part => (part.1, [part.2]))

/-- Adds a block behind those that replace it. -/
def addPart (part : String × List Stmt) : Layers → Layers
  | [] => [(part.1, [part.2])]
  | layer :: rest =>
      if layer.1 = part.1 then (layer.1, layer.2 ++ [part.2]) :: rest
      else layer :: addPart part rest

def addParts (layers : Layers) (parts : Parts) : Layers :=
  parts.foldl (fun layers part => addPart part layers) layers

/-- The layers without the first block of a name. -/
def dropPart (name : String) (layers : Layers) : Layers :=
  layers.map (fun layer => if layer.1 = name then (layer.1, layer.2.tail) else layer)

structure State where
  /-- The frames, the innermost first. -/
  frames : List Frame
  store : Store := {}
  escape : Bool
  /-- How deep frames and renderings stand inside of one another. -/
  depth : Nat := 1
  layers : Layers := []
  /-- The block that is being run. -/
  current : Option String := none
  /-- The fragment that the template builds on, which is run after it. -/
  parent : Option (List Stmt) := none
  /-- Whether output is dropped, because a parent makes its own. -/
  muted : Bool := false
  /-- The names of the template and of what it builds on. -/
  loaded : List String := []

namespace State

/-- The state at the start of a rendering. -/
def start (name : String) (escape : Bool) (template : Template) (context : Value) : State :=
  { frames := [{ backdrop := .context context }]
    escape := escape
    layers := layersOf template.blocks
    loaded := [name] }

/-- What a name means; a helper has no other name. -/
def lookup (s : State) (name : String) : Value :=
  match s.frames.findSome? (fun frame => frame.lookup? s.store name) with
  | some value => s.store.refresh value
  | none =>
      match Helper.ofName? name with
      | some h => .helper h
      | none => .missing

def mapTop (f : Frame → Frame) (s : State) : State :=
  match s.frames with
  | [] => s
  | frame :: rest => { s with frames := f frame :: rest }

/-- Binds a name in the innermost frame. -/
def bind (name : String) (value : Value) (s : State) : State :=
  let cell? := s.frames.head?.bind Frame.closure
  let s := s.mapTop (fun frame => { frame with locals := (name, value) :: frame.locals })
  match cell? with
  | none => s
  | some cell =>
      let entries := (s.store.closures.lookup cell).getD []
      let entries := Value.insertEntry (.text name) value entries
      { s with store := { s.store with closures := keep cell entries s.store.closures } }

/-- The innermost repetition. -/
def loop? (s : State) : Option Loop := s.frames.findSome? Frame.loop

/-- The context that a rendering started with. -/
def base (s : State) : Frame :=
  { backdrop := (s.frames.getLast?.map Frame.backdrop).getD .nothing }

end State
end Template
end Provision
