import Provision.Template.Filter.Basic
import Provision.Template.Filter.Text
import Provision.Template.Scan
import Provision.Template.State

/-!
# Steps of a rendering

A step reads and changes the state of a rendering, and it may fail.  Whatever runs statements that
are not part of the present ones, such as the body of a routine or another fragment, asks a host
for it and stands one level deeper.
-/

namespace Provision
namespace Template

/-- A step of a rendering. -/
abbrev Run (α : Type) := StateT State (Except Failure) α

/-- What a rendering needs from outside of its template. -/
structure Host where
  fragment? : String → Option Template
  /-- Whether output of a fragment is escaped. -/
  escapes : String → Bool
  call : Helper → List Value → Run Value
  /-- Runs statements one level deeper. -/
  exec : List Stmt → Run String

namespace Run

variable {α : Type}

def fail : Run α := throw .plain

/-- The value of an operation, which has to have one. -/
def need : Option α → Run α
  | some a => pure a
  | none => fail

def bind (name : String) (value : Value) : Run Unit :=
  modify (State.bind name value)

/-- How deep frames and renderings may stand inside of one another. -/
def depthLimit : Nat := 500

/-- Runs a step some levels deeper. -/
def lowered (levels : Nat) (step : Run α) : Run α := do
  let s ← get
  set { s with depth := s.depth + levels }
  let a ← step
  modify (fun t => { t with depth := s.depth })
  return a

/-- Runs a step some levels deeper, unless that is too deep. -/
def deeper (levels : Nat) (step : Run α) : Run α := do
  if depthLimit < (← get).depth + levels then fail else lowered levels step

/-- Runs a step in a frame of its own, unless the frames around it are too deep already. -/
def inFrame (frame : Frame) (step : Run α) : Run α := do
  if depthLimit < (← get).depth then fail
  else
    lowered 1 do
      modify (fun s => { s with frames := frame :: s.frames })
      let a ← step
      modify (fun s => { s with frames := s.frames.tail })
      return a

/-- Output, unless it is dropped. -/
def write (text : String) : Run String := do
  return if (← get).muted then "" else text

/-- The output of a step as a value, which is safe where output is escaped. -/
def captured (step : Run String) : Run Value := do
  let muted := (← get).muted
  modify (fun s => { s with muted := false })
  let text ← step
  modify (fun s => { s with muted := muted })
  return .str text (← get).escape

/-- A number that is not in use. -/
def fresh : Run Nat :=
  modifyGet (fun s => (s.store.next, { s with store := { s.store with next := s.store.next + 1 } }))

/-! ## Fields and closures -/

/-- Fields that can be bound anew. -/
def newFields (entries : Entries) : Run Value := do
  let cell ← fresh
  modify (fun s => { s with store := { s.store with fields := keep cell entries s.store.fields } })
  return .map (.fields cell) entries

/-- Binds a field of an object that can be bound anew. -/
def setField (object : Value) (name : String) (value : Value) : Run Unit :=
  match object with
  | .map (.fields cell) _ =>
      modify fun s =>
        let entries := (s.store.fields.lookup cell).getD []
        let entries := Value.insertEntry (.text name) value entries
        { s with store := { s.store with fields := keep cell entries s.store.fields } }
  | _ => fail

/-- The number under which the variables of the innermost frame are kept for routines. -/
def closureCell : Run Nat := do
  match (← get).frames.head?.bind Frame.closure with
  | some cell => return cell
  | none => do
      let cell ← fresh
      modify (State.mapTop (fun frame => { frame with closure := some cell }))
      modify (fun s =>
        { s with store := { s.store with closures := keep cell [] s.store.closures } })
      return cell

/-- Keeps what a name means now, unless it is kept already. -/
def enclose (cell : Nat) (name : String) : Run Unit :=
  modify fun s =>
    let entries := (s.store.closures.lookup cell).getD []
    match Value.valueAt? (.text name) entries with
    | some _ => s
    | none =>
        let entries := Value.insertEntry (.text name) (s.lookup name) entries
        { s with store := { s.store with closures := keep cell entries s.store.closures } }

def encloseAll (cell : Nat) : List String → Run Unit
  | [] => pure ()
  | name :: rest => do
      enclose cell name
      encloseAll cell rest

/-- The name of the routine that a call hands to a routine. -/
def callerName : String := "caller"

/-- A routine that knows the variables it makes use of as they are bound around it. -/
def newRoutine (name : String) (parameters : List Parameter) (body : List Stmt) : Run Value := do
  let names := freeNames parameters body
  let cell ← closureCell
  encloseAll cell (names.filter (· ≠ callerName))
  return .routine ⟨name, parameters, body, names.contains callerName, cell⟩

/-! ## Targets -/

mutual

/-- Binds names to a value or to its parts, of which there have to be as many as names. -/
def bindTarget (field : Expr → String → Value → Run Unit) (value : Value) : Target → Run Unit
  | .name n => bind n value
  | .field object n => field object n value
  | .items targets => do
      let parts ← need value.parts?
      bindTargets field parts targets

def bindTargets (field : Expr → String → Value → Run Unit) :
    List Value → List Target → Run Unit
  | [], [] => pure ()
  | value :: values, target :: targets => do
      if values.length ≠ targets.length then fail
      else do
        bindTarget field value target
        bindTargets field values targets
  | _, _ => fail

end

/-- Binds names; no field is among them. -/
def bindNames (target : Target) (value : Value) : Run Unit :=
  bindTarget (fun _ _ _ => fail) value target

/-! ## Repetitions -/

/-- Runs a body for the items from some place on, each time in a fresh frame. -/
def rounds (body : Run String) (target : Target) (loop : Loop) :
    (done : String) → (index : Nat) → List Value → Run String
  | done, _, [] => pure done
  | done, index, item :: rest => do
      let loop :=
        { loop with
          round := { loop.round with index := index }
          next := rest.head?.getD .missing }
      modify (State.mapTop (fun _ => { loop := some loop }))
      bindNames target item
      let text ← body
      rounds body target { loop with previous := item } (done ++ text) (index + 1) rest

/-- Runs a body for all items. -/
def repeated (body : Run String) (target : Target) (again : Option (Target × List Stmt))
    (items : List Value) : Run String := do
  let depth :=
    match (← get).loop? with
    | some loop => if loop.again.isSome then loop.depth + 1 else 0
    | none => 0
  let mark ← fresh
  let loop : Loop := { round := ⟨0, items.length, mark⟩, depth := depth, again := again }
  inFrame {} (rounds body target loop "" 0 items)

/-- Starts the innermost repetition again with other items. -/
def startAgain (host : Host) (args : List Value) : Run Value := do
  match args, (← get).loop?.bind Loop.again with
  | [value], some (target, body) => do
      let items ← need value.iterated?
      captured (repeated (host.exec body) target (some (target, body)) items)
  | _, _ => fail

/-- Whether a repetition is told something else than the last time. -/
def tell (mark : Nat) (args : List Value) : Run Value := do
  let s ← get
  if (s.store.told.lookup mark).any (Value.sameItems args) then return .bool false
  else do
    set { s with store := { s.store with told := keep mark args s.store.told } }
    return .bool true

/-- One argument after the other, from round to round. -/
def takeTurns (index : Nat) (args : List Value) : Run Value :=
  need args[index % args.length]?

/-! ## Blocks and parents -/

/-- Runs the parents of a template one after the other. -/
def parents (host : Host) (muted : Bool) : (fuel : Nat) → Run String
  | 0 => throw .tooDeep
  | fuel + 1 => do
      match (← get).parent with
      | none => return ""
      | some body => do
          modify (fun s => { s with parent := none, muted := muted })
          let text ← host.exec body
          let later ← parents host muted fuel
          return text ++ later

/-- Runs the statements of a template and then its parents. -/
def template (host : Host) (body : List Stmt) : Run String := do
  let outer ← get
  set { outer with parent := none }
  let text ← host.exec body
  let later ← parents host outer.muted depthLimit
  modify (fun s => { s with parent := outer.parent, muted := outer.muted })
  return text ++ later

/-- Runs a block in a frame of its own. -/
def inBlock (host : Host) (name : String) (body : List Stmt) : Run String := do
  let outer ← get
  inFrame {} do
    modify (fun s => { s with current := some name, parent := none })
    let text ← host.exec body
    modify (fun s => { s with current := outer.current, parent := outer.parent })
    return text

/-- Runs the block of a name, unless a parent decides where it stands. -/
def block (host : Host) (name : String) : Run String := do
  let s ← get
  if s.parent.isSome || s.muted then return ""
  else
    match s.layers.lookup name with
    | some (body :: _) => inBlock host name body
    | _ => fail

/-- The output of the block that the present one replaces. -/
def replacedBlock (host : Host) (args : List Value) : Run Value := do
  let s ← get
  match args, s.current with
  | [], some name =>
      match s.layers.lookup name with
      | some (_ :: body :: _) => do
          set { s with layers := dropPart name s.layers }
          let value ← captured (inBlock host name body)
          modify (fun t => { t with layers := s.layers })
          return value
      | _ => fail
  | _, _ => fail

/-- Builds on a fragment, which is run after the template. -/
def extend (host : Host) (value : Value) : Run Unit := do
  let s ← get
  let name ← need value.str?
  if s.parent.isSome || s.loaded.contains name then fail
  else do
    let parent ← need (host.fragment? name)
    set { s with
      parent := some parent.body
      muted := true
      loaded := name :: s.loaded
      layers := addParts s.layers parent.blocks }

/-! ## Fragments -/

/-- The number of levels that a fragment in place of a statement stands deeper. -/
def includeLevels : Nat := 10

/-- Runs a fragment in place of a statement; it shares the variables around it. -/
def embed (host : Host) (name : String) (fragment : Template) : Run String := do
  let outer ← get
  let closure := outer.frames.head?.bind Frame.closure
  deeper includeLevels do
    modify (fun s => (s.mapTop (fun frame => { frame with closure := none })))
    modify (fun s =>
      { s with escape := host.escapes name, layers := layersOf fragment.blocks, current := none })
    let text ← template host fragment.body
    modify (fun s =>
      { s with
        escape := outer.escape
        layers := outer.layers
        current := outer.current
        loaded := outer.loaded })
    modify (fun s => (s.mapTop (fun frame => { frame with closure := closure })))
    return text

/-- Runs the first fragment that there is among some names. -/
def embedFirst (host : Host) (ignoreMissing : Bool) : (tried : Bool) → List Value → Run String
  | tried, [] => if tried && !ignoreMissing then fail else pure ""
  | _, value :: others => do
      let name ← need value.str?
      match host.fragment? name with
      | some fragment => embed host name fragment
      | none => embedFirst host ignoreMissing true others

/-- Runs the fragment of a name, or the first that there is of several. -/
def embedAny (host : Host) (ignoreMissing : Bool) (value : Value) : Run String :=
  embedFirst host ignoreMissing false (value.parts?.getD [value])

/-- All names of a fragment as one object. -/
def exports (host : Host) (fragment : Value) : Run Value :=
  inFrame {} do
    let output ← captured (embedAny host false fragment)
    let locals := ((← get).frames.head?.map Frame.locals).getD []
    return .map (.exports output.display)
      (Value.sortedEntries (Value.namedEntries locals.reverse))

def lookupAll : List String → Run (List Value)
  | [] => pure []
  | name :: rest => do
      let value := (← get).lookup name
      let values ← lookupAll rest
      return value :: values

/-- What some names mean behind a fragment. -/
def exported (host : Host) (fragment : Value) (names : List String) : Run (List Value) :=
  inFrame {} do
    let _ ← captured (embedAny host false fragment)
    lookupAll names

/-! ## Calls -/

/-- The number of levels that the body of a routine stands deeper, its two frames among them. -/
def routineLevels : Nat := 6

/-- The parameters of a routine with their arguments, which are given by place or by name. -/
def givenArguments? (given : Given) : (place : Nat) → List Parameter →
    Option (List (Parameter × Value))
  | place, [] => if place < given.items.length then none else some []
  | place, p :: rest => do
      let value ←
        match given.items[place]?, Value.valueAt? (.text p.name) given.named with
        | some _, some _ => none
        | some value, none => some value
        | none, some value => some value
        | none, none => some .missing
      let others ← givenArguments? given (place + 1) rest
      some ((p, value) :: others)

/-- Whether a routine takes all named arguments. -/
def takesAll (r : Routine) (given : Given) : Bool :=
  let names := r.parameters.map Parameter.name
  given.named.all fun entry =>
    match entry.1.str? with
    | some name => names.contains name || (r.takesCaller && name == callerName)
    | none => true

/-- Binds parameters one by one, a missing one to its default. -/
def bindParameters (host : Host) : List (Parameter × Value) → Run Unit
  | [] => pure ()
  | (p, value) :: rest => do
      match p.default with
      | some e =>
          if value.isUndefined then do
            let _ ← host.exec [.assign (.name p.name) e]
          else bind p.name value
      | none => bind p.name value
      bindParameters host rest

/-- Runs a routine of the present rendering.  It sees the variables around its definition and the
context of the rendering, but nothing of its caller; a later parameter is bound before an earlier
one. -/
def routine (host : Host) (r : Routine) (args : List Value) : Run Value := do
  let _ ← need ((← get).store.closures.lookup r.closure)
  let given := Given.ofArgs args
  let values ← need (givenArguments? given 0 r.parameters)
  if !takesAll r given then fail
  else do
    let outer ← get
    let caller := (Value.valueAt? (.text callerName) given.named).getD .missing
    let locals := if r.takesCaller then [(callerName, caller)] else []
    deeper routineLevels do
      modify (fun s =>
        { s with
          frames := [{ locals := locals, backdrop := .closure r.closure }, outer.base]
          layers := []
          current := none
          parent := none
          muted := false
          loaded := [] })
      bindParameters host values.reverse
      let text ← host.exec r.body
      modify (fun s => { outer with store := s.store, depth := s.depth })
      return .str text outer.escape

/-- Calls a value. -/
def call (host : Host) (function : Value) (args : List Value) : Run Value :=
  match function with
  | .helper h => host.call h args
  | .routine r => routine host r args
  | _ => fail

/-- Calls what a name means; two names stand for what is around the call. -/
def callName (host : Host) (name : String) (args : List Value) : Run Value := do
  match name with
  | "super" => replacedBlock host args
  | "loop" => startAgain host args
  | name => call host ((← get).lookup name) args

/-- Calls what an object keeps under a name. -/
def callMethod (host : Host) (object : Value) (name : String) (args : List Value) :
    Run Value := do
  match object, name with
  | .map (.round r) _, "changed" => tell r.mark args
  | .map (.round r) _, "cycle" => takeTurns r.index args
  | object, name => do
      let function ← need (object.attribute? name)
      call host function args

end Run
end Template
end Provision
