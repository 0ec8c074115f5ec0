import Provision.Dict
import Provision.Name.Identifier
import Provision.Template.Fragment
import Provision.Template.Parser
import Provision.Template.Statement

/-!
# Template engines

An engine knows fragments by their names and how an identifier is referred to.  Its fragments can
render one another and templates given as text; each of those renderings starts from the context
it is given and sees nothing else.  Renderings nest up to a limit.
-/

namespace Provision

inductive TemplateError where
  /-- The fragment is not a template. -/
  | register (fragment : String)
  | notFound (fragment : String)
  | render (fragment : String) (cause : Template.Failure)
deriving DecidableEq, Repr

/-- How messages name a template that is given as text. -/
def inlineName : String := "<inline>"

namespace TemplateError

def fragment : TemplateError → String
  | .register fragment => fragment
  | .notFound fragment => fragment
  | .render fragment _ => fragment

/-- What is reported in one line, without the causes inside of the template. -/
def message : TemplateError → String
  | .register fragment => "Failed to register fragment '" ++ fragment ++ "'"
  | .notFound fragment => "Fragment '" ++ fragment ++ "' is not registered"
  | .render fragment _ => "Failed to render fragment '" ++ fragment ++ "'"

/-- The calls that failed inside of one another, the outermost first. -/
def trail : TemplateError → List Template.Phrase
  | .render _ (.stopped trail) => trail
  | _ => []

end TemplateError

open Template

/-- Endings of fragment names that say nothing about what the fragment is for. -/
def templateEndings : List String := [".j2", ".jinja2", ".jinja"]

/-- A name without one ending that says nothing. -/
def withoutEnding (name : List Char) : List Char :=
  match templateEndings.find? (fun ending => ending.toList.isSuffixOf name) with
  | some ending => name.take (name.length - ending.length)
  | none => name

/-- Whether the output of a fragment of this name is escaped: its name ends like that of a file
of markup. -/
def escapesMarkup (name : String) : Bool :=
  let ending := ((withoutEnding name.toList).reverse.takeWhile (· ≠ '.')).reverse
  ending == "html".toList || ending == "htm".toList || ending == "xml".toList

/-- Renders a template from a state at its start: the text, and what is in store at the end. -/
def runTemplate (host : Host) (template : Template) (start : State) :
    Except Failure (String × Store) :=
  ((Run.template host template.body).run start).map (fun r => (r.1, r.2.store))

/-- The text of a template in a context, whose entries are its variables. -/
def renderTemplate (host : Host) (name : String) (escape : Bool) (template : Template)
    (context : Value) : Except Failure String :=
  (runTemplate host template (.start name escape template context)).map Prod.fst

/-- The text of a template as the value of a call.  The rendering sees its context alone.  If that
holds on to the rendering around it, what is kept for its objects is shared. -/
def nestedText (host : Host) (name : String) (escape : Bool) (template : Template)
    (context : Value) (phrase : Phrase) : Run Value := do
  let s ← get
  let start := State.start name escape template context
  match runTemplate host template { start with store := s.store.handedOn context } with
  | .ok (text, left) => do
      set { s with store := s.store.takenBack left context }
      return .text text
  | .error failure => throw (failure.within phrase)

/-- A rendering in a context that holds on to nothing shares nothing. -/
theorem nestedText_of_isLive_eq_false {context : Value} (hlive : context.isLive = false)
    (host : Host) (name : String) (escape : Bool) (template : Template) (phrase : Phrase) :
    nestedText host name escape template context phrase =
      match renderTemplate host name escape template context with
      | .ok text => return .text text
      | .error failure => throw (failure.within phrase) := by
  funext s
  have hstart : { State.start name escape template context with
      store := s.store.handedOn context } = State.start name escape template context := by
    rw [Store.handedOn, if_neg (by simp [hlive])]
    rfl
  change (match runTemplate host template { State.start name escape template context with
      store := s.store.handedOn context } with
    | .ok (text, left) => do
        set { s with store := s.store.takenBack left context }
        return .text text
    | .error failure => throw (failure.within phrase) : Run Value) s = _
  rw [hstart, renderTemplate]
  cases runTemplate host template (.start name escape template context) with
  | error failure => rfl
  | ok result =>
      change Except.ok (Value.text result.1,
        { s with store := s.store.takenBack result.2 context }) = .ok (.text result.1, s)
      rw [Store.takenBack, if_neg (by simp [hlive])]

structure Engine where
  /-- How an identifier is referred to. -/
  reference : String → String
  fragments : Dict Template

namespace Engine

/-- The keys of variables, all of which have to be texts. -/
def variableKeys : List Value → Except Failure (List String)
  | [] => .ok []
  | .str key _ :: rest => do
      let keys ← variableKeys rest
      .ok (key :: keys)
  | value :: _ => .error (.stopped [.keyNotText value.display])

/-- References to the variables of a tool by their keys. -/
def references (reference : String → String) (tool : String) (keys : List String) : Value :=
  .ofEntries (Value.namedEntries
    (keys.map (fun key => (key, .text (reference (Name.scopedIdentifier tool key))))))

/-- The numbers from a first one up to a limit, in steps. -/
def numbersFrom (step count first : Nat) : List Value :=
  (List.range count).map (fun i => .int (first + step * i : Nat))

/-- A bound of a range, which may be left out. -/
def rangeBound? (value : Value) : Option (Option Int) :=
  if value.isOmitted then some none
  else (value.int?.filter (Decimal.fitsUnsigned 32)).map some

/-- The numbers of a range; it has a limited size. -/
def range? (args : List Value) : Option Value := do
  let bounds ← args.mapM rangeBound?
  match bounds with
  | [some stop] => ofBounds 0 stop 1
  | [some stop, none] => ofBounds 0 stop 1
  | [some stop, none, step] => ofBounds 0 stop (step.getD 1)
  | [some start, some stop] => ofBounds start stop 1
  | [some start, some stop, step] => ofBounds start stop (step.getD 1)
  | _ => none
where
  ofBounds (start stop step : Int) : Option Value :=
    if step = 0 then none
    else
      let count := ((stop - start).toNat + step.toNat - 1) / step.toNat
      if 100000 < count then none
      else some (.stream (numbersFrom step.toNat count start.toNat))

/-- Entries of a map, changed by named arguments. -/
def map? (args : List Value) : Option Value :=
  let given := Given.ofArgs args
  match given.items with
  | [] => some (.ofEntries given.named)
  | [.map _ entries] => some (.ofEntries (entries ++ given.named))
  | [value] => if value.isOmitted then some (.ofEntries given.named) else none
  | _ => none

/-- The fields that can be bound anew, all of which have names. -/
def fields? : List Value → Option Entries
  | [] => some []
  | [.map _ entries] => if entries.all (fun e => e.1.str?.isSome) then some entries else none
  | [value] => if value.isOmitted then some [] else none
  | _ => none

/-- Values as they are written with each of their parts on a line of its own. -/
def inspection? : List Value → Option String
  | [] => none
  | [value] => some (value.layout 0)
  | values => some ((Value.list values).layout 0)

/-- A function of one text. -/
def onText (f : String → String) : List Value → Run Value
  | [.str s _] => return .text (f s)
  | _ => Run.fail

/-- Calls a helper, with the renderings that it can ask for. -/
def callHelper (reference : String → String)
    (inclusion inlineTemplate : String → Value → Run Value)
    (h : Helper) (args : List Value) : Run Value :=
  match h with
  | .identifier => onText Name.identifier args
  | .urlIdentifier => onText Name.urlIdentifier args
  | .archiveIdentifier => onText Name.archiveIdentifier args
  | .stampIdentifier => onText Name.stampIdentifier args
  | .stage => onText Name.stage args
  | .reference => onText reference args
  | .scopedIdentifier =>
      match args with
      | [.str tool _, .str key _] => return .text (Name.scopedIdentifier tool key)
      | _ => Run.fail
  | .references =>
      match args with
      | [.str tool _, keys] => do
          let keys ← Run.need keys.items?
          let keys ← variableKeys keys
          return references reference tool keys
      | _ => Run.fail
  | .inclusion =>
      match args with
      | [.str name _, context] => inclusion name context
      | _ => Run.fail
  | .inlineTemplate =>
      match args with
      | [.str source _, context] => inlineTemplate source context
      | _ => Run.fail
  | .range => Run.need (range? args)
  | .map => Run.need (map? args)
  | .fields => do
      let entries ← Run.need (fields? args)
      Run.newFields entries
  | .inspect => Run.need ((inspection? args).map .text)

def fragment? (engine : Engine) (name : String) : Option Template :=
  engine.fragments.get? name

def hasFragment (engine : Engine) (name : String) : Bool :=
  (engine.fragment? name).isSome

/-- A fragment as the value of a call. -/
def inclusion (engine : Engine) (host : Host) (name : String) (context : Value) : Run Value :=
  match engine.fragment? name with
  | none => throw (.stopped [.unregistered name])
  | some template =>
      nestedText host name (escapesMarkup name) template context (.inclusion name)

/-- The text of a template given as text; it is never escaped. -/
def inlineText (host : Host) (source : String) (context : Value) : Except Failure String :=
  match Template.ofText? source with
  | none => .error .plain
  | some template => renderTemplate host inlineName false template context

/-- A template given as text as the value of a call. -/
def inlineTemplate (host : Host) (source : String) (context : Value) : Run Value :=
  match Template.ofText? source with
  | none => throw (Failure.plain.within (.inlineTemplate source))
  | some template =>
      nestedText host inlineName false template context (.inlineTemplate source)

/-- The host of templates inside of which renderings nest up to a depth. -/
def host (engine : Engine) : (depth : Nat) → Host
  | 0 =>
      { fragment? := engine.fragment?
        escapes := escapesMarkup
        call := callHelper engine.reference (fun _ _ => throw .tooDeep) (fun _ _ => throw .tooDeep)
        exec := fun _ => throw .tooDeep }
  | depth + 1 =>
      { fragment? := engine.fragment?
        escapes := escapesMarkup
        call := callHelper engine.reference
          (fun name context => engine.inclusion (engine.host depth) name context)
          (fun source context => inlineTemplate (engine.host depth) source context)
        exec := fun body => runAll (engine.host depth) body }

/-- Hosts differ in the renderings that their helpers can ask for. -/
theorem exists_call_host (engine : Engine) (depth : Nat) :
    ∃ inclusion inlineTemplate,
      (engine.host depth).call = callHelper engine.reference inclusion inlineTemplate := by
  cases depth <;> exact ⟨_, _, rfl⟩

/-- How deep renderings nest. -/
def nestingLimit : Nat := 2000

/-- Adds fragments one by one; the last fragment of a name holds. -/
def register (fragments : Dict Template) : List Fragment → Except TemplateError (Dict Template)
  | [] => .ok fragments
  | fragment :: rest =>
      match Template.ofText? fragment.source with
      | none => .error (.register fragment.name)
      | some template => register (fragments.insert fragment.name template) rest

/-- The engine of a list of fragments. -/
def ofFragments (reference : String → String) (fragments : List Fragment) :
    Except TemplateError Engine :=
  match register Dict.empty fragments with
  | .ok registered => .ok ⟨reference, registered⟩
  | .error err => .error err

def render (engine : Engine) (name : String) (context : Value) : Except TemplateError String :=
  match engine.fragment? name with
  | none => .error (.notFound name)
  | some template =>
      match renderTemplate (engine.host nestingLimit) name (escapesMarkup name) template context with
      | .ok text => .ok text
      | .error failure => .error (.render name failure)

/-- Renders a template given as text. -/
def renderText (engine : Engine) (source : String) (context : Value) :
    Except TemplateError String :=
  match inlineText (engine.host nestingLimit) source context with
  | .ok text => .ok text
  | .error failure => .error (.render inlineName failure)

end Engine
end Provision
