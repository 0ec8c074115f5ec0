import Provision.Proofs.Template.Follow
import Provision.Template.Engine

/-!
# Renderings inside of renderings

A call for a fragment, or for a template given as text, comes to what the engine makes of it when
it is asked directly, as long as neither runs out of depth: the rendering inside sees the context
it is handed and nothing of the rendering around it.  A failure is reported with the call in front
of the trail that the direct rendering fails with, so that every trail lists calls, the outermost
first.
-/

namespace Provision

open Template

/-- The outcome of a template from what is in store at its start. -/
def runFrom (host : Host) (name : String) (escape : Bool) (template : Template) (store : Store)
    (context : Value) : Except Failure (String × Store) :=
  runTemplate host template { State.start name escape template context with store := store }

theorem renderTemplate_eq_runFrom (host : Host) (name : String) (escape : Bool)
    (template : Template) (context : Value) :
    renderTemplate host name escape template context =
      (runFrom host name escape template {} context).map Prod.fst := rfl

/-- What a call asks an engine to render: a fragment, or a template given as text. -/
inductive Callee where
  | fragment (name : String)
  | text (source : String)

namespace Callee

def helper : Callee → Helper
  | .fragment _ => .inclusion
  | .text _ => .inlineTemplate

def argument : Callee → String
  | .fragment name => name
  | .text source => source

def phrase : Callee → Phrase
  | .fragment name => .inclusion name
  | .text source => .inlineTemplate source

/-- What an engine makes of it when it is asked directly. -/
def render (engine : Engine) : Callee → Value → Except TemplateError String
  | .fragment name => engine.render name
  | .text source => engine.renderText source

/-- The name under which a rendering runs. -/
def name : Callee → String
  | .fragment name => name
  | .text _ => inlineName

def escapes : Callee → Bool
  | .fragment name => escapesMarkup name
  | .text _ => false

def template? (engine : Engine) : Callee → Option Template
  | .fragment name => engine.fragment? name
  | .text source => ofText? source

def absent : Callee → TemplateError
  | .fragment name => .notFound name
  | .text _ => .render inlineName .plain

/-- A rendering with room for renderings inside of it, from what is in store at its start: the
text, and what is in store at its end. -/
def renderWithin (engine : Engine) (room : Nat) (store : Store) (callee : Callee)
    (context : Value) : Except TemplateError (String × Store) :=
  match callee.template? engine with
  | none => .error callee.absent
  | some template =>
      (runFrom (engine.host room) callee.name callee.escapes template store context).mapError
        (.render callee.name)

/-- A rendering does not run out of depth with the room that it has. -/
def Fits (engine : Engine) (room : Nat) (store : Store) (callee : Callee) (context : Value) :
    Prop :=
  callee.renderWithin engine room store context ≠ .error (.render callee.name .tooDeep)

variable (engine : Engine) (callee : Callee) (context : Value)

/-- A direct rendering starts with nothing in store and with all the room there is. -/
theorem render_eq :
    callee.render engine context =
      (callee.renderWithin engine Engine.nestingLimit {} context).map Prod.fst := by
  cases callee with
  | fragment name =>
      simp only [render, renderWithin, template?, Engine.render]
      cases engine.fragment? name with
      | none => rfl
      | some template =>
          simp only [renderTemplate_eq_runFrom, Callee.name, escapes]
          cases runFrom (engine.host Engine.nestingLimit) name (escapesMarkup name) template {}
            context <;> rfl
  | text source =>
      simp only [render, renderWithin, template?, Engine.renderText, Engine.inlineText]
      cases ofText? source with
      | none => rfl
      | some template =>
          simp only [renderTemplate_eq_runFrom, Callee.name, escapes]
          cases runFrom (engine.host Engine.nestingLimit) inlineName false template {} context <;>
            rfl

end Callee

/-! ## Trails -/

namespace Engine

/-- Trails list calls that failed inside of one another, the outermost first: behind a call stands
the trail that the direct rendering of what it asked for fails with. -/
inductive IsTrail (engine : Engine) : List Phrase → Prop
  | operation : IsTrail engine []
  | keyNotText (key : String) : IsTrail engine [.keyNotText key]
  | unregistered {name : String} :
      engine.fragment? name = none → IsTrail engine [.unregistered name]
  | call {callee : Callee} {context : Value} {store : Store} {trail : List Phrase} :
      callee.renderWithin engine nestingLimit store context =
          .error (.render callee.name (.stopped trail)) →
        IsTrail engine trail → IsTrail engine (callee.phrase :: trail)

def trails (engine : Engine) : Trails := ⟨engine.IsTrail, .operation, .keyNotText⟩

variable {engine : Engine}

open Follows

end Engine
end Provision
