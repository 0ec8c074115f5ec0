/-!
# Failures of a rendering

A failure carries the calls it passed through on its way out, the outermost first.  A rendering
that nests renderings too deeply is told apart from one that fails: it has no outcome at all.
-/

namespace Provision
namespace Template

/-- What is reported about one step of a failure. -/
inductive Phrase where
  /-- A fragment that was to be included failed. -/
  | inclusion (fragment : String)
  /-- A template given as text failed. -/
  | inlineTemplate (source : String)
  /-- There is no fragment of the name. -/
  | unregistered (fragment : String)
  /-- The key of a variable is not a text; it is given as it would be written. -/
  | keyNotText (key : String)
deriving DecidableEq, Repr

def Phrase.text : Phrase → String
  | .inclusion fragment => "failed to include fragment '" ++ fragment ++ "'"
  | .inlineTemplate source => "failed to render inline template '" ++ source ++ "'"
  | .unregistered fragment => "fragment '" ++ fragment ++ "' is not registered"
  | .keyNotText key => "variable key " ++ key ++ " is not a string"

inductive Failure where
  | stopped (trail : List Phrase)
  | tooDeep
deriving DecidableEq, Repr

namespace Failure

/-- A failure of a built-in operation, about which nothing is reported. -/
def plain : Failure := .stopped []

/-- A failure seen from outside of the call that it stopped. -/
def within (phrase : Phrase) : Failure → Failure
  | .stopped trail => .stopped (phrase :: trail)
  | .tooDeep => .tooDeep

end Failure

/-- The value of an operation, or a plain failure if there is none. -/
def orFail {α : Type} : Option α → Except Failure α
  | some a => .ok a
  | none => .error .plain

end Template
end Provision
