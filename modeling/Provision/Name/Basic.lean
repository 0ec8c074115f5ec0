/-!
# Names and variable identifiers

The names that a manifest may give to tools, tool sets and variables, and the identifiers that
both kinds of artifact accept as they stand.
-/

namespace Provision
namespace Name

/-- A character of a name; the period is allowed on request. -/
def isNameChar (allowDots : Bool) (c : Char) : Bool :=
  c.isAlphanum || c == '-' || c == '_' || (allowDots && c == '.')

/-- A name is not empty, has name characters only and is not a relative directory. -/
def isName (allowDots : Bool) (text : String) : Bool :=
  text != "" && text != "." && text != ".." && text.toList.all (isNameChar allowDots)

def isIdentifierChar (c : Char) : Bool :=
  c.isAlphanum || c == '_'

/-- An identifier starts with a letter or an underscore and goes on with letters, digits and
underscores, all of them ASCII. -/
def isIdentifier (text : String) : Bool :=
  match text.toList with
  | [] => false
  | first :: rest => (first.isAlpha || first == '_') && rest.all isIdentifierChar

end Name

/-- The name of a tool or tool set. -/
structure ToolName where
  text : String
  isName_text : Name.isName true text = true

namespace ToolName

@[ext] theorem ext {a b : ToolName} (h : a.text = b.text) : a = b := by
  cases a
  cases b
  cases h
  rfl

instance : DecidableEq ToolName := fun a b =>
  if h : a.text = b.text then isTrue (ext h)
  else isFalse (fun hab => h (hab ▸ rfl))

def ofText? (text : String) : Option ToolName :=
  if h : Name.isName true text = true then some ⟨text, h⟩ else none

@[simp] theorem ofText?_text (name : ToolName) : ofText? name.text = some name := by
  simp [ofText?, name.isName_text]

theorem text_of_ofText? {text : String} {name : ToolName} (h : ofText? text = some name) :
    name.text = text := by
  rw [ofText?] at h
  split at h
  · exact (Option.some.inj h) ▸ rfl
  · exact nomatch h

end ToolName
end Provision
