import Provision.Template.Filter.Item
import Provision.Template.Filter.Number
import Provision.Template.Filter.Text
import Provision.Template.Test

/-!
# Filters

The filters by their names.  Some of them apply another filter or a test, by its name, to every
item of a list.
-/

namespace Provision
namespace Template

/-- The filters that apply no other filter. -/
def simpleFilter? (escaping : Bool) (name : String) : Option FilterFunction :=
  (textFilter? escaping name).orElse fun _ =>
    (numberFilter? name).orElse fun _ => itemFilter? name

namespace FilterFunction

/-- The question that a name and arguments ask; without a name it is whether a value counts as
true. -/
def question? : List Value → Option (Value → Option Bool)
  | [] => some (fun value => some value.truth)
  | name :: args =>
      if name.isOmitted then some (fun value => some value.truth)
      else (name.written?.bind test?).map (fun test value => test value args)

/-- The items to which a question is answered as stated. -/
def keepItems (keep : Bool) (question : Value → Option Bool) : List Value → Option (List Value)
  | [] => some []
  | item :: rest => do
      let holds ← question item
      let others ← keepItems keep question rest
      some (if holds == keep then item :: others else others)

def select (keep : Bool) : FilterFunction
  | value, args => do
      let question ← question? args
      let items ← value.iterated?
      (keepItems keep question items).map .list

def selectPath (keep : Bool) : FilterFunction
  | value, path :: args => do
      let path ← path.written?
      let question ← question? args
      let items ← value.iterated?
      (keepItems keep (fun item => (item.path? path).bind question) items).map .list
  | _, [] => none

/-- What is found at an attribute of an item, or another value. -/
def attributeOr? (key other item : Value) : Option Value :=
  let found :=
    match key.str? with
    | some path => item.path? path
    | none => Value.index? key item
  match found with
  | some value => some (if value.isUndefined then other else value)
  | none => if other.isUndefined then none else some other

/-- Turns every item into an attribute of it or into the result of a filter. -/
def mapItems (apply : String → FilterFunction) : FilterFunction
  | value, args => do
      let given := Given.ofArgs args
      let items ← value.iterated?
      match given.get? "attribute" with
      | some key =>
          let other := (Value.valueAt? (.text "default") given.named).getD .missing
          if !given.items.isEmpty || !given.allows ["attribute", "default"] then none
          else (items.mapM (attributeOr? key other)).map .list
      | none =>
          match given.items with
          | .str name _ :: rest =>
              if TestFunction.filterNames.contains name then
                (items.mapM (fun item => apply name item rest)).map .list
              else none
          | _ => none

end FilterFunction

open FilterFunction

/-- The filters by their names; a filter that applies another one is given one argument more than
that one. -/
def applyNamed (escaping : Bool) : (fuel : Nat) → String → FilterFunction
  | 0, _, _, _ => none
  | fuel + 1, name, value, args =>
      match name with
      | "map" => mapItems (applyNamed escaping fuel) value args
      | "select" => select true value args
      | "reject" => select false value args
      | "selectattr" => selectPath true value args
      | "rejectattr" => selectPath false value args
      | name =>
          match simpleFilter? escaping name with
          | some f => f value args
          | none => none

/-- The value of a filter, where output is escaped or not. -/
def filtered? (escaping : Bool) (name : String) : FilterFunction :=
  fun value args => applyNamed escaping (args.length + 1) name value args

end Template
end Provision
