import Provision.Template.Tree

/-!
# Free names

A routine knows those variables around its definition that it makes use of: the names that it looks
up without having bound them.  What a statement binds is bound up to the end of the body around it,
and already for the value that it is bound to.
-/

namespace Provision
namespace Template

/-! ## Names in expressions -/

mutual

/-- The names that an expression looks up. -/
def Expr.names : Expr → List String
  | .literal _ => []
  | .var name => [name]
  | .list items => namesOfAll items
  | .dict entries => namesOfEntries entries
  | .unary _ operand => operand.names
  | .binary _ left right => left.names ++ right.names
  | .compare first rest => first.names ++ namesOfChain rest
  | .choose condition whenTrue whenFalse =>
      condition.names ++ whenTrue.names ++ namesOfOption whenFalse
  | .attribute object _ => object.names
  | .index object key => object.names ++ key.names
  | .slice object start stop step =>
      object.names ++ namesOfOption start ++ namesOfOption stop ++ namesOfOption step
  | .call function args => function.names ++ namesOfArgs args
  | .method object _ args => object.names ++ namesOfArgs args
  | .filter _ operand args => operand.names ++ namesOfArgs args
  | .test _ operand args => operand.names ++ namesOfArgs args

def namesOfAll : List Expr → List String
  | [] => []
  | e :: rest => e.names ++ namesOfAll rest

def namesOfEntries : List (Expr × Expr) → List String
  | [] => []
  | (key, e) :: rest => key.names ++ e.names ++ namesOfEntries rest

def namesOfChain : List (Comparison × Expr) → List String
  | [] => []
  | (_, e) :: rest => e.names ++ namesOfChain rest

def namesOfArgs : List (ArgKind × Expr) → List String
  | [] => []
  | (_, e) :: rest => e.names ++ namesOfArgs rest

def namesOfOption : Option Expr → List String
  | none => []
  | some e => e.names

end

/-! ## Names in targets -/

mutual

/-- The names that a target looks up. -/
def Target.names : Target → List String
  | .name _ => []
  | .field object _ => object.names
  | .items targets => namesOfTargets targets

def namesOfTargets : List Target → List String
  | [] => []
  | target :: rest => target.names ++ namesOfTargets rest

end

mutual

/-- The names that a target binds. -/
def Target.binds : Target → List String
  | .name n => [n]
  | .field _ _ => []
  | .items targets => bindsOfTargets targets

def bindsOfTargets : List Target → List String
  | [] => []
  | target :: rest => target.binds ++ bindsOfTargets rest

end

/-! ## Names in statements -/

/-- The names that are bound, and those that were looked up without being bound. -/
structure Scan where
  bound : List String := []
  free : List String := []

namespace Scan

def bind (names : List String) (s : Scan) : Scan :=
  { s with bound := names ++ s.bound }

def use (names : List String) (s : Scan) : Scan :=
  { s with free := s.free ++ names.filter (fun name => !s.bound.contains name) }

/-- A scan that keeps none of its bindings. -/
def within (scan : Scan → Scan) (s : Scan) : Scan :=
  { scan s with bound := s.bound }

def target (t : Target) (s : Scan) : Scan :=
  (s.bind t.binds).use t.names

def filters (uses : List FilterUse) (s : Scan) : Scan :=
  s.use (uses.flatMap (fun use => namesOfArgs use.args))

def bindings (bindings : List (Target × Expr)) (s : Scan) : Scan :=
  bindings.foldl (fun s binding => (s.target binding.1).use binding.2.names) s

def parameters (parameters : List Parameter) (s : Scan) : Scan :=
  (s.bind (parameters.map Parameter.name)).use
    (parameters.flatMap (fun p => namesOfOption p.default))

end Scan

mutual

def Stmt.scan : Stmt → Scan → Scan
  | .text _, s => s
  | .emit e, s => s.use e.names
  | .repeat t source condition _ body whenEmpty, s =>
      let s := s.within fun s =>
        let s := ((s.bind ["loop"]).use source.names).target t
        scanBody body (s.use (namesOfOption condition))
      s.within (scanBody whenEmpty)
  | .branch condition whenTrue whenFalse, s =>
      let s := s.use condition.names
      (s.within (scanBody whenTrue)).within (scanBody whenFalse)
  | .assign t value, s => (s.target t).use value.names
  | .capture t filters body, s => ((s.target t).within (scanBody body)).filters filters
  | .scope bindings body, s => s.within (fun s => scanBody body (s.bindings bindings))
  | .filtered filters body, s => (s.within (scanBody body)).filters filters
  | .escaping enabled body, s => (s.use enabled.names).within (scanBody body)
  | .run e, s => s.use e.names
  | .includeFragment name _, s => s.use name.names
  | .define name parameters body, s => scanBody body ((s.bind [name]).parameters parameters)
  | .callWith call parameters body, s =>
      scanBody body ((s.use call.names).parameters parameters)
  | .block _ body, s => s.within (scanBody body)
  | .extend parent, s => s.use parent.names
  | .importAll fragment name, s => (s.bind [name]).use fragment.names
  | .importNames fragment names, s => (s.bind (names.map Prod.snd)).use fragment.names

def scanBody : List Stmt → Scan → Scan
  | [], s => s
  | stmt :: rest, s => scanBody rest (stmt.scan s)

end

/-- The names that a routine looks up without having bound them. -/
def freeNames (parameters : List Parameter) (body : List Stmt) : List String :=
  (scanBody body (({} : Scan).parameters parameters)).free

end Template
end Provision
