import Provision.Proofs.Template.Denotation

/-!
# Outputs of plain templates

The equations by which the output of a plain template is worked out, statement by statement.  In
them `next?` binds a value that is known before its continuation is looked into, so that every
statement is looked at once.  Its congruence passes over values that are known by computation, so
the equations for those are proved as equations, by `(rfl)`.
-/

namespace Provision
namespace Template

/-- The bind of optional values. -/
def next? {α β : Type} (value : Option α) (f : α → Option β) : Option β :=
  value.bind f

@[congr] theorem next?_congr {α β : Type} {value other : Option α} {f : α → Option β}
    (h : value = other) : next? value f = next? other f := by
  rw [h]

@[simp] theorem next?_some {α β : Type} (a : α) (f : α → Option β) :
    next? (some a) f = f a := (rfl)

@[simp] theorem next?_ite_some {α β : Type} (c : Prop) [Decidable c] (a b : α)
    (f : α → Option β) : next? (if c then some a else some b) f = f (if c then a else b) := by
  split <;> rfl

/-! ## Expressions -/

namespace Expr

/-- What is kept under names one inside of the other, starting from a variable. -/
def path (name : String) (fields : List String) : Expr :=
  fields.foldl .attribute (.var name)

def ask (helper : String) (args : List Expr) : Expr :=
  .call (.var helper) (args.map (fun e => (.positional, e)))

def record (fields : List (String × Expr)) : Expr :=
  .dict (fields.map (fun field => (.literal (.str field.1), field.2)))

def str (s : String) : Expr :=
  .literal (.str s)

def through (filter : String) (e : Expr) (args : List Expr) : Expr :=
  .filter filter e (args.map (fun e => (.positional, e)))

end Expr

/-- The values of some expressions. -/
def values? (answer : Answer) (env : Env) : List Expr → Option (List Value)
  | [] => some []
  | e :: rest =>
      next? (value? answer env e) fun value =>
        next? (values? answer env rest) fun values => some (value :: values)

def along? : List String → Value → Option Value
  | [], value => some value
  | name :: rest, value => next? (value.attribute? name) (along? rest)

def fieldValues? (answer : Answer) (env : Env) :
    List (String × Expr) → Option (List (String × Value))
  | [] => some []
  | (name, e) :: rest =>
      next? (value? answer env e) fun value =>
        next? (fieldValues? answer env rest) fun fields => some ((name, value) :: fields)

section Expressions

variable (answer : Answer) (env : Env)

@[simp] theorem values?_nil : values? answer env [] = some [] := (rfl)

@[simp] theorem values?_cons (e : Expr) (rest : List Expr) :
    values? answer env (e :: rest) =
      next? (value? answer env e) fun value =>
        next? (values? answer env rest) fun values => some (value :: values) := (rfl)

@[simp] theorem along?_nil (value : Value) : along? [] value = some value := (rfl)

@[simp] theorem along?_cons (name : String) (rest : List String) (value : Value) :
    along? (name :: rest) value = next? (value.attribute? name) (along? rest) := (rfl)

@[simp] theorem fieldValues?_nil : fieldValues? answer env [] = some [] := (rfl)

@[simp] theorem fieldValues?_cons (name : String) (e : Expr) (rest : List (String × Expr)) :
    fieldValues? answer env ((name, e) :: rest) =
      next? (value? answer env e) fun value =>
        next? (fieldValues? answer env rest) fun fields => some ((name, value) :: fields) := (rfl)

theorem value?_foldl_attribute (fields : List String) (e : Expr) :
    value? answer env (fields.foldl .attribute e) =
      next? (value? answer env e) (along? fields) := by
  induction fields generalizing e with
  | nil => exact (Option.bind_fun_some _).symm
  | cons name rest ih =>
      rw [List.foldl_cons, ih, value?]
      unfold next?
      exact Option.bind_assoc _ _ _

@[simp] theorem value?_path {name : String} (hname : name ≠ "loop") (fields : List String) :
    value? answer env (.path name fields) = along? fields (env name) := by
  rw [Expr.path, value?_foldl_attribute, value?_var answer env hname, next?_some]

@[simp] theorem value?_literal (value : Literal) :
    value? answer env (.literal value) = some (literalValue value) := by
  rw [value?]

@[simp] theorem value?_str (s : String) : value? answer env (.str s) = some (.text s) := by
  rw [Expr.str, value?_literal]
  rfl

theorem args?_positional (args : List Expr) :
    args? answer env (args.map (fun e => (.positional, e))) = values? answer env args := by
  induction args with
  | nil => rfl
  | cons e rest ih =>
      rw [List.map_cons, args?, ih]
      rfl

@[simp] theorem value?_ask {helper : String} (hsuper : helper ≠ "super") (hloop : helper ≠ "loop")
    (args : List Expr) :
    value? answer env (.ask helper args) =
      next? (values? answer env args) fun values =>
        match env helper with
        | .helper h => answer h values
        | _ => none := by
  rw [Expr.ask, value?, if_neg (by simp [hsuper, hloop]), args?_positional]
  rfl

theorem entries?_named (fields : List (String × Expr)) :
    entries? answer env (fields.map (fun field => (.literal (.str field.1), field.2))) =
      (fieldValues? answer env fields).map Value.namedEntries := by
  induction fields with
  | nil => rfl
  | cons field rest ih =>
      obtain ⟨name, e⟩ := field
      rw [List.map_cons, entries?, ih, value?, fieldValues?]
      unfold next?
      cases value? answer env e with
      | none => rfl
      | some value =>
          cases fieldValues? answer env rest with
          | none => rfl
          | some values => rfl

@[simp] theorem value?_record (fields : List (String × Expr)) :
    value? answer env (.record fields) =
      next? (fieldValues? answer env fields) fun values =>
        some (.ofDict (Dict.ofList values)) := by
  rw [Expr.record, value?, entries?_named, Option.map_map]
  unfold next?
  cases fieldValues? answer env fields with
  | none => rfl
  | some values =>
      rw [Option.map_some, Function.comp_apply, Value.ofEntries_namedEntries]
      rfl

@[simp] theorem value?_not (e : Expr) :
    value? answer env (.unary .not e) =
      next? (value? answer env e) fun value =>
        next? value.condition? fun holds => some (.bool !holds) := by
  rw [value?]
  rfl

@[simp] theorem value?_concat (left right : Expr) :
    value? answer env (.binary .concat left right) =
      next? (value? answer env left) fun a =>
        next? (value? answer env right) fun b => Value.concat? a b := by
  rw [value?]
  rfl

@[simp] theorem value?_compare (first second : Expr) (comparison : Comparison) :
    value? answer env (.compare first [(comparison, second)]) =
      next? (value? answer env first) fun a =>
        next? (value? answer env second) fun b =>
          next? (Value.compare? comparison a b) fun holds => some (.bool holds) := by
  rw [value?]
  unfold next?
  cases value? answer env first with
  | none => rfl
  | some a =>
      rw [Option.bind_eq_bind, Option.bind_some, chain?]
      cases value? answer env second with
      | none => rfl
      | some b =>
          simp only [Option.bind_eq_bind, Option.bind_some]
          cases Value.compare? comparison a b with
          | none => rfl
          | some holds => cases holds <;> rfl

@[simp] theorem value?_choose (condition whenTrue whenFalse : Expr) :
    value? answer env (.choose condition whenTrue (some whenFalse)) =
      next? (value? answer env condition) fun value =>
        next? value.condition? fun holds =>
          if holds then value? answer env whenTrue else value? answer env whenFalse := by
  rw [value?]
  rfl

@[simp] theorem value?_attribute (e : Expr) (name : String) :
    value? answer env (.attribute e name) =
      next? (value? answer env e) fun value => value.attribute? name := by
  rw [value?]
  rfl

@[simp] theorem value?_index (object key : Expr) :
    value? answer env (.index object key) =
      next? (value? answer env object) fun value =>
        next? (value? answer env key) fun key => Value.index? key value := by
  rw [value?]
  rfl

@[simp] theorem value?_through (name : String) (e : Expr) (args : List Expr) :
    value? answer env (.through name e args) =
      next? (value? answer env e) fun value =>
        next? (values? answer env args) fun values => filtered? false name value values := by
  rw [Expr.through, value?, args?_positional]
  rfl

end Expressions

/-! ## Statements -/

/-- The output of some statements, for what follows them. -/
def output? (answer : Answer) (depth : Nat) (env : Env) (body : List Stmt) : Option String :=
  (texts? answer depth env body).map Prod.fst

section Statements

variable (answer : Answer) (depth : Nat) (env : Env)

@[simp] theorem output?_nil : output? answer depth env [] = some "" := by
  rw [output?, texts?]
  rfl

/-- A statement that leaves the names alone stands before the output of what follows. -/
theorem output?_cons_of_text? {stmt : Stmt} (text : Option String)
    (hstmt : text? answer depth env stmt = text.map (fun text => (text, env)))
    (rest : List Stmt) :
    output? answer depth env (stmt :: rest) =
      next? text fun text => (output? answer depth env rest).map (text ++ ·) := by
  rw [output?, texts?, hstmt]
  unfold next? output?
  cases text with
  | none => rfl
  | some text =>
      simp only [Option.map_some, Option.bind_eq_bind, Option.bind_some]
      cases texts? answer depth env rest with
      | none => rfl
      | some later => rfl

@[simp] theorem output?_text (content : String) (rest : List Stmt) :
    output? answer depth env (.text content :: rest) =
      (output? answer depth env rest).map (content ++ ·) := by
  rw [output?_cons_of_text? answer depth env (some content) (text?_text answer depth env content),
    next?_some]

theorem text?_emit (e : Expr) :
    text? answer depth env (.emit e) =
      ((value? answer env e).bind (emitted? false)).map (fun text => (text, env)) := by
  rw [text?]
  cases value? answer env e with
  | none => rfl
  | some value =>
      simp only [Option.bind_eq_bind, Option.bind_some]
      cases emitted? false value <;> rfl

@[simp] theorem output?_emit (e : Expr) (rest : List Stmt) :
    output? answer depth env (.emit e :: rest) =
      next? (value? answer env e) fun value =>
        next? (emitted? false value) fun text =>
          (output? answer depth env rest).map (text ++ ·) := by
  rw [output?_cons_of_text? answer depth env _ (text?_emit answer depth env e)]
  unfold next?
  rw [Option.bind_assoc]

@[simp] theorem output?_assign (name : String) (e : Expr) (rest : List Stmt) :
    output? answer depth env (.assign (.name name) e :: rest) =
      next? (value? answer env e) fun value =>
        output? answer depth (Function.update env name value) rest := by
  rw [output?, texts?, text?]
  unfold next?
  cases value? answer env e with
  | none => rfl
  | some value =>
      simp only [Option.bind_eq_bind, Option.bind_some, output?]
      cases texts? answer depth (Function.update env name value) rest with
      | none => rfl
      | some later => simp

@[simp] theorem output?_branch (condition : Expr) (whenTrue whenFalse rest : List Stmt) :
    output? answer depth env (.branch condition whenTrue whenFalse :: rest) =
      next? (value? answer env condition) fun value =>
        next? value.condition? fun holds =>
          if holds then output? answer depth env (whenTrue ++ rest)
          else output? answer depth env (whenFalse ++ rest) := by
  have hrest :
      ∀ body : List Stmt,
        output? answer depth env (body ++ rest) =
          ((texts? answer depth env body).bind fun first =>
            (texts? answer depth first.2 rest).bind fun later =>
              some (first.1 ++ later.1, later.2)).map Prod.fst := by
    intro body
    rw [output?, texts?_append]
    simp only [Option.map_eq_bind, Function.comp_def]
  rw [output?, texts?, text?]
  unfold next?
  cases value? answer env condition with
  | none => rfl
  | some value =>
      simp only [Option.bind_eq_bind, Option.bind_some]
      cases value.condition? with
      | none => rfl
      | some holds =>
          simp only [Option.bind_some]
          cases holds with
          | false =>
              rw [if_neg Bool.false_ne_true, if_neg Bool.false_ne_true]
              exact (hrest whenFalse).symm
          | true =>
              rw [if_pos rfl, if_pos rfl]
              exact (hrest whenTrue).symm

/-- A body of plain output, which cannot give a name another meaning. -/
def IsOutput (body : List Stmt) : Prop :=
  ∀ stmt ∈ body, (∃ content, stmt = .text content) ∨ ∃ e, stmt = .emit e

@[simp] theorem isOutput_nil : IsOutput [] := by
  intro stmt hstmt
  exact absurd hstmt List.not_mem_nil

@[simp] theorem isOutput_text (content : String) (rest : List Stmt) :
    IsOutput (.text content :: rest) ↔ IsOutput rest := by
  simp [IsOutput]

@[simp] theorem isOutput_emit (e : Expr) (rest : List Stmt) :
    IsOutput (.emit e :: rest) ↔ IsOutput rest := by
  simp [IsOutput]

variable {answer depth env} in
theorem IsOutput.texts? {body : List Stmt} (h : IsOutput body) :
    Template.texts? answer depth env body =
      (output? answer depth env body).map (fun text => (text, env)) := by
  induction body with
  | nil =>
      rw [output?_nil, Template.texts?]
      rfl
  | cons stmt rest ih =>
      have hrest := ih (fun later hlater => h later (List.mem_cons_of_mem stmt hlater))
      have hstmt : ∃ text : Option String,
          text? answer depth env stmt = text.map (fun text => (text, env)) := by
        rcases h stmt List.mem_cons_self with ⟨content, rfl⟩ | ⟨e, rfl⟩
        · exact ⟨some content, text?_text answer depth env content⟩
        · exact ⟨(value? answer env e).bind (emitted? false), text?_emit answer depth env e⟩
      obtain ⟨text, htext⟩ := hstmt
      rw [output?_cons_of_text? answer depth env text htext, Template.texts?, htext]
      unfold next?
      cases text with
      | none => rfl
      | some text =>
          simp only [Option.map_some, Option.bind_eq_bind, Option.bind_some, hrest]
          cases output? answer depth env rest <;> rfl

/-- What follows a choice between plain outputs is the same for both. -/
theorem output?_branch_of_isOutput (condition : Expr) {whenTrue whenFalse : List Stmt}
    (htrue : IsOutput whenTrue) (hfalse : IsOutput whenFalse) (rest : List Stmt) :
    output? answer depth env (.branch condition whenTrue whenFalse :: rest) =
      next? (value? answer env condition) fun value =>
        next? value.condition? fun holds =>
          next? (if holds then output? answer depth env whenTrue
              else output? answer depth env whenFalse) fun text =>
            (output? answer depth env rest).map (text ++ ·) := by
  have hboth :
      text? answer depth env (.branch condition whenTrue whenFalse) =
        (next? (value? answer env condition) fun value =>
          next? value.condition? fun holds =>
            if holds then output? answer depth env whenTrue
            else output? answer depth env whenFalse).map (fun text => (text, env)) := by
    rw [text?, htrue.texts?, hfalse.texts?]
    unfold next?
    cases value? answer env condition with
    | none => rfl
    | some value =>
        simp only [Option.bind_eq_bind, Option.bind_some]
        cases value.condition? with
        | none => rfl
        | some holds => cases holds <;> rfl
  rw [output?_cons_of_text? answer depth env _ hboth]
  unfold next?
  simp only [Option.bind_assoc]

@[simp] theorem output?_repeat (target : Target) (source : Expr) (condition : Option Expr)
    (nested : Bool) (body rest : List Stmt) :
    output? answer depth env (.repeat target source condition nested body [] :: rest) =
      if Run.depthLimit < depth then none
      else
        next? (value? answer env source) fun value =>
          next? value.iterated? fun items =>
            next? (passing? answer env target condition items) fun items =>
              next? (concat? (fun item =>
                next? (bindings? target item) fun bound =>
                  output? answer (depth + 1) (env.bindAll bound) body) items) fun text =>
                (output? answer depth env rest).map (text ++ ·) := by
  have hbody :
      (fun item => next? (bindings? target item) fun bound =>
          output? answer (depth + 1) (env.bindAll bound) body) =
        fun item => (bindings? target item).bind fun bound =>
          (texts? answer (depth + 1) (env.bindAll bound) body).bind fun result =>
            some result.1 := by
    funext item
    unfold next? output?
    cases bindings? target item with
    | none => rfl
    | some bound =>
        simp only [Option.bind_some]
        cases texts? answer (depth + 1) (env.bindAll bound) body <;> rfl
  rw [hbody, output?, texts?, text?]
  split
  · rfl
  unfold next? output?
  cases value? answer env source with
  | none => rfl
  | some value =>
      simp only [Option.bind_eq_bind, Option.bind_some]
      cases value.iterated? with
      | none => rfl
      | some items =>
          simp only [Option.bind_some]
          cases passing? answer env target condition items with
          | none => rfl
          | some items =>
              simp only [Option.bind_some]
              cases concat? _ items with
              | none => rfl
              | some text =>
                  simp only [Option.bind_some]
                  cases texts? answer depth env rest <;> rfl

end Statements

/-! ## Repetitions -/

section Repetitions

@[simp] theorem bindings?_name (name : String) (value : Value) :
    bindings? (.name name) value = some [(name, value)] := (rfl)

@[simp] theorem bindings?_pair (a b : String) (first second : Value) :
    bindings? (.items [.name a, .name b]) (.list [first, second]) =
      some [(a, first), (b, second)] := (rfl)

@[simp] theorem iterated?_list (items : List Value) : (Value.list items).iterated? = some items :=
  (rfl)

@[simp] theorem iterated?_stream (items : List Value) :
    (Value.stream items).iterated? = some items := (rfl)

@[simp] theorem passing?_none (answer : Answer) (env : Env) (target : Target)
    (items : List Value) : passing? answer env target none items = some items := (rfl)

@[simp] theorem passing?_some (answer : Answer) (env : Env) (target : Target) (condition : Expr)
    (items : List Value) :
    passing? answer env target (some condition) items =
      keep? (fun item =>
        next? (bindings? target item) fun bound =>
          next? (value? answer (env.bindAll bound) condition) Value.condition?) items := (rfl)

variable {α β : Type}

@[congr] theorem concat?_congr {items others : List α} {text? other? : α → Option String}
    (hitems : items = others) (htexts : ∀ item ∈ others, text? item = other? item) :
    concat? text? items = concat? other? others := by
  subst hitems
  induction items with
  | nil => rfl
  | cons item rest ih =>
      rw [concat?, concat?, htexts item List.mem_cons_self,
        ih (fun later hlater => htexts later (List.mem_cons_of_mem _ hlater))]

@[simp ↓] theorem concat?_map (text? : β → Option String) (f : α → β) (items : List α) :
    concat? text? (items.map f) = concat? (fun item => text? (f item)) items := by
  induction items with
  | nil => rfl
  | cons item rest ih => rw [List.map_cons, concat?, concat?, ih]

@[simp] theorem concat?_some (text : α → String) (items : List α) :
    concat? (fun item => some (text item)) items = some (String.join (items.map text)) := by
  induction items with
  | nil => rfl
  | cons item rest ih =>
      rw [concat?, ih, List.map_cons, String.join_cons]
      rfl

@[congr] theorem keep?_congr {items others : List α} {holds? other? : α → Option Bool}
    (hitems : items = others) (hholds : ∀ item ∈ others, holds? item = other? item) :
    keep? holds? items = keep? other? others := by
  subst hitems
  induction items with
  | nil => rfl
  | cons item rest ih =>
      rw [keep?, keep?, hholds item List.mem_cons_self,
        ih (fun later hlater => hholds later (List.mem_cons_of_mem _ hlater))]

@[simp ↓] theorem keep?_map (holds? : β → Option Bool) (f : α → β) (items : List α) :
    keep? holds? (items.map f) = (keep? (fun item => holds? (f item)) items).map (List.map f) := by
  induction items with
  | nil => rfl
  | cons item rest ih =>
      rw [List.map_cons, keep?, keep?, ih]
      cases holds? (f item) with
      | none => rfl
      | some holds =>
          cases keep? (fun item => holds? (f item)) rest with
          | none => rfl
          | some kept => cases holds <;> rfl

@[simp] theorem keep?_some (holds : α → Bool) (items : List α) :
    keep? (fun item => some (holds item)) items = some (items.filter holds) := by
  induction items with
  | nil => rfl
  | cons item rest ih =>
      rw [keep?, ih]
      cases hitem : holds item <;> simp [hitem]

end Repetitions

/-! ## Names -/

namespace Env

theorem bindAll_apply (fields : List (String × Value)) (env : Env) (name : String) :
    env.bindAll fields name = (fields.reverse.lookup name).getD (env name) := by
  induction fields generalizing env with
  | nil => rfl
  | cons field rest ih =>
      obtain ⟨first, value⟩ := field
      rw [bindAll, ih, List.reverse_cons, List.lookup_append]
      cases rest.reverse.lookup name with
      | some found => rfl
      | none =>
          rw [Option.getD_none, Option.none_or, Dict.lookup_cons_eq_ite, Function.update_apply]
          by_cases hname : name = first <;> simp [hname]

theorem ofDict_ofList (fields : List (String × Value)) :
    ofDict (Dict.ofList fields) = bindAll outside fields := by
  funext name
  rw [ofDict, Dict.get?_ofList, bindAll_apply]

end Env

end Template
end Provision
