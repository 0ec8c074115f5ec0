import Provision.Proofs.Template.Room
import Provision.Template.Statement

/-!
# Templates with less room

Evaluating an expression or running a statement with a host that leaves less room follows the same
with the other host.  The cases are those of the trees.
-/

namespace Provision
namespace Template

open Follows

variable {trails : Trails} {host other : Host}

/-! ## Expressions -/

theorem applyFilter_follows (name : String) (value : Value) (args : List Value) :
    Follows trails (applyFilter name value args) (applyFilter name value args) :=
  of_get.bind fun _ => need _

theorem applyTest_follows (name : String) (value : Value) (args : List Value) :
    Follows trails (applyTest name value args) (applyTest name value args) := by
  unfold applyTest
  split
  · exact need _
  · exact fail

mutual

theorem evaluate_follows (hhost : host.Follows trails other) :
    ∀ e, Follows trails (evaluate host e) (evaluate other e)
  | .literal _ => by
      unfold evaluate
      exact of_pure _
  | .var _ => by
      unfold evaluate
      exact of_get.bind fun _ => of_pure _
  | .list items => by
      unfold evaluate
      exact (evaluateAll_follows hhost items).bind fun _ => of_pure _
  | .dict entries => by
      unfold evaluate
      exact (evaluateEntries_follows hhost entries).bind fun _ => of_pure _
  | .unary .not operand => by
      unfold evaluate
      exact (evaluate_follows hhost operand).bind fun _ => (need _).bind fun _ => of_pure _
  | .unary .negate operand => by
      unfold evaluate
      exact (evaluate_follows hhost operand).bind fun _ => need _
  | .binary op left right => by
      have hleft := evaluate_follows hhost left
      have hright := evaluate_follows hhost right
      cases op with
      | both =>
          unfold evaluate
          refine hleft.bind fun _ => (need _).bind fun _ => ?_
          split
          · exact hright
          · exact of_pure _
      | either =>
          unfold evaluate
          refine hleft.bind fun _ => (need _).bind fun _ => ?_
          split
          · exact of_pure _
          · exact hright
      | _ =>
          unfold evaluate
          exact hleft.bind fun _ => hright.bind fun _ => need _
  | .compare first rest => by
      unfold evaluate
      exact (evaluate_follows hhost first).bind fun value =>
        (compareChain_follows hhost value rest).bind fun _ => of_pure _
  | .choose condition whenTrue whenFalse => by
      unfold evaluate
      refine (evaluate_follows hhost condition).bind fun _ => (need _).bind fun _ => ?_
      split
      · exact evaluate_follows hhost whenTrue
      · exact evaluateOption_follows hhost _ whenFalse
  | .attribute object _ => by
      unfold evaluate
      exact (evaluate_follows hhost object).bind fun _ => need _
  | .index object key => by
      unfold evaluate
      exact (evaluate_follows hhost object).bind fun _ =>
        (evaluate_follows hhost key).bind fun _ => need _
  | .slice object start stop step => by
      unfold evaluate
      exact (evaluate_follows hhost object).bind fun _ =>
        (evaluateOption_follows hhost _ start).bind fun _ =>
          (evaluateOption_follows hhost _ stop).bind fun _ =>
            (evaluateOption_follows hhost _ step).bind fun _ => need _
  | .call function args => by
      have hargs := evaluateArgs_follows hhost args
      have hfunction := evaluate_follows hhost function
      cases function with
      | var name =>
          unfold evaluate
          exact hargs.bind fun _ => hhost.callName name _
      | _ =>
          unfold evaluate
          exact hfunction.bind fun _ => hargs.bind fun _ => hhost.callValue _ _
  | .method object name args => by
      have hargs := evaluateArgs_follows hhost args
      have hobject := evaluate_follows hhost object
      by_cases hself : object = .var "self"
      · subst hself
        unfold evaluate
        exact (hhost.block name).captured
      · rw [evaluate, evaluate]
        · exact hobject.bind fun _ => hargs.bind fun _ => hhost.callMethod _ name _
        all_goals exact hself
  | .filter name operand args => by
      unfold evaluate
      exact (evaluate_follows hhost operand).bind fun _ =>
        (evaluateArgs_follows hhost args).bind fun _ => applyFilter_follows name _ _
  | .test name operand args => by
      unfold evaluate
      exact (evaluate_follows hhost operand).bind fun _ =>
        (evaluateArgs_follows hhost args).bind fun _ =>
          (applyTest_follows name _ _).bind fun _ => of_pure _

theorem evaluateAll_follows (hhost : host.Follows trails other) :
    ∀ items, Follows trails (evaluateAll host items) (evaluateAll other items)
  | [] => by
      unfold evaluateAll
      exact of_pure _
  | e :: rest => by
      unfold evaluateAll
      exact (evaluate_follows hhost e).bind fun _ =>
        (evaluateAll_follows hhost rest).bind fun _ => of_pure _

theorem evaluateEntries_follows (hhost : host.Follows trails other) :
    ∀ entries, Follows trails (evaluateEntries host entries) (evaluateEntries other entries)
  | [] => by
      unfold evaluateEntries
      exact of_pure _
  | (key, e) :: rest => by
      unfold evaluateEntries
      exact (evaluate_follows hhost key).bind fun _ => (evaluate_follows hhost e).bind fun _ =>
        (evaluateEntries_follows hhost rest).bind fun _ => of_pure _

theorem compareChain_follows (hhost : host.Follows trails other) (value : Value) :
    ∀ rest, Follows trails (compareChain host value rest) (compareChain other value rest)
  | [] => by
      unfold compareChain
      exact of_pure _
  | (_, e) :: rest => by
      unfold compareChain
      refine (evaluate_follows hhost e).bind fun _ => (need _).bind fun _ => ?_
      split
      · exact compareChain_follows hhost _ rest
      · exact of_pure _

theorem evaluateArgs_follows (hhost : host.Follows trails other) (args : List (ArgKind × Expr)) :
    Follows trails (evaluateArgs host args) (evaluateArgs other args) := by
  unfold evaluateArgs
  exact (evaluateItems_follows hhost args).bind fun _ =>
    (evaluateNamed_follows hhost args).bind fun _ => of_pure _

theorem evaluateItems_follows (hhost : host.Follows trails other) :
    ∀ args, Follows trails (evaluateItems host args) (evaluateItems other args)
  | [] => by
      unfold evaluateItems
      exact of_pure _
  | (.positional, e) :: rest => by
      unfold evaluateItems
      exact (evaluate_follows hhost e).bind fun _ =>
        (evaluateItems_follows hhost rest).bind fun _ => of_pure _
  | (.items, e) :: rest => by
      unfold evaluateItems
      exact (evaluate_follows hhost e).bind fun _ => (need _).bind fun _ =>
        (evaluateItems_follows hhost rest).bind fun _ => of_pure _
  | (.named _, _) :: rest => by
      unfold evaluateItems
      exact evaluateItems_follows hhost rest
  | (.entries, _) :: rest => by
      unfold evaluateItems
      exact evaluateItems_follows hhost rest

theorem evaluateNamed_follows (hhost : host.Follows trails other) :
    ∀ args, Follows trails (evaluateNamed host args) (evaluateNamed other args)
  | [] => by
      unfold evaluateNamed
      exact of_pure _
  | (.named _, e) :: rest => by
      unfold evaluateNamed
      exact (evaluate_follows hhost e).bind fun _ =>
        (evaluateNamed_follows hhost rest).bind fun _ => of_pure _
  | (.entries, e) :: rest => by
      unfold evaluateNamed
      refine (evaluate_follows hhost e).bind fun _ => ?_
      split
      · exact (evaluateNamed_follows hhost rest).bind fun _ => of_pure _
      · exact fail
  | (.positional, _) :: rest => by
      unfold evaluateNamed
      exact evaluateNamed_follows hhost rest
  | (.items, _) :: rest => by
      unfold evaluateNamed
      exact evaluateNamed_follows hhost rest

theorem evaluateOption_follows (hhost : host.Follows trails other) (otherwise : Value) :
    ∀ e, Follows trails (evaluateOption host otherwise e) (evaluateOption other otherwise e)
  | none => by
      unfold evaluateOption
      exact of_pure _
  | some e => by
      unfold evaluateOption
      exact evaluate_follows hhost e

end

theorem callWith_follows (hhost : host.Follows trails other) {routine : Run Value}
    (hroutine : Follows trails routine routine) :
    ∀ e, Follows trails (callWith host routine e) (callWith other routine e) := by
  intro e
  have hcaller : ∀ args, Follows trails (callWith.withCaller host routine args)
      (callWith.withCaller other routine args) := fun args =>
    (evaluateItems_follows hhost args).bind fun _ =>
      (evaluateNamed_follows hhost args).bind fun _ => hroutine.bind fun _ => of_pure _
  unfold callWith
  split
  · exact (hcaller _).bind fun _ => hhost.callName _ _
  · exact (evaluate_follows hhost _).bind fun _ => (hcaller _).bind fun _ => hhost.callValue _ _
  · exact (evaluate_follows hhost _).bind fun _ => (hcaller _).bind fun _ =>
      hhost.callMethod _ _ _
  · exact fail

/-! ## Statements -/

theorem emit_follows (value : Value) : Follows trails (emit value) (emit value) :=
  of_get.bind fun _ => (need _).bind fun _ => write _

theorem assign_follows (hhost : host.Follows trails other) (target : Target) (value : Value) :
    Follows trails (assign host target value) (assign other target value) :=
  bindTarget (fun object _ _ => (evaluate_follows hhost object).bind fun _ => setField _ _ _)
    value target

theorem passing_follows (hhost : host.Follows trails other) (target : Target) (condition : Expr)
    (items passed : List Value) :
    Follows trails (passing host target condition passed items)
      (passing other target condition passed items) := by
  induction items generalizing passed with
  | nil => exact of_pure _
  | cons item rest ih =>
      unfold passing
      exact (of_modify _).bind fun _ => (bindNames target item).bind fun _ =>
        (evaluate_follows hhost condition).bind fun _ => (need _).bind fun _ => ih _

theorem passingItems_follows (hhost : host.Follows trails other) (target : Target)
    (condition : Option Expr) (items : List Value) :
    Follows trails (passingItems host target condition items)
      (passingItems other target condition items) := by
  unfold passingItems
  split
  · exact of_pure _
  · exact inFrame {} (passing_follows hhost target _ items [])

theorem applyFilters_follows (hhost : host.Follows trails other) (filters : List FilterUse)
    (value : Value) :
    Follows trails (applyFilters host filters value) (applyFilters other filters value) := by
  induction filters generalizing value with
  | nil => exact of_pure _
  | cons first rest ih =>
      unfold applyFilters
      exact (evaluateArgs_follows hhost first.args).bind fun _ =>
        (applyFilter_follows first.name _ _).bind fun _ => ih _

theorem bindAll_follows (hhost : host.Follows trails other) (bindings : List (Target × Expr)) :
    Follows trails (bindAll host bindings) (bindAll other bindings) := by
  induction bindings with
  | nil => exact of_pure _
  | cons binding rest ih =>
      obtain ⟨target, e⟩ := binding
      unfold bindAll
      exact (evaluate_follows hhost e).bind fun _ => (bindNames target _).bind fun _ => ih

theorem bindEach_follows (names : List String) (values : List Value) :
    Follows trails (bindEach names values) (bindEach names values) := by
  induction names generalizing values with
  | nil => exact of_pure _
  | cons name names ih =>
      cases values with
      | nil => exact of_pure _
      | cons value values => exact (bindName name value).bind fun _ => ih values

theorem withEscaping_follows (escape : Bool) {step step' : Run String}
    (h : Follows trails step step') :
    Follows trails (withEscaping escape step) (withEscaping escape step') :=
  of_get.bind fun _ => (of_modify _).bind fun _ => h.bind fun _ => (of_modify _).bind fun _ =>
    of_pure _

mutual

theorem run_follows (hhost : host.Follows trails other) :
    ∀ stmt, Follows trails (run host stmt) (run other stmt)
  | .text content => by
      unfold run
      exact write content
  | .emit e => by
      unfold run
      exact (evaluate_follows hhost e).bind fun _ => emit_follows _
  | .repeat target source condition nested body whenEmpty => by
      unfold run
      refine (evaluate_follows hhost source).bind fun _ => (need _).bind fun _ =>
        (passingItems_follows hhost target condition _).bind fun _ => ?_
      split
      · exact runAll_follows hhost whenEmpty
      · exact repeated (runAll_follows hhost body) target _ _
  | .branch condition whenTrue whenFalse => by
      unfold run
      refine (evaluate_follows hhost condition).bind fun _ => (need _).bind fun _ => ?_
      split
      · exact runAll_follows hhost whenTrue
      · exact runAll_follows hhost whenFalse
  | .assign target e => by
      unfold run
      exact (evaluate_follows hhost e).bind fun _ => (assign_follows hhost target _).bind fun _ =>
        of_pure _
  | .capture target filters body => by
      unfold run
      exact (runAll_follows hhost body).captured.bind fun _ =>
        (applyFilters_follows hhost filters _).bind fun _ =>
          (assign_follows hhost target _).bind fun _ => of_pure _
  | .scope bindings body => by
      unfold run
      exact inFrame {} ((bindAll_follows hhost bindings).bind fun _ => runAll_follows hhost body)
  | .filtered filters body => by
      unfold run
      exact (runAll_follows hhost body).captured.bind fun _ =>
        (applyFilters_follows hhost filters _).bind fun _ => emit_follows _
  | .escaping enabled body => by
      unfold run
      exact (evaluate_follows hhost enabled).bind fun _ => (need _).bind fun _ =>
        withEscaping_follows _ (runAll_follows hhost body)
  | .run e => by
      unfold run
      exact (evaluate_follows hhost e).bind fun _ => of_pure _
  | .includeFragment name ignoreMissing => by
      unfold run
      exact (evaluate_follows hhost name).bind fun _ => hhost.embedAny ignoreMissing _
  | .define name parameters body => by
      unfold run
      exact (newRoutine name parameters body).bind fun _ => (bindName name _).bind fun _ =>
        of_pure _
  | .callWith call parameters body => by
      unfold run
      exact (callWith_follows hhost (newRoutine _ parameters body) call).bind fun _ =>
        emit_follows _
  | .block name _ => by
      unfold run
      exact hhost.block name
  | .extend parent => by
      unfold run
      exact (evaluate_follows hhost parent).bind fun _ => (hhost.extend _).bind fun _ => of_pure _
  | .importAll fragment target => by
      unfold run
      exact (evaluate_follows hhost fragment).bind fun _ => (hhost.exports _).bind fun _ =>
        (bindName target _).bind fun _ => of_pure _
  | .importNames fragment names => by
      unfold run
      exact (evaluate_follows hhost fragment).bind fun _ => (hhost.exported _ _).bind fun _ =>
        (bindEach_follows _ _).bind fun _ => of_pure _

/-- Statements follow the same statements under a host with more room. -/
theorem runAll_follows (hhost : host.Follows trails other) :
    ∀ body, Follows trails (runAll host body) (runAll other body)
  | [] => by
      unfold runAll
      exact of_pure _
  | stmt :: rest => by
      unfold runAll
      exact (run_follows hhost stmt).bind fun _ => (runAll_follows hhost rest).bind fun _ =>
        of_pure _

end

end Template
end Provision
