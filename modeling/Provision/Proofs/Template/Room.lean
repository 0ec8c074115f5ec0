import Provision.Proofs.Template.Simulation

/-!
# Steps with less room

Renderings nest up to a limit, and one with less room left than another runs out of depth sooner
or has the same outcome.  There is one rule for each way to build a step, so that whatever a
template is made of follows its counterpart with more room.  The same rules carry what is known of
the trails of failures.
-/

namespace Provision
namespace Template

/-- What is known of the trails of failures.  Built-in operations fail without a trail, and a
variable whose key is not a text is reported alone. -/
structure Trails where
  holds : List Phrase → Prop
  plain : holds []
  keyNotText : ∀ key, holds [.keyNotText key]

variable {α β : Type} {trails : Trails}

/-- A step follows another one: it runs out of depth, or it has the same outcome. -/
def Follows (trails : Trails) (step other : Run α) : Prop :=
  ∀ s, step s = .error .tooDeep ∨
    step s = other s ∧ ∀ trail, step s = .error (.stopped trail) → trails.holds trail

namespace Follows

/-! ## Building steps -/

theorem of_ok {step : Run α} (h : ∀ s, ∃ result, step s = .ok result) :
    Follows trails step step := by
  intro s
  obtain ⟨result, hresult⟩ := h s
  refine Or.inr ⟨rfl, fun trail htrail => ?_⟩
  rw [hresult] at htrail
  contradiction

theorem of_pure (a : α) : Follows trails (pure a) (pure a) := of_ok (fun _ => ⟨_, rfl⟩)

theorem of_get : Follows trails get get := of_ok (fun _ => ⟨_, rfl⟩)

theorem of_set (s : State) : Follows trails (set s : Run PUnit) (set s) := of_ok (fun _ => ⟨_, rfl⟩)

theorem of_modify (f : State → State) : Follows trails (modify f : Run PUnit) (modify f) :=
  of_ok (fun _ => ⟨_, rfl⟩)

theorem of_throw {trail : List Phrase} (h : trails.holds trail) :
    Follows trails (throw (.stopped trail) : Run α) (throw (.stopped trail)) := by
  refine fun s => Or.inr ⟨rfl, fun found hfound => ?_⟩
  cases hfound
  exact h

theorem fail : Follows trails (Run.fail : Run α) Run.fail := of_throw trails.plain

theorem tooDeep (other : Run α) : Follows trails (throw .tooDeep : Run α) other :=
  fun _ => Or.inl rfl

theorem need (value : Option α) : Follows trails (Run.need value) (Run.need value) := by
  cases value with
  | none => exact fail
  | some a => exact of_pure a

theorem lift {result : Except Failure α}
    (h : ∀ trail, result = .error (.stopped trail) → trails.holds trail) :
    Follows trails (liftM result : Run α) (liftM result) := by
  cases result with
  | ok a => exact of_pure a
  | error failure =>
      cases failure with
      | stopped trail => exact of_throw (h trail rfl)
      | tooDeep => exact tooDeep _

theorem bind {step other : Run α} {next next' : α → Run β} (hstep : Follows trails step other)
    (hnext : ∀ a, Follows trails (next a) (next' a)) :
    Follows trails (step >>= next) (other >>= next') := by
  intro s
  rcases hstep s with hdeep | ⟨heq, htrails⟩
  · exact Or.inl (Run.bind_eq_of_error hdeep)
  cases hresult : step s with
  | error failure =>
      refine Or.inr ⟨?_, ?_⟩
      · rw [Run.bind_eq_of_error hresult, Run.bind_eq_of_error (heq.symm.trans hresult)]
      · intro trail htrail
        rw [Run.bind_eq_of_error hresult] at htrail
        cases htrail
        exact htrails trail hresult
  | ok result =>
      rw [Run.bind_eq_of_ok hresult, Run.bind_eq_of_ok (heq.symm.trans hresult)]
      exact hnext _ _

/-! ## Names and frames -/

theorem bindName (name : String) (value : Value) :
    Follows trails (Run.bind name value) (Run.bind name value) := of_modify _

theorem lowered (levels : Nat) {step other : Run α} (h : Follows trails step other) :
    Follows trails (Run.lowered levels step) (Run.lowered levels other) :=
  of_get.bind fun _ => (of_set _).bind fun _ => h.bind fun _ => (of_modify _).bind fun _ =>
    of_pure _

theorem deeper (levels : Nat) {step other : Run α} (h : Follows trails step other) :
    Follows trails (Run.deeper levels step) (Run.deeper levels other) := by
  refine of_get.bind fun _ => ?_
  split
  · exact fail
  · exact h.lowered levels

theorem inFrame (frame : Frame) {step other : Run α} (h : Follows trails step other) :
    Follows trails (Run.inFrame frame step) (Run.inFrame frame other) := by
  refine of_get.bind fun _ => ?_
  split
  · exact fail
  · exact lowered 1 ((of_modify _).bind fun _ => h.bind fun _ => (of_modify _).bind fun _ =>
      of_pure _)

theorem write (text : String) : Follows trails (Run.write text) (Run.write text) :=
  of_get.bind fun _ => of_pure _

theorem captured {step other : Run String} (h : Follows trails step other) :
    Follows trails (Run.captured step) (Run.captured other) :=
  of_get.bind fun _ => (of_modify _).bind fun _ => h.bind fun _ => (of_modify _).bind fun _ =>
    of_get.bind fun _ => of_pure _

theorem fresh : Follows trails Run.fresh Run.fresh := of_ok (fun _ => ⟨_, rfl⟩)

/-! ## Fields and closures -/

theorem newFields (entries : Entries) :
    Follows trails (Run.newFields entries) (Run.newFields entries) :=
  fresh.bind fun _ => (of_modify _).bind fun _ => of_pure _

theorem setField (object : Value) (name : String) (value : Value) :
    Follows trails (Run.setField object name value) (Run.setField object name value) := by
  cases object with
  | map kind entries => cases kind <;> first | exact of_modify _ | exact fail
  | _ => exact fail

theorem closureCell : Follows trails Run.closureCell Run.closureCell := by
  refine of_get.bind fun s => ?_
  cases s.frames.head?.bind Frame.closure with
  | some cell => exact of_pure cell
  | none =>
      exact fresh.bind fun _ => (of_modify _).bind fun _ => (of_modify _).bind fun _ => of_pure _

theorem encloseAll (cell : Nat) (names : List String) :
    Follows trails (Run.encloseAll cell names) (Run.encloseAll cell names) := by
  induction names with
  | nil => exact of_pure _
  | cons _ _ ih => exact (of_modify _).bind fun _ => ih

theorem newRoutine (name : String) (parameters : List Parameter) (body : List Stmt) :
    Follows trails (Run.newRoutine name parameters body) (Run.newRoutine name parameters body) :=
  closureCell.bind fun cell => (encloseAll cell _).bind fun _ => of_pure _

theorem lookupAll (names : List String) :
    Follows trails (Run.lookupAll names) (Run.lookupAll names) := by
  induction names with
  | nil => exact of_pure _
  | cons _ _ ih => exact of_get.bind fun _ => ih.bind fun _ => of_pure _

/-! ## Targets -/

section Targets

variable {field field' : Expr → String → Value → Run Unit}

mutual

theorem bindTarget (hfield : ∀ object name value,
      Follows trails (field object name value) (field' object name value)) :
    ∀ value target, Follows trails (Run.bindTarget field value target)
      (Run.bindTarget field' value target)
  | _, .name _ => bindName _ _
  | _, .field _ _ => hfield _ _ _
  | _, .items targets => by
      exact (need _).bind fun parts => bindTargets hfield parts targets

theorem bindTargets (hfield : ∀ object name value,
      Follows trails (field object name value) (field' object name value)) :
    ∀ values targets, Follows trails (Run.bindTargets field values targets)
      (Run.bindTargets field' values targets)
  | [], [] => of_pure _
  | [], _ :: _ => fail
  | _ :: _, [] => fail
  | value :: values, target :: targets => by
      unfold Run.bindTargets
      split
      · exact fail
      · exact (bindTarget hfield value target).bind fun _ => bindTargets hfield values targets

end

theorem bindNames (target : Target) (value : Value) :
    Follows trails (Run.bindNames target value) (Run.bindNames target value) :=
  bindTarget (fun _ _ _ => fail) value target

end Targets

/-! ## Repetitions -/

section Repetitions

variable {body body' : Run String}

theorem rounds (hbody : Follows trails body body') (target : Target) (items : List Value)
    (loop : Loop) (done : String) (index : Nat) :
    Follows trails (Run.rounds body target loop done index items)
      (Run.rounds body' target loop done index items) := by
  induction items generalizing loop done index with
  | nil => exact of_pure _
  | cons item rest ih =>
      exact (of_modify _).bind fun _ => (bindNames target item).bind fun _ => hbody.bind fun _ =>
        ih _ _ _

theorem repeated (hbody : Follows trails body body') (target : Target)
    (again : Option (Target × List Stmt)) (items : List Value) :
    Follows trails (Run.repeated body target again items)
      (Run.repeated body' target again items) :=
  of_get.bind fun _ => fresh.bind fun _ => inFrame {} (rounds hbody target items _ _ _)

theorem tell (mark : Nat) (args : List Value) :
    Follows trails (Run.tell mark args) (Run.tell mark args) := by
  refine of_get.bind fun _ => ?_
  split
  · exact of_pure _
  · exact (of_set _).bind fun _ => of_pure _

end Repetitions

end Follows

/-! ## Hosts -/

/-- A host that leaves less room than another one. -/
structure Host.Follows (trails : Trails) (host other : Host) : Prop where
  fragment? : host.fragment? = other.fragment?
  escapes : host.escapes = other.escapes
  call : ∀ h args, Template.Follows trails (host.call h args) (other.call h args)
  exec : ∀ body, Template.Follows trails (host.exec body) (other.exec body)

namespace Host.Follows

open Template.Follows

variable {host other : Host}

theorem startAgain (hhost : host.Follows trails other) (args : List Value) :
    Template.Follows trails (Run.startAgain host args) (Run.startAgain other args) := by
  refine of_get.bind fun _ => ?_
  split
  · exact (need _).bind fun items => (repeated (hhost.exec _) _ _ items).captured
  · exact fail

/-! ## Blocks and parents -/

theorem parents (hhost : host.Follows trails other) (muted : Bool) (fuel : Nat) :
    Template.Follows trails (Run.parents host muted fuel) (Run.parents other muted fuel) := by
  induction fuel with
  | zero => exact tooDeep _
  | succ fuel ih =>
      refine of_get.bind fun s => ?_
      cases s.parent with
      | none => exact of_pure _
      | some body =>
          exact (of_modify _).bind fun _ => (hhost.exec body).bind fun _ => ih.bind fun _ =>
            of_pure _

theorem template (hhost : host.Follows trails other) (body : List Stmt) :
    Template.Follows trails (Run.template host body) (Run.template other body) :=
  of_get.bind fun _ => (of_set _).bind fun _ => (hhost.exec body).bind fun _ =>
    (hhost.parents _ _).bind fun _ => (of_modify _).bind fun _ => of_pure _

theorem inBlock (hhost : host.Follows trails other) (name : String) (body : List Stmt) :
    Template.Follows trails (Run.inBlock host name body) (Run.inBlock other name body) :=
  of_get.bind fun _ => inFrame {} ((of_modify _).bind fun _ => (hhost.exec body).bind fun _ =>
    (of_modify _).bind fun _ => of_pure _)

theorem block (hhost : host.Follows trails other) (name : String) :
    Template.Follows trails (Run.block host name) (Run.block other name) := by
  refine of_get.bind fun s => ?_
  split
  · exact of_pure _
  · rcases s.layers.lookup name with _ | _ | ⟨body, _⟩
    · exact fail
    · exact fail
    · exact hhost.inBlock name body

theorem replacedBlock (hhost : host.Follows trails other) (args : List Value) :
    Template.Follows trails (Run.replacedBlock host args) (Run.replacedBlock other args) := by
  refine of_get.bind fun _ => ?_
  split
  · split
    · exact (of_set _).bind fun _ => (hhost.inBlock _ _).captured.bind fun _ =>
        (of_modify _).bind fun _ => of_pure _
    · exact fail
  · exact fail

theorem extend (hhost : host.Follows trails other) (value : Value) :
    Template.Follows trails (Run.extend host value) (Run.extend other value) := by
  refine of_get.bind fun _ => (need _).bind fun _ => ?_
  split
  · exact fail
  · rw [hhost.fragment?]
    exact (need _).bind fun _ => of_set _

/-! ## Fragments -/

theorem embed (hhost : host.Follows trails other) (name : String) (fragment : Provision.Template) :
    Template.Follows trails (Run.embed host name fragment) (Run.embed other name fragment) := by
  refine of_get.bind fun _ => deeper _ ?_
  rw [hhost.escapes]
  exact (of_modify _).bind fun _ => (of_modify _).bind fun _ => (hhost.template _).bind fun _ =>
    (of_modify _).bind fun _ => (of_modify _).bind fun _ => of_pure _

theorem embedFirst (hhost : host.Follows trails other) (ignoreMissing tried : Bool)
    (values : List Value) :
    Template.Follows trails (Run.embedFirst host ignoreMissing tried values)
      (Run.embedFirst other ignoreMissing tried values) := by
  induction values generalizing tried with
  | nil =>
      cases tried <;> cases ignoreMissing <;> first | exact of_pure _ | exact fail
  | cons value others ih =>
      refine (need _).bind fun name => ?_
      rw [hhost.fragment?]
      cases other.fragment? name with
      | some fragment => exact hhost.embed name fragment
      | none => exact ih true

theorem embedAny (hhost : host.Follows trails other) (ignoreMissing : Bool) (value : Value) :
    Template.Follows trails (Run.embedAny host ignoreMissing value)
      (Run.embedAny other ignoreMissing value) :=
  hhost.embedFirst ignoreMissing false _

theorem exports (hhost : host.Follows trails other) (fragment : Value) :
    Template.Follows trails (Run.exports host fragment) (Run.exports other fragment) :=
  inFrame {} ((hhost.embedAny false fragment).captured.bind fun _ => of_get.bind fun _ => of_pure _)

theorem exported (hhost : host.Follows trails other) (fragment : Value) (names : List String) :
    Template.Follows trails (Run.exported host fragment names)
      (Run.exported other fragment names) :=
  inFrame {} ((hhost.embedAny false fragment).captured.bind fun _ => lookupAll names)

/-! ## Calls -/

theorem bindParameters (hhost : host.Follows trails other) (values : List (Parameter × Value)) :
    Template.Follows trails (Run.bindParameters host values)
      (Run.bindParameters other values) := by
  induction values with
  | nil => exact of_pure _
  | cons _ rest ih =>
      unfold Run.bindParameters
      split
      · split
        · exact (hhost.exec _).bind fun _ => ih
        · exact (bindName _ _).bind fun _ => ih
      · exact (bindName _ _).bind fun _ => ih

theorem routine (hhost : host.Follows trails other) (r : Routine) (args : List Value) :
    Template.Follows trails (Run.routine host r args) (Run.routine other r args) := by
  refine of_get.bind fun _ => (need _).bind fun _ => (need _).bind fun values => ?_
  split
  · exact fail
  · exact of_get.bind fun _ => deeper _ ((of_modify _).bind fun _ =>
      (hhost.bindParameters values.reverse).bind fun _ => (hhost.exec r.body).bind fun _ =>
        (of_modify _).bind fun _ => of_pure _)

theorem callValue (hhost : host.Follows trails other) (function : Value) (args : List Value) :
    Template.Follows trails (Run.call host function args) (Run.call other function args) := by
  cases function with
  | helper h => exact hhost.call h args
  | routine r => exact hhost.routine r args
  | _ => exact fail

theorem callName (hhost : host.Follows trails other) (name : String) (args : List Value) :
    Template.Follows trails (Run.callName host name args) (Run.callName other name args) := by
  unfold Run.callName
  split
  · exact hhost.replacedBlock args
  · exact hhost.startAgain args
  · exact of_get.bind fun _ => hhost.callValue _ args

theorem callMethod (hhost : host.Follows trails other) (object : Value) (name : String)
    (args : List Value) :
    Template.Follows trails (Run.callMethod host object name args)
      (Run.callMethod other object name args) := by
  unfold Run.callMethod
  split
  · exact tell _ args
  · exact need _
  · exact (need _).bind fun _ => hhost.callValue _ args

end Host.Follows
end Template
end Provision
