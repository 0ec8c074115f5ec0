import Provision.Proofs.Template.Mask
import Provision.Proofs.Template.Simulation

/-!
# Runs in lockstep

Two runs from states that agree up to a mask keep in step: they fail with the same failure, or
they give related results in states that agree again.  There is one rule for each way to build a
step, so that whatever is built from steps in lockstep is in lockstep.
-/

namespace Provision
namespace Template

/-! ## States that agree -/

/-- Backdrops that give every name values that agree. -/
inductive Backdrop.Agree (mask : Mask) : Backdrop → Backdrop → Prop
  | nothing : Backdrop.Agree mask .nothing .nothing
  | context {a b : Value} :
      mask ≠ .everything → Value.Agree mask a b → Backdrop.Agree mask (.context a) (.context b)

structure Frame.Agree (mask : Mask) (frame other : Frame) : Prop where
  locals : List.Forall₂ (fun a b => a.1 = b.1 ∧ Value.Agree (mask.field a.1) a.2 b.2)
    frame.locals other.locals
  backdrop : Backdrop.Agree mask frame.backdrop other.backdrop
  closure : frame.closure = none ∧ other.closure = none

/-- States in which names mean values that agree.  What repetitions know about their places may
differ. -/
structure State.Agree (mask : Mask) (s t : State) : Prop where
  frames : List.Forall₂ (Frame.Agree mask) s.frames t.frames
  fields : s.store.fields = [] ∧ t.store.fields = []
  escape : s.escape = t.escape
  depth : s.depth = t.depth
  muted : s.muted = t.muted
  parent : s.parent = none ∧ t.parent = none

variable {mask : Mask}

theorem Backdrop.Agree.fromBackdrop {frame other : Frame}
    (h : Backdrop.Agree mask frame.backdrop other.backdrop) (store store' : Store)
    (name : String) :
    Option.Rel (Value.Agree (mask.field name)) (Frame.lookup?.fromBackdrop store frame name)
      (Frame.lookup?.fromBackdrop store' other name) := by
  unfold Frame.lookup?.fromBackdrop
  generalize frame.backdrop = backdrop, other.backdrop = backdrop' at h
  cases h with
  | nothing => exact .none
  | @context a b hmask hvalue =>
      cases a with
      | map kind entries =>
          obtain ⟨others, rfl, hfound⟩ := hvalue.valueAt?_text hmask name
          exact hfound
      | _ =>
          cases hvalue
          · exact .none
          · contradiction

namespace Frame

theorem lookup?_eq {name : String} (hname : name ≠ "loop") (store : Store) (frame : Frame) :
    frame.lookup? store name =
      (frame.locals.lookup name).or (lookup?.fromBackdrop store frame name) := by
  unfold lookup?
  cases frame.locals.lookup name with
  | some value => rfl
  | none => cases frame.loop <;> simp [hname]

theorem rel_lookup {locals others : List (String × Value)}
    (h : List.Forall₂ (fun a b => a.1 = b.1 ∧ Value.Agree (mask.field a.1) a.2 b.2)
      locals others) (name : String) :
    Option.Rel (Value.Agree (mask.field name)) (locals.lookup name) (others.lookup name) := by
  induction h with
  | nil => exact .none
  | @cons a b _ _ hfirst _ ih =>
      obtain ⟨key, value⟩ := a
      obtain ⟨key', value'⟩ := b
      obtain ⟨rfl, hvalue⟩ := hfirst
      rw [Dict.lookup_cons_eq_ite, Dict.lookup_cons_eq_ite]
      split
      · next hkey => exact .some (hkey ▸ hvalue)
      · exact ih

theorem Agree.lookup? {frame other : Frame} (h : frame.Agree mask other) {name : String}
    (hname : name ≠ "loop") (store store' : Store) :
    Option.Rel (Value.Agree (mask.field name)) (frame.lookup? store name)
      (other.lookup? store' name) := by
  rw [lookup?_eq hname, lookup?_eq hname]
  have hlocals := rel_lookup h.locals name
  generalize frame.locals.lookup name = a, other.locals.lookup name = b at hlocals
  cases hlocals with
  | none => exact h.backdrop.fromBackdrop store store' name
  | some hvalue => exact .some hvalue

theorem agree_loop (loop loop' : Option Loop) :
    Frame.Agree mask { loop := loop } { loop := loop' } where
  locals := .nil
  backdrop := .nothing
  closure := ⟨rfl, rfl⟩

end Frame

theorem Frame.rel_findSome? {frames others : List Frame}
    (h : List.Forall₂ (Frame.Agree mask) frames others) {name : String} (hname : name ≠ "loop")
    (store store' : Store) :
    Option.Rel (Value.Agree (mask.field name))
      (frames.findSome? (fun frame => frame.lookup? store name))
      (others.findSome? (fun frame => frame.lookup? store' name)) := by
  induction h with
  | nil => exact .none
  | @cons frame other _ _ hfirst _ ih =>
      rw [List.findSome?_cons, List.findSome?_cons]
      have hfound := hfirst.lookup? hname store store'
      generalize frame.lookup? store name = a, other.lookup? store' name = b at hfound
      cases hfound with
      | none => exact ih
      | some hvalue => exact .some hvalue

namespace State.Agree

variable {s t : State}

/-- A name means values that agree, or it means nothing but perhaps a helper. -/
theorem lookup (h : s.Agree mask t) {name : String} (hname : name ≠ "loop") :
    Value.Agree (mask.field name) (s.lookup name) (t.lookup name) ∨
      s.lookup name = Env.outside name ∧ t.lookup name = Env.outside name := by
  rw [lookup_eq_of_fields_eq_nil h.fields.1, lookup_eq_of_fields_eq_nil h.fields.2]
  have hfound := Frame.rel_findSome? h.frames hname s.store t.store
  generalize List.findSome? _ s.frames = a, List.findSome? _ t.frames = b at hfound ⊢
  cases hfound with
  | none => exact Or.inr ⟨rfl, rfl⟩
  | some hvalue => exact Or.inl hvalue

theorem mapTop (h : s.Agree mask t) {f g : Frame → Frame}
    (hframe : ∀ frame other, frame.Agree mask other → (f frame).Agree mask (g other)) :
    (s.mapTop f).Agree mask (t.mapTop g) := by
  unfold State.mapTop
  have hframes := h.frames
  generalize hs : s.frames = frames, ht : t.frames = others at hframes
  cases hframes with
  | nil => exact h
  | cons hfirst hrest => exact { h with frames := .cons (hframe _ _ hfirst) hrest }

theorem bind (h : s.Agree mask t) {name : String} {a b : Value}
    (hvalue : Value.Agree (mask.field name) a b) :
    (s.bind name a).Agree mask (t.bind name b) := by
  have hclosure :
      s.frames.head?.bind Frame.closure = none ∧ t.frames.head?.bind Frame.closure = none := by
    have hframes := h.frames
    generalize s.frames = frames, t.frames = others at hframes
    cases hframes with
    | nil => exact ⟨rfl, rfl⟩
    | cons hfirst _ => exact hfirst.closure
  unfold State.bind
  rw [hclosure.1, hclosure.2]
  refine h.mapTop ?_
  intro frame other hframe
  exact { hframe with locals := .cons ⟨rfl, hvalue⟩ hframe.locals }

theorem start {a b : Value} (hmask : mask ≠ .everything) (h : Value.Agree mask a b)
    (name : String) (escape : Bool) (template : Template) :
    (State.start name escape template a).Agree mask (.start name escape template b) where
  frames := .cons ⟨.nil, .context hmask h, rfl, rfl⟩ .nil
  fields := ⟨rfl, rfl⟩
  escape := rfl
  depth := rfl
  muted := rfl
  parent := ⟨rfl, rfl⟩

end State.Agree

/-! ## Steps in lockstep -/

variable {α β γ δ : Type}

/-- Two outcomes are the same failure, or related results in states that agree. -/
inductive Alike (mask : Mask) (R : α → β → Prop) :
    Except Failure (α × State) → Except Failure (β × State) → Prop
  | ok {a : α} {b : β} {s t : State} :
      R a b → s.Agree mask t → Alike mask R (.ok (a, s)) (.ok (b, t))
  | error (failure : Failure) : Alike mask R (.error failure) (.error failure)

/-- From states that agree two steps have outcomes that are alike. -/
def InStep (mask : Mask) (R : α → β → Prop) (step : Run α) (other : Run β) : Prop :=
  ∀ s t : State, s.Agree mask t → Alike mask R (step s) (other t)

namespace InStep

variable {R : α → β → Prop} {Q : γ → δ → Prop}

theorem of_pure {a : α} {b : β} (h : R a b) : InStep mask R (pure a) (pure b) :=
  fun _ _ hstate => .ok h hstate

theorem of_throw (failure : Failure) : InStep mask R (throw failure) (throw failure) :=
  fun _ _ _ => .error failure

theorem fail : InStep mask R Run.fail Run.fail := of_throw .plain

theorem bind {step : Run α} {other : Run β} {next : α → Run γ} {next' : β → Run δ}
    (hstep : InStep mask R step other)
    (hnext : ∀ a b, R a b → InStep mask Q (next a) (next' b)) :
    InStep mask Q (step >>= next) (other >>= next') := by
  intro s t hstate
  have hfirst := hstep s t hstate
  generalize hleft : step s = left, hright : other t = right at hfirst
  cases hfirst with
  | ok hresult hagree =>
      rw [Run.bind_eq_of_ok hleft, Run.bind_eq_of_ok hright]
      exact hnext _ _ hresult _ _ hagree
  | error failure =>
      rw [Run.bind_eq_of_error hleft, Run.bind_eq_of_error hright]
      exact .error failure

theorem bind_eq {step other : Run α} {next : α → Run γ} {next' : α → Run δ}
    (hstep : InStep mask Eq step other) (hnext : ∀ a, InStep mask Q (next a) (next' a)) :
    InStep mask Q (step >>= next) (other >>= next') := by
  refine hstep.bind ?_
  rintro a _ rfl
  exact hnext a

/-- Values that agree in everything are the same structured data. -/
theorem bind_data {step other : Run Value} {next : Value → Run γ} {next' : Value → Run δ}
    (hstep : InStep mask (Value.Agree .nothing) step other)
    (hnext : ∀ value : Value, value.isData = true → InStep mask Q (next value) (next' value)) :
    InStep mask Q (step >>= next) (other >>= next') := by
  refine hstep.bind ?_
  intro a b hvalue
  rw [hvalue.eq]
  exact hnext b hvalue.isData.2

theorem mono {Q : α → β → Prop} {step : Run α} {other : Run β} (h : InStep mask R step other)
    (hresult : ∀ a b, R a b → Q a b) : InStep mask Q step other := by
  intro s t hstate
  have hboth := h s t hstate
  generalize step s = left, other t = right at hboth
  cases hboth with
  | ok hvalue hagree => exact .ok (hresult _ _ hvalue) hagree
  | error failure => exact .error failure

theorem need {a : Option α} {b : Option β} (h : Option.Rel R a b) :
    InStep mask R (Run.need a) (Run.need b) := by
  cases h with
  | none => exact fail
  | some hvalue => exact .of_pure hvalue

/-- A value that is the same on both sides is needed. -/
theorem need_of_forall {R : α → α → Prop} {a : Option α}
    (h : ∀ value, a = some value → R value value) :
    InStep mask R (Run.need a) (Run.need a) := by
  cases a with
  | none => exact fail
  | some value => exact .of_pure (h value rfl)

theorem need_bind {a : Option α} {next : α → Run γ} {next' : α → Run δ}
    (hnext : ∀ value, a = some value → InStep mask Q (next value) (next' value)) :
    InStep mask Q (Run.need a >>= next) (Run.need a >>= next') := by
  cases a with
  | none => exact fun _ _ _ => .error _
  | some value => exact hnext value rfl

theorem of_get : InStep mask (State.Agree mask) get get :=
  fun _ _ hstate => .ok hstate hstate

theorem of_set {s t : State} (h : s.Agree mask t) :
    InStep mask Eq (set s : Run PUnit) (set t : Run PUnit) :=
  fun _ _ _ => .ok rfl h

theorem of_modify {f g : State → State}
    (h : ∀ s t : State, s.Agree mask t → (f s).Agree mask (g t)) :
    InStep mask Eq (modify f : Run PUnit) (modify g : Run PUnit) :=
  fun s t hstate => .ok rfl (h s t hstate)

theorem lift (result : Except Failure α) :
    InStep mask Eq (liftM result : Run α) (liftM result : Run α) := by
  intro s t hstate
  cases result with
  | ok a => exact .ok rfl hstate
  | error failure => exact .error failure

/-! ## Names and frames -/

theorem bindName {name : String} {a b : Value} (h : Value.Agree (mask.field name) a b) :
    InStep mask Eq (Run.bind name a) (Run.bind name b) :=
  of_modify (fun _ _ hstate => hstate.bind h)

theorem fresh : InStep mask (fun _ _ => True) Run.fresh Run.fresh :=
  fun _ _ hstate => .ok trivial { hstate with }

theorem lowered (levels : Nat) {step : Run α} {other : Run β} (h : InStep mask R step other) :
    InStep mask R (Run.lowered levels step) (Run.lowered levels other) := by
  unfold Run.lowered
  refine of_get.bind ?_
  intro s t hstate
  have hlower :
      ({ s with depth := s.depth + levels } : State).Agree mask
        { t with depth := t.depth + levels } :=
    { hstate with depth := congrArg (· + levels) hstate.depth }
  refine (of_set hlower).bind_eq (fun _ => h.bind ?_)
  intro a b hresult
  refine (of_modify ?_).bind_eq (fun _ => .of_pure hresult)
  exact fun _ _ hlater => { hlater with depth := hstate.depth }

theorem inFrame {frame frame' : Frame} (hframe : frame.Agree mask frame') {step : Run α}
    {other : Run β} (h : InStep mask R step other) :
    InStep mask R (Run.inFrame frame step) (Run.inFrame frame' other) := by
  unfold Run.inFrame
  refine of_get.bind ?_
  intro s t hstate
  rw [hstate.depth]
  split
  · exact fail
  refine lowered 1 ((of_modify ?_).bind_eq (fun _ => h.bind ?_))
  · exact fun _ _ hnow => { hnow with frames := .cons hframe hnow.frames }
  intro a b hresult
  refine (of_modify ?_).bind_eq (fun _ => .of_pure hresult)
  intro s t hnow
  refine { hnow with frames := ?_ }
  have hframes := hnow.frames
  generalize s.frames = frames, t.frames = others at hframes
  cases hframes with
  | nil => exact .nil
  | cons _ hrest => exact hrest

theorem write (text : String) : InStep mask Eq (Run.write text) (Run.write text) := by
  unfold Run.write
  refine of_get.bind ?_
  intro s t hstate
  rw [hstate.muted]
  exact .of_pure rfl

theorem emit (value : Value) : InStep mask Eq (Template.emit value) (Template.emit value) := by
  unfold Template.emit
  refine of_get.bind ?_
  intro s t hstate
  rw [hstate.escape]
  exact need_bind (fun text _ => write text)

/-! ## Repetitions -/

/-- Targets are bound to the same structured data. -/
theorem bindNames (target : Target) {value : Value} (hvalue : value.isData = true) :
    InStep mask Eq (Run.bindNames target value) (Run.bindNames target value) :=
  bindTarget target hvalue
where
  bindTarget : ∀ (target : Target) {value : Value}, value.isData = true →
      InStep mask Eq (Run.bindTarget (fun _ _ _ => Run.fail) value target)
        (Run.bindTarget (fun _ _ _ => Run.fail) value target)
    | .name _, _, hvalue => bindName (.refl hvalue)
    | .field _ _, _, _ => fail
    | .items targets, value, hvalue => by
        unfold Run.bindTarget
        refine need_bind ?_
        intro parts hparts
        exact bindTargets targets (Value.isData_of_parts? hvalue hparts)
  bindTargets : ∀ (targets : List Target) {values : List Value},
      (∀ value ∈ values, value.isData = true) →
        InStep mask Eq (Run.bindTargets (fun _ _ _ => Run.fail) values targets)
          (Run.bindTargets (fun _ _ _ => Run.fail) values targets)
    | [], [], _ => .of_pure rfl
    | [], _ :: _, _ => fail
    | _ :: _, [], _ => fail
    | target :: targets, value :: values, hdata => by
        unfold Run.bindTargets
        split
        · exact fail
        · refine (bindTarget target (hdata value List.mem_cons_self)).bind_eq (fun _ => ?_)
          exact bindTargets targets
            (fun other hother => hdata other (List.mem_cons_of_mem _ hother))

theorem rounds {body : Run String} (hbody : InStep mask Eq body body) (target : Target) :
    ∀ {items : List Value}, (∀ item ∈ items, item.isData = true) →
      ∀ (loop loop' : Loop) (done : String) (index : Nat),
        InStep mask Eq (Run.rounds body target loop done index items)
          (Run.rounds body target loop' done index items) := by
  intro items
  induction items with
  | nil => exact fun _ _ _ _ _ => .of_pure rfl
  | cons item rest ih =>
      intro hdata loop loop' done index
      obtain ⟨hitem, hrest⟩ := List.forall_mem_cons.mp hdata
      unfold Run.rounds
      refine (of_modify ?_).bind_eq (fun _ => ?_)
      · exact fun _ _ hstate => hstate.mapTop (fun _ _ _ => Frame.agree_loop _ _)
      refine (bindNames target hitem).bind_eq (fun _ => ?_)
      exact hbody.bind_eq (fun _ => ih hrest _ _ _ _)

theorem repeated {body : Run String} (hbody : InStep mask Eq body body) (target : Target)
    (again : Option (Target × List Stmt)) {items : List Value}
    (hitems : ∀ item ∈ items, item.isData = true) :
    InStep mask Eq (Run.repeated body target again items)
      (Run.repeated body target again items) := by
  unfold Run.repeated
  refine of_get.bind ?_
  intro s t _
  refine fresh.bind ?_
  intro mark mark' _
  exact inFrame (Frame.agree_loop _ _) (rounds hbody target hitems _ _ _ _)

end InStep
end Template
end Provision
