import Provision.Proofs.Template.Lockstep

/-!
# Templates that do not look under a mask

Whether a plain template looks under a mask is settled by its tree: an expression that is written,
compared or handed to a helper has to have the same value on both sides, and what a name is bound
to may differ no more than the mask says for that name.  A template that passes this check renders
alike in contexts that agree up to the mask, whatever the templates that it gives as text make of
what they are handed: that is the same on both sides.
-/

namespace Provision
namespace Template

/-! ## Helpers -/

/-- The helpers whose answers are structured data. -/
def Helper.isPlain : Helper → Bool
  | .range => false
  | .map => false
  | .fields => false
  | .inspect => false
  | _ => true

/-- What the arguments of a helper may differ in.  A fragment may be included in contexts that
differ as the scene says; all other arguments have to be the same. -/
def Helper.masks (scene : Mask) : Helper → List Mask
  | .inclusion => [.nothing, scene]
  | _ => []

/-- Values that agree one by one up to masks.  Where the masks have come to an end the values are
the same. -/
inductive AgreeAll : List Mask → List Value → List Value → Prop
  | nil {masks : List Mask} : AgreeAll masks [] []
  | cons {masks : List Mask} {a b : Value} {values others : List Value} :
      Value.Agree (masks.headD .nothing) a b → AgreeAll masks.tail values others →
        AgreeAll masks (a :: values) (b :: others)

theorem AgreeAll.eq {values others : List Value} (h : AgreeAll [] values others) :
    values = others := by
  induction values generalizing others with
  | nil =>
      cases h
      rfl
  | cons value rest ih =>
      cases h with
      | cons hvalue hrest => rw [hvalue.eq, ih hrest]

theorem AgreeAll.isData {masks : List Mask} {values others : List Value}
    (h : AgreeAll masks values others) : ∀ value ∈ values, value.isData = true := by
  induction h with
  | nil => simp
  | cons hvalue _ ih => exact List.forall_mem_cons.mpr ⟨hvalue.isData.1, ih⟩

/-- The plain helpers of a host give the same answer where their arguments agree. -/
def Host.InStep (mask scene : Mask) (host : Host) : Prop :=
  ∀ h : Helper, h.isPlain = true → ∀ values others, AgreeAll (h.masks scene) values others →
    Template.InStep mask (Value.Agree .nothing) (host.call h values) (host.call h others)

/-! ## The check -/

section Check

variable (mask scene : Mask)

/-- What may differ in what a variable holds, or in what is kept under names in it. -/
def reach? : Expr → Option Mask
  | .var name =>
      if name = "loop" ∨ (Helper.ofName? name).isSome then none else some (mask.field name)
  | .attribute object name =>
      (reach? object).bind fun inner =>
        if inner = .everything then none else some (inner.field name)
  | _ => none

mutual

/-- Whether the value of an expression differs no more than a mask lets it. -/
def respects (result : Mask) : Expr → Bool
  | .literal _ => true
  | .var name => (reach? mask (.var name)).any (fun inner => inner.within result)
  | .dict entries => respectsEntries result entries
  | .unary .not operand => respects .nothing operand
  | .binary .concat left right => respects .nothing left && respects .nothing right
  | .compare first rest => respects .nothing first && respectsChain rest
  | .choose condition whenTrue whenFalse =>
      respects .nothing condition && respects result whenTrue && respectsOption result whenFalse
  | .attribute object name =>
      (reach? mask (.attribute object name)).any (fun inner => inner.within result) ||
        respects .nothing object
  | .index object key => respects .nothing object && respects .nothing key
  | .call (.var name) args =>
      match Helper.ofName? name with
      | some h => h.isPlain && respectsArgs (h.masks scene) args
      | none => false
  | .filter name operand args =>
      plainFilters.contains name && respects .nothing operand && respectsArgs [] args
  | _ => false

/-- The keys have to be texts that are written out. -/
def respectsEntries (result : Mask) : List (Expr × Expr) → Bool
  | [] => true
  | (.literal (.str name), e) :: rest =>
      respects (result.field name) e && respectsEntries result rest
  | _ => false

def respectsChain : List (Comparison × Expr) → Bool
  | [] => true
  | (_, e) :: rest => respects .nothing e && respectsChain rest

def respectsArgs (masks : List Mask) : List (ArgKind × Expr) → Bool
  | [] => true
  | (.positional, e) :: rest =>
      respects (masks.headD .nothing) e && respectsArgs masks.tail rest
  | _ => false

def respectsOption (result : Mask) : Option Expr → Bool
  | none => true
  | some e => respects result e

end

mutual

/-- Whether a statement writes and chooses the same on both sides. -/
def Stmt.respects : Stmt → Bool
  | .text _ => true
  | .emit e => Template.respects mask scene .nothing e
  | .repeat _ source condition _ body [] =>
      Template.respects mask scene .nothing source &&
        respectsOption mask scene .nothing condition && respectsBody body
  | .branch condition whenTrue whenFalse =>
      Template.respects mask scene .nothing condition && respectsBody whenTrue &&
        respectsBody whenFalse
  | .assign (.name name) e => Template.respects mask scene (mask.field name) e
  | _ => false

def respectsBody : List Stmt → Bool
  | [] => true
  | stmt :: rest => stmt.respects && respectsBody rest

end

end Check

/-! ## Expressions -/

variable {mask scene : Mask} {host : Host}

open InStep

theorem evaluate_of_reach? :
    ∀ (e : Expr) {result : Mask}, reach? mask e = some result →
      InStep mask (Value.Agree result) (evaluate host e) (evaluate host e)
  | .var name, result, h => by
      unfold reach? at h
      split at h
      · contradiction
      next hname =>
      obtain ⟨hloop, hhelper⟩ := not_or.mp hname
      cases h
      rw [evaluate]
      refine of_get.bind ?_
      intro s t hstate
      rcases hstate.lookup hloop with hvalue | ⟨hs, ht⟩
      · exact .of_pure hvalue
      · have hmissing : Env.outside name = .missing := by
          unfold Env.outside
          rw [Option.not_isSome_iff_eq_none.mp hhelper]
        rw [hs, ht, hmissing]
        exact .of_pure (.refl rfl)
  | .attribute object name, result, h => by
      unfold reach? at h
      obtain ⟨inner, hinner, h⟩ := Option.bind_eq_some_iff.mp h
      split at h
      · contradiction
      next hmask =>
      cases h
      rw [evaluate]
      refine (evaluate_of_reach? object hinner).bind ?_
      intro a b hvalue
      exact need (hvalue.attribute? hmask name)

theorem call_of_isData {value : Value} (hvalue : value.isData = true) (args : List Value) :
    Run.call host value args = Run.fail := by
  cases value <;> first | rfl | contradiction

theorem evaluate_of_within {e : Expr} {result : Mask}
    (h : (reach? mask e).any (fun inner => inner.within result) = true) :
    InStep mask (Value.Agree result) (evaluate host e) (evaluate host e) := by
  cases hreach : reach? mask e with
  | none =>
      rw [hreach] at h
      contradiction
  | some inner =>
      rw [hreach] at h
      exact (evaluate_of_reach? e hreach).mono (fun _ _ hvalue => hvalue.mono h)

/-- A helper is called by its name.  Where the name means data instead, both calls fail. -/
theorem callName_inStep (hhost : host.InStep mask scene) {name : String} {helper : Helper}
    (hname : Helper.ofName? name = some helper) (hplain : helper.isPlain = true)
    {values others : List Value} (hvalues : AgreeAll (helper.masks scene) values others) :
    InStep mask (Value.Agree .nothing) (Run.callName host name values)
      (Run.callName host name others) := by
  have hcall : ∀ values : List Value, Run.callName host name values =
      (do Run.call host ((← get).lookup name) values) := by
    intro values
    unfold Run.callName
    split
    · contradiction
    · contradiction
    · rfl
  have hloop : name ≠ "loop" := by
    rintro rfl
    contradiction
  rw [hcall, hcall]
  refine of_get.bind ?_
  intro s t hstate
  rcases hstate.lookup hloop with hvalue | ⟨hs, ht⟩
  · rw [call_of_isData hvalue.isData.1, call_of_isData hvalue.isData.2]
    exact fail
  · have houtside : Env.outside name = .helper helper := by
      unfold Env.outside
      rw [hname]
    rw [hs, ht, houtside]
    exact hhost helper hplain values others hvalues

theorem anyNamed_of_respectsArgs {args : List (ArgKind × Expr)} {masks : List Mask}
    (h : respectsArgs mask scene masks args = true) : anyNamed args = false := by
  induction args generalizing masks with
  | nil => rfl
  | cons arg rest ih =>
      obtain ⟨kind, e⟩ := arg
      cases kind with
      | positional => exact ih (Bool.and_eq_true_iff.mp h).2
      | _ => contradiction

theorem evaluateNamed_inStep :
    ∀ (args : List (ArgKind × Expr)) {masks : List Mask},
      respectsArgs mask scene masks args = true →
        InStep mask Eq (evaluateNamed host args) (evaluateNamed host args)
  | [], _, _ => by
      rw [evaluateNamed]
      exact .of_pure rfl
  | (.positional, e) :: rest, masks, h => by
      rw [evaluateNamed]
      exact evaluateNamed_inStep rest (Bool.and_eq_true_iff.mp h).2

section Expressions

set_option linter.unusedSectionVars false

variable (hhost : host.InStep mask scene)

include hhost

mutual

theorem evaluate_inStep :
    ∀ (e : Expr) {result : Mask}, respects mask scene result e = true →
      InStep mask (Value.Agree result) (evaluate host e) (evaluate host e)
  | .literal l, result, _ => by
      rw [evaluate]
      exact .of_pure (.refl (Value.isData_literalValue l))
  | .var name, result, h => evaluate_of_within h
  | .dict entries, result, h => by
      rw [evaluate]
      refine (evaluateEntries_inStep entries h).bind ?_
      intro found others hentries
      exact .of_pure hentries.ofEntries
  | .unary .not operand, result, h => by
      rw [evaluate]
      refine (evaluate_inStep operand h).bind_data (fun _ _ => ?_)
      exact need_bind (fun _ _ => .of_pure (.refl rfl))
  | .binary .concat left right, result, h => by
      obtain ⟨hleft, hright⟩ := Bool.and_eq_true_iff.mp h
      rw [evaluate]
      · refine (evaluate_inStep left hleft).bind_data (fun _ _ => ?_)
        refine (evaluate_inStep right hright).bind_data (fun _ _ => ?_)
        exact need_of_forall (fun _ hconcat => .refl (Value.isData_of_concat? hconcat))
      all_goals nofun
  | .compare first rest, result, h => by
      obtain ⟨hfirst, hrest⟩ := Bool.and_eq_true_iff.mp h
      rw [evaluate]
      refine (evaluate_inStep first hfirst).bind_data (fun value _ => ?_)
      exact (compareChain_inStep rest hrest value).bind_eq (fun _ => .of_pure (.refl rfl))
  | .choose condition whenTrue whenFalse, result, h => by
      obtain ⟨h, hfalse⟩ := Bool.and_eq_true_iff.mp h
      obtain ⟨hcondition, htrue⟩ := Bool.and_eq_true_iff.mp h
      rw [evaluate]
      refine (evaluate_inStep condition hcondition).bind_data (fun _ _ => ?_)
      refine need_bind (fun holds _ => ?_)
      split
      · exact evaluate_inStep whenTrue htrue
      · exact evaluateOption_inStep whenFalse hfalse rfl
  | .attribute object name, result, h => by
      -- What a variable holds may differ where the name does not lead; any other object may not.
      rcases Bool.or_eq_true_iff.mp h with hreach | hobject
      · exact evaluate_of_within hreach
      · rw [evaluate]
        refine (evaluate_inStep object hobject).bind_data (fun _ hdata => ?_)
        exact need_of_forall (fun _ hpart => .refl (Value.isData_of_index? hdata hpart))
  | .index object key, result, h => by
      obtain ⟨hobject, hkey⟩ := Bool.and_eq_true_iff.mp h
      rw [evaluate]
      refine (evaluate_inStep object hobject).bind_data (fun _ hdata => ?_)
      refine (evaluate_inStep key hkey).bind_data (fun _ _ => ?_)
      exact need_of_forall (fun _ hpart => .refl (Value.isData_of_index? hdata hpart))
  | .call (.var name) args, result, h => by
      unfold respects at h
      split at h
      · next helper hname =>
          obtain ⟨hplain, hargs⟩ := Bool.and_eq_true_iff.mp h
          rw [evaluate]
          refine (evaluateArgs_inStep args hargs).bind ?_
          intro values others hvalues
          -- An answer is the same on both sides, so it may stand wherever values may differ.
          exact (callName_inStep hhost hname hplain hvalues).mono
            (fun _ _ hvalue => hvalue.mono rfl)
      · contradiction
  | .filter name operand args, result, h => by
      obtain ⟨h, hargs⟩ := Bool.and_eq_true_iff.mp h
      obtain ⟨hname, hoperand⟩ := Bool.and_eq_true_iff.mp h
      rw [evaluate]
      refine (evaluate_inStep operand hoperand).bind_data (fun _ hdata => ?_)
      refine (evaluateArgs_inStep args hargs).bind ?_
      intro values others hvalues
      rw [← hvalues.eq]
      unfold applyFilter
      refine of_get.bind ?_
      intro s t hstate
      rw [hstate.escape]
      exact need_of_forall (fun _ hfound =>
        .refl (isData_of_filtered? (List.contains_iff_mem.mp hname) hdata hfound))

theorem evaluateEntries_inStep :
    ∀ (entries : List (Expr × Expr)) {result : Mask},
      respectsEntries mask scene result entries = true →
        InStep mask (Value.AgreeEntries result) (evaluateEntries host entries)
          (evaluateEntries host entries)
  | [], result, _ => by
      rw [evaluateEntries]
      exact .of_pure .nil
  | (.literal (.str name), e) :: rest, result, h => by
      obtain ⟨hvalue, hrest⟩ := Bool.and_eq_true_iff.mp h
      rw [evaluateEntries, evaluate, pure_bind]
      refine (evaluate_inStep e hvalue).bind ?_
      intro a b hagree
      refine (evaluateEntries_inStep rest hrest).bind ?_
      intro found others hentries
      exact .of_pure (.cons rfl hagree hentries)

theorem compareChain_inStep :
    ∀ (rest : List (Comparison × Expr)), respectsChain mask scene rest = true →
      ∀ value : Value, InStep mask Eq (compareChain host value rest) (compareChain host value rest)
  | [], _, value => by
      rw [compareChain]
      exact .of_pure rfl
  | (comparison, e) :: rest, h, value => by
      obtain ⟨hfirst, hrest⟩ := Bool.and_eq_true_iff.mp h
      rw [compareChain]
      refine (evaluate_inStep e hfirst).bind_data (fun other _ => ?_)
      refine need_bind (fun holds _ => ?_)
      split
      · exact compareChain_inStep rest hrest other
      · exact .of_pure rfl

theorem evaluateItems_inStep :
    ∀ (args : List (ArgKind × Expr)) {masks : List Mask},
      respectsArgs mask scene masks args = true →
        InStep mask (AgreeAll masks) (evaluateItems host args) (evaluateItems host args)
  | [], masks, _ => by
      rw [evaluateItems]
      exact .of_pure .nil
  | (.positional, e) :: rest, masks, h => by
      obtain ⟨hfirst, hrest⟩ := Bool.and_eq_true_iff.mp h
      rw [evaluateItems]
      refine (evaluate_inStep e hfirst).bind ?_
      intro a b hvalue
      refine (evaluateItems_inStep rest hrest).bind ?_
      intro values others hvalues
      exact .of_pure (.cons hvalue hvalues)

theorem evaluateArgs_inStep (args : List (ArgKind × Expr)) {masks : List Mask}
    (h : respectsArgs mask scene masks args = true) :
    InStep mask (AgreeAll masks) (evaluateArgs host args) (evaluateArgs host args) := by
  rw [evaluateArgs]
  refine (evaluateItems_inStep args h).bind ?_
  intro values others hvalues
  refine (evaluateNamed_inStep args h).bind_eq (fun _ => ?_)
  rw [anyNamed_of_respectsArgs h]
  exact .of_pure hvalues

theorem evaluateOption_inStep {other : Value} :
    ∀ (e? : Option Expr) {result : Mask}, respectsOption mask scene result e? = true →
      other.isData = true →
        InStep mask (Value.Agree result) (evaluateOption host other e?)
          (evaluateOption host other e?)
  | none, result, _, hother => by
      rw [evaluateOption]
      exact .of_pure (.refl hother)
  | some e, result, h, _ => by
      rw [evaluateOption]
      exact evaluate_inStep e h

end

end Expressions

/-! ## Statements -/

/-- The same structured data on both sides. -/
def SameData (items others : List Value) : Prop :=
  items = others ∧ ∀ item ∈ items, item.isData = true

section Statements

set_option linter.unusedSectionVars false

variable (hhost : host.InStep mask scene)

include hhost

theorem passing_inStep {target : Target} {condition : Expr}
    (hcondition : respects mask scene .nothing condition = true) {items : List Value}
    (hitems : ∀ item ∈ items, item.isData = true) :
    ∀ {passed : List Value}, (∀ item ∈ passed, item.isData = true) →
      InStep mask SameData (passing host target condition passed items)
        (passing host target condition passed items) := by
  induction items with
  | nil =>
      intro passed hpassed
      exact .of_pure ⟨rfl, fun item hitem => hpassed item (List.mem_reverse.mp hitem)⟩
  | cons item rest ih =>
      intro passed hpassed
      obtain ⟨hitem, hrest⟩ := List.forall_mem_cons.mp hitems
      unfold passing
      refine (of_modify ?_).bind_eq (fun _ => ?_)
      · exact fun _ _ hstate => hstate.mapTop (fun _ _ _ => Frame.agree_loop none none)
      refine (bindNames target hitem).bind_eq (fun _ => ?_)
      refine (evaluate_inStep hhost condition hcondition).bind_data (fun _ _ => ?_)
      refine need_bind (fun holds _ => ih hrest ?_)
      split
      · exact List.forall_mem_cons.mpr ⟨hitem, hpassed⟩
      · exact hpassed

theorem passingItems_inStep {target : Target} {condition : Option Expr}
    (hcondition : respectsOption mask scene .nothing condition = true) {items : List Value}
    (hitems : ∀ item ∈ items, item.isData = true) :
    InStep mask SameData (passingItems host target condition items)
      (passingItems host target condition items) := by
  cases condition with
  | none => exact .of_pure ⟨rfl, hitems⟩
  | some e =>
      exact inFrame (Frame.agree_loop none none) (passing_inStep hhost hcondition hitems nofun)

mutual

theorem run_inStep :
    ∀ stmt : Stmt, stmt.respects mask scene = true →
      InStep mask Eq (run host stmt) (run host stmt)
  | .text content, _ => by
      rw [run]
      exact write content
  | .emit e, h => by
      rw [run]
      exact (evaluate_inStep hhost e h).bind_data (fun value _ => InStep.emit value)
  | .repeat target source condition nested body [], h => by
      obtain ⟨h, hbody⟩ := Bool.and_eq_true_iff.mp h
      obtain ⟨hsource, hcondition⟩ := Bool.and_eq_true_iff.mp h
      rw [run]
      refine (evaluate_inStep hhost source hsource).bind_data (fun _ hdata => ?_)
      refine need_bind (fun items hitems => ?_)
      refine (passingItems_inStep hhost hcondition
        (Value.isData_of_iterated? hdata hitems)).bind ?_
      rintro kept _ ⟨rfl, hkept⟩
      split
      · rw [runAll]
        exact .of_pure rfl
      · exact repeated (runAll_inStep body hbody) target _ hkept
  | .branch condition whenTrue whenFalse, h => by
      obtain ⟨h, hfalse⟩ := Bool.and_eq_true_iff.mp h
      obtain ⟨hcondition, htrue⟩ := Bool.and_eq_true_iff.mp h
      rw [run]
      refine (evaluate_inStep hhost condition hcondition).bind_data (fun _ _ => ?_)
      refine need_bind (fun holds _ => ?_)
      split
      · exact runAll_inStep whenTrue htrue
      · exact runAll_inStep whenFalse hfalse
  | .assign (.name name) e, h => by
      rw [run]
      refine (evaluate_inStep hhost e h).bind ?_
      intro a b hvalue
      exact (bindName hvalue).bind_eq (fun _ => .of_pure rfl)

theorem runAll_inStep :
    ∀ body : List Stmt, respectsBody mask scene body = true →
      InStep mask Eq (runAll host body) (runAll host body)
  | [], _ => by
      rw [runAll]
      exact .of_pure rfl
  | stmt :: rest, h => by
      obtain ⟨hfirst, hrest⟩ := Bool.and_eq_true_iff.mp h
      rw [runAll]
      refine (run_inStep stmt hfirst).bind_eq (fun _ => ?_)
      exact (runAll_inStep rest hrest).bind_eq (fun _ => .of_pure rfl)

end

end Statements

end Template
end Provision
