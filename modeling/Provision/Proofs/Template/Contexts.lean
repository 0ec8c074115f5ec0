import Provision.Proofs.Template.Secrecy

/-!
# Contexts that agree up to a mask

A rendering starts from its context alone, so a template whose body runs in lockstep renders alike
in contexts that agree.  The fragments of an engine include one another, one level of nesting
further down each time: by induction on the levels they render alike if none of them looks under
the mask.
-/

namespace Provision
namespace Template

variable {mask scene : Mask}

open InStep

/-! ## Renderings -/

theorem parents_inStep (outer : Host) (muted : Bool) (fuel : Nat) :
    InStep mask Eq (Run.parents outer muted (fuel + 1)) (Run.parents outer muted (fuel + 1)) := by
  unfold Run.parents
  refine of_get.bind ?_
  intro s t hstate
  rw [hstate.parent.1, hstate.parent.2]
  exact .of_pure rfl

theorem template_inStep {outer : Host} {body : List Stmt}
    (hbody : InStep mask Eq (outer.exec body) (outer.exec body)) :
    InStep mask Eq (Run.template outer body) (Run.template outer body) := by
  unfold Run.template
  refine of_get.bind ?_
  intro s t hstate
  have hstart : ({ s with parent := none } : State).Agree mask { t with parent := none } :=
    { hstate with parent := ⟨rfl, rfl⟩ }
  refine (InStep.of_set hstart).bind_eq (fun _ => hbody.bind_eq (fun _ => ?_))
  rw [hstate.muted]
  refine (parents_inStep outer t.muted 499).bind_eq (fun _ => ?_)
  refine (of_modify ?_).bind_eq (fun _ => .of_pure rfl)
  exact fun _ _ hnow => { hnow with parent := hstate.parent, muted := rfl }

/-- A template renders alike in contexts that agree up to a mask if its body runs in lockstep. -/
theorem renderTemplate_eq {outer : Host} {template : Template} (hmask : mask ≠ .everything)
    (hbody : InStep mask Eq (outer.exec template.body) (outer.exec template.body)) (name : String)
    (escape : Bool) {a b : Value} (hcontext : Value.Agree mask a b) :
    renderTemplate outer name escape template a = renderTemplate outer name escape template b := by
  have hboth := template_inStep hbody _ _ (State.Agree.start hmask hcontext name escape template)
  unfold renderTemplate runTemplate StateT.run
  revert hboth
  generalize Run.template outer template.body (.start name escape template a) = left,
    Run.template outer template.body (.start name escape template b) = right
  intro hboth
  cases hboth with
  | ok htext _ => simp [Except.map, htext]
  | error failure => rfl

/-- The text of a template as a value: nested renderings that are alike are in lockstep. -/
theorem nestedText_inStep {outer : Host} {name : String} {escape : Bool} {template : Template}
    {a b : Value} (ha : a.isData = true) (hb : b.isData = true) (phrase : Phrase)
    (hrender : renderTemplate outer name escape template a =
      renderTemplate outer name escape template b) :
    InStep mask (Value.Agree .nothing) (nestedText outer name escape template a phrase)
      (nestedText outer name escape template b phrase) := by
  rw [nestedText_of_isLive_eq_false (Value.isLive_of_isData ha),
    nestedText_of_isLive_eq_false (Value.isLive_of_isData hb), hrender]
  split
  · exact .of_pure (.refl rfl)
  · exact of_throw _

/-! ## What a template writes first -/

/-- Statements that leave the state alone write in front of what follows them. -/
theorem runAll_append_of_forall₂ {host : Host} {first : List Stmt} {texts : List String} {s : State}
    (h : List.Forall₂ (fun stmt text => run host stmt s = .ok (text, s)) first texts)
    (rest : List Stmt) :
    runAll host (first ++ rest) s =
      (runAll host rest s).map (Prod.map (String.join texts ++ ·) id) := by
  induction h with
  | nil =>
      cases hrest : runAll host rest s with
      | error failure => simp [hrest, Except.map]
      | ok result => simp [hrest, Except.map, Prod.map]
  | @cons stmt text _ _ hstmt _ ih =>
      rw [List.cons_append, runAll, Run.bind_eq_of_ok hstmt]
      cases hrest : runAll host rest s with
      | error failure =>
          rw [hrest] at ih
          exact Run.bind_eq_of_error ih
      | ok result =>
          rw [hrest] at ih
          rw [Run.bind_eq_of_ok ih, String.join_cons]
          change Except.ok (text ++ (String.join _ ++ result.1), result.2) = _
          rw [← String.append_assoc]
          rfl

theorem template_eq_map {outer : Host} {body rest : List Stmt} {s : State} {front : String}
    (h : outer.exec body { s with parent := none } =
      (outer.exec rest { s with parent := none }).map (Prod.map (front ++ ·) id)) :
    Run.template outer body s = (Run.template outer rest s).map (Prod.map (front ++ ·) id) := by
  have hstart : ∀ body : List Stmt, Run.template outer body s =
      (do
        let text ← outer.exec body
        let later ← Run.parents outer s.muted Run.depthLimit
        modify (fun t => { t with parent := s.parent, muted := s.muted })
        return text ++ later : Run String) { s with parent := none } := fun _ => rfl
  rw [hstart, hstart]
  cases hrest : outer.exec rest { s with parent := none } with
  | error failure =>
      rw [hrest] at h
      rw [Run.bind_eq_of_error hrest, Run.bind_eq_of_error h]
      rfl
  | ok result =>
      obtain ⟨text, t⟩ := result
      rw [hrest] at h
      rw [Run.bind_eq_of_ok hrest, Run.bind_eq_of_ok h]
      dsimp only [id]
      cases hparents : Run.parents outer s.muted Run.depthLimit t with
      | error failure =>
          rw [Run.bind_eq_of_error hparents, Run.bind_eq_of_error hparents]
          rfl
      | ok later =>
          rw [Run.bind_eq_of_ok hparents, Run.bind_eq_of_ok hparents, String.append_assoc]
          rfl

/-- What a template writes before anything can change comes before the rest of its text. -/
theorem renderTemplate_append {outer inner : Host}
    (hexec : ∀ body, outer.exec body = runAll inner body) {name : String} {escape : Bool}
    {first rest : List Stmt} {blocks : Parts} {context : Value} {texts : List String}
    (h : List.Forall₂
      (fun stmt text =>
        run inner stmt (.start name escape ⟨rest, blocks⟩ context) =
          .ok (text, .start name escape ⟨rest, blocks⟩ context)) first texts) :
    renderTemplate outer name escape ⟨first ++ rest, blocks⟩ context =
      (renderTemplate outer name escape ⟨rest, blocks⟩ context).map (String.join texts ++ ·) := by
  have hrun := runAll_append_of_forall₂ h rest
  rw [← hexec, ← hexec] at hrun
  have htemplate := template_eq_map (s := .start name escape ⟨rest, blocks⟩ context) hrun
  unfold renderTemplate runTemplate StateT.run
  change Except.map Prod.fst (Except.map (fun r => (r.1, r.2.store))
    (Run.template outer (first ++ rest) (.start name escape ⟨rest, blocks⟩ context))) = _
  rw [htemplate]
  cases Run.template outer rest (.start name escape ⟨rest, blocks⟩ context) <;> rfl

end Template

/-! ## Engines -/

namespace Engine

open Template

variable {mask scene : Mask}

theorem onText_inStep (f : String → String) {values : List Value} :
    InStep mask (Value.Agree .nothing) (onText f values) (onText f values) := by
  unfold onText
  split
  · exact .of_pure (.refl rfl)
  · exact .fail

theorem inlineTemplate_inStep (outer : Host) (source : String) {context : Value}
    (hcontext : context.isData = true) :
    InStep mask (Value.Agree .nothing) (inlineTemplate outer source context)
      (inlineTemplate outer source context) := by
  unfold inlineTemplate
  split
  · exact .of_throw _
  · exact nestedText_inStep hcontext hcontext _ rfl

/-- Fragments of an engine render alike in contexts that agree up to the scene. -/
def RendersAlike (engine : Engine) (scene : Mask) (outer : Host) : Prop :=
  ∀ name template, engine.fragment? name = some template → ∀ a b, Value.Agree scene a b →
    renderTemplate outer name (escapesMarkup name) template a =
      renderTemplate outer name (escapesMarkup name) template b

theorem inclusion_inStep {engine : Engine} {outer : Host} (h : engine.RendersAlike scene outer)
    (name : String) {a b : Value} (hcontext : Value.Agree scene a b) :
    InStep mask (Value.Agree .nothing) (engine.inclusion outer name a)
      (engine.inclusion outer name b) := by
  unfold inclusion
  cases hfragment : engine.fragment? name with
  | none => exact .of_throw _
  | some template =>
      exact nestedText_inStep hcontext.isData.1 hcontext.isData.2 _
        (h name template hfragment a b hcontext)

/-- Helpers are in lockstep if those are that render further templates. -/
theorem callHelper_inStep (reference : String → String)
    {inclusion inlineTemplate : String → Value → Run Value}
    (hinclusion : ∀ name a b, Value.Agree scene a b →
      InStep mask (Value.Agree .nothing) (inclusion name a) (inclusion name b))
    (hinline : ∀ source context, context.isData = true →
      InStep mask (Value.Agree .nothing) (inlineTemplate source context)
        (inlineTemplate source context))
    (h : Helper) (hplain : h.isPlain = true) {values others : List Value}
    (hvalues : AgreeAll (h.masks scene) values others) :
    InStep mask (Value.Agree .nothing) (callHelper reference inclusion inlineTemplate h values)
      (callHelper reference inclusion inlineTemplate h others) := by
  by_cases hinclude : h = .inclusion
  · subst hinclude
    exact callInclusion hvalues
  have hdata := hvalues.isData
  have hmasks : h.masks scene = [] := by cases h <;> first | contradiction | rfl
  rw [hmasks] at hvalues
  rw [← hvalues.eq]
  cases h with
  | scopedIdentifier =>
      dsimp only [callHelper]
      split
      · exact .of_pure (.refl rfl)
      · exact .fail
  | references =>
      dsimp only [callHelper]
      split
      · next tool _ keys =>
          refine InStep.need_bind (fun keys _ => ?_)
          exact (InStep.lift _).bind_eq
            (fun keys => .of_pure (.refl (Value.isData_references reference tool keys)))
      · exact .fail
  | inlineTemplate =>
      dsimp only [callHelper]
      split
      · next source _ context => exact hinline source context (hdata context (by simp))
      · exact .fail
  | _ => first | contradiction | exact onText_inStep _
where
  callInclusion {values others : List Value} (hvalues : AgreeAll [.nothing, scene] values others) :
      InStep mask (Value.Agree .nothing)
        (callHelper reference inclusion inlineTemplate .inclusion values)
        (callHelper reference inclusion inlineTemplate .inclusion others) := by
    cases hvalues with
    | nil => exact .fail
    | @cons _ first _ _ _ hfirst hrest =>
        obtain rfl := hfirst.eq
        cases hrest with
        | nil => cases first <;> exact .fail
        | cons hcontext hlast =>
            cases hlast with
            | cons => cases first <;> exact .fail
            | nil =>
                cases first with
                | str name safe => exact hinclusion name _ _ hcontext
                | _ => exact .fail

theorem host_zero_inStep (engine : Engine) : (engine.host 0).InStep mask scene :=
  fun h hplain _ _ hvalues =>
    callHelper_inStep engine.reference (fun _ _ _ _ => .of_throw _) (fun _ _ _ => .of_throw _) h
      hplain hvalues

theorem host_succ_inStep {engine : Engine} {depth : Nat}
    (hrender : engine.RendersAlike scene (engine.host depth)) :
    (engine.host (depth + 1)).InStep mask scene :=
  fun h hplain _ _ hvalues =>
    callHelper_inStep engine.reference
      (fun name _ _ hcontext => inclusion_inStep hrender name hcontext)
      (fun source _ hcontext => inlineTemplate_inStep (engine.host depth) source hcontext) h hplain
      hvalues

/-- Where fragments are included in equal contexts only, nothing is asked of them. -/
theorem host_inStep_nothing (engine : Engine) : ∀ depth, (engine.host depth).InStep mask .nothing
  | 0 => engine.host_zero_inStep
  | _ + 1 => host_succ_inStep (fun _ _ _ _ _ hcontext => by rw [hcontext.eq])

/-- An engine none of whose fragments looks under a mask gives the same answers wherever contexts
agree up to it. -/
theorem host_inStep {engine : Engine} (hmask : mask ≠ .everything)
    (hscene : scene.within mask = true)
    (hfragments : ∀ name template, engine.fragment? name = some template →
      respectsBody mask scene template.body = true) :
    ∀ depth, (engine.host depth).InStep mask scene
  | 0 => engine.host_zero_inStep
  -- A fragment included at this level is run by the level below, which asks the one below that.
  | 1 => host_succ_inStep fun _ _ _ _ _ hcontext =>
      renderTemplate_eq hmask (.of_throw _) _ _ (hcontext.mono hscene)
  | depth + 2 => host_succ_inStep fun name template hfragment _ _ hcontext =>
      renderTemplate_eq hmask
        (runAll_inStep (host_inStep hmask hscene hfragments depth) template.body
          (hfragments name template hfragment))
        _ _ (hcontext.mono hscene)

end Engine
end Provision
