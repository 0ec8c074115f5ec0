import Provision.Proofs.Template.Output
import Provision.Proofs.Template.Simulation

/-!
# Renderings of plain fragments

A fragment that is given a record renders to what its body means when names mean what the record
says.  The helpers that such a body calls answer from their arguments.  An included fragment is
answered by what its body means, one level of nesting further down, and what templates given as
text come to is a parameter: they come to what the engine makes of them, which may be a failure.
-/

namespace Provision

open Template

variable {mayFail : Prop}

namespace Template.Env

/-- What names mean to a template that is given a context. -/
def ofContext (context : Value) : Env := fun name =>
  (match context with
    | .map _ entries => Value.valueAt? (.text name) entries
    | _ => none).getD (outside name)

theorem ofContext_ofDict (d : Dict Value) : ofContext (.ofDict d) = ofDict d := by
  funext name
  simp [ofContext, Value.ofDict, Value.valueAt?_namedEntries, ofDict, Dict.get?]

end Template.Env

theorem ready_start (name : String) (template : Template) (context : Value) :
    Ready 1 (Env.ofContext context) (.start name false template context) where
  lookup := by
    intro other _
    rw [State.lookup_eq_of_fields_eq_nil rfl]
    cases context <;>
      simp [State.start, Frame.lookup?, Frame.lookup?.fromBackdrop, Env.ofContext]
  escape := rfl
  muted := rfl
  depth := rfl
  frames := List.cons_ne_nil _ _
  closure := rfl
  fields := rfl

/-- A plain template in a context renders to what its body means. -/
theorem renderTemplate_gives {outer inner : Host} {answer : Answer} {template : Template}
    {name text : String} {context : Value}
    (hexec : outer.exec template.body = runAll inner template.body)
    (hanswer : Answers mayFail inner answer)
    (htext : output? answer 1 (Env.ofContext context) template.body = some text) :
    Gives mayFail (renderTemplate outer name false template context) text := by
  obtain ⟨⟨found, env⟩, htexts, hfound⟩ := Option.map_eq_some_iff.mp htext
  obtain rfl : found = text := hfound
  obtain ⟨top, next, hrun, -⟩ :=
    runAll_of_texts? hanswer template.body (ready_start name template context) htexts
  rw [← hexec] at hrun
  have htemplate :
      Gives mayFail (Run.template outer template.body (.start name false template context))
        (found ++ "", (State.start name false template context).withTop top next) := by
    unfold Run.template
    rw [Run.get_bind]
    change Gives mayFail
      ((do
        let text ← outer.exec template.body
        let later ← Run.parents outer false Run.depthLimit
        modify (fun s => { s with parent := none, muted := false })
        return text ++ later : Run String) (.start name false template context)) _
    exact hrun.bind (.of_eq_ok rfl)
  rw [String.append_empty] at htemplate
  exact (htemplate.map _).map Prod.fst

namespace Engine

/-- What templates given as text come to, by how deep renderings may nest. -/
abbrev Inlining := (depth : Nat) → String → Value → Option Value

/-- A template given as text comes to what the engine makes of it. -/
def inlined? (engine : Engine) : Inlining
  | 0, _, _ => none
  | depth + 1, source, context =>
      if context.isLive then none
      else do
        let text ← (inlineText (engine.host depth) source context).toOption
        some (.text text)

/-- What a template given as text comes to if it comes to anything. -/
def supposed? (engine : Engine) : Inlining := fun depth source context =>
  if context.isLive then none
  else some ((engine.inlined? depth source context).getD (.text ""))

def variables? (engine : Engine) (tool : String) (keys : Value) : Option Value := do
  let keys ← keys.items?
  let keys ← (variableKeys keys).toOption
  some (references engine.reference tool keys)

/-- What the helpers answer whose answers follow from their arguments. -/
def answerWith? (engine : Engine) (inclusion inlineTemplate : String → Value → Option Value) :
    Answer
  | .identifier, [.str s _] => some (.text (Name.identifier s))
  | .urlIdentifier, [.str s _] => some (.text (Name.urlIdentifier s))
  | .archiveIdentifier, [.str s _] => some (.text (Name.archiveIdentifier s))
  | .stampIdentifier, [.str s _] => some (.text (Name.stampIdentifier s))
  | .stage, [.str s _] => some (.text (Name.stage s))
  | .reference, [.str s _] => some (.text (engine.reference s))
  | .scopedIdentifier, [.str tool _, .str key _] => some (.text (Name.scopedIdentifier tool key))
  | .references, [.str tool _, keys] => engine.variables? tool keys
  | .inclusion, [.str name _, context] => inclusion name context
  | .inlineTemplate, [.str source _, context] => inlineTemplate source context
  | _, _ => none

/-- A fragment as an answer to a call: what its body means. -/
def included? (engine : Engine) (inlining : Inlining) :
    (depth : Nat) → String → Value → Option Value
  | depth + 2, name, context =>
      if context.isLive || escapesMarkup name then none
      else do
        let template ← engine.fragment? name
        let text ← output? (engine.answerWith? (engine.included? inlining depth) (inlining depth))
          1 (.ofContext context) template.body
        some (.text text)
  | _, _, _ => none

def answer? (engine : Engine) (inlining : Inlining) (depth : Nat) : Answer :=
  engine.answerWith? (engine.included? inlining depth) (inlining depth)

/-- Calls for templates given as text are answered as stated. -/
def Inlines (engine : Engine) (mayFail : Prop) (inlining : Inlining) : Prop :=
  ∀ depth source context value, inlining depth source context = some value → ∀ s,
    Gives mayFail ((engine.host depth).call .inlineTemplate [.text source, context] s) (value, s)

theorem exists_eq_ok_of_toOption {α ε : Type} {result : Except ε α} {a : α}
    (h : result.toOption = some a) : result = .ok a := by
  cases result with
  | error err => simp [Except.toOption] at h
  | ok value =>
      simp only [Except.toOption, Option.some.injEq] at h
      rw [h]

/-- The call for a template given as text and the answer to it fail together. -/
theorem call_inlineTemplate (engine : Engine) {source : String} {context : Value}
    (hlive : context.isLive = false) (depth : Nat) (s : State) :
    (∃ value, engine.inlined? depth source context = some value ∧
        (engine.host depth).call .inlineTemplate [.text source, context] s = .ok (value, s)) ∨
      engine.inlined? depth source context = none ∧
        ∃ failure, (engine.host depth).call .inlineTemplate [.text source, context] s =
          .error failure := by
  cases depth with
  | zero => exact Or.inr ⟨rfl, _, rfl⟩
  | succ depth =>
      have hcall : (engine.host (depth + 1)).call .inlineTemplate [.text source, context] s =
          inlineTemplate (engine.host depth) source context s := rfl
      rw [hcall, inlined?, if_neg (by simp [hlive]), inlineTemplate, inlineText]
      cases ofText? source with
      | none => exact Or.inr ⟨rfl, _, rfl⟩
      | some template =>
          simp only [nestedText_of_isLive_eq_false hlive]
          cases renderTemplate (engine.host depth) inlineName false template context with
          | ok text => exact Or.inl ⟨_, rfl, rfl⟩
          | error failure => exact Or.inr ⟨rfl, _, rfl⟩

theorem exists_text_of_inlined? (engine : Engine) {depth : Nat} {source : String}
    {context value : Value} (h : engine.inlined? depth source context = some value) :
    ∃ text, value = .text text := by
  cases depth with
  | zero => contradiction
  | succ depth =>
      rw [inlined?] at h
      split at h
      · contradiction
      · obtain ⟨text, -, htext⟩ := Option.bind_eq_some_iff.mp h
        exact ⟨text, (Option.some.inj htext).symm⟩

theorem inlines_inlined? (engine : Engine) : engine.Inlines False engine.inlined? := by
  intro depth source context value hvalue s
  have hlive : context.isLive = false := by
    cases depth with
    | zero => contradiction
    | succ depth =>
        rw [inlined?] at hvalue
        split at hvalue
        · contradiction
        · next hlive => simpa using hlive
  rcases engine.call_inlineTemplate hlive depth s with ⟨found, hfound, hcall⟩ | ⟨hnone, -⟩
  · obtain rfl : found = value := Option.some.inj (hfound.symm.trans hvalue)
    exact .of_eq_ok hcall
  · rw [hnone] at hvalue
    contradiction

theorem inlines_supposed? (engine : Engine) : engine.Inlines True engine.supposed? := by
  intro depth source context value hvalue s
  rw [supposed?] at hvalue
  split at hvalue
  · contradiction
  · next hlive =>
      cases hvalue
      rcases engine.call_inlineTemplate (by simpa using hlive) depth s with
        ⟨found, hfound, hcall⟩ | ⟨-, hfailure⟩
      · rw [hfound]
        exact .of_eq_ok hcall
      · exact Or.inr ⟨trivial, hfailure⟩

/-- The helpers of an engine answer as stated if those do that render further templates. -/
theorem answers_answerWith? (engine : Engine) {depth : Nat}
    {inclusion inlineTemplate : String → Value → Option Value}
    (hinclusion : ∀ name context value, inclusion name context = some value → ∀ s,
      Gives mayFail ((engine.host depth).call .inclusion [.text name, context] s) (value, s))
    (hinline : ∀ source context value, inlineTemplate source context = some value → ∀ s,
      Gives mayFail ((engine.host depth).call .inlineTemplate [.text source, context] s)
        (value, s)) :
    Answers mayFail (engine.host depth) (engine.answerWith? inclusion inlineTemplate) := by
  intro h args value hanswer s
  obtain ⟨first, second, hcall⟩ := engine.exists_call_host depth
  rw [hcall] at hinclusion hinline ⊢
  unfold answerWith? at hanswer
  split at hanswer
  all_goals try
    (cases hanswer
     exact .of_eq_ok rfl)
  · next tool _ keys =>
      unfold variables? at hanswer
      obtain ⟨items, hitems, hanswer⟩ := Option.bind_eq_some_iff.mp hanswer
      obtain ⟨names, hnames, hanswer⟩ := Option.bind_eq_some_iff.mp hanswer
      cases hanswer
      apply Gives.of_eq_ok
      change (do
          let keys ← Run.need keys.items?
          let keys ← (variableKeys keys : Run (List String))
          return references engine.reference tool keys : Run Value) s = _
      rw [Run.bind_eq_of_ok (Run.need_eq_ok hitems s), exists_eq_ok_of_toOption hnames]
      rfl
  · exact hinclusion _ _ _ hanswer s
  · exact hinline _ _ _ hanswer s
  · contradiction

theorem answers_host (engine : Engine) {inlining : Inlining}
    (hinlines : engine.Inlines mayFail inlining) :
    ∀ depth, Answers mayFail (engine.host depth) (engine.answer? inlining depth)
  | 0 => engine.answers_answerWith? nofun (hinlines 0)
  | 1 => engine.answers_answerWith? nofun (hinlines 1)
  | depth + 2 => by
      apply engine.answers_answerWith? _ (hinlines (depth + 2))
      intro name context value hvalue s
      rw [included?] at hvalue
      split at hvalue
      · contradiction
      · next hplain =>
          obtain ⟨hlive, hname⟩ := not_or.mp (fun h => hplain (Bool.or_eq_true_iff.mpr h))
          obtain ⟨template, htemplate, hvalue⟩ := Option.bind_eq_some_iff.mp hvalue
          obtain ⟨text, htext, hvalue⟩ := Option.bind_eq_some_iff.mp hvalue
          cases hvalue
          have hrender : Gives mayFail
              (renderTemplate (engine.host (depth + 1)) name false template context) text :=
            renderTemplate_gives rfl (engine.answers_host hinlines depth) htext
          change Gives mayFail
            (engine.inclusion (engine.host (depth + 1)) name context s) (.text text, s)
          rw [Bool.not_eq_true] at hname
          simp only [inclusion, htemplate,
            nestedText_of_isLive_eq_false (Bool.eq_false_iff.mpr hlive), hname]
          rcases hrender with heq | ⟨hmay, failure, hfailure⟩
          · rw [heq]
            exact .of_eq_ok rfl
          · rw [hfailure]
            exact Or.inr ⟨hmay, _, rfl⟩

/-- An included fragment gives what its body means. -/
theorem included?_eq (engine : Engine) {inlining : Inlining} {depth : Nat} {name text : String}
    {body : List Stmt} {d : Dict Value} (hfragment : engine.fragment? name = some ⟨body, []⟩)
    (hname : escapesMarkup name = false) (hlive : (Value.ofDict d).isLive = false)
    (htext : output? (engine.answer? inlining depth) 1 (Env.ofDict d) body = some text) :
    engine.included? inlining (depth + 2) name (.ofDict d) = some (.text text) := by
  rw [answer?, ← Env.ofContext_ofDict] at htext
  rw [included?, hlive, hname, hfragment]
  simp only [Bool.or_false, Bool.false_eq_true, if_false, Option.bind_eq_bind, Option.bind_some,
    htext]

theorem render_eq (engine : Engine) {name : String} {template : Template}
    (hfragment : engine.fragment? name = some template) (context : Value) :
    engine.render name context =
      (renderTemplate (engine.host nestingLimit) name (escapesMarkup name) template
        context).mapError (.render name) := by
  simp only [render, hfragment]
  cases renderTemplate (engine.host nestingLimit) name (escapesMarkup name) template context <;> rfl

/-- A fragment renders to what its body means. -/
theorem render_gives (engine : Engine) {inlining : Inlining}
    (hinlines : engine.Inlines mayFail inlining) {name text : String} {body : List Stmt}
    {d : Dict Value} (hfragment : engine.fragment? name = some ⟨body, []⟩)
    (hname : escapesMarkup name = false)
    (htext : output? (engine.answer? inlining (nestingLimit - 1)) 1 (Env.ofDict d) body =
      some text) :
    Gives mayFail (engine.render name (.ofDict d)) text := by
  rw [← Env.ofContext_ofDict] at htext
  have hrender : Gives mayFail
      (renderTemplate (engine.host nestingLimit) name false ⟨body, []⟩ (.ofDict d)) text :=
    renderTemplate_gives rfl (engine.answers_host hinlines (nestingLimit - 1)) htext
  rw [engine.render_eq hfragment, hname]
  rcases hrender with heq | ⟨hmay, failure, hfailure⟩
  · rw [heq]
    exact .of_eq_ok rfl
  · rw [hfailure]
    exact Or.inr ⟨hmay, _, rfl⟩

end Engine
end Provision
