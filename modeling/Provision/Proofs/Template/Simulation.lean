import Provision.Proofs.Template.Denotation

/-!
# Renderings do what templates mean

Running a plain template agrees with its meaning.  An expression leaves the state as it is; a
statement changes no more than the innermost frame and the next number of the store, so that a
repetition, which runs in a frame of its own, leaves the frames around it as they were.

Whether helpers may fail is a parameter.  Where they may not, a rendering gives what is meant;
where they may, it gives that or fails, so that it gives nothing else.
-/

namespace Provision
namespace Template

variable {mayFail : Prop}

/-- A result is the one stated, or a failure where there may be failures. -/
def Gives {ε α : Type} (mayFail : Prop) (result : Except ε α) (a : α) : Prop :=
  result = .ok a ∨ mayFail ∧ ∃ failure, result = .error failure

/-- The helpers of a host answer as stated and leave the state as it is. -/
def Answers (mayFail : Prop) (host : Host) (answer : Answer) : Prop :=
  ∀ h args value, answer h args = some value →
    ∀ s, Gives mayFail (host.call h args s) (value, s)

/-- A state in which names mean what an environment says.  The name of the innermost repetition is
left out. -/
structure Sees (env : Env) (s : State) : Prop where
  lookup : ∀ name, name ≠ "loop" → s.lookup name = env name
  escape : s.escape = false

namespace Run

variable {α β : Type}

theorem bind_eq_of_ok {first : Run α} {next : α → Run β} {s t : State} {a : α}
    (hfirst : first s = .ok (a, t)) : (first >>= next) s = next a t := by
  change StateT.bind first next s = next a t
  unfold StateT.bind
  rw [hfirst]
  rfl

theorem get_bind (next : State → Run β) (s : State) :
    ((get : Run State) >>= next) s = next s s := rfl

theorem need_eq_ok {value : Option α} {a : α} (hvalue : value = some a) (s : State) :
    need value s = .ok (a, s) := by
  rw [hvalue]
  rfl

theorem bind_eq_of_error {first : Run α} {next : α → Run β} {s : State} {failure : Failure}
    (hfirst : first s = .error failure) : (first >>= next) s = .error failure := by
  change StateT.bind first next s = _
  unfold StateT.bind
  rw [hfirst]
  rfl

end Run

namespace Gives

variable {ε α β : Type} {result : Except ε α} {a b : α}

theorem of_eq_ok (h : result = .ok a) : Gives mayFail result a :=
  Or.inl h

theorem eq_ok (h : Gives False result a) : result = .ok a :=
  h.resolve_right And.left

theorem eq_of_eq_ok (h : Gives mayFail result a) (hok : result = .ok b) : b = a := by
  rcases h with heq | ⟨-, failure, hfailure⟩
  · exact Except.ok.inj (hok.symm.trans heq)
  · rw [hok] at hfailure
    contradiction

theorem map (h : Gives mayFail result a) (f : α → β) : Gives mayFail (result.map f) (f a) := by
  rcases h with heq | ⟨hmay, failure, hfailure⟩
  · exact Or.inl (by rw [heq]; rfl)
  · exact Or.inr ⟨hmay, failure, by rw [hfailure]; rfl⟩

theorem bind {first : Run α} {next : α → Run β} {s t : State} {found : β × State}
    (hfirst : Gives mayFail (first s) (a, t)) (hnext : Gives mayFail (next a t) found) :
    Gives mayFail ((first >>= next) s) found := by
  rcases hfirst with heq | ⟨hmay, failure, hfailure⟩
  · rw [Run.bind_eq_of_ok heq]
    exact hnext
  · exact Or.inr ⟨hmay, failure, Run.bind_eq_of_error hfailure⟩

end Gives

open Run

/-! ## Expressions -/

theorem anyNamed_of_args? {answer : Answer} {env : Env} {args : List (ArgKind × Expr)}
    {values : List Value} (hvalues : args? answer env args = some values) :
    anyNamed args = false := by
  induction args generalizing values with
  | nil => rfl
  | cons arg rest ih =>
      obtain ⟨kind, e⟩ := arg
      cases kind <;> simp only [args?, reduceCtorEq] at hvalues
      obtain ⟨value, -, hrest⟩ := Option.bind_eq_some_iff.mp hvalues
      obtain ⟨others, hothers, -⟩ := Option.bind_eq_some_iff.mp hrest
      simpa [anyNamed, isNamed] using ih hothers

theorem evaluateNamed_of_args? (host : Host) {answer : Answer} {env : Env} :
    ∀ (args : List (ArgKind × Expr)) {values : List Value},
      args? answer env args = some values → ∀ s, evaluateNamed host args s = .ok ([], s)
  | [], _, _, s => by
      rw [evaluateNamed]
      rfl
  | (.positional, e) :: rest, values, h, s => by
      unfold args? at h
      obtain ⟨value, -, h⟩ := Option.bind_eq_some_iff.mp h
      obtain ⟨others, hothers, -⟩ := Option.bind_eq_some_iff.mp h
      rw [evaluateNamed]
      exact evaluateNamed_of_args? host rest hothers s

section Expressions

set_option linter.unusedSectionVars false

variable {host : Host} {answer : Answer} (hanswer : Answers mayFail host answer)

include hanswer

mutual

theorem evaluate_of_value? {env : Env} {s : State} (hsees : Sees env s) :
    ∀ (e : Expr) {value : Value}, value? answer env e = some value →
      Gives mayFail (evaluate host e s) (value, s)
  | .literal l, value, h => by
      cases h
      rw [evaluate]
      exact .of_eq_ok rfl
  | .var name, value, h => by
      unfold value? at h
      split at h
      · contradiction
      · next hname =>
          cases h
          rw [evaluate, get_bind, hsees.lookup name hname]
          exact .of_eq_ok rfl
  | .dict entries, value, h => by
      unfold value? at h
      obtain ⟨found, hfound, rfl⟩ := Option.map_eq_some_iff.mp h
      rw [evaluate]
      exact (evaluateEntries_of_entries? hsees entries hfound).bind (.of_eq_ok rfl)
  | .unary .not operand, value, h => by
      unfold value? at h
      obtain ⟨a, ha, h⟩ := Option.bind_eq_some_iff.mp h
      obtain ⟨holds, hholds, h⟩ := Option.bind_eq_some_iff.mp h
      cases h
      rw [evaluate]
      refine (evaluate_of_value? hsees operand ha).bind ?_
      rw [bind_eq_of_ok (need_eq_ok hholds s)]
      exact .of_eq_ok rfl
  | .binary .concat left right, value, h => by
      unfold value? at h
      obtain ⟨a, ha, h⟩ := Option.bind_eq_some_iff.mp h
      obtain ⟨b, hb, h⟩ := Option.bind_eq_some_iff.mp h
      rw [evaluate]
      · refine (evaluate_of_value? hsees left ha).bind ?_
        exact (evaluate_of_value? hsees right hb).bind (.of_eq_ok (need_eq_ok h s))
      all_goals nofun
  | .compare first rest, value, h => by
      unfold value? at h
      obtain ⟨a, ha, h⟩ := Option.bind_eq_some_iff.mp h
      obtain ⟨holds, hholds, h⟩ := Option.bind_eq_some_iff.mp h
      cases h
      rw [evaluate]
      refine (evaluate_of_value? hsees first ha).bind ?_
      exact (compareChain_of_chain? hsees rest hholds).bind (.of_eq_ok rfl)
  | .choose condition whenTrue whenFalse, value, h => by
      unfold value? at h
      obtain ⟨a, ha, h⟩ := Option.bind_eq_some_iff.mp h
      obtain ⟨holds, hholds, h⟩ := Option.bind_eq_some_iff.mp h
      rw [evaluate]
      refine (evaluate_of_value? hsees condition ha).bind ?_
      rw [bind_eq_of_ok (need_eq_ok hholds s)]
      split at h
      · next htrue =>
          rw [if_pos htrue]
          exact evaluate_of_value? hsees whenTrue h
      · next hfalse =>
          rw [if_neg hfalse]
          exact evaluateOption_of_option? hsees whenFalse h
  | .attribute object name, value, h => by
      unfold value? at h
      obtain ⟨a, ha, h⟩ := Option.bind_eq_some_iff.mp h
      rw [evaluate]
      exact (evaluate_of_value? hsees object ha).bind (.of_eq_ok (need_eq_ok h s))
  | .index object key, value, h => by
      unfold value? at h
      obtain ⟨a, ha, h⟩ := Option.bind_eq_some_iff.mp h
      obtain ⟨k, hk, h⟩ := Option.bind_eq_some_iff.mp h
      rw [evaluate]
      refine (evaluate_of_value? hsees object ha).bind ?_
      exact (evaluate_of_value? hsees key hk).bind (.of_eq_ok (need_eq_ok h s))
  | .call (.var name) args, value, h => by
      unfold value? at h
      split at h
      · contradiction
      · next hname =>
          obtain ⟨hsuper, hloop⟩ := not_or.mp hname
          obtain ⟨values, hvalues, h⟩ := Option.bind_eq_some_iff.mp h
          rw [evaluate]
          refine (evaluateArgs_of_args? hsees args hvalues).bind ?_
          have hcall : callName host name values =
              (do call host ((← get).lookup name) values) := by
            unfold callName
            split <;> first | contradiction | rfl
          rw [hcall, get_bind, hsees.lookup name hloop]
          split at h
          · next helper hhelper =>
              rw [hhelper]
              exact hanswer helper values value h s
          · contradiction
  | .filter name operand args, value, h => by
      unfold value? at h
      obtain ⟨a, ha, h⟩ := Option.bind_eq_some_iff.mp h
      obtain ⟨values, hvalues, h⟩ := Option.bind_eq_some_iff.mp h
      rw [evaluate]
      refine (evaluate_of_value? hsees operand ha).bind ?_
      refine (evaluateArgs_of_args? hsees args hvalues).bind ?_
      rw [applyFilter, get_bind, hsees.escape]
      exact .of_eq_ok (need_eq_ok h s)

theorem evaluateEntries_of_entries? {env : Env} {s : State} (hsees : Sees env s) :
    ∀ (entries : List (Expr × Expr)) {found : Entries},
      entries? answer env entries = some found →
        Gives mayFail (evaluateEntries host entries s) (found, s)
  | [], found, h => by
      cases h
      rw [evaluateEntries]
      exact .of_eq_ok rfl
  | (key, e) :: rest, found, h => by
      unfold entries? at h
      obtain ⟨k, hk, h⟩ := Option.bind_eq_some_iff.mp h
      obtain ⟨a, ha, h⟩ := Option.bind_eq_some_iff.mp h
      obtain ⟨others, hothers, h⟩ := Option.bind_eq_some_iff.mp h
      cases h
      rw [evaluateEntries]
      refine (evaluate_of_value? hsees key hk).bind ?_
      refine (evaluate_of_value? hsees e ha).bind ?_
      exact (evaluateEntries_of_entries? hsees rest hothers).bind (.of_eq_ok rfl)

theorem compareChain_of_chain? {env : Env} {s : State} (hsees : Sees env s) :
    ∀ (rest : List (Comparison × Expr)) {value : Value} {holds : Bool},
      chain? answer env value rest = some holds →
        Gives mayFail (compareChain host value rest s) (holds, s)
  | [], value, holds, h => by
      cases h
      rw [compareChain]
      exact .of_eq_ok rfl
  | (comparison, e) :: rest, value, holds, h => by
      unfold chain? at h
      obtain ⟨other, hother, h⟩ := Option.bind_eq_some_iff.mp h
      obtain ⟨agrees, hagrees, h⟩ := Option.bind_eq_some_iff.mp h
      rw [compareChain]
      refine (evaluate_of_value? hsees e hother).bind ?_
      rw [bind_eq_of_ok (need_eq_ok hagrees s)]
      split at h
      · next htrue =>
          rw [if_pos htrue]
          exact compareChain_of_chain? hsees rest h
      · next hfalse =>
          cases h
          rw [if_neg hfalse]
          exact .of_eq_ok rfl

theorem evaluateItems_of_args? {env : Env} {s : State} (hsees : Sees env s) :
    ∀ (args : List (ArgKind × Expr)) {values : List Value},
      args? answer env args = some values →
        Gives mayFail (evaluateItems host args s) (values, s)
  | [], values, h => by
      cases h
      rw [evaluateItems]
      exact .of_eq_ok rfl
  | (.positional, e) :: rest, values, h => by
      unfold args? at h
      obtain ⟨a, ha, h⟩ := Option.bind_eq_some_iff.mp h
      obtain ⟨others, hothers, h⟩ := Option.bind_eq_some_iff.mp h
      cases h
      rw [evaluateItems]
      refine (evaluate_of_value? hsees e ha).bind ?_
      exact (evaluateItems_of_args? hsees rest hothers).bind (.of_eq_ok rfl)

theorem evaluateArgs_of_args? {env : Env} {s : State} (hsees : Sees env s)
    (args : List (ArgKind × Expr)) {values : List Value}
    (h : args? answer env args = some values) :
    Gives mayFail (evaluateArgs host args s) (values, s) := by
  rw [evaluateArgs]
  refine (evaluateItems_of_args? hsees args h).bind ?_
  rw [bind_eq_of_ok (evaluateNamed_of_args? host args h s), anyNamed_of_args? h]
  exact .of_eq_ok rfl

theorem evaluateOption_of_option? {env : Env} {s : State} (hsees : Sees env s) :
    ∀ (e? : Option Expr) {other value : Value},
      option? answer env other e? = some value →
        Gives mayFail (evaluateOption host other e? s) (value, s)
  | none, other, value, h => by
      cases h
      rw [evaluateOption]
      exact .of_eq_ok rfl
  | some e, other, value, h => by
      unfold option? at h
      rw [evaluateOption]
      exact evaluate_of_value? hsees e h

end

end Expressions

/-! ## Frames -/

namespace State

def withNext (s : State) (next : Nat) : State :=
  { s with store := { s.store with next := next } }

/-- A state with another innermost frame and another next number. -/
def withTop (s : State) (top : Frame) (next : Nat) : State :=
  { s with frames := top :: s.frames.tail, store := { s.store with next := next } }

/-- A state with one more frame, inside of which it stands one level deeper. -/
def inside (s : State) (top : Frame) (next : Nat) : State :=
  { s with
    frames := top :: s.frames
    depth := s.depth + 1
    store := { s.store with next := next } }

@[simp] theorem withTop_withTop (s : State) (a b : Frame) (m n : Nat) :
    (s.withTop a m).withTop b n = s.withTop b n := rfl

@[simp] theorem withTop_inside (s : State) (a b : Frame) (m n : Nat) :
    (s.inside a m).withTop b n = s.inside b n := rfl

theorem exists_withTop {s : State} (hframes : s.frames ≠ []) :
    ∃ top next, s = s.withTop top next := by
  obtain ⟨top, rest, hsplit⟩ := List.exists_cons_of_ne_nil hframes
  have hsame : top :: s.frames.tail = s.frames := by rw [hsplit, List.tail_cons]
  refine ⟨top, s.store.next, ?_⟩
  rw [withTop, hsame]

theorem lookup_eq_of_fields_eq_nil {s : State} (hfields : s.store.fields = []) (name : String) :
    s.lookup name =
      (s.frames.findSome? (fun frame => frame.lookup? s.store name)).getD (Env.outside name) := by
  unfold lookup Store.refresh Env.outside
  rw [hfields]
  cases s.frames.findSome? (fun frame => frame.lookup? s.store name) <;> rfl

/-- A frame that knows no name but that of a repetition changes what no other name means. -/
theorem lookup_inside {s : State} (hfields : s.store.fields = []) (loop : Option Loop)
    (next : Nat) {name : String} (hname : name ≠ "loop") :
    (s.inside { loop := loop } next).lookup name = s.lookup name := by
  have hframe :
      ∀ store : Store, ({ loop := loop } : Frame).lookup? store name = none := by
    intro store
    cases loop <;> simp [Frame.lookup?, Frame.lookup?.fromBackdrop, hname]
  have hinside : (s.inside { loop := loop } next).store.fields = [] := hfields
  rw [lookup_eq_of_fields_eq_nil hfields, lookup_eq_of_fields_eq_nil hinside]
  simp only [inside, List.findSome?_cons, hframe]
  rfl

theorem bind_eq {s : State} {frame : Frame} {rest : List Frame} (hframes : s.frames = frame :: rest)
    (hclosure : frame.closure = none) (name : String) (value : Value) :
    s.bind name value =
      s.withTop { frame with locals := (name, value) :: frame.locals } s.store.next := by
  simp [bind, mapTop, withTop, hframes, hclosure]

theorem lookup_bind {s : State} {frame : Frame} {rest : List Frame}
    (hframes : s.frames = frame :: rest) (hclosure : frame.closure = none)
    (hfields : s.store.fields = []) (name other : String) (value : Value) :
    (s.bind name value).lookup other = if other = name then value else s.lookup other := by
  have hbound : (s.bind name value).store.fields = [] := by
    rw [bind_eq hframes hclosure]
    exact hfields
  rw [lookup_eq_of_fields_eq_nil hbound, lookup_eq_of_fields_eq_nil hfields,
    bind_eq hframes hclosure]
  simp only [withTop, hframes, List.tail_cons, List.findSome?_cons]
  by_cases hother : other = name
  · subst hother
    simp [Frame.lookup?]
  · have hbeq : (other == name) = false := by simpa using hother
    have hframe :
        ({ frame with locals := (name, value) :: frame.locals } : Frame).lookup? s.store other =
          frame.lookup? s.store other := by
      simp [Frame.lookup?, Frame.lookup?.fromBackdrop, List.lookup_cons, hbeq]
    rw [hframe, if_neg hother]

end State

/-- A state in which names mean what an environment says, and which drops and keeps nothing. -/
structure Ready (depth : Nat) (env : Env) (s : State) : Prop extends Sees env s where
  muted : s.muted = false
  depth : s.depth = depth
  frames : s.frames ≠ []
  closure : s.frames.head?.bind Frame.closure = none
  fields : s.store.fields = []

namespace Ready

variable {depth : Nat} {env : Env} {s : State}

theorem bind (h : Ready depth env s) (name : String) (value : Value) :
    Ready depth (Function.update env name value) (s.bind name value) ∧
      ∃ top next, s.bind name value = s.withTop top next := by
  obtain ⟨frame, rest, hframes⟩ := List.exists_cons_of_ne_nil h.frames
  have hclosure : frame.closure = none := by
    have hhead := h.closure
    rwa [hframes] at hhead
  have hbind := State.bind_eq hframes hclosure name value
  refine ⟨?_, _, _, hbind⟩
  refine { lookup := ?_, escape := ?_, muted := ?_, depth := ?_, frames := ?_, closure := ?_,
           fields := ?_ }
  · intro other hother
    rw [State.lookup_bind hframes hclosure h.fields, Function.update_apply]
    split
    · rfl
    · exact h.lookup other hother
  · rw [hbind]
    exact h.escape
  · rw [hbind]
    exact h.muted
  · rw [hbind]
    exact h.depth
  · rw [hbind]
    exact List.cons_ne_nil _ _
  · rw [hbind]
    exact hclosure
  · rw [hbind]
    exact h.fields

theorem withNext (h : Ready depth env s) (next : Nat) :
    Ready depth env (s.withNext next) where
  lookup := by
    intro name hname
    rw [← h.lookup name hname, State.lookup_eq_of_fields_eq_nil h.fields,
      State.lookup_eq_of_fields_eq_nil]
    · rfl
    · exact h.fields
  escape := h.escape
  muted := h.muted
  depth := h.depth
  frames := h.frames
  closure := h.closure
  fields := h.fields

theorem inside (h : Ready depth env s) (loop : Option Loop) (next : Nat) :
    Ready (depth + 1) env (s.inside { loop := loop } next) where
  lookup := by
    intro name hname
    rw [State.lookup_inside h.fields loop next hname]
    exact h.lookup name hname
  escape := h.escape
  muted := h.muted
  depth := congrArg (· + 1) h.depth
  frames := List.cons_ne_nil _ _
  closure := rfl
  fields := h.fields

theorem run_text (h : Ready depth env s) (host : Host) (content : String) :
    run host (.text content) s = .ok (content, s) := by
  rw [run, write, get_bind, h.muted]
  rfl

theorem emit_eq_ok (h : Ready depth env s) {value : Value} {text : String}
    (hwritten : emitted? false value = some text) : emit value s = .ok (text, s) := by
  rw [emit, get_bind, h.escape, bind_eq_of_ok (need_eq_ok hwritten s), write, get_bind, h.muted]
  rfl

end Ready

/-! ## Repetitions -/

namespace Run

variable {α : Type} {s : State}

theorem inFrame_gives {frame last : Frame} {step : Run α} {a : α} {next : Nat}
    (hdepth : ¬ depthLimit < s.depth)
    (hstep : Gives mayFail (step (s.inside frame s.store.next)) (a, s.inside last next)) :
    Gives mayFail (inFrame frame step s) (a, s.withNext next) := by
  unfold inFrame
  rw [get_bind, if_neg hdepth]
  unfold lowered
  rw [get_bind]
  have hpushed :
      Gives mayFail
        ((do
          modify (fun s => { s with frames := frame :: s.frames })
          let a ← step
          modify (fun s => { s with frames := s.frames.tail })
          return a : Run α) { s with depth := s.depth + 1 })
        (a, { s with depth := s.depth + 1, store := { s.store with next := next } }) := by
    change Gives mayFail
      ((do
        let a ← step
        modify (fun s => { s with frames := s.frames.tail })
        return a : Run α) (s.inside frame s.store.next)) _
    exact hstep.bind (.of_eq_ok rfl)
  change Gives mayFail
    ((do
      let a ← (do
        modify (fun s => { s with frames := frame :: s.frames })
        let a ← step
        modify (fun s => { s with frames := s.frames.tail })
        return a : Run α)
      modify (fun t => { t with depth := s.depth })
      return a : Run α) { s with depth := s.depth + 1 }) _
  exact hpushed.bind (.of_eq_ok rfl)

theorem bindNames_eq_ok {depth : Nat} {env : Env} (h : Ready depth env s) {target : Target}
    {value : Value} {bound : List (String × Value)} (hbound : bindings? target value = some bound) :
    ∃ top next, bindNames target value s = .ok ((), s.withTop top next) ∧
      Ready depth (env.bindAll bound) (s.withTop top next) := by
  unfold bindings? at hbound
  split at hbound
  · next _ name =>
      cases hbound
      obtain ⟨hready, top, next, hbind⟩ := h.bind name value
      rw [hbind] at hready
      refine ⟨top, next, ?_, hready⟩
      rw [← hbind]
      rfl
  · next _ a b =>
      split at hbound
      · next first second hparts =>
          cases hbound
          obtain ⟨hfirst, top, next, hbind⟩ := h.bind a first
          obtain ⟨hsecond, top', next', hbind'⟩ := hfirst.bind b second
          have hlast : (s.bind a first).bind b second = s.withTop top' next' := by
            rw [hbind', hbind, State.withTop_withTop]
          rw [hlast] at hsecond
          refine ⟨top', next', ?_, hsecond⟩
          rw [← hlast]
          unfold bindNames bindTarget
          rw [bind_eq_of_ok (need_eq_ok hparts s)]
          rfl
      · contradiction
  · contradiction

/-- Rounds put the texts of their items one behind the other. -/
theorem rounds_gives {body : Run String} {target : Target} {item? : Value → Option String}
    (hround : ∀ item text, item? item = some text → ∀ loop next, ∃ last later,
      Gives mayFail
        ((do bindNames target item; body : Run String) (s.inside { loop := some loop } next))
        (text, s.inside last later)) :
    ∀ (items : List Value) {text : String}, concat? item? items = some text →
      ∀ loop done index top next, ∃ last later,
        Gives mayFail (rounds body target loop done index items (s.inside top next))
          (done ++ text, s.inside last later) := by
  intro items
  induction items with
  | nil =>
      intro text htext loop done index top next
      cases htext
      refine ⟨top, next, .of_eq_ok ?_⟩
      rw [rounds, String.append_empty]
      rfl
  | cons item rest ih =>
      intro text htext loop done index top next
      unfold concat? at htext
      obtain ⟨first, hfirst, htext⟩ := Option.bind_eq_some_iff.mp htext
      obtain ⟨later, hlater, htext⟩ := Option.bind_eq_some_iff.mp htext
      cases htext
      let loop' : Loop :=
        { loop with
          round := { loop.round with index := index }
          next := rest.head?.getD .missing }
      obtain ⟨last, n, hitem⟩ := hround item first hfirst loop' next
      obtain ⟨last', n', hrest⟩ :=
        ih hlater { loop' with previous := item } (done ++ first) (index + 1) last n
      refine ⟨last', n', ?_⟩
      rw [← String.append_assoc, rounds.eq_def body target loop done index (item :: rest)]
      have hassoc :
          (do
            bindNames target item
            let text ← body
            rounds body target { loop' with previous := item } (done ++ text) (index + 1) rest
              : Run String) =
          (do bindNames target item; body : Run String) >>= fun text =>
            rounds body target { loop' with previous := item } (done ++ text) (index + 1) rest := by
        simp
      change Gives mayFail
        ((do
          bindNames target item
          let text ← body
          rounds body target { loop' with previous := item } (done ++ text) (index + 1) rest
            : Run String) (s.inside { loop := some loop' } next)) _
      rw [hassoc]
      exact hitem.bind hrest

end Run

section Statements

set_option linter.unusedSectionVars false

variable {host : Host} {answer : Answer} (hanswer : Answers mayFail host answer)

include hanswer

theorem passing_gives {depth : Nat} {env : Env} {s : State} (h : Ready depth env s)
    {target : Target} {condition : Expr} :
    ∀ (items : List Value) {kept : List Value},
      keep? (passes? answer env target condition) items = some kept →
        ∀ passed top next, ∃ last later,
          Gives mayFail (passing host target condition passed items (s.inside top next))
            (passed.reverse ++ kept, s.inside last later) := by
  intro items
  induction items with
  | nil =>
      intro kept hkept passed top next
      cases hkept
      refine ⟨top, next, ?_⟩
      rw [passing, List.append_nil]
      exact .of_eq_ok rfl
  | cons item rest ih =>
      intro kept hkept passed top next
      unfold keep? at hkept
      obtain ⟨holds, hholds, hkept⟩ := Option.bind_eq_some_iff.mp hkept
      obtain ⟨others, hothers, hkept⟩ := Option.bind_eq_some_iff.mp hkept
      cases hkept
      unfold passes? at hholds
      obtain ⟨bound, hbound, hholds⟩ := Option.bind_eq_some_iff.mp hholds
      obtain ⟨value, hvalue, hholds⟩ := Option.bind_eq_some_iff.mp hholds
      obtain ⟨top', n, hbind, hready⟩ := bindNames_eq_ok (h.inside none next) hbound
      rw [State.withTop_inside] at hbind hready
      have heval := evaluate_of_value? hanswer hready.toSees condition hvalue
      obtain ⟨last, later, hrest⟩ := ih hothers (if holds then item :: passed else passed) top' n
      have hkept : (if holds then item :: passed else passed).reverse ++ others =
          passed.reverse ++ (if holds then item :: others else others) := by
        cases holds <;> simp
      rw [hkept] at hrest
      refine ⟨last, later, ?_⟩
      rw [passing]
      refine .bind (t := s.inside {} next) (.of_eq_ok rfl) ?_
      refine .bind (.of_eq_ok hbind) ?_
      refine heval.bind ?_
      exact .bind (.of_eq_ok (need_eq_ok hholds (s.inside top' n))) hrest

theorem passingItems_gives {depth : Nat} {env : Env} {s : State} (h : Ready depth env s)
    (hdepth : ¬ depthLimit < depth) {target : Target} {condition : Option Expr}
    {items kept : List Value} (hkept : passing? answer env target condition items = some kept) :
    ∃ next, Gives mayFail (passingItems host target condition items s)
      (kept, s.withNext next) := by
  cases condition with
  | none =>
      cases hkept
      exact ⟨s.store.next, .of_eq_ok rfl⟩
  | some e =>
      obtain ⟨last, later, hpassing⟩ :=
        passing_gives hanswer h items hkept [] {} s.store.next
      rw [← h.depth] at hdepth
      exact ⟨later, inFrame_gives hdepth hpassing⟩

omit hanswer in
theorem repeated_gives {depth : Nat} {env : Env} {s : State} (h : Ready depth env s)
    (hdepth : ¬ depthLimit < depth) {body : Run String} {target : Target}
    (again : Option (Target × List Stmt)) {item? : Value → Option String}
    (hround : ∀ item text, item? item = some text → ∀ loop next, ∃ last later,
      Gives mayFail
        ((do bindNames target item; body : Run String) (s.inside { loop := some loop } next))
        (text, s.inside last later))
    {items : List Value} {text : String} (htext : concat? item? items = some text) :
    ∃ next, Gives mayFail (repeated body target again items s) (text, s.withNext next) := by
  let s' : State := s.withNext (s.store.next + 1)
  have hdepth' : ¬ depthLimit < s'.depth := by
    have hsame : s'.depth = depth := h.depth
    rwa [hsame]
  have hrounds := fun loop => rounds_gives hround items htext loop "" 0 {} s'.store.next
  simp only [String.empty_append] at hrounds
  choose last later hrounds using hrounds
  exact ⟨later _, inFrame_gives hdepth' (hrounds _)⟩

mutual

theorem run_of_text? :
    ∀ (stmt : Stmt) {depth : Nat} {env env' : Env} {s : State} {text : String},
      Ready depth env s → text? answer depth env stmt = some (text, env') →
        ∃ top next, Gives mayFail (run host stmt s) (text, s.withTop top next) ∧
          Ready depth env' (s.withTop top next)
  | .text content, depth, env, env', s, text, h, htext => by
      cases htext
      obtain ⟨top, next, hsame⟩ := State.exists_withTop h.frames
      refine ⟨top, next, ?_, hsame ▸ h⟩
      rw [← hsame]
      exact .of_eq_ok (h.run_text host content)
  | .emit e, depth, env, env', s, text, h, htext => by
      unfold text? at htext
      obtain ⟨value, hvalue, htext⟩ := Option.bind_eq_some_iff.mp htext
      obtain ⟨written, hwritten, htext⟩ := Option.bind_eq_some_iff.mp htext
      cases htext
      obtain ⟨top, next, hsame⟩ := State.exists_withTop h.frames
      refine ⟨top, next, ?_, hsame ▸ h⟩
      rw [← hsame, run]
      exact (evaluate_of_value? hanswer h.toSees e hvalue).bind
        (.of_eq_ok (h.emit_eq_ok hwritten))
  | .repeat target source condition nested body [], depth, env, env', s, text, h, htext => by
      unfold text? at htext
      split at htext
      · contradiction
      · next hdepth =>
          obtain ⟨value, hvalue, htext⟩ := Option.bind_eq_some_iff.mp htext
          obtain ⟨items, hitems, htext⟩ := Option.bind_eq_some_iff.mp htext
          obtain ⟨kept, hkept, htext⟩ := Option.bind_eq_some_iff.mp htext
          obtain ⟨rounds, hrounds, htext⟩ := Option.bind_eq_some_iff.mp htext
          cases htext
          obtain ⟨n, hpassing⟩ := passingItems_gives hanswer h hdepth hkept
          have hready := h.withNext n
          have hround : ∀ item text,
              (do
                let bound ← bindings? target item
                let result ← texts? answer (depth + 1) (env.bindAll bound) body
                some result.1) = some text →
              ∀ loop next, ∃ last later,
                Gives mayFail
                  ((do bindNames target item; runAll host body : Run String)
                    ((s.withNext n).inside { loop := some loop } next))
                  (text, (s.withNext n).inside last later) := by
            intro item text hitem loop next
            obtain ⟨bound, hbound, hitem⟩ := Option.bind_eq_some_iff.mp hitem
            obtain ⟨⟨body', last⟩, hbody, hitem⟩ := Option.bind_eq_some_iff.mp hitem
            cases hitem
            obtain ⟨top, m, hbind, hinner⟩ :=
              bindNames_eq_ok (hready.inside (some loop) next) hbound
            obtain ⟨top', m', hrun, -⟩ := runAll_of_texts? body hinner hbody
            refine ⟨top', m', ?_⟩
            rw [bind_eq_of_ok hbind]
            exact hrun
          obtain ⟨n', hrepeated⟩ :=
            repeated_gives hready hdepth (if nested then some (target, body) else none)
              hround hrounds
          obtain ⟨frame, others, hframes⟩ := List.exists_cons_of_ne_nil h.frames
          have htop : ∀ m, s.withNext m = s.withTop frame m := by
            intro m
            simp [State.withTop, State.withNext, hframes]
          have hsource := evaluate_of_value? hanswer h.toSees source hvalue
          rw [run]
          cases kept with
          | nil =>
              cases hrounds
              refine ⟨frame, n, ?_, htop n ▸ hready⟩
              refine hsource.bind (.bind (.of_eq_ok (need_eq_ok hitems s)) (hpassing.bind ?_))
              rw [← htop, List.isEmpty_nil, if_pos rfl, runAll]
              exact .of_eq_ok rfl
          | cons first rest =>
              refine ⟨frame, n', ?_, htop n' ▸ h.withNext n'⟩
              refine hsource.bind (.bind (.of_eq_ok (need_eq_ok hitems s)) (hpassing.bind ?_))
              rw [← htop]
              exact hrepeated
  | .branch condition whenTrue whenFalse, depth, env, env', s, text, h, htext => by
      unfold text? at htext
      obtain ⟨value, hvalue, htext⟩ := Option.bind_eq_some_iff.mp htext
      obtain ⟨holds, hholds, htext⟩ := Option.bind_eq_some_iff.mp htext
      have hcondition := evaluate_of_value? hanswer h.toSees condition hvalue
      rw [run]
      cases holds with
      | true =>
          obtain ⟨top, next, hrun, hready⟩ := runAll_of_texts? whenTrue h htext
          exact ⟨top, next, hcondition.bind (.bind (.of_eq_ok (need_eq_ok hholds s)) hrun), hready⟩
      | false =>
          obtain ⟨top, next, hrun, hready⟩ := runAll_of_texts? whenFalse h htext
          exact ⟨top, next, hcondition.bind (.bind (.of_eq_ok (need_eq_ok hholds s)) hrun), hready⟩
  | .assign (.name n) e, depth, env, env', s, text, h, htext => by
      unfold text? at htext
      obtain ⟨value, hvalue, htext⟩ := Option.bind_eq_some_iff.mp htext
      cases htext
      obtain ⟨hready, top, next, hbind⟩ := h.bind n value
      rw [hbind] at hready
      refine ⟨top, next, ?_, hready⟩
      rw [← hbind, run]
      exact (evaluate_of_value? hanswer h.toSees e hvalue).bind (.of_eq_ok rfl)

theorem runAll_of_texts? :
    ∀ (body : List Stmt) {depth : Nat} {env env' : Env} {s : State} {text : String},
      Ready depth env s → texts? answer depth env body = some (text, env') →
        ∃ top next, Gives mayFail (runAll host body s) (text, s.withTop top next) ∧
          Ready depth env' (s.withTop top next)
  | [], depth, env, env', s, text, h, htext => by
      cases htext
      obtain ⟨top, next, hsame⟩ := State.exists_withTop h.frames
      refine ⟨top, next, ?_, hsame ▸ h⟩
      rw [← hsame, runAll]
      exact .of_eq_ok rfl
  | stmt :: rest, depth, env, env', s, text, h, htext => by
      unfold texts? at htext
      obtain ⟨⟨first, middle⟩, hfirst, htext⟩ := Option.bind_eq_some_iff.mp htext
      obtain ⟨⟨later, last⟩, hlater, htext⟩ := Option.bind_eq_some_iff.mp htext
      cases htext
      obtain ⟨top, next, hrun, hready⟩ := run_of_text? stmt h hfirst
      obtain ⟨top', next', hrest, hready'⟩ := runAll_of_texts? rest hready hlater
      rw [State.withTop_withTop] at hrest hready'
      refine ⟨top', next', ?_, hready'⟩
      rw [runAll]
      exact hrun.bind (hrest.bind (.of_eq_ok rfl))

end

end Statements

end Template
end Provision
