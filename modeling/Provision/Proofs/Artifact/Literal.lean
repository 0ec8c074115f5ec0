import Mathlib.Algebra.Ring.Parity
import Mathlib.Data.List.DropRight
import Provision.Artifact.Literal
import Provision.Proofs.Json.Quoted

/-!
# What literal values mean where they stand

A line of a Makefile goes on behind a backslash at its end, and a number sign starts a comment; each
of a run of backslashes takes the meaning of the next one.  The value of a make variable therefore
stays inside of its assignment exactly if the text that it stands for has no line end, and no odd
run of backslashes in front of a number sign or at its end.

The default of a build argument is read back as the text that it stands for.
-/

namespace Provision

/-! ## Values of make variables -/

/-- The number of backslashes that a text ends in. -/
def slashesAtEnd (cs : List Char) : Nat :=
  (cs.rtakeWhile (· = '\\')).length

@[simp] theorem slashesAtEnd_nil : slashesAtEnd [] = 0 := rfl

@[simp] theorem slashesAtEnd_append_slash (cs : List Char) :
    slashesAtEnd (cs ++ ['\\']) = slashesAtEnd cs + 1 := by
  simp [slashesAtEnd]

theorem slashesAtEnd_append_of_ne {c : Char} (hc : c ≠ '\\') (cs : List Char) :
    slashesAtEnd (cs ++ [c]) = 0 := by
  simp [slashesAtEnd, hc]

/-- A text stays inside of the assignment that it is the right-hand side of: it has no line break,
a number sign in it starts no comment, and it does not go on in the next line. -/
structure Makefile.StaysInside (cs : List Char) : Prop where
  noBreak : ∀ c ∈ cs, c ≠ '\n' ∧ c ≠ '\r'
  noComment : ∀ before after, cs = before ++ '#' :: after → Odd (slashesAtEnd before)
  noContinuation : ¬ Odd (slashesAtEnd cs)

@[simp] theorem makeValue_append (cs others : List Char) :
    makeValue (cs ++ others) = makeValue cs ++ makeValue others :=
  List.flatMap_append

@[simp] theorem makeValue_cons_sign (cs : List Char) :
    makeValue ('#' :: cs) = '\\' :: '#' :: makeValue cs := rfl

theorem makeValue_cons_of_ne {c : Char} (hc : c ≠ '#') (cs : List Char) :
    makeValue (c :: cs) = c :: makeValue cs := by
  simp [makeValue, hc]

/-- Only backslashes are added to a text. -/
theorem mem_makeValue_iff {c : Char} (hc : c ≠ '\\') {cs : List Char} :
    c ∈ makeValue cs ↔ c ∈ cs := by
  induction cs with
  | nil => simp [makeValue]
  | cons d rest ih =>
      by_cases hd : d = '#'
      · subst hd
        simp [hc, ih]
      · simp [makeValue_cons_of_ne hd, ih]

/-- No backslash is added at the end. -/
theorem slashesAtEnd_makeValue (cs : List Char) :
    slashesAtEnd (makeValue cs) = slashesAtEnd cs := by
  induction cs using List.reverseRecOn with
  | nil => rfl
  | append_singleton front c ih =>
      rw [makeValue_append]
      by_cases hsign : c = '#'
      · subst hsign
        have hsplit : makeValue front ++ makeValue ['#'] = makeValue front ++ ['\\'] ++ ['#'] := by
          simp [makeValue]
        rw [hsplit, slashesAtEnd_append_of_ne (by decide), slashesAtEnd_append_of_ne (by decide)]
      · have hsingle : makeValue [c] = [c] := makeValue_cons_of_ne hsign []
        rw [hsingle]
        by_cases hslash : c = '\\'
        · subst hslash
          rw [slashesAtEnd_append_slash, slashesAtEnd_append_slash, ih]
        · rw [slashesAtEnd_append_of_ne hslash, slashesAtEnd_append_of_ne hslash]

/-- Every number sign comes from one in the text, and a backslash is put in front of it. -/
theorem makeValue_eq_append_sign_iff {cs before after : List Char} :
    makeValue cs = before ++ '#' :: after ↔
      ∃ front back, cs = front ++ '#' :: back ∧ before = makeValue front ++ ['\\'] ∧
        after = makeValue back := by
  constructor
  · intro h
    induction cs generalizing before with
    | nil => simp [makeValue] at h
    | cons c rest ih =>
        by_cases hc : c = '#'
        · subst hc
          rw [makeValue_cons_sign] at h
          match before with
          | [] => simp at h
          | [first] =>
              simp only [List.cons_append, List.nil_append, List.cons.injEq, true_and] at h
              obtain ⟨rfl, rfl⟩ := h
              exact ⟨[], rest, rfl, rfl, rfl⟩
          | first :: second :: others =>
              simp only [List.cons_append, List.cons.injEq] at h
              obtain ⟨rfl, rfl, h⟩ := h
              obtain ⟨front, back, rfl, rfl, rfl⟩ := ih h
              exact ⟨'#' :: front, back, rfl, rfl, rfl⟩
        · rw [makeValue_cons_of_ne hc] at h
          match before with
          | [] => exact absurd (List.cons.inj h).1 hc
          | first :: others =>
              simp only [List.cons_append, List.cons.injEq] at h
              obtain ⟨rfl, h⟩ := h
              obtain ⟨front, back, rfl, rfl, rfl⟩ := ih h
              exact ⟨c :: front, back, rfl, by rw [makeValue_cons_of_ne hc, List.cons_append], rfl⟩
  · rintro ⟨front, back, rfl, rfl, rfl⟩
    simp

/-- A value stays inside of its assignment exactly if the text that it stands for has no line break
and no odd run of backslashes in front of a number sign or at its end. -/
theorem staysInside_makeValue_iff (cs : List Char) :
    Makefile.StaysInside (makeValue cs) ↔
      (∀ c ∈ cs, c ≠ '\n' ∧ c ≠ '\r') ∧
        (∀ before after, cs = before ++ '#' :: after → Even (slashesAtEnd before)) ∧
          Even (slashesAtEnd cs) := by
  have hbreak : (∀ c ∈ makeValue cs, c ≠ '\n' ∧ c ≠ '\r') ↔ ∀ c ∈ cs, c ≠ '\n' ∧ c ≠ '\r' := by
    have hline : '\n' ∈ makeValue cs ↔ '\n' ∈ cs := mem_makeValue_iff (by decide)
    have hreturn : '\r' ∈ makeValue cs ↔ '\r' ∈ cs := mem_makeValue_iff (by decide)
    have hboth : ∀ ds : List Char, (∀ c ∈ ds, c ≠ '\n' ∧ c ≠ '\r') ↔ '\n' ∉ ds ∧ '\r' ∉ ds := by
      intro ds
      constructor
      · exact fun h => ⟨fun hmem => (h _ hmem).1 rfl, fun hmem => (h _ hmem).2 rfl⟩
      · rintro ⟨hline, hreturn⟩ c hc
        exact ⟨fun heq => hline (heq ▸ hc), fun heq => hreturn (heq ▸ hc)⟩
    rw [hboth, hboth, hline, hreturn]
  constructor
  · rintro ⟨hbreaks, hcomment, hcontinuation⟩
    refine ⟨hbreak.mp hbreaks, ?_, ?_⟩
    · intro front back hcs
      have hodd := hcomment _ _ (makeValue_eq_append_sign_iff.mpr ⟨front, back, hcs, rfl, rfl⟩)
      rw [slashesAtEnd_append_slash, slashesAtEnd_makeValue] at hodd
      exact Nat.even_add_one.not_left.mp (Nat.not_even_iff_odd.mpr hodd)
    · rw [slashesAtEnd_makeValue] at hcontinuation
      exact Nat.not_odd_iff_even.mp hcontinuation
  · rintro ⟨hbreaks, hcomment, heven⟩
    refine ⟨hbreak.mpr hbreaks, ?_, ?_⟩
    · intro before after hvalue
      obtain ⟨front, back, hcs, rfl, -⟩ := makeValue_eq_append_sign_iff.mp hvalue
      rw [slashesAtEnd_append_slash, slashesAtEnd_makeValue]
      exact (hcomment front back hcs).add_one
    · rw [slashesAtEnd_makeValue]
      exact Nat.not_odd_iff_even.mpr heven

/-- A backslash in front of a number sign, one at the end, and a line break each lead out of the
assignment. -/
theorem not_staysInside_makeValue :
    ¬ Makefile.StaysInside (makeValue ['\\', '#']) ∧ ¬ Makefile.StaysInside (makeValue ['\\']) ∧
      ¬ Makefile.StaysInside (makeValue ['a', '\n', 'b']) := by
  refine ⟨?_, ?_, ?_⟩
  · intro h
    have hodd := h.noComment ['\\', '\\'] [] rfl
    exact absurd hodd (by decide)
  · intro h
    exact h.noContinuation (by decide)
  · intro h
    exact (h.noBreak '\n' (by decide)).1 rfl

/-! ## Defaults of build arguments -/

/-- What stands bare has only characters that mean themselves. -/
theorem needsQuotes_eq_false_iff {cs : List Char} :
    needsQuotes cs = false ↔
      cs ≠ [] ∧ ∀ c ∈ cs, Text.isBlank c = false ∧ c ≠ '"' ∧ c ≠ '\x27' ∧ c ≠ '\\' := by
  unfold needsQuotes
  rw [Bool.or_eq_false_iff, List.isEmpty_eq_false_iff, List.any_eq_false]
  simp only [Bool.or_eq_true, beq_iff_eq, not_or, Bool.not_eq_true, and_assoc]

/-- Which form a default has can be seen from its first character. -/
theorem argValue_eq_of_head? (cs : List Char) :
    ((argValue cs).head? = some '"' → argValue cs = Json.quoted cs) ∧
      ((argValue cs).head? ≠ some '"' → argValue cs = cs ∧ needsQuotes cs = false) := by
  unfold argValue
  cases hquotes : needsQuotes cs with
  | true =>
      rw [if_pos rfl]
      exact ⟨fun _ => rfl, fun hhead => absurd rfl hhead⟩
  | false =>
      rw [if_neg Bool.false_ne_true]
      refine ⟨fun hhead => ?_, fun _ => ⟨rfl, rfl⟩⟩
      have hquote := (needsQuotes_eq_false_iff.mp hquotes).2 '"' (List.mem_of_mem_head? hhead)
      exact absurd rfl hquote.2.1

theorem notMem_argValue {d : Char} (hcontrol : d.toNat < 0x20) (hblank : Text.isBlank d = true)
    (cs : List Char) : d ∉ argValue cs := by
  unfold argValue
  intro hmem
  cases hquotes : needsQuotes cs with
  | true =>
      rw [hquotes, if_pos rfl] at hmem
      exact absurd (Json.le_toNat_of_mem_quoted hmem) (Nat.not_le.mpr hcontrol)
  | false =>
      rw [hquotes, if_neg Bool.false_ne_true] at hmem
      rw [((needsQuotes_eq_false_iff.mp hquotes).2 d hmem).1] at hblank
      contradiction

theorem argValue_ne_nil (cs : List Char) : argValue cs ≠ [] := by
  intro hnil
  obtain ⟨hsame, hquotes⟩ := (argValue_eq_of_head? cs).2 (by simp [hnil])
  exact (needsQuotes_eq_false_iff.mp hquotes).1 (hsame.symm.trans hnil)

/-- A literal gives its text back, and a bare default is its text. -/
theorem argValue_injective : Function.Injective argValue := by
  intro cs others heq
  by_cases hhead : (argValue cs).head? = some '"'
  · have hquoted := (argValue_eq_of_head? cs).1 hhead
    have hothers := (argValue_eq_of_head? others).1 (heq ▸ hhead)
    exact Json.quoted_injective (hquoted.symm.trans (heq.trans hothers))
  · have hbare := (argValue_eq_of_head? cs).2 hhead
    rw [← hbare.1, heq]
    exact ((argValue_eq_of_head? others).2 (heq ▸ hhead)).1

/-- A build argument's default stands on one line and is read back: it is either the literal of the
text or the text itself, and which of the two can be seen from its first character. -/
theorem argValue_read_back :
    (∀ cs : List Char,
      '\n' ∉ argValue cs ∧ '\r' ∉ argValue cs ∧ argValue cs ≠ [] ∧
        ((argValue cs).head? = some '"' →
          (∃ rest, argValue cs = '"' :: rest ∧ Json.unquote? rest = some (cs, [])) ∧
            Json.read? (String.ofList (argValue cs)) = some (.str (String.ofList cs))) ∧
        ((argValue cs).head? ≠ some '"' →
          argValue cs = cs ∧
            ∀ c ∈ argValue cs, Text.isBlank c = false ∧ c ≠ '"' ∧ c ≠ '\x27' ∧ c ≠ '\\')) ∧
      Function.Injective argValue := by
  refine ⟨fun cs => ?_, argValue_injective⟩
  refine ⟨notMem_argValue (by decide) (by decide) cs, notMem_argValue (by decide) (by decide) cs,
    argValue_ne_nil cs, ?_, ?_⟩
  · intro hhead
    rw [(argValue_eq_of_head? cs).1 hhead]
    exact ⟨⟨_, rfl, Json.unquote?_flatMap_escape cs []⟩, Json.read?_quoted cs⟩
  · intro hhead
    obtain ⟨hsame, hquotes⟩ := (argValue_eq_of_head? cs).2 hhead
    rw [hsame]
    exact ⟨rfl, (needsQuotes_eq_false_iff.mp hquotes).2⟩

end Provision
