import Provision.Proofs.Yaml.Silence

/-!
# The first content of a text

As long as the lexer has read nothing but document starts, no block is open and no token can be a
key.  Every step then passes over white space and comments and comes to the end of the text, to
another document start or to the first content, and each condition that holds line by line is handed
on to the place where that is.
-/

namespace Provision
namespace Yaml
namespace Lexer

/-- Reads the token at the cursor. -/
def takeToken (l : Lexer) : Option Lexer :=
  let next := l.cursor.ahead 1
  match l.cursor.peek with
  | none => l.endStream
  | some c =>
      if l.cursor.column == 0 && c == '%' then l.directive
      else if l.cursor.atMarker ['-', '-', '-'] then l.documentMarker .documentStart
      else if l.cursor.atMarker ['.', '.', '.'] then l.documentMarker .documentEnd
      else if c == '[' then l.openFlow .flowSequenceStart
      else if c == '\x7b' then l.openFlow .flowMappingStart
      else if c == ']' then l.closeFlow .flowSequenceEnd
      else if c == '\x7d' then l.closeFlow .flowMappingEnd
      else if c == ',' then l.flowEntry
      else if c == '-' && endsWord next then l.blockEntry
      else if c == '?' && (l.inFlow || endsWord next) then l.explicitKey
      else if c == ':' && (l.inFlow || endsWord next) then l.value
      else if c == '*' then l.anchor .alias
      else if c == '&' then l.anchor .anchor
      else if c == '!' then l.tag
      else if c == '|' && !l.inFlow then l.block true
      else if c == '>' && !l.inFlow then l.block false
      else if c == '\x27' || c == '"' then l.quoted c
      else if startsPlain l.inFlow c next then l.plain
      else none

/-- A step passes over white space, closes blocks and reads the token that is there. -/
theorem step_eq (l : Lexer) :
    l.step = (skipSpace (l.cursor.rest.length + 1) l).dropStale.bind
      (fun l => (l.closeBlocks l.cursor.column).takeToken) := by
  unfold step
  cases (skipSpace (l.cursor.rest.length + 1) l).dropStale <;> rfl

/-- Nothing but document starts has been read. -/
structure Idle (l : Lexer) : Prop where
  tokens : l.tokens = List.replicate l.count .documentStart
  mark : l.mark = none
  outerMarks : l.outerMarks = []
  outerIndents : l.outerIndents = []

/-- The cursor is at the end of the text or at something that is not passed over. -/
def Stops (l : Lexer) : Prop :=
  ∀ c, l.cursor.peek = some c →
    c ≠ ' ' ∧ c ≠ '#' ∧ isBreak c = false ∧ (c = '\t' → l.keyAllowed = true)

namespace Idle

variable {l : Lexer}

theorem inFlow (h : l.Idle) : l.inFlow = false := by
  rw [Lexer.inFlow, h.outerMarks]
  rfl

theorem dropMark (h : l.Idle) : l.dropMark = some l := by
  obtain ⟨-, hmark, -, -⟩ := h
  cases l
  cases hmark
  rfl

theorem dropStale (h : l.Idle) : l.dropStale = some l := by
  obtain ⟨-, hmark, hmarks, -⟩ := h
  cases l
  cases hmark
  cases hmarks
  rfl

theorem closeBlocks (h : l.Idle) (column : Int) : l.closeBlocks column = l := by
  rw [Lexer.closeBlocks, h.outerIndents]
  exact ite_self l

/-- What a text says behind the cursor is said where the lexer stops. -/
theorem skipSpace (h : l.Idle) {fuel : Nat} (hfuel : l.cursor.rest.length < fuel) :
    (skipSpace fuel l).Idle ∧ (skipSpace fuel l).Stops ∧
      ∀ P, LineWise P → l.cursor.Satisfies P → (Lexer.skipSpace fuel l).cursor.Satisfies P := by
  induction fuel generalizing l with
  | zero => exact absurd hfuel (Nat.not_lt_zero _)
  | succ fuel ih =>
      rw [Lexer.skipSpace]
      generalize hp : (fun d => d == ' ' || (l.inFlow || !l.keyAllowed) && d == '\t') = p
      have hblank : ∀ d, p d = true → isBlank d = true := by
        intro d hd
        rw [← hp] at hd
        simp only [Bool.or_eq_true, Bool.and_eq_true] at hd
        exact Bool.or_eq_true_iff.mpr (hd.imp id And.right)
      have hsatisfies : ∀ P, LineWise P → l.cursor.Satisfies P →
          (l.cursor.skipWhile p).skipComment.Satisfies P := fun P hP hl =>
        Cursor.satisfies_skipComment hP (Cursor.satisfies_skipWhile hP hblank hl)
      split
      · next hbreak =>
          have hlength : (l.cursor.skipWhile p).skipComment.skipBreak.rest.length < fuel := by
            have hcomment := Cursor.length_skipComment (l.cursor.skipWhile p)
            rw [Cursor.rest_skipWhile] at hcomment
            have hdropped := (List.dropWhile_sublist (l := l.cursor.rest) p).length_le
            have hskipped := Cursor.length_skipBreak hbreak
            omega
          have hidle : ({ l with
              cursor := (l.cursor.skipWhile p).skipComment.skipBreak
              keyAllowed := if l.inFlow then l.keyAllowed else true } : Lexer).Idle :=
            ⟨h.tokens, h.mark, h.outerMarks, h.outerIndents⟩
          obtain ⟨hrest, hstops, hall⟩ := ih hidle hlength
          exact ⟨hrest, hstops, fun P hP hl =>
            hall P hP (Cursor.satisfies_skipBreak hP hbreak (hsatisfies P hP hl))⟩
      · next hbreak =>
          refine ⟨⟨h.tokens, h.mark, h.outerMarks, h.outerIndents⟩, ?_, hsatisfies⟩
          intro c hc
          have hplain : isBreak c = false := by
            simpa [Cursor.atBreak, hc] using hbreak
          unfold Cursor.skipComment at hc
          split at hc
          · -- A comment goes on to the end of its line.
            have hhead := List.head?_dropWhile_not (fun d => !isBreak d)
              (l.cursor.skipWhile p).rest
            rw [Cursor.peek, Cursor.rest_skipWhile] at hc
            rw [hc] at hhead
            simp [hplain] at hhead
          · next hcomment =>
              rw [Cursor.peek, Cursor.rest_skipWhile] at hc
              have hhead := List.head?_dropWhile_not p l.cursor.rest
              rw [hc, ← hp] at hhead
              simp only [h.inFlow, Bool.false_or, Bool.or_eq_false_iff,
                beq_eq_false_iff_ne, Bool.and_eq_false_iff, Bool.not_eq_false'] at hhead
              refine ⟨hhead.1, ?_, hplain, fun htab => ?_⟩
              · rintro rfl
                exact hcomment (by rw [Cursor.peek, Cursor.rest_skipWhile, hc]; rfl)
              · exact hhead.2.resolve_right fun hne => hne htab

theorem step_eq (h : l.Idle) :
    l.step = (Lexer.skipSpace (l.cursor.rest.length + 1) l).takeToken := by
  obtain ⟨hidle, -, -⟩ := h.skipSpace (Nat.lt_succ_self _)
  rw [Lexer.step_eq, hidle.dropStale, Option.bind_some, hidle.closeBlocks]

end Idle

/-! ## Document starts -/

theorem takeToken_of_atEnd {l : Lexer} (h : l.Idle) (hend : l.cursor.rest = []) :
    ∃ next, l.takeToken = some next ∧ next.tokens = .streamEnd :: l.tokens := by
  have hpeek : l.cursor.peek = none := by rw [Cursor.peek, hend]; rfl
  unfold takeToken
  rw [hpeek]
  refine ⟨(l.allowKey false).push .streamEnd, ?_, rfl⟩
  simp only [endStream, h.closeBlocks, h.dropMark, Option.map_some]

theorem takeToken_of_atMarker {l : Lexer} (h : l.Idle)
    (hmarker : l.cursor.atMarker ['-', '-', '-'] = true) :
    ∃ next, l.takeToken = some next ∧ next.Idle ∧ next.tokens.head? = some .documentStart ∧
      ∀ P, LineWise P → l.cursor.Satisfies P → next.cursor.Satisfies P := by
  obtain ⟨hcolumn, rest, hrest⟩ : l.cursor.column = 0 ∧
      ∃ rest, ['-', '-', '-'] ++ rest = l.cursor.rest := by
    have hparts := hmarker
    simp only [Cursor.atMarker, Bool.and_eq_true, beq_iff_eq, List.isPrefixOf_iff_prefix]
      at hparts
    exact hparts.1
  have hends : endsWord rest.head? = true := by
    have hparts := hmarker
    simp only [Cursor.atMarker, Bool.and_eq_true, Cursor.ahead, ← hrest] at hparts
    rw [List.head?_eq_getElem?]
    exact hparts.2
  refine ⟨((l.allowKey false).push .documentStart).advance 3, ?_, ?_, rfl, ?_⟩
  · have hpeek : l.cursor.peek = some '-' := by rw [Cursor.peek, ← hrest]; rfl
    unfold takeToken
    rw [hpeek]
    simp only [hmarker, if_true, documentMarker, h.closeBlocks, h.dropMark, Option.map_some]
    rw [if_neg (by simp)]
  · refine ⟨?_, h.mark, h.outerMarks, h.outerIndents⟩
    change Token.documentStart :: l.tokens = List.replicate (l.count + 1) .documentStart
    rw [h.tokens, List.replicate_succ]
  · intro P hP hl
    rw [Cursor.Satisfies, hcolumn, ← hrest] at hl
    have hnext : (((l.allowKey false).push .documentStart).advance 3).cursor =
        ⟨rest, l.cursor.index + 3, l.cursor.line, 3⟩ := by
      change l.cursor.skip 3 = _
      rw [Cursor.skip, ← hrest, hcolumn]
      rfl
    rw [hnext]
    exact hP.marker hends hl

/-- The lexer comes to the end behind document starts only, or to a first token that is none. -/
theorem Idle.exists_first {l final : Lexer} (h : l.Idle) {fuel : Nat}
    (hrun : run fuel l = some final) :
    ∃ first : Lexer, first.Idle ∧ first.Stops ∧
      (∀ P, LineWise P → l.cursor.Satisfies P → first.cursor.Satisfies P) ∧
      (first.cursor.rest = [] ∧
          (∃ n, final.tokens = .streamEnd :: List.replicate n .documentStart) ∨
        first.cursor.rest ≠ [] ∧ first.cursor.atMarker ['-', '-', '-'] = false ∧
          ∃ next, first.takeToken = some next ∧
            (final = next ∨ ∃ fuel, run fuel next = some final)) := by
  induction fuel generalizing l with
  | zero => simp [run] at hrun
  | succ fuel ih =>
      rw [run, h.step_eq] at hrun
      obtain ⟨hidle, hstops, hall⟩ := h.skipSpace (Nat.lt_succ_self l.cursor.rest.length)
      generalize Lexer.skipSpace (l.cursor.rest.length + 1) l = first at hrun hidle hstops hall
      by_cases hend : first.cursor.rest = []
      · obtain ⟨next, hnext, htokens⟩ := takeToken_of_atEnd hidle hend
        simp only [hnext, htokens, List.head?_cons, beq_self_eq_true, if_true,
          Option.some.injEq] at hrun
        refine ⟨first, hidle, hstops, hall, Or.inl ⟨hend, first.count, ?_⟩⟩
        rw [← hrun, htokens, hidle.tokens]
      · cases hmarker : first.cursor.atMarker ['-', '-', '-'] with
        | true =>
            obtain ⟨next, hnext, hnextIdle, hhead, hon⟩ := takeToken_of_atMarker hidle hmarker
            have hgoes : (next.tokens.head? == some Token.streamEnd) = false := by
              rw [hhead]
              rfl
            simp only [hnext, hgoes, Bool.false_eq_true, if_false] at hrun
            obtain ⟨last, hlast, hlastStops, hlastAll, hends⟩ := ih hnextIdle hrun
            exact ⟨last, hlast, hlastStops,
              fun P hP hl => hlastAll P hP (hon P hP (hall P hP hl)), hends⟩
        | false =>
            refine ⟨first, hidle, hstops, hall, Or.inr ⟨hend, hmarker, ?_⟩⟩
            cases hnext : first.takeToken with
            | none => simp [hnext] at hrun
            | some next =>
                refine ⟨next, rfl, ?_⟩
                simp only [hnext] at hrun
                split at hrun
                · exact Or.inl (Option.some.inj hrun).symm
                · exact Or.inr ⟨fuel, hrun⟩

end Lexer
end Yaml
end Provision
