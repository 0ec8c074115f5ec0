import Mathlib.Data.List.TakeWhile
import Provision.Yaml.Lexer

/-!
# Lines without content

A line of YAML text says nothing if it is white space with or without a comment, or a document start
with such a line behind it.  Lines end at every character that ends a line of YAML.  What is true of
a text line by line stays true of what is left of it while the lexer passes over white space,
comments, line ends and document starts; so the lexer comes to the first content of a text, if it
has any, with all of that.
-/

namespace Provision
namespace Yaml

/-! ## Lines -/

def lines (cs : List Char) : List (List Char) := cs.splitOnP isBreak

/-- White space of one line, and a comment behind it if there is one. -/
def IsBare (line : List Char) : Prop :=
  ∃ blanks comment, line = blanks ++ comment ∧ (∀ c ∈ blanks, isBlank c = true) ∧
    (comment = [] ∨ ∃ rest, comment = '#' :: rest)

/-- A document start at the very start of a line, and a bare line behind it. -/
def IsMarked (line : List Char) : Prop :=
  ∃ after, line = '-' :: '-' :: '-' :: after ∧ endsWord after.head? = true ∧ IsBare after

/-- A text whose lines are bare or document starts. -/
def SaysNothing (cs : List Char) : Prop := ∀ line ∈ lines cs, IsBare line ∨ IsMarked line

theorem isBare_nil : IsBare [] := ⟨[], [], rfl, by simp, Or.inl rfl⟩

theorem isBare_comment (comment : List Char) : IsBare ('#' :: comment) :=
  ⟨[], _, rfl, by simp, Or.inr ⟨comment, rfl⟩⟩

theorem isBare_cons_iff {c : Char} (hc : isBlank c = true) {line : List Char} :
    IsBare (c :: line) ↔ IsBare line := by
  constructor
  · rintro ⟨blanks, comment, hline, hblanks, hcomment⟩
    cases blanks with
    | nil =>
        rcases hcomment with rfl | ⟨rest, rfl⟩
        · simp at hline
        · obtain ⟨rfl, -⟩ := List.cons.inj hline
          exact absurd hc (by decide)
    | cons first blanks =>
        obtain ⟨-, rfl⟩ := List.cons.inj hline
        exact ⟨blanks, comment, rfl, fun d hd => hblanks d (List.mem_cons_of_mem _ hd), hcomment⟩
  · rintro ⟨blanks, comment, rfl, hblanks, hcomment⟩
    exact ⟨c :: blanks, comment, rfl, List.forall_mem_cons.mpr ⟨hc, hblanks⟩, hcomment⟩

theorem not_isBare_cons {c : Char} (hblank : isBlank c = false) (hcomment : c ≠ '#')
    (line : List Char) : ¬ IsBare (c :: line) := by
  rintro ⟨blanks, comment, hline, hblanks, h⟩
  cases blanks with
  | nil =>
      rcases h with rfl | ⟨rest, rfl⟩
      · simp at hline
      · exact hcomment (List.cons.inj hline).1
  | cons first blanks =>
      obtain ⟨rfl, -⟩ := List.cons.inj hline
      rw [hblanks c List.mem_cons_self] at hblank
      contradiction

theorem not_isMarked_cons {c : Char} (hc : c ≠ '-') (line : List Char) :
    ¬ IsMarked (c :: line) := by
  rintro ⟨after, hline, -⟩
  exact hc (List.cons.inj hline).1

theorem lines_cons {c : Char} (hc : isBreak c = false) (cs : List Char) :
    lines (c :: cs) = (lines cs).modifyHead (c :: ·) := by
  rw [lines, List.splitOnP_cons_eq_if_modifyHead, if_neg (by simp [hc])]
  rfl

theorem lines_break {c : Char} (hc : isBreak c = true) (cs : List Char) :
    lines (c :: cs) = [] :: lines cs := by
  rw [lines, List.splitOnP_cons_eq_if_modifyHead, if_pos hc]
  rfl

/-- The first line is what comes before the first line end. -/
theorem exists_of_lines {cs line : List Char} {others : List (List Char)}
    (h : lines cs = line :: others) :
    ∃ rest, cs = line ++ rest ∧ ∀ c, rest.head? = some c → isBreak c = true := by
  induction cs generalizing line others with
  | nil =>
      obtain ⟨rfl, -⟩ := List.cons.inj (h : [[]] = line :: others)
      exact ⟨[], rfl, by simp⟩
  | cons c cs ih =>
      cases hc : isBreak c with
      | true =>
          rw [lines_break hc] at h
          obtain ⟨rfl, -⟩ := List.cons.inj h
          exact ⟨c :: cs, rfl, fun d hd => Option.some.inj hd ▸ hc⟩
      | false =>
          rw [lines_cons hc] at h
          obtain ⟨first, others', hsplit⟩ :=
            List.exists_cons_of_ne_nil (List.splitOnP_ne_nil isBreak cs)
          obtain ⟨rest, hrest, hbreak⟩ := ih hsplit
          rw [lines, hsplit, List.modifyHead_cons] at h
          obtain ⟨rfl, -⟩ := List.cons.inj h
          exact ⟨rest, by rw [hrest, List.cons_append], hbreak⟩

/-- A text whose first line satisfies one condition and whose other lines satisfy another one. -/
def LinesFrom (first other : List Char → Prop) (cs : List Char) : Prop :=
  ∃ line others, lines cs = line :: others ∧ first line ∧ ∀ line ∈ others, other line

section LinesFrom

variable {first other : List Char → Prop} {c : Char} {cs : List Char}

theorem linesFrom_self : LinesFrom other other cs ↔ ∀ line ∈ lines cs, other line := by
  obtain ⟨line, others, hlines⟩ :=
    List.exists_cons_of_ne_nil (List.splitOnP_ne_nil isBreak cs)
  rw [LinesFrom, lines, hlines]
  constructor
  · rintro ⟨line', others', hsplit, hline, hothers⟩
    obtain ⟨rfl, rfl⟩ := List.cons.inj hsplit
    exact List.forall_mem_cons.mpr ⟨hline, hothers⟩
  · intro h
    exact ⟨line, others, rfl, List.forall_mem_cons.mp h⟩

theorem linesFrom_nil : LinesFrom first other [] ↔ first [] := by
  constructor
  · rintro ⟨line, others, hlines, hline, -⟩
    obtain ⟨rfl, -⟩ := List.cons.inj (hlines : [[]] = line :: others)
    exact hline
  · intro h
    exact ⟨[], [], rfl, h, by simp⟩

theorem linesFrom_break (hc : isBreak c = true) :
    LinesFrom first other (c :: cs) ↔ first [] ∧ LinesFrom other other cs := by
  rw [linesFrom_self, LinesFrom, lines_break hc]
  constructor
  · rintro ⟨line, others, hlines, hline, hothers⟩
    obtain ⟨rfl, rfl⟩ := List.cons.inj hlines
    exact ⟨hline, hothers⟩
  · rintro ⟨hline, hothers⟩
    exact ⟨[], _, rfl, hline, hothers⟩

theorem linesFrom_cons (hc : isBreak c = false) :
    LinesFrom first other (c :: cs) ↔ LinesFrom (fun line => first (c :: line)) other cs := by
  rw [LinesFrom, LinesFrom, lines_cons hc]
  constructor
  · rintro ⟨line, others, hlines, hline, hothers⟩
    obtain ⟨line', others', hsplit⟩ :=
      List.exists_cons_of_ne_nil (List.splitOnP_ne_nil isBreak cs)
    rw [lines, hsplit, List.modifyHead_cons] at hlines
    obtain ⟨rfl, rfl⟩ := List.cons.inj hlines
    exact ⟨line', others', hsplit, hline, hothers⟩
  · rintro ⟨line, others, hlines, hline, hothers⟩
    exact ⟨c :: line, others, by rw [hlines, List.modifyHead_cons], hline, hothers⟩

theorem LinesFrom.mono {first' : List Char → Prop} (h : LinesFrom first other cs)
    (hfirst : ∀ line, first line → first' line) : LinesFrom first' other cs := by
  obtain ⟨line, others, hlines, hline, hothers⟩ := h
  exact ⟨line, others, hlines, hfirst line hline, hothers⟩

/-- At the end of a line nothing is left of it. -/
theorem linesFrom_of_atEnd {first' : List Char → Prop} (hcs : ∀ c, cs.head? = some c → isBreak c)
    (h : LinesFrom first other cs) (hfirst : first' []) : LinesFrom first' other cs := by
  cases cs with
  | nil => exact linesFrom_nil.mpr hfirst
  | cons c rest =>
      have hc := hcs c rfl
      exact (linesFrom_break hc).mpr ⟨hfirst, ((linesFrom_break hc).mp h).2⟩

theorem linesFrom_append {front : List Char} (hfront : ∀ c ∈ front, isBreak c = false) :
    LinesFrom first other (front ++ cs) ↔
      LinesFrom (fun line => first (front ++ line)) other cs := by
  induction front generalizing first with
  | nil => rfl
  | cons c rest ih =>
      rw [List.cons_append, linesFrom_cons (hfront c List.mem_cons_self),
        ih (fun d hd => hfront d (List.mem_cons_of_mem _ hd))]
      rfl

end LinesFrom

/-! ## What the lexer passes over -/

/-- A condition on what is left of a text, given whether that is at the start of a line, which
survives whatever can be passed over. -/
structure LineWise (P : Bool → List Char → Prop) : Prop where
  blank : ∀ {atStart c rest}, isBlank c = true → P atStart (c :: rest) → P false rest
  comment : ∀ {atStart comment rest}, (∀ c ∈ comment, isBreak c = false) →
    (∀ c, rest.head? = some c → isBreak c = true) → P atStart ('#' :: comment ++ rest) →
      P false rest
  lineEnd : ∀ {atStart c rest}, isBreak c = true → P atStart (c :: rest) → P true rest
  marker : ∀ {rest}, endsWord rest.head? = true → P true ('-' :: '-' :: '-' :: rest) →
    P false rest

theorem isBreak_of_isBlank {c : Char} (h : isBlank c = true) : isBreak c = false := by
  simp only [isBlank, Bool.or_eq_true, beq_iff_eq] at h
  rcases h with rfl | rfl <;> decide

/-- Nothing is said from here on. -/
def SilentFrom (atStart : Bool) (cs : List Char) : Prop :=
  LinesFrom (fun line => IsBare line ∨ atStart = true ∧ IsMarked line)
    (fun line => IsBare line ∨ IsMarked line) cs

theorem silentFrom_true_iff {cs : List Char} : SilentFrom true cs ↔ SaysNothing cs := by
  simp only [SilentFrom, true_and]
  exact linesFrom_self

section Silent

variable {atStart : Bool} {c : Char} {rest comment : List Char}

theorem silentFrom_blank_iff (hc : isBlank c = true) :
    SilentFrom atStart (c :: rest) ↔ SilentFrom false rest := by
  rw [SilentFrom, linesFrom_cons (isBreak_of_isBlank hc)]
  have hmarker : c ≠ '-' := by
    rintro rfl
    exact absurd hc (by decide)
  constructor
  · refine fun h => h.mono fun line hline => Or.inl ?_
    rcases hline with hbare | ⟨-, hmarked⟩
    · exact (isBare_cons_iff hc).mp hbare
    · exact absurd hmarked (not_isMarked_cons hmarker line)
  · refine fun h => h.mono fun line hline => Or.inl ?_
    rcases hline with hbare | ⟨hfalse, -⟩
    · exact (isBare_cons_iff hc).mpr hbare
    · contradiction

theorem silentFrom_comment_iff (hcomment : ∀ d ∈ comment, isBreak d = false)
    (hrest : ∀ d, rest.head? = some d → isBreak d = true) :
    SilentFrom atStart ('#' :: comment ++ rest) ↔ SilentFrom false rest := by
  have hfront : ∀ d ∈ '#' :: comment, isBreak d = false :=
    List.forall_mem_cons.mpr ⟨by decide, hcomment⟩
  rw [SilentFrom, linesFrom_append hfront]
  constructor
  · exact fun h => linesFrom_of_atEnd hrest h (Or.inl isBare_nil)
  · exact fun h => h.mono fun line _ => Or.inl (isBare_comment (comment ++ line))

theorem silentFrom_break_iff (hc : isBreak c = true) :
    SilentFrom atStart (c :: rest) ↔ SilentFrom true rest := by
  rw [silentFrom_true_iff, SaysNothing, ← linesFrom_self, SilentFrom, linesFrom_break hc]
  exact and_iff_right (Or.inl isBare_nil)

theorem silentFrom_marker_iff (hrest : endsWord rest.head? = true) :
    SilentFrom true ('-' :: '-' :: '-' :: rest) ↔ SilentFrom false rest := by
  have hfront : ∀ d ∈ ['-', '-', '-'], isBreak d = false := by decide
  change LinesFrom _ _ (['-', '-', '-'] ++ rest) ↔ _
  rw [linesFrom_append hfront]
  constructor
  · refine fun h => h.mono fun line hline => Or.inl ?_
    rcases hline with hbare | ⟨-, after, hsplit, -, hbare⟩
    · exact absurd hbare (not_isBare_cons (by decide) (by decide) _)
    · exact (List.append_cancel_left hsplit : line = after) ▸ hbare
  · -- What ends the marker is seen in the text, and it is at the start of the line's rest too.
    intro h
    cases rest with
    | nil =>
        exact linesFrom_nil.mpr (Or.inr ⟨rfl, [], rfl, rfl, isBare_nil⟩)
    | cons c rest =>
        cases hc : isBreak c with
        | true =>
            exact linesFrom_of_atEnd (fun d hd => by cases hd; exact hc) h
              (Or.inr ⟨rfl, [], rfl, rfl, isBare_nil⟩)
        | false =>
            have hline := (linesFrom_cons hc).mp h
            refine (linesFrom_cons hc).mpr (hline.mono fun line hbare => ?_)
            rcases hbare with hbare | ⟨hfalse, -⟩
            · exact Or.inr ⟨rfl, c :: line, rfl, hrest, hbare⟩
            · contradiction

/-- Where nothing is said there is white space, a comment, a line end or a document start. -/
theorem SilentFrom.head_cases (h : SilentFrom atStart (c :: rest)) :
    isBlank c = true ∨ c = '#' ∨ isBreak c = true ∨
      atStart = true ∧ ['-', '-', '-'] <+: c :: rest ∧ endsWord (c :: rest)[3]? = true := by
  obtain ⟨line, others, hlines, hline, -⟩ := h
  obtain ⟨following, hsplit, hbreak⟩ := exists_of_lines hlines
  cases line with
  | nil =>
      exact Or.inr (Or.inr (Or.inl (hbreak c (by rw [← List.nil_append following, ← hsplit]; rfl))))
  | cons d line =>
      obtain rfl := (List.cons.inj hsplit).1
      rcases hline with hbare | ⟨hstart, after, hmarked, hends, -⟩
      · by_contra hcontent
        simp only [not_or, Bool.not_eq_true] at hcontent
        exact not_isBare_cons hcontent.1 hcontent.2.1 line hbare
      · refine Or.inr (Or.inr (Or.inr ⟨hstart, ?_⟩))
        rw [hsplit, hmarked]
        refine ⟨⟨after ++ following, rfl⟩, ?_⟩
        -- What ends the marker is on its line, or the line ends with the marker.
        change endsWord (after ++ following)[0]? = true
        rw [← List.head?_eq_getElem?, List.head?_append]
        cases after with
        | cons e after => exact hends
        | nil =>
            cases hhead : following.head? with
            | none => rfl
            | some e => exact Bool.or_eq_true_iff.mpr (Or.inr (hbreak e hhead))

end Silent

theorem lineWise_silentFrom : LineWise SilentFrom where
  blank hc := (silentFrom_blank_iff hc).mp
  comment hcomment hrest := (silentFrom_comment_iff hcomment hrest).mp
  lineEnd hc := (silentFrom_break_iff hc).mp
  marker hrest := (silentFrom_marker_iff hrest).mp

theorem lineWise_not_silentFrom : LineWise (fun atStart cs => ¬ SilentFrom atStart cs) where
  blank hc := mt (silentFrom_blank_iff hc).mpr
  comment hcomment hrest := mt (silentFrom_comment_iff hcomment hrest).mpr
  lineEnd hc := mt (silentFrom_break_iff hc).mpr
  marker hrest := mt (silentFrom_marker_iff hrest).mpr

/-! ## Cursors -/

namespace Cursor

variable {P : Bool → List Char → Prop} {p : Char → Bool}

/-- What a condition says at a cursor. -/
def Satisfies (P : Bool → List Char → Prop) (c : Cursor) : Prop := P (c.column == 0) c.rest

@[simp] theorem rest_skipWhile (c : Cursor) (p : Char → Bool) :
    (c.skipWhile p).rest = c.rest.dropWhile p := by
  calc c.rest.drop (c.rest.takeWhile p).length
      = (c.rest.takeWhile p ++ c.rest.dropWhile p).drop (c.rest.takeWhile p).length := by
        rw [List.takeWhile_append_dropWhile]
    _ = c.rest.dropWhile p := List.drop_left

@[simp] theorem column_skipWhile (c : Cursor) (p : Char → Bool) :
    (c.skipWhile p).column = c.column + (c.rest.takeWhile p).length := rfl

theorem satisfies_skipWhile (hP : LineWise P) (hp : ∀ d, p d = true → isBlank d = true)
    {c : Cursor} (h : c.Satisfies P) : (c.skipWhile p).Satisfies P := by
  have hblanks : ∀ (blanks rest : List Char) (atStart : Bool), (∀ d ∈ blanks, p d = true) →
      blanks ≠ [] → P atStart (blanks ++ rest) → P false rest := by
    intro blanks rest
    induction blanks with
    | nil => exact fun _ _ hne => absurd rfl hne
    | cons d others ih =>
        intro atStart hall _ hrest
        obtain ⟨hd, hothers⟩ := List.forall_mem_cons.mp hall
        have hfalse := hP.blank (hp d hd) hrest
        cases others with
        | nil => exact hfalse
        | cons _ _ => exact ih false hothers (List.cons_ne_nil _ _) hfalse
  rw [Satisfies, rest_skipWhile, column_skipWhile]
  rw [Satisfies, ← List.takeWhile_append_dropWhile (p := p) (l := c.rest)] at h
  by_cases hnone : c.rest.takeWhile p = []
  · simpa [hnone] using h
  · have hcolumn : (c.column + (c.rest.takeWhile p).length == 0) = false := by
      have hlength := List.length_pos_iff.mpr hnone
      rw [beq_eq_false_iff_ne]
      omega
    rw [hcolumn]
    exact hblanks _ _ _ (fun d hd => List.mem_takeWhile_imp hd) hnone h

theorem satisfies_skipComment (hP : LineWise P) {c : Cursor} (h : c.Satisfies P) :
    c.skipComment.Satisfies P := by
  unfold skipComment
  split
  · next hpeek =>
      obtain ⟨rest, hrest⟩ : ∃ rest, c.rest = '#' :: rest := by
        rw [beq_iff_eq, peek, List.head?_eq_some_iff] at hpeek
        exact hpeek
      have htaken : c.rest.takeWhile (fun d => !isBreak d) =
          '#' :: rest.takeWhile (fun d => !isBreak d) := by
        rw [hrest]
        rfl
      rw [Satisfies, rest_skipWhile, column_skipWhile, htaken, List.length_cons]
      rw [Satisfies, ← List.takeWhile_append_dropWhile (p := fun d => !isBreak d) (l := c.rest),
        htaken] at h
      refine hP.comment (fun d hd => ?_) (fun d hd => ?_) h
      · simpa using List.mem_takeWhile_imp hd
      · have hhead := List.head?_dropWhile_not (fun d => !isBreak d) c.rest
        rw [hd] at hhead
        simpa using hhead
  · exact h

theorem satisfies_skipBreak (hP : LineWise P) {c : Cursor} (hbreak : c.atBreak = true)
    (h : c.Satisfies P) : c.skipBreak.Satisfies P := by
  obtain ⟨rest, index, line, column⟩ := c
  cases rest with
  | nil => simp [atBreak, peek] at hbreak
  | cons d rest =>
      have hd : isBreak d = true := by simpa [atBreak, peek] using hbreak
      have hnext := hP.lineEnd hd h
      unfold skipBreak
      split
      · next heq =>
          obtain ⟨rfl, rfl⟩ := List.cons.inj heq
          exact hP.lineEnd (by decide) hnext
      · next heq =>
          obtain ⟨rfl, rfl⟩ := List.cons.inj heq
          exact hnext
      · next heq => contradiction

theorem length_skipBreak {c : Cursor} (hbreak : c.atBreak = true) :
    c.skipBreak.rest.length < c.rest.length := by
  obtain ⟨rest, index, line, column⟩ := c
  cases rest with
  | nil => simp [atBreak, peek] at hbreak
  | cons d rest =>
      unfold skipBreak
      split
      · next heq =>
          simp only at heq
          rw [heq]
          simp only [List.length_cons]
          omega
      · next heq =>
          obtain ⟨rfl, rfl⟩ := List.cons.inj heq
          simp
      · next heq => contradiction

theorem length_skipComment (c : Cursor) : c.skipComment.rest.length ≤ c.rest.length := by
  unfold skipComment
  split
  · rw [rest_skipWhile]
    exact (List.dropWhile_sublist _).length_le
  · exact Nat.le_refl _

end Cursor
end Yaml
end Provision
