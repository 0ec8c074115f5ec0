import Provision.Proofs.Text.Lines

/-!
# Nested blocks, line by line

Nesting keeps the lines of a text in their order and puts tabs before those that are not empty; all
that it can add is an empty line in front.  So nesting twice is nesting by the sum of the depths,
and wherever a nested text stands, none of its lines starts where the lines around it do.
-/

namespace Provision
namespace Text

/-! ## Lines of a joined text -/

theorem pieces_joinPieces {cut : Char} {ps : List (List Char)} (hne : ps ≠ [])
    (h : ∀ piece ∈ ps, cut ∉ piece) : pieces cut (joinPieces cut ps) = ps := by
  induction ps with
  | nil => exact absurd rfl hne
  | cons piece rest ih =>
      have hpiece := h piece List.mem_cons_self
      cases rest with
      | nil => exact pieces_of_notMem hpiece
      | cons second more =>
          have hrest := ih (List.cons_ne_nil second more)
            (fun other hother => h other (List.mem_cons_of_mem piece hother))
          rw [joinPieces_cons cut piece (List.cons_ne_nil second more), pieces_append_cons hpiece,
            hrest]

theorem mem_joinPieces {cut c : Char} {pieces : List (List Char)}
    (h : c ∈ joinPieces cut pieces) : c = cut ∨ ∃ piece ∈ pieces, c ∈ piece := by
  induction pieces with
  | nil => exact absurd h List.not_mem_nil
  | cons piece others ih =>
      by_cases hlast : others = []
      · subst hlast
        exact Or.inr ⟨piece, List.mem_cons_self, h⟩
      · rw [joinPieces_cons cut piece hlast, List.mem_append, List.mem_cons] at h
        rcases h with hpiece | rfl | hothers
        · exact Or.inr ⟨piece, List.mem_cons_self, hpiece⟩
        · exact Or.inl rfl
        · exact (ih hothers).imp_right
            (fun ⟨other, hother, hc⟩ => ⟨other, List.mem_cons_of_mem piece hother, hc⟩)

/-- Without the cuts, what was joined is a flat text. -/
theorem filter_joinPieces {cut : Char} {pieces : List (List Char)}
    (h : ∀ piece ∈ pieces, cut ∉ piece) :
    (joinPieces cut pieces).filter (· ≠ cut) = pieces.flatten := by
  induction pieces with
  | nil => rfl
  | cons piece others ih =>
      obtain ⟨hpiece, hothers⟩ := List.forall_mem_cons.mp h
      have hkept : piece.filter (· ≠ cut) = piece :=
        List.filter_eq_self.mpr
          (fun c hc => decide_eq_true (fun heq : c = cut => hpiece (heq ▸ hc)))
      by_cases hlast : others = []
      · subst hlast
        simpa [joinPieces] using hkept
      · rw [joinPieces_cons cut piece hlast, List.filter_append, hkept,
          List.filter_cons_of_neg (by simp), ih hothers, List.flatten_cons]

/-- A text is known by its lines. -/
theorem pieces_injective (cut : Char) : Function.Injective (pieces cut) := by
  intro cs others heq
  rw [← joinPieces_pieces cut cs, heq, joinPieces_pieces]

/-! ## Nested lines -/

section Lines

variable {depth : Nat} {line : List Char}

@[simp] theorem indentLine_nil : indentLine depth [] = [] := rfl

theorem indentLine_of_ne_nil (h : line ≠ []) :
    indentLine depth line = List.replicate depth '\t' ++ line :=
  if_neg h

theorem indentLine_eq_nil_iff : indentLine depth line = [] ↔ line = [] := by
  by_cases h : line = []
  · simp [h]
  · simp [indentLine_of_ne_nil h, h]

theorem lineEnd_notMem_indentLine (h : '\n' ∉ line) : '\n' ∉ indentLine depth line := by
  by_cases hempty : line = []
  · simp [hempty]
  · rw [indentLine_of_ne_nil hempty, List.mem_append, List.mem_replicate]
    rintro (⟨-, htab⟩ | hline)
    · exact absurd htab (by decide)
    · exact h hline

theorem indentLine_indentLine (n m : Nat) (line : List Char) :
    indentLine m (indentLine n line) = indentLine (n + m) line := by
  by_cases hempty : line = []
  · simp [hempty]
  · have hinner : indentLine n line ≠ [] := fun hnil => hempty (indentLine_eq_nil_iff.mp hnil)
    rw [indentLine_of_ne_nil hinner, indentLine_of_ne_nil hempty, indentLine_of_ne_nil hempty,
      ← List.append_assoc, List.replicate_append_replicate, Nat.add_comm]

end Lines

/-! ## Nested texts -/

section Texts

variable {depth : Nat}

/-- The empty line that nesting puts before a text. -/
def leadingLines (cs : List Char) : List (List Char) :=
  if cs.head? = some '\n' then [] else [[]]

/-- The lines of a nested text are those of the text. -/
theorem pieces_indentWrap (hdepth : depth ≠ 0) (cs : List Char) :
    pieces '\n' (indentWrap depth cs) =
      leadingLines cs ++ (pieces '\n' cs).map (indentLine depth) := by
  have hbody : pieces '\n' (joinPieces '\n' ((pieces '\n' cs).map (indentLine depth))) =
      (pieces '\n' cs).map (indentLine depth) := by
    apply pieces_joinPieces
    · exact fun hnil => pieces_ne_nil _ _ (List.map_eq_nil_iff.mp hnil)
    · rw [List.forall_mem_map]
      exact fun line hline => lineEnd_notMem_indentLine (notMem_of_mem_pieces hline)
  rw [indentWrap, if_neg hdepth, leadingLines]
  split
  · exact hbody
  · rw [List.singleton_append, pieces, if_pos rfl, hbody]
    rfl

theorem head?_indentWrap (hdepth : depth ≠ 0) (cs : List Char) :
    (indentWrap depth cs).head? = some '\n' := by
  rw [indentWrap, if_neg hdepth]
  split
  · next hstart =>
      -- The first line is empty, and another one follows it.
      obtain ⟨rest, rfl⟩ := List.head?_eq_some_iff.mp hstart
      obtain ⟨first, others, hpieces⟩ := List.exists_cons_of_ne_nil (pieces_ne_nil '\n' rest)
      rw [pieces, if_pos rfl, hpieces]
      rfl
  · rfl

theorem indentWrap_indentWrap (n m : Nat) (cs : List Char) :
    indentWrap m (indentWrap n cs) = indentWrap (n + m) cs := by
  rcases Nat.eq_zero_or_pos n with rfl | hn
  · rw [Nat.zero_add]
    rfl
  rcases Nat.eq_zero_or_pos m with rfl | hm
  · rfl
  have hstart : leadingLines (indentWrap n cs) = [] := if_pos (head?_indentWrap hn.ne' cs)
  have hleading : (leadingLines cs).map (indentLine m) = leadingLines cs := by
    unfold leadingLines
    split <;> rfl
  apply pieces_injective '\n'
  calc
    pieces '\n' (indentWrap m (indentWrap n cs)) =
        (pieces '\n' (indentWrap n cs)).map (indentLine m) := by
      rw [pieces_indentWrap hm.ne', hstart, List.nil_append]
    _ = leadingLines cs ++ (pieces '\n' cs).map (indentLine (n + m)) := by
      rw [pieces_indentWrap hn.ne', List.map_append, hleading, List.map_map]
      congr 2
      exact funext (indentLine_indentLine n m)
    _ = pieces '\n' (indentWrap (n + m) cs) :=
      (pieces_indentWrap (Nat.add_pos_left hn m).ne' cs).symm

/-- A text is nested part by part where it is cut at the end of a line, unless an empty line stands
at the cut. -/
theorem indentWrap_append_cons (hdepth : depth ≠ 0) {front rest : List Char} (hfront : front ≠ [])
    (hrest : rest.head? ≠ some '\n') :
    indentWrap depth (front ++ '\n' :: rest) =
      indentWrap depth front ++ indentWrap depth rest := by
  obtain ⟨more, hmore⟩ := List.head?_eq_some_iff.mp (head?_indentWrap hdepth rest)
  have hlines : pieces '\n' more = (pieces '\n' rest).map (indentLine depth) := by
    have hall := pieces_indentWrap hdepth rest
    rw [hmore, pieces, if_pos rfl, leadingLines, if_neg hrest, List.singleton_append] at hall
    exact (List.cons.inj hall).2
  have hstart : leadingLines (front ++ '\n' :: rest) = leadingLines front := by
    cases front with
    | nil => exact absurd rfl hfront
    | cons c others => rfl
  apply pieces_injective '\n'
  rw [pieces_indentWrap hdepth, pieces_append_cut, hstart, hmore, pieces_append_cut,
    pieces_indentWrap hdepth, hlines, List.map_append, List.append_assoc]

/-- A text stands so many levels deep in another one: on lines of its own, each of them a line of
the text behind tabs unless it is empty. -/
structure IsNested (depth : Nat) (cs nested : List Char) : Prop where
  startsLine : nested.head? = some '\n'
  inOrder : pieces '\n' nested = (pieces '\n' cs).map (indentLine depth) ∨
    pieces '\n' nested = [] :: (pieces '\n' cs).map (indentLine depth)
  ofLine : ∀ line ∈ pieces '\n' nested, line ≠ [] →
    ∃ own ∈ pieces '\n' cs, own ≠ [] ∧ line = List.replicate depth '\t' ++ own
  /-- Between other lines, no line of it starts where those do. -/
  enclosed : ∀ before after, ∃ own,
    pieces '\n' (before ++ nested ++ '\n' :: after) =
      pieces '\n' before ++ own ++ pieces '\n' after ∧
    ∀ line ∈ own, line = [] ∨ line.head? = some '\t'

theorem eq_indentLine_of_mem_pieces (hdepth : depth ≠ 0) {cs line : List Char}
    (hline : line ∈ pieces '\n' (indentWrap depth cs)) :
    line = [] ∨ ∃ own ∈ pieces '\n' cs, own ≠ [] ∧ line = List.replicate depth '\t' ++ own := by
  rw [pieces_indentWrap hdepth, List.mem_append, List.mem_map] at hline
  rcases hline with hleading | ⟨own, hown, rfl⟩
  · unfold leadingLines at hleading
    split at hleading
    · exact absurd hleading List.not_mem_nil
    · exact Or.inl (List.mem_singleton.mp hleading)
  · by_cases hempty : own = []
    · exact Or.inl (indentLine_eq_nil_iff.mpr hempty)
    · exact Or.inr ⟨own, hown, hempty, indentLine_of_ne_nil hempty⟩

theorem isNested_indentWrap (hdepth : depth ≠ 0) (cs : List Char) :
    IsNested depth cs (indentWrap depth cs) where
  startsLine := head?_indentWrap hdepth cs
  inOrder := by
    rw [pieces_indentWrap hdepth, leadingLines]
    split
    · exact Or.inl rfl
    · exact Or.inr rfl
  ofLine := fun line hline hne => (eq_indentLine_of_mem_pieces hdepth hline).resolve_left hne
  enclosed := by
    intro before after
    obtain ⟨rest, hrest⟩ := List.head?_eq_some_iff.mp (head?_indentWrap hdepth cs)
    refine ⟨pieces '\n' rest, ?_, ?_⟩
    · rw [hrest, List.append_assoc, List.cons_append, pieces_append_cut, pieces_append_cut,
        List.append_assoc]
    · intro line hline
      have hown : line ∈ pieces '\n' (indentWrap depth cs) := by
        rw [hrest, pieces, if_pos rfl]
        exact List.mem_cons_of_mem [] hline
      refine (eq_indentLine_of_mem_pieces hdepth hown).imp_right ?_
      rintro ⟨own, -, -, rfl⟩
      obtain ⟨more, rfl⟩ := Nat.exists_eq_succ_of_ne_zero hdepth
      rw [List.replicate_succ]
      rfl

/-- Nesting twice is nesting by both depths at once, and nesting by any number of levels puts the
lines of a text, in their order and behind so many tabs, on lines of their own. -/
theorem indentWrap_add_and_isNested (cs : List Char) :
    (∀ n m, indentWrap m (indentWrap n cs) = indentWrap (n + m) cs) ∧
      ∀ depth, IsNested (depth + 1) cs (indentWrap (depth + 1) cs) :=
  ⟨fun n m => indentWrap_indentWrap n m cs,
    fun depth => isNested_indentWrap (Nat.succ_ne_zero depth) cs⟩

end Texts

end Text
end Provision
