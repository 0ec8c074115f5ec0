import Mathlib.Data.List.TakeWhile
import Provision.Text.Blank
import Provision.Text.Indent

/-!
# Texts made of lines

Texts as lists of lines: cutting such a text gives its lines back, trimming takes no more than the
last line end away when both ends are not blank, and nesting indents line by line.
-/

namespace Provision
namespace Text

/-- What is said of all characters of a text is decided along the text. -/
instance decidableForallMem {P : Char → Prop} [DecidablePred P] (cs : List Char) :
    Decidable (∀ c ∈ cs, P c) :=
  List.decidableBAll P cs

/-- Lines one below the other, each of them ended. -/
def unlines (lines : List String) : String :=
  String.join (lines.map (· ++ "\n"))

@[simp] theorem unlines_nil : unlines [] = "" := rfl

@[simp] theorem unlines_cons (line : String) (lines : List String) :
    unlines (line :: lines) = line ++ ("\n" ++ unlines lines) := by
  rw [unlines, List.map_cons, String.join_cons, String.append_assoc]
  rfl

@[simp] theorem unlines_append (lines others : List String) :
    unlines (lines ++ others) = unlines lines ++ unlines others := by
  induction lines with
  | nil => rw [List.nil_append, unlines_nil, String.empty_append]
  | cons line rest ih => simp only [List.cons_append, unlines_cons, ih, String.append_assoc]

@[simp] theorem unlines_map {α : Type} (line : α → String) (items : List α) :
    unlines (items.map line) = String.join (items.map (fun item => line item ++ "\n")) := by
  rw [unlines, List.map_map]
  rfl

theorem unlines_flatMap {α : Type} (lines : α → List String) (items : List α) :
    unlines (items.flatMap lines) = String.join (items.map (fun item => unlines (lines item))) := by
  induction items with
  | nil => rfl
  | cons item rest ih =>
      rw [List.flatMap_cons, unlines_append, ih, List.map_cons, String.join_cons]

def trimmed (s : String) : String := String.ofList (trim s.toList)

/-- The lines of a text, nested by one level, behind the line that they belong to. -/
def nested (s : String) : String := String.ofList (indentWrap 1 s.toList)

/-! ## Cutting -/

theorem pieces_of_notMem {cut : Char} {cs : List Char} (h : cut ∉ cs) : pieces cut cs = [cs] := by
  induction cs with
  | nil => rfl
  | cons c rest ih =>
      have hc : c ≠ cut := fun heq => h (heq ▸ List.mem_cons_self)
      have hrest : cut ∉ rest := fun hmem => h (List.mem_cons_of_mem c hmem)
      rw [pieces, if_neg hc, ih hrest]

theorem pieces_append_cut (cut : Char) (front rest : List Char) :
    pieces cut (front ++ cut :: rest) = pieces cut front ++ pieces cut rest := by
  induction front with
  | nil => simp [pieces]
  | cons c others ih =>
      rw [List.cons_append, pieces, pieces, ih]
      by_cases hc : c = cut
      · rw [if_pos hc, if_pos hc, List.cons_append]
      · rw [if_neg hc, if_neg hc]
        obtain ⟨first, more, hpieces⟩ := List.exists_cons_of_ne_nil (pieces_ne_nil cut others)
        rw [hpieces]
        rfl

theorem pieces_append_cons {cut : Char} {piece : List Char} (h : cut ∉ piece) (rest : List Char) :
    pieces cut (piece ++ cut :: rest) = piece :: pieces cut rest := by
  rw [pieces_append_cut, pieces_of_notMem h, List.singleton_append]

theorem toList_unlines_cons (line : String) (lines : List String) :
    (unlines (line :: lines)).toList = line.toList ++ '\n' :: (unlines lines).toList := by
  simp [unlines_cons]

section Pieces

variable {α : Type} {line : α → String} {items : List α}

/-- Cutting a text made of lines gives the lines back, and the end of the text behind them. -/
theorem pieces_unlines_append (h : ∀ item ∈ items, '\n' ∉ (line item).toList)
    (rest : List Char) :
    pieces '\n' ((unlines (items.map line)).toList ++ rest) =
      items.map (fun item => (line item).toList) ++ pieces '\n' rest := by
  induction items with
  | nil => rfl
  | cons item others ih =>
      have hline := h item List.mem_cons_self
      have hothers := ih (fun other hother => h other (List.mem_cons_of_mem item hother))
      rw [List.map_cons, toList_unlines_cons, List.append_assoc, List.cons_append,
        pieces_append_cons hline, hothers, List.map_cons, List.cons_append]

/-- What stands behind the last line end counts as an empty line. -/
theorem pieces_unlines (h : ∀ item ∈ items, '\n' ∉ (line item).toList) :
    pieces '\n' (unlines (items.map line)).toList =
      items.map (fun item => (line item).toList) ++ [[]] := by
  have hpieces := pieces_unlines_append h []
  rwa [List.append_nil] at hpieces

end Pieces

/-- A line that is one stands in a text, whatever the other lines are. -/
theorem mem_pieces_unlines {lines : List String} {line : String} (hmem : line ∈ lines)
    (hline : '\n' ∉ line.toList) : line.toList ∈ pieces '\n' (unlines lines).toList := by
  induction lines with
  | nil => exact absurd hmem List.not_mem_nil
  | cons first others ih =>
      rw [toList_unlines_cons, pieces_append_cut, List.mem_append]
      rcases List.mem_cons.mp hmem with rfl | hothers
      · rw [pieces_of_notMem hline]
        exact Or.inl List.mem_cons_self
      · exact Or.inr (ih hothers)

/-- What has no cut in it stays at the front of the first piece. -/
theorem exists_pieces_append {cut : Char} {front : List Char} (h : cut ∉ front)
    (rest : List Char) :
    ∃ first others, pieces cut (front ++ rest) = (front ++ first) :: others := by
  induction front with
  | nil => exact List.exists_cons_of_ne_nil (pieces_ne_nil cut rest)
  | cons c more ih =>
      have hc : c ≠ cut := fun heq => h (heq ▸ List.mem_cons_self)
      obtain ⟨first, others, hpieces⟩ := ih (fun hmem => h (List.mem_cons_of_mem c hmem))
      exact ⟨first, others, by rw [List.cons_append, pieces, if_neg hc, hpieces]; rfl⟩

theorem notMem_of_mem_pieces {cut : Char} {cs piece : List Char} (h : piece ∈ pieces cut cs) :
    cut ∉ piece := by
  induction cs generalizing piece with
  | nil =>
      rw [pieces, List.mem_singleton] at h
      rw [h]
      exact List.not_mem_nil
  | cons c rest ih =>
      rw [pieces] at h
      split at h
      · rcases List.mem_cons.mp h with rfl | hrest
        · exact List.not_mem_nil
        · exact ih hrest
      · next hc =>
          cases hpieces : pieces cut rest with
          | nil => exact absurd hpieces (pieces_ne_nil cut rest)
          | cons first others =>
              rw [hpieces] at h ih
              rcases List.mem_cons.mp h with rfl | hothers
              · have hfirst := ih List.mem_cons_self
                exact List.not_mem_cons_of_ne_of_not_mem (fun heq => hc heq.symm) hfirst
              · exact ih (List.mem_cons_of_mem first hothers)

theorem isPrefix_of_pieces_eq_cons {cut : Char} {cs first : List Char} {others : List (List Char)}
    (h : pieces cut cs = first :: others) : first <+: cs := by
  induction cs generalizing first others with
  | nil =>
      rw [pieces] at h
      exact (List.cons.inj h).1 ▸ List.nil_prefix
  | cons c rest ih =>
      rw [pieces] at h
      split at h
      · exact (List.cons.inj h).1 ▸ List.nil_prefix
      · cases hrest : pieces cut rest with
        | nil => exact absurd hrest (pieces_ne_nil cut rest)
        | cons piece more =>
            rw [hrest] at h
            obtain ⟨rfl, -⟩ := List.cons.inj h
            exact List.cons_prefix_cons.mpr ⟨rfl, ih hrest⟩

theorem isInfix_of_mem_pieces {cut : Char} {cs piece : List Char} (h : piece ∈ pieces cut cs) :
    piece <:+: cs := by
  induction cs generalizing piece with
  | nil =>
      rw [pieces] at h
      obtain rfl := List.mem_singleton.mp h
      exact List.infix_rfl
  | cons c rest ih =>
      cases hpieces : pieces cut (c :: rest) with
      | nil => exact absurd hpieces (pieces_ne_nil cut (c :: rest))
      | cons first others =>
          have hrest : ∀ other ∈ others, other ∈ pieces cut rest := by
            rw [pieces] at hpieces
            split at hpieces
            · exact (List.cons.inj hpieces).2 ▸ fun _ hother => hother
            · cases hmore : pieces cut rest with
              | nil => exact absurd hmore (pieces_ne_nil cut rest)
              | cons piece more =>
                  rw [hmore] at hpieces
                  obtain ⟨-, rfl⟩ := List.cons.inj hpieces
                  exact fun _ hother => List.mem_cons_of_mem piece hother
          rw [hpieces] at h
          rcases List.mem_cons.mp h with rfl | hother
          · exact (isPrefix_of_pieces_eq_cons hpieces).isInfix
          · exact (ih (hrest piece hother)).trans (List.suffix_cons c rest).isInfix

/-- What has no cut in it stands on one side of a cut. -/
theorem isInfix_append_cons {cut : Char} {part front rest : List Char} (hcut : cut ∉ part)
    (h : part <:+: front ++ cut :: rest) : part <:+: front ∨ part <:+: rest := by
  have hnil : ∀ more, more <+: cut :: rest → (∀ c ∈ more, c ∈ part) → more = [] := by
    intro more hstart hmore
    cases more with
    | nil => rfl
    | cons c others =>
        have hc : c = cut := (List.cons_prefix_cons.mp hstart).1
        exact absurd (hmore c List.mem_cons_self) (hc ▸ hcut)
  rcases List.infix_append_iff.mp h with hleft | hright | ⟨left, right, rfl, hleft, hright⟩
  · exact Or.inl hleft
  · rcases List.infix_cons_iff.mp hright with hstart | hoccurs
    · rw [hnil part hstart (fun _ hc => hc)]
      exact Or.inl List.nil_infix
    · exact Or.inr hoccurs
  · rw [hnil right hright (fun _ hc => List.mem_append_right left hc), List.append_nil]
    exact Or.inl hleft.isInfix

/-- The lines of a text, the last of them not ended. -/
def splits (s : String) : List String :=
  (pieces '\n' s.toList).map String.ofList

theorem exists_pieces_cons {cut c : Char} (hc : c ≠ cut) (cs : List Char) :
    ∃ first others, pieces cut cs = first :: others ∧
      pieces cut (c :: cs) = (c :: first) :: others := by
  obtain ⟨first, others, hpieces⟩ := List.exists_cons_of_ne_nil (pieces_ne_nil cut cs)
  exact ⟨first, others, hpieces, by rw [pieces, if_neg hc, hpieces]⟩

theorem dropCarriageReturn_append (line : List Char) :
    ∃ tail, line = dropCarriageReturn line ++ tail ∧ (tail = [] ∨ tail = ['\r']) := by
  fun_induction dropCarriageReturn line with
  | case1 => exact ⟨[], rfl, Or.inl rfl⟩
  | case2 => exact ⟨['\r'], rfl, Or.inr rfl⟩
  | case3 c rest _ ih =>
      obtain ⟨tail, hrest, htail⟩ := ih
      exact ⟨tail, by rw [List.cons_append, ← hrest], htail⟩

/-- A piece is a line, with or without a carriage return, or empty. -/
theorem exists_line_of_mem_pieces {cs piece : List Char} (h : piece ∈ pieces '\n' cs) :
    piece = [] ∨ ∃ line ∈ lines cs, ∃ tail, piece = line ++ tail ∧ (tail = [] ∨ tail = ['\r']) := by
  unfold lines
  generalize pieces '\n' cs = all at h
  fun_induction lines.go all with
  | case1 => contradiction
  | case2 => exact Or.inl (List.mem_singleton.mp h)
  | case3 final => exact Or.inr ⟨final, List.mem_singleton_self _, [], by simpa using h, Or.inl rfl⟩
  | case4 first rest _ _ ih =>
      rcases List.mem_cons.mp h with rfl | hrest
      · obtain ⟨tail, hpiece, htail⟩ := dropCarriageReturn_append piece
        exact Or.inr ⟨_, List.mem_cons_self, tail, hpiece, htail⟩
      · refine (ih hrest).imp id ?_
        rintro ⟨line, hline, hpiece⟩
        exact ⟨line, List.mem_cons_of_mem _ hline, hpiece⟩

/-! ## Trimming -/

/-- A text does not start with a blank character. -/
def StartsSolid (s : String) : Prop :=
  ∃ c rest, s.toList = c :: rest ∧ isBlank c = false

/-- A text does not end in a blank character. -/
def EndsSolid (s : String) : Prop :=
  ∃ front c, s.toList = front ++ [c] ∧ isBlank c = false

theorem StartsSolid.append {s : String} (h : StartsSolid s) (t : String) :
    StartsSolid (s ++ t) := by
  obtain ⟨c, rest, hs, hc⟩ := h
  refine ⟨c, rest ++ t.toList, ?_, hc⟩
  rw [String.toList_append, hs, List.cons_append]

theorem EndsSolid.append {t : String} (h : EndsSolid t) (s : String) : EndsSolid (s ++ t) := by
  obtain ⟨front, c, ht, hc⟩ := h
  refine ⟨s.toList ++ front, c, ?_, hc⟩
  rw [String.toList_append, ht, List.append_assoc]

theorem trimEnd_cons {c : Char} (hc : isBlank c = false) (cs : List Char) :
    trimEnd (c :: cs) = c :: trimEnd cs := by
  rw [trimEnd]
  split
  · next hnil => rw [hnil, hc]; rfl
  · rfl

theorem exists_of_trimEnd_eq_cons {c : Char} {cs kept : List Char}
    (h : trimEnd cs = c :: kept) : ∃ rest, cs = c :: rest ∧ trimEnd rest = kept := by
  cases cs with
  | nil => contradiction
  | cons d rest =>
      rw [trimEnd] at h
      split at h
      · next hnil =>
          split at h
          · contradiction
          · obtain ⟨rfl, rfl⟩ := List.cons.inj h
            exact ⟨rest, rfl, hnil⟩
      · obtain ⟨rfl, rfl⟩ := List.cons.inj h
        exact ⟨rest, rfl, rfl⟩

theorem trimEnd_append_solid (front : List Char) {c : Char} (hc : isBlank c = false)
    {rest : List Char} (hrest : rest.all isBlank = true) :
    trimEnd (front ++ c :: rest) = front ++ [c] := by
  induction front with
  | nil =>
      have hnil : trimEnd rest = [] := (trimEnd_eq_nil_iff rest).mpr hrest
      simp [trimEnd, hnil, hc]
  | cons first others ih =>
      rw [List.cons_append, trimEnd, ih]
      cases others <;> rfl

theorem trimmed_isInfix (s : String) : (trimmed s).toList <:+: s.toList := by
  have hend : ∀ cs, trimEnd cs <+: cs := by
    intro cs
    induction cs with
    | nil => exact List.prefix_rfl
    | cons c rest ih =>
        rw [trimEnd]
        split
        · split
          · exact List.nil_prefix
          · exact List.cons_prefix_cons.mpr ⟨rfl, List.nil_prefix⟩
        · exact List.cons_prefix_cons.mpr ⟨rfl, ih⟩
  rw [trimmed, trim, String.toList_ofList]
  exact (hend _).isInfix.trans (List.dropWhile_suffix isBlank).isInfix

/-- Of a text with solid ends, trimming takes nothing but the last line end away. -/
theorem trimmed_ended {s : String} (hstart : StartsSolid s) (hend : EndsSolid s) :
    trimmed (s ++ "\n") = s := by
  obtain ⟨first, rest, hfirst, hsolid⟩ := hstart
  obtain ⟨front, last, hlast, hsolidLast⟩ := hend
  have htext : (s ++ "\n").toList = front ++ last :: ['\n'] := by
    rw [String.toList_append, hlast, List.append_assoc]
    rfl
  have hkept : trimStart (s ++ "\n").toList = (s ++ "\n").toList := by
    rw [String.toList_append, hfirst, trimStart, List.cons_append,
      List.dropWhile_cons_of_neg (by simp [hsolid])]
  rw [trimmed, trim, hkept, htext, trimEnd_append_solid front hsolidLast (by decide), ← hlast,
    String.ofList_toList]

/-- Of a text that is solid somewhere in its front and at its end, trimming takes blank characters
before the front and the last line end away. -/
theorem trimmed_append {front s : String} (hfront : ∃ c ∈ front.toList, isBlank c = false)
    (hend : EndsSolid s) :
    trimmed (front ++ s ++ "\n") = String.ofList (front.toList.dropWhile isBlank) ++ s := by
  have hsolid : (front.toList.dropWhile isBlank).isEmpty = false := by
    obtain ⟨c, hmem, hc⟩ := hfront
    rw [List.isEmpty_eq_false_iff, ne_eq, List.dropWhile_eq_nil_iff]
    intro hall
    rw [hall c hmem] at hc
    contradiction
  obtain ⟨before, last, hs, hlast⟩ := hend
  have hkept : trimStart (front ++ s ++ "\n").toList =
      (front.toList.dropWhile isBlank ++ before) ++ last :: ['\n'] := by
    have htext : (front ++ s ++ "\n").toList = front.toList ++ (before ++ last :: ['\n']) := by
      simp [hs]
    rw [htext, trimStart, List.dropWhile_append, hsolid]
    simp
  rw [trimmed, trim, hkept, trimEnd_append_solid _ hlast (by decide), List.append_assoc, ← hs]
  apply String.toList_inj.mp
  simp

theorem trimmed_unlines {lines : List String} {first last : String}
    (hfirst : lines.head? = some first) (hstart : StartsSolid first)
    (hlast : lines.getLast? = some last) (hend : EndsSolid last) :
    trimmed (unlines lines) ++ "\n" = unlines lines := by
  obtain ⟨front, rfl⟩ := List.getLast?_eq_some_iff.mp hlast
  have hunlines : unlines (front ++ [last]) = (unlines front ++ last) ++ "\n" := by
    rw [unlines_append, unlines_cons, unlines_nil, String.append_empty, String.append_assoc]
  have hsolid : StartsSolid (unlines front ++ last) := by
    cases front with
    | nil =>
        obtain rfl : last = first := Option.some.inj hfirst
        rw [unlines_nil, String.empty_append]
        exact hstart
    | cons line others =>
        obtain rfl : line = first := Option.some.inj hfirst
        rw [unlines_cons, String.append_assoc]
        exact hstart.append _
  rw [hunlines, trimmed_ended hsolid (hend.append _)]

/-- The last line of a text ends as the text does. -/
theorem EndsSolid.getLast?_splits {s : String} (h : EndsSolid s) :
    ∃ last, (splits s).getLast? = some last ∧ EndsSolid last := by
  obtain ⟨front, c, hs, hc⟩ := h
  have hcut : c ≠ '\n' := by
    intro heq
    rw [heq] at hc
    exact absurd hc (by decide)
  have hpieces : ∃ before last, pieces '\n' (front ++ [c]) = before ++ [last ++ [c]] := by
    clear hs
    induction front with
    | nil => exact ⟨[], [], by rw [List.nil_append, pieces, if_neg hcut]; rfl⟩
    | cons first rest ih =>
        obtain ⟨before, last, hrest⟩ := ih
        rw [List.cons_append, pieces, hrest]
        by_cases hfirst : first = '\n'
        · exact ⟨[] :: before, last, by rw [if_pos hfirst]; rfl⟩
        · rw [if_neg hfirst]
          cases before with
          | nil => exact ⟨[], first :: last, rfl⟩
          | cons piece others => exact ⟨(first :: piece) :: others, last, rfl⟩
  obtain ⟨before, last, hbefore⟩ := hpieces
  refine ⟨String.ofList (last ++ [c]), ?_, last, c, ?_, hc⟩
  · rw [splits, hs, hbefore, List.map_append, List.map_singleton, List.getLast?_concat]
  · rw [String.toList_ofList]

theorem head?_trimmed_ne (s : String) : (trimmed s).toList.head? ≠ some '\n' := by
  intro h
  have hhead : ∀ cs : List Char, (trimEnd cs).head? = some '\n' → cs.head? = some '\n' := by
    intro cs hcs
    cases cs with
    | nil => exact hcs
    | cons c rest =>
        rw [trimEnd] at hcs
        split at hcs
        · split at hcs
          · cases hcs
          · exact hcs
        · exact hcs
  rw [trimmed, String.toList_ofList, trim] at h
  have hstart := hhead _ h
  have hblank : isBlank '\n' = true := by decide
  have hnot := List.head?_dropWhile_not isBlank s.toList
  rw [show s.toList.dropWhile isBlank = trimStart s.toList from rfl, hstart] at hnot
  simp [hblank] at hnot

/-! ## Nesting -/

/-- A line behind a tab, unless it is empty. -/
def indented (line : String) : String :=
  String.ofList (indentLine 1 line.toList)

@[simp] theorem toList_indented {line : String} (h : line ≠ "") :
    (indented line).toList = '\t' :: line.toList := by
  have hline : line.toList ≠ [] := fun hnil => h (String.toList_inj.mp hnil)
  rw [indented, String.toList_ofList, indentLine, if_neg hline]
  rfl

theorem EndsSolid.indented {line : String} (h : EndsSolid line) : EndsSolid (indented line) := by
  obtain ⟨front, c, hline, hc⟩ := h
  have hne : line ≠ "" := by
    rintro rfl
    exact absurd (congrArg List.length hline) (by simp)
  refine ⟨'\t' :: front, c, ?_, hc⟩
  rw [toList_indented hne, hline, List.cons_append]

theorem joinPieces_cons (cut : Char) (piece : List Char) {others : List (List Char)}
    (h : others ≠ []) :
    joinPieces cut (piece :: others) = piece ++ cut :: joinPieces cut others := by
  cases others with
  | nil => exact absurd rfl h
  | cons second more => rfl

theorem joinPieces_append_cons (cut : Char) {pieces : List (List Char)} (h : pieces ≠ [])
    (rest : List Char) :
    joinPieces cut pieces ++ cut :: rest =
      pieces.flatMap (fun piece => piece ++ [cut]) ++ rest := by
  induction pieces with
  | nil => exact absurd rfl h
  | cons piece others ih =>
      cases others with
      | nil => simp [joinPieces]
      | cons second more =>
          have hmore := ih (List.cons_ne_nil second more)
          rw [joinPieces_cons cut piece (List.cons_ne_nil second more), List.flatMap_cons,
            List.append_assoc, List.cons_append, hmore]
          simp

theorem toList_unlines_indented (pieces : List (List Char)) :
    (unlines ((pieces.map String.ofList).map indented)).toList =
      (pieces.map (indentLine 1)).flatMap (fun line => line ++ ['\n']) := by
  induction pieces with
  | nil => rfl
  | cons piece others ih =>
      simp only [List.map_cons, unlines_cons, List.flatMap_cons, String.toList_append, ih, indented,
        String.toList_ofList, List.append_assoc]
      rfl

/-- What is nested stands on indented lines of its own. -/
@[simp] theorem nested_trimmed_append (s : String) (rest : List Char) :
    (nested (trimmed s)).toList ++ '\n' :: rest =
      '\n' :: ((unlines ((splits (trimmed s)).map indented)).toList ++ rest) := by
  have hne : (pieces '\n' (trimmed s).toList).map (indentLine 1) ≠ [] :=
    fun hnil => pieces_ne_nil _ _ (List.map_eq_nil_iff.mp hnil)
  rw [splits, toList_unlines_indented, nested, String.toList_ofList, indentWrap,
    if_neg Nat.one_ne_zero, if_neg (head?_trimmed_ne s), List.append_assoc,
    joinPieces_append_cons '\n' hne, List.singleton_append]

end Text
end Provision
