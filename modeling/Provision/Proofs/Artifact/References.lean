import Provision.Proofs.Artifact.Templated

/-!
# References in texts

A text that goes into both kinds of artifact is made of pieces: what is written as it stands, and
references, which each kind writes in its own way.  As long as dollar signs stand in references
alone, the references can be told from the rest: those that occur in the text are those of its
pieces, and rewriting them turns the text of one kind into that of the other.
-/

namespace Provision

/-- A piece of a text. -/
inductive Piece where
  | literal (s : String)
  | reference (name : String)

namespace Piece

def text (kind : ArtifactKind) : Piece → String
  | literal s => s
  | reference name => kind.reference name

/-- Only references have dollar signs, and they are to names of a certain kind. -/
def Fits (names : String → Prop) : Piece → Prop
  | literal s => '$' ∉ s.toList
  | reference name => Name.IsPlain name ∧ name ≠ "" ∧ names name

/-- The pieces of a text one behind the other. -/
def written (kind : ArtifactKind) (pieces : List Piece) : String :=
  String.join (pieces.map (text kind))

end Piece

/-- Each kind of artifact has a text of the same pieces, in which certain names are referred to. -/
def Mirrored (names : String → Prop) (text : ArtifactKind → String) : Prop :=
  ∃ pieces : List Piece, (∀ piece ∈ pieces, piece.Fits names) ∧
    ∀ kind, text kind = Piece.written kind pieces

namespace Mirrored

variable {α : Type} {names : String → Prop} {first second : ArtifactKind → String}

theorem literal {s : String} (h : '$' ∉ s.toList) : Mirrored names (fun _ => s) :=
  ⟨[.literal s], List.forall_mem_singleton.mpr h, fun kind => by simp [Piece.written, Piece.text]⟩

theorem reference {name : String} (hplain : Name.IsPlain name) (hne : name ≠ "")
    (hname : names name) : Mirrored names (fun kind => kind.reference name) :=
  ⟨[.reference name], List.forall_mem_singleton.mpr ⟨hplain, hne, hname⟩,
    fun kind => by simp [Piece.written, Piece.text]⟩

theorem append (hfirst : Mirrored names first) (hsecond : Mirrored names second) :
    Mirrored names (fun kind => first kind ++ second kind) := by
  obtain ⟨before, hbefore, hleft⟩ := hfirst
  obtain ⟨after, hafter, hright⟩ := hsecond
  refine ⟨before ++ after, ?_, ?_⟩
  · intro piece hpiece
    exact (List.mem_append.mp hpiece).elim (hbefore piece) (hafter piece)
  · intro kind
    simp only [hleft kind, hright kind, Piece.written, List.map_append, String.join_append]

theorem join {items : List α} {text : ArtifactKind → α → String}
    (h : ∀ item ∈ items, Mirrored names (fun kind => text kind item)) :
    Mirrored names (fun kind => String.join (items.map (text kind))) := by
  induction items with
  | nil => exact literal (by decide)
  | cons item rest ih =>
      simp only [List.map_cons, String.join_cons]
      exact (h item List.mem_cons_self).append
        (ih (fun other hother => h other (List.mem_cons_of_mem item hother)))

theorem line {rest : ArtifactKind → List String} (hfirst : Mirrored names first)
    (hrest : Mirrored names (fun kind => Text.unlines (rest kind))) :
    Mirrored names (fun kind => Text.unlines (first kind :: rest kind)) := by
  simp only [Text.unlines_cons]
  exact hfirst.append ((literal (by decide)).append hrest)

theorem mono (h : Mirrored names first) {others : String → Prop}
    (hnames : ∀ name, names name → others name) : Mirrored others first := by
  obtain ⟨pieces, hpieces, htext⟩ := h
  refine ⟨pieces, ?_, htext⟩
  intro piece hpiece
  have hfits := hpieces piece hpiece
  cases piece with
  | literal s => exact hfits
  | reference name => exact ⟨hfits.1, hfits.2.1, hnames name hfits.2.2⟩

/-- Trimming a line takes blank characters from what stands before its first reference. -/
theorem trimmed {front : String} (hfront : '$' ∉ front.toList)
    (hsolid : ∃ c ∈ front.toList, Text.isBlank c = false) (hsecond : Mirrored names second)
    (hend : ∀ kind, Text.EndsSolid (second kind)) :
    Mirrored names (fun kind => Text.trimmed (front ++ second kind ++ "\n")) := by
  simp only [fun kind => Text.trimmed_append hsolid (hend kind)]
  refine append (literal ?_) hsecond
  rw [String.toList_ofList]
  exact fun hmem => hfront ((List.dropWhile_suffix _).subset hmem)

end Mirrored

/-! ## Occurrences -/

namespace ArtifactKind

def opening : ArtifactKind → Char
  | makefile => '('
  | dockerfile => '\x7b'

def closing : ArtifactKind → Char
  | makefile => ')'
  | dockerfile => '\x7d'

theorem toList_reference (kind : ArtifactKind) (name : String) :
    (kind.reference name).toList =
      '$' :: kind.opening :: (name.toList ++ [kind.closing]) := by
  cases kind <;> simp [reference, opening, closing]

theorem closing_notMem (kind : ArtifactKind) {name : String} (h : Name.IsPlain name) :
    kind.closing ∉ name.toList := by
  intro hmem
  cases kind <;> exact absurd (h _ hmem) (by decide)

theorem eq_of_reference_isPrefix {kind : ArtifactKind} {name other : String} {rest : List Char}
    (hname : kind.closing ∉ name.toList) (hother : kind.closing ∉ other.toList)
    (h : (kind.reference name).toList <+: (kind.reference other).toList ++ rest) :
    name = other := by
  obtain ⟨more, hmore⟩ := h
  simp only [toList_reference, List.cons_append, List.append_assoc, List.cons.injEq, true_and,
    List.nil_append] at hmore
  have hread : ∀ (cs after : List Char), kind.closing ∉ cs →
      (cs ++ kind.closing :: after).takeWhile (· ≠ kind.closing) = cs := by
    intro cs after hcs
    rw [List.takeWhile_append_of_pos, List.takeWhile_cons_of_neg (by simp), List.append_nil]
    intro c hc
    simpa using fun heq : c = kind.closing => hcs (heq ▸ hc)
  have htaken := congrArg (List.takeWhile (· ≠ kind.closing)) hmore
  rw [hread _ _ hname, hread _ _ hother] at htaken
  exact String.toList_inj.mp htaken

end ArtifactKind

/-- A name that a reference is looked for by: in a Makefile one that a variable can have, which the
call of a function is not. -/
def ArtifactKind.IsReferable : ArtifactKind → String → Prop
  | makefile, name => Name.IsPlain name
  | dockerfile, name => '\x7d' ∉ name.toList ∧ '\n' ∉ name.toList

namespace ArtifactKind.IsReferable

variable {kind : ArtifactKind} {name : String}

theorem closing_notMem (h : kind.IsReferable name) : kind.closing ∉ name.toList := by
  cases kind with
  | makefile => exact ArtifactKind.closing_notMem .makefile h
  | dockerfile => exact h.1

theorem lineEnd_notMem (h : kind.IsReferable name) : '\n' ∉ (kind.reference name).toList := by
  have hname : '\n' ∉ name.toList := by
    cases kind with
    | makefile => exact fun hmem => absurd (h '\n' hmem) (by decide)
    | dockerfile => exact h.2
  rw [kind.toList_reference]
  cases kind <;> simp [opening, closing, hname]

end ArtifactKind.IsReferable

/-- The references in a text are to certain names only. -/
def Mentions (kind : ArtifactKind) (names : String → Prop) (cs : List Char) : Prop :=
  ∀ name, kind.IsReferable name → (kind.reference name).toList <:+: cs → names name

namespace Mentions

variable {kind : ArtifactKind} {names : String → Prop} {cs rest : List Char}

theorem of_isInfix (h : Mentions kind names cs) {part : List Char} (hpart : part <:+: cs) :
    Mentions kind names part :=
  fun name hname hoccurs => h name hname (hoccurs.trans hpart)

theorem mono (h : Mentions kind names cs) {others : String → Prop}
    (hnames : ∀ name, names name → others name) : Mentions kind others cs :=
  fun name hname hoccurs => hnames name (h name hname hoccurs)

theorem nil : Mentions kind names [] := by
  intro name _ hoccurs
  rw [kind.toList_reference, List.infix_nil] at hoccurs
  contradiction

theorem cons {c : Char} (hc : ∀ name, kind.IsReferable name →
      ¬ (kind.reference name).toList <+: c :: rest) (h : Mentions kind names rest) :
    Mentions kind names (c :: rest) := by
  intro name hname hoccurs
  rcases List.infix_cons_iff.mp hoccurs with hstart | hoccurs
  · exact absurd hstart (hc name hname)
  · exact h name hname hoccurs

/-- No reference starts in a text without dollar signs. -/
theorem literal_append (hcs : '$' ∉ cs) (h : Mentions kind names rest) :
    Mentions kind names (cs ++ rest) := by
  induction cs with
  | nil => exact h
  | cons c more ih =>
      refine cons ?_ (ih (fun hmem => hcs (List.mem_cons_of_mem c hmem)))
      intro name _ hstart
      rw [kind.toList_reference] at hstart
      have hc : '$' = c := (List.cons_prefix_cons.mp hstart).1
      exact hcs (hc ▸ List.mem_cons_self)

theorem reference_append {name : String} (hplain : Name.IsPlain name) (hname : names name)
    (h : Mentions kind names rest) :
    Mentions kind names ((kind.reference name).toList ++ rest) := by
  have hdollar : '$' ∉ kind.opening :: (name.toList ++ [kind.closing]) := by
    have hnot : '$' ∉ name.toList := fun hmem => absurd (hplain '$' hmem) (by decide)
    cases kind <;> simp [ArtifactKind.opening, ArtifactKind.closing, hnot]
  intro other hother hoccurs
  have hsplit := hoccurs
  rw [kind.toList_reference name, List.cons_append, List.infix_cons_iff, ← List.cons_append,
    ← kind.toList_reference name] at hsplit
  rcases hsplit with hstart | hoccurs
  · obtain rfl := ArtifactKind.eq_of_reference_isPrefix hother.closing_notMem
      (kind.closing_notMem hplain) hstart
    exact hname
  · exact h.literal_append hdollar other hother hoccurs

/-- References do not go over line ends. -/
theorem unlines {lines : List String} (h : ∀ line ∈ lines, Mentions kind names line.toList) :
    Mentions kind names (Text.unlines lines).toList := by
  induction lines with
  | nil => exact nil
  | cons line others ih =>
      intro name hname hoccurs
      rw [Text.toList_unlines_cons] at hoccurs
      rcases Text.isInfix_append_cons hname.lineEnd_notMem hoccurs with hfirst | hrest
      · exact h line List.mem_cons_self name hname hfirst
      · exact ih (fun other hother => h other (List.mem_cons_of_mem line hother)) name hname hrest

theorem of_mem_splits {s line : String} (h : Mentions kind names s.toList)
    (hline : line ∈ Text.splits (Text.trimmed s)) : Mentions kind names line.toList := by
  obtain ⟨piece, hpiece, rfl⟩ := List.mem_map.mp hline
  rw [String.toList_ofList]
  exact h.of_isInfix ((Text.isInfix_of_mem_pieces hpiece).trans (Text.trimmed_isInfix s))

theorem indented {line : String} (h : Mentions kind names line.toList) :
    Mentions kind names (Text.indented line).toList := by
  by_cases hempty : line = ""
  · rw [hempty]
    exact nil
  · rw [Text.toList_indented hempty]
    exact h.literal_append (List.not_mem_cons_of_ne_of_not_mem (by decide) List.not_mem_nil)

end Mentions

/-- A text whose references are to certain names only, whatever stands behind it. -/
def Refers (kind : ArtifactKind) (names : String → Prop) (s : String) : Prop :=
  ∀ rest, Mentions kind names rest → Mentions kind names (s.toList ++ rest)

namespace Refers

variable {kind : ArtifactKind} {names : String → Prop} {s t : String}

theorem mentions (h : Refers kind names s) : Mentions kind names s.toList := by
  have hs := h [] .nil
  rw [List.append_nil] at hs
  exact hs

theorem literal (h : '$' ∉ s.toList) : Refers kind names s :=
  fun _ hrest => hrest.literal_append h

theorem reference {name : String} (hplain : Name.IsPlain name) (hname : names name) :
    Refers kind names (kind.reference name) :=
  fun _ hrest => hrest.reference_append hplain hname

theorem append (h : Refers kind names s) (ht : Refers kind names t) :
    Refers kind names (s ++ t) := by
  intro rest hrest
  rw [String.toList_append, List.append_assoc]
  exact h _ (ht rest hrest)

theorem join {texts : List String} (h : ∀ s ∈ texts, Refers kind names s) :
    Refers kind names (String.join texts) := by
  induction texts with
  | nil => exact literal (by decide)
  | cons s others ih =>
      rw [String.join_cons]
      exact (h s List.mem_cons_self).append
        (ih (fun other hother => h other (List.mem_cons_of_mem s hother)))

end Refers

/-- Writing characters of a text in other ways leaves its references as they are, as long as these
characters do not stand in references and dollar signs come from dollar signs alone. -/
theorem Mirrored.refers_flatMap {kind : ArtifactKind} {names : String → Prop}
    {text : ArtifactKind → String} (h : Mirrored names text) {write : Char → List Char}
    (hplain : ∀ c, Name.isNameChar true c = true → write c = [c])
    (hsigns : ∀ c ∈ ['$', kind.opening, kind.closing], write c = [c])
    (hdollar : ∀ c, '$' ∈ write c → c = '$') :
    Refers kind names (String.ofList ((text kind).toList.flatMap write)) := by
  obtain ⟨pieces, hpieces, hwritten⟩ := h
  rw [hwritten kind]
  clear hwritten
  induction pieces with
  | nil => exact .literal (by simp [Piece.written])
  | cons piece others ih =>
      have hrest := ih (fun other hother => hpieces other (List.mem_cons_of_mem piece hother))
      have hfits := hpieces piece List.mem_cons_self
      simp only [Piece.written, List.map_cons, String.join_cons, String.toList_append,
        List.flatMap_append, String.ofList_append] at hrest ⊢
      refine .append ?_ hrest
      cases piece with
      | literal s =>
          refine .literal ?_
          rw [String.toList_ofList]
          intro hmem
          obtain ⟨c, hc, hwrite⟩ := List.mem_flatMap.mp hmem
          exact hfits (hdollar c hwrite ▸ hc)
      | reference name =>
          have hkept : (kind.reference name).toList.flatMap write =
              (kind.reference name).toList := by
            have hname : name.toList.flatMap write = name.toList := by
              rw [List.flatMap_congr (fun c hc => hplain c (hfits.1 c hc)), List.flatMap_singleton']
            simp only [List.mem_cons, List.not_mem_nil, or_false, forall_eq_or_imp,
              forall_eq] at hsigns
            simp [kind.toList_reference, hname, hsigns]
          rw [Piece.text, hkept, String.ofList_toList]
          exact .reference hfits.1 hfits.2.2

/-- The references in a text are those of its pieces. -/
theorem Mirrored.refers {kind : ArtifactKind} {names : String → Prop}
    {text : ArtifactKind → String} (h : Mirrored names text) : Refers kind names (text kind) := by
  have hsame : Refers kind names (String.ofList ((text kind).toList.flatMap (fun c => [c]))) :=
    h.refers_flatMap (fun _ _ => rfl) (fun _ _ => rfl)
      (fun c hc => (List.mem_singleton.mp hc).symm)
  rw [List.flatMap_singleton', String.ofList_toList] at hsame
  exact hsame

/-! ## Rewriting -/

/-- The name in a reference of a Makefile at the front of a text. -/
def referenceAt? : List Char → Option (List Char)
  | '$' :: '(' :: rest =>
      let name := rest.takeWhile (Name.isNameChar true)
      if name ≠ [] ∧ (rest.dropWhile (Name.isNameChar true)).head? = some ')' then some name
      else none
  | _ => none

/-- A text with references of a Dockerfile in the places of those of a Makefile, behind so many
characters that are passed over. -/
def rewrittenBehind : (passed : Nat) → List Char → List Char
  | _, [] => []
  | passed + 1, _ :: rest => rewrittenBehind passed rest
  | 0, c :: rest =>
      match referenceAt? (c :: rest) with
      | some name =>
          (ArtifactKind.dockerfile.reference (String.ofList name)).toList ++
            rewrittenBehind (name.length + 2) rest
      | none => c :: rewrittenBehind 0 rest

/-- A text with references of a Dockerfile in the places of those of a Makefile. -/
def rewritten (s : String) : String :=
  String.ofList (rewrittenBehind 0 s.toList)

theorem rewrittenBehind_length (cs rest : List Char) :
    rewrittenBehind cs.length (cs ++ rest) = rewrittenBehind 0 rest := by
  induction cs with
  | nil => rfl
  | cons c more ih =>
      rw [List.length_cons, List.cons_append, rewrittenBehind]
      exact ih

theorem referenceAt?_cons_of_ne {c : Char} (hc : c ≠ '$') (rest : List Char) :
    referenceAt? (c :: rest) = none := by
  unfold referenceAt?
  split
  · next heq => exact absurd (List.cons.inj heq).1 hc
  · rfl

theorem rewrittenBehind_literal {cs : List Char} (hcs : '$' ∉ cs) (rest : List Char) :
    rewrittenBehind 0 (cs ++ rest) = cs ++ rewrittenBehind 0 rest := by
  induction cs with
  | nil => rfl
  | cons c more ih =>
      have hc : c ≠ '$' := fun heq => hcs (heq ▸ List.mem_cons_self)
      rw [List.cons_append, rewrittenBehind, referenceAt?_cons_of_ne hc, List.cons_append,
        ih (fun hmem => hcs (List.mem_cons_of_mem c hmem))]

theorem toList_makefile_reference_append (name : String) (rest : List Char) :
    (ArtifactKind.makefile.reference name).toList ++ rest =
      '$' :: '(' :: (name.toList ++ ')' :: rest) := by
  simp [ArtifactKind.reference]

theorem referenceAt?_reference {name : String} (hplain : Name.IsPlain name) (hne : name ≠ "")
    (rest : List Char) :
    referenceAt? ((ArtifactKind.makefile.reference name).toList ++ rest) = some name.toList := by
  have hlist : name.toList ≠ [] := fun hnil => hne (String.toList_inj.mp hnil)
  have htake : (name.toList ++ ')' :: rest).takeWhile (Name.isNameChar true) = name.toList := by
    rw [List.takeWhile_append_of_pos hplain, List.takeWhile_cons_of_neg (by decide),
      List.append_nil]
  have hdrop : (name.toList ++ ')' :: rest).dropWhile (Name.isNameChar true) = ')' :: rest := by
    rw [List.dropWhile_append_of_pos hplain, List.dropWhile_cons_of_neg (by decide)]
  rw [toList_makefile_reference_append]
  unfold referenceAt?
  simp [htake, hdrop, hlist]

theorem rewrittenBehind_reference {name : String} (hplain : Name.IsPlain name) (hne : name ≠ "")
    (rest : List Char) :
    rewrittenBehind 0 ((ArtifactKind.makefile.reference name).toList ++ rest) =
      (ArtifactKind.dockerfile.reference name).toList ++ rewrittenBehind 0 rest := by
  have hfound := referenceAt?_reference hplain hne rest
  rw [toList_makefile_reference_append] at hfound
  have hbehind : rewrittenBehind (name.toList.length + 2) ('(' :: (name.toList ++ ')' :: rest)) =
      rewrittenBehind 0 rest := by
    have hall : '(' :: (name.toList ++ ')' :: rest) = ('(' :: (name.toList ++ [')'])) ++ rest := by
      simp
    rw [hall]
    simpa using rewrittenBehind_length ('(' :: (name.toList ++ [')'])) rest
  rw [toList_makefile_reference_append, rewrittenBehind, hfound]
  simp only [hbehind, String.ofList_toList]

/-- Rewriting the references in the text of a Makefile gives the text of a Dockerfile. -/
theorem Mirrored.rewritten_makefile {names : String → Prop} {text : ArtifactKind → String}
    (h : Mirrored names text) : rewritten (text .makefile) = text .dockerfile := by
  obtain ⟨pieces, hpieces, htext⟩ := h
  rw [htext .makefile, htext .dockerfile, rewritten]
  apply String.toList_inj.mp
  rw [String.toList_ofList]
  clear htext
  induction pieces with
  | nil => rfl
  | cons piece others ih =>
      have hrest := ih (fun other hother => hpieces other (List.mem_cons_of_mem piece hother))
      have hfits := hpieces piece List.mem_cons_self
      simp only [Piece.written, List.map_cons, String.join_cons, String.toList_append] at hrest ⊢
      cases piece with
      | literal s =>
          rw [Piece.text, rewrittenBehind_literal hfits, hrest]
          rfl
      | reference name =>
          rw [Piece.text, rewrittenBehind_reference hfits.1 hfits.2.1, hrest]
          rfl

end Provision
