import Provision.Manifest.Reading
import Provision.Proofs.Text.Lines
import Provision.Proofs.Yaml.PlainRoot

/-!
# Blank manifests

A YAML manifest is blank if white space is all that its lines have around a comment or a document
start; such a manifest is not read as a document at all.  White space is meant in the wide sense
there, and a document start may be indented, where YAML takes either for a word.  So a blank
manifest may have a root that is not null, and it does exactly when one of its lines is neither
bare nor a document start to YAML, provided that no line hides a line end of YAML.
-/

namespace Provision

open Document

/-! ## Blank lines -/

/-- Whether a line has nothing but a comment or three hyphens, apart from white space. -/
def isBlankLine (line : List Char) : Bool :=
  match Text.trim line with
  | [] => true
  | '#' :: _ => true
  | trimmed => trimmed == ['-', '-', '-']

theorem isBlankYaml_eq (text : String) :
    isBlankYaml text = (Text.lines text.toList).all isBlankLine := rfl

/-- How a blank line looks from its start. -/
inductive BlankLine : List Char → Prop
  | nil : BlankLine []
  | blank {c : Char} {line : List Char} (hc : Text.isBlank c = true) (hline : BlankLine line) :
      BlankLine (c :: line)
  | comment (line : List Char) : BlankLine ('#' :: line)
  | marker {after : List Char} (hafter : ∀ c ∈ after, Text.isBlank c = true) :
      BlankLine ('-' :: '-' :: '-' :: after)

theorem blankLine_of_isBlankLine {line : List Char} (h : isBlankLine line = true) :
    BlankLine line := by
  induction line with
  | nil => exact .nil
  | cons c rest ih =>
      cases hc : Text.isBlank c with
      | true =>
          refine .blank hc (ih ?_)
          rwa [isBlankLine, Text.trim, Text.trimStart, List.dropWhile_cons_of_pos hc] at h
      | false =>
          rw [isBlankLine, Text.trim, Text.trimStart,
            List.dropWhile_cons_of_neg (by simp [hc]), Text.trimEnd_cons hc] at h
          split at h
          · contradiction
          · next heq =>
              obtain ⟨rfl, -⟩ := List.cons.inj heq
              exact .comment rest
          · obtain ⟨rfl, hrest⟩ := List.cons.inj (beq_iff_eq.mp h)
            obtain ⟨second, rfl, hsecond⟩ := Text.exists_of_trimEnd_eq_cons hrest
            obtain ⟨after, rfl, hafter⟩ := Text.exists_of_trimEnd_eq_cons hsecond
            rw [Text.trimEnd_eq_nil_iff, List.all_eq_true] at hafter
            exact .marker hafter

theorem blankLine_of_forall {line : List Char} (h : ∀ c ∈ line, Text.isBlank c = true) :
    BlankLine line := by
  induction line with
  | nil => exact .nil
  | cons c rest ih =>
      obtain ⟨hc, hrest⟩ := List.forall_mem_cons.mp h
      exact .blank hc (ih hrest)

/-! ## Blank lines under the lexer -/

namespace Yaml

theorem lineWise_blankLine : LineWise (fun _ => LinesFrom BlankLine BlankLine) where
  blank {_ c rest} hc h := by
    refine ((linesFrom_cons (isBreak_of_isBlank hc)).mp h).mono fun line hline => ?_
    cases hline with
    | blank _ hline => exact hline
    | comment => exact absurd hc (by decide)
    | marker => exact absurd hc (by decide)
  comment {_ comment rest} hcomment hrest h := by
    have hfront : ∀ d ∈ '#' :: comment, isBreak d = false :=
      List.forall_mem_cons.mpr ⟨by decide, hcomment⟩
    exact linesFrom_of_atEnd hrest ((linesFrom_append hfront).mp h) .nil
  lineEnd hc h := ((linesFrom_break hc).mp h).2
  marker {rest} _ h := by
    have hfront : ∀ d ∈ ['-', '-', '-'], isBreak d = false := by decide
    refine ((linesFrom_append hfront).mp h).mono fun line hline => ?_
    cases hline with
    | blank hc _ => exact absurd hc (by decide)
    | marker hafter => exact blankLine_of_forall hafter

theorem isIndicator_of_isBlank {c : Char} (hc : Text.isBlank c = true) :
    Lexer.isIndicator c = false := by
  by_contra h
  simp only [Lexer.isIndicator, String.reduceToList, Bool.not_eq_false, decide_eq_true_eq,
    List.mem_cons, List.not_mem_nil, or_false] at h
  rcases h with rfl | rfl | rfl | rfl | rfl | rfl | rfl | rfl | rfl | rfl | rfl | rfl | rfl | rfl |
    rfl | rfl | rfl | rfl | rfl <;> exact absurd hc (by decide)

/-- Where the lexer stops on a blank line there is a word. -/
theorem atWord_of_blankLine {l : Lexer} {c : Char} {rest : List Char}
    (hlines : LinesFrom BlankLine BlankLine l.cursor.rest) (hrest : l.cursor.rest = c :: rest)
    (hstops : l.Stops) (htab : c ≠ '\t')
    (hmarker : l.cursor.atMarker ['-', '-', '-'] = false) :
    AtWord c l ∧ (Text.isBlank c = true ∨ c = '-') := by
  have hpeek : l.cursor.peek = some c := by rw [Cursor.peek, hrest]; rfl
  obtain ⟨hspace, hcomment, hbreak, -⟩ := hstops c hpeek
  have hplain : isSpaceOrBreak c = false := by simp [isSpaceOrBreak, isBlank, hspace, htab, hbreak]
  have hdots : c ≠ '.' → l.cursor.atDocumentMarker = false := by
    intro hc
    have hend : l.cursor.atMarker ['.', '.', '.'] = false := by
      simp [Cursor.atMarker, hrest, hc.symm]
    rw [Cursor.atDocumentMarker, hmarker, hend]
    rfl
  obtain ⟨line, others, hsplit, hline, -⟩ := hlines
  obtain ⟨following, heq, hends⟩ := exists_of_lines hsplit
  rw [hrest] at heq
  cases hline with
  | nil =>
      rw [hends c (by rw [← List.nil_append following, ← heq]; rfl)] at hbreak
      contradiction
  | comment line => exact absurd (List.cons.inj heq).1 hcomment
  | blank hc _ =>
      obtain ⟨rfl, -⟩ := List.cons.inj heq
      exact ⟨⟨hpeek, hdots (by rintro rfl; exact absurd hc (by decide)), hplain,
        Or.inl (isIndicator_of_isBlank hc)⟩, Or.inl hc⟩
  | marker hafter =>
      obtain ⟨rfl, rfl⟩ := List.cons.inj heq
      exact ⟨⟨hpeek, hdots (by decide), hplain, Or.inr ⟨rfl, by rw [Cursor.ahead, hrest]; rfl⟩⟩,
        Or.inr rfl⟩

/-! ## Null roots -/

/-- Every root that is found in a text leaves its value open. -/
def NullRoots (text : String) : Prop :=
  ∀ root, read? text = some (some root) → root.optional? = some none

theorem optional?_empty : (Value.root .empty).optional? = some none := rfl

theorem isNullWord_eq_false {text : List Char} {c : Char} (hhead : text.head? = some c)
    (hc : c ≠ 'n' ∧ c ≠ 'N' ∧ c ≠ '~') : isNullWord text = false := by
  obtain ⟨rest, rfl⟩ := List.head?_eq_some_iff.mp hhead
  have hword : ∀ d word, c ≠ d → String.ofList (c :: rest) ≠ String.ofList (d :: word) := by
    intro d word hne heq
    have hchars := congrArg String.toList heq
    rw [String.toList_ofList, String.toList_ofList] at hchars
    exact hne (List.cons.inj hchars).1
  rw [isNullWord, decide_eq_false_iff_not]
  simp only [List.mem_cons, List.not_mem_nil, or_false, not_or]
  exact ⟨hword 'n' ['u', 'l', 'l'] hc.1, hword 'N' ['u', 'l', 'l'] hc.2.1,
    hword 'N' ['U', 'L', 'L'] hc.2.1, hword '~' [] hc.2.2⟩

/-- A word that is not one of the words for nothing is kept. -/
theorem optional?_word {text : List Char} {c : Char} (hhead : text.head? = some c)
    (hc : c ≠ 'n' ∧ c ≠ 'N' ∧ c ≠ '~') :
    (Value.root (.scalar {} true text)).optional? ≠ some none := by
  have hsome : text.isEmpty = false := by
    obtain ⟨rest, rfl⟩ := List.head?_eq_some_iff.mp hhead
    rfl
  simp [Value.optional?, Value.root, Value.target, hsome, isNullWord_eq_false hhead hc]

theorem optional?_mapping (entries : List (Node × Node)) :
    (Value.root (.mapping {} entries)).optional? ≠ some none := by
  simp [Value.optional?, Value.root, Value.target]

theorem read?_of_tokens? {text : String} {tokens : List Token}
    (h : tokens? text.toList = some tokens) :
    read? text = (document? tokens).map (·.map Value.root) := by
  rw [read?, h]

/-- A text that says nothing has no root or an empty one, if it can be read. -/
theorem read?_of_saysNothing {text : String} {found : Option Value}
    (hsilent : SaysNothing (dropByteOrderMark text.toList)) (hfound : read? text = some found) :
    found = none ∨ found = some (.root .empty) := by
  cases htokens : tokens? text.toList with
  | none =>
      rw [read?, htokens] at hfound
      contradiction
  | some tokens =>
      obtain ⟨n, rfl⟩ := (tokens?_eq_replicate_iff htokens).mpr hsilent
      rw [read?_of_tokens? htokens] at hfound
      obtain ⟨node, hnode, rfl⟩ := Option.map_eq_some_iff.mp hfound
      rcases document?_replicate hnode with rfl | rfl
      · exact Or.inl rfl
      · exact Or.inr rfl

theorem nullRoots_of_saysNothing {text : String}
    (hsilent : SaysNothing (dropByteOrderMark text.toList)) : NullRoots text := by
  intro root hroot
  rcases read?_of_saysNothing hsilent hroot with hnone | hempty
  · contradiction
  · rw [Option.some.inj hempty, optional?_empty]

/-- Of a text of blank lines that says something to YAML the root is a word or a mapping. -/
theorem exists_root_of_blankLine {text : String} {found : Option Value}
    (hlines : ∀ line ∈ lines (dropByteOrderMark text.toList), BlankLine line)
    (hloud : ¬ SaysNothing (dropByteOrderMark text.toList)) (hfound : read? text = some found) :
    ∃ root, found = some root ∧ root.optional? ≠ some none := by
  cases htokens : tokens? text.toList with
  | none =>
      rw [read?, htokens] at hfound
      contradiction
  | some tokens =>
      obtain ⟨first, hidle, hstops, hall, ⟨-, hnone⟩ | ⟨hrest, hmarker, next, hnext, hgrow⟩⟩ :=
        exists_first_of_tokens? htokens
      · exact absurd ((tokens?_eq_replicate_iff htokens).mp hnone) hloud
      · obtain ⟨c, rest, hcs⟩ := List.exists_cons_of_ne_nil hrest
        have htab : c ≠ '\t' := by
          rintro rfl
          rw [Lexer.takeToken_of_tab hidle (by rw [Cursor.peek, hcs]; rfl)] at hnext
          contradiction
        obtain ⟨hword, hc⟩ := atWord_of_blankLine
          (hall _ lineWise_blankLine (linesFrom_self.mpr hlines)) hcs hstops htab hmarker
        rw [Lexer.takeToken_of_atWord hidle hword] at hnext
        obtain ⟨word, hhead, hkept⟩ := hidle.keeps_plain hword hnext
        obtain ⟨token, later, rfl, htoken⟩ := hgrow _ _ hkept
        rw [hidle.tokens, List.reverse_replicate] at htokens
        rw [read?_of_tokens? htokens] at hfound
        obtain ⟨node, hnode, rfl⟩ := Option.map_eq_some_iff.mp hfound
        have hnull : c ≠ 'n' ∧ c ≠ 'N' ∧ c ≠ '~' := by
          refine ⟨?_, ?_, ?_⟩ <;> rintro rfl <;> exact absurd hc (by decide)
        rcases document?_word htoken hnode with rfl | ⟨entries, rfl⟩
        · exact ⟨_, rfl, optional?_word hhead hnull⟩
        · exact ⟨_, rfl, optional?_mapping entries⟩

/-- Of a text of blank lines the roots are null exactly when the text says nothing, or has no
document at all. -/
theorem nullRoots_iff_of_blankLine {text : String}
    (hlines : ∀ line ∈ lines (dropByteOrderMark text.toList), BlankLine line) :
    NullRoots text ↔ SaysNothing (dropByteOrderMark text.toList) ∨ read? text = none := by
  constructor
  · intro hnull
    by_contra! hneither
    obtain ⟨found, hfound⟩ := Option.ne_none_iff_exists'.mp hneither.2
    obtain ⟨root, rfl, hroot⟩ := exists_root_of_blankLine hlines hneither.1 hfound
    exact hroot (hnull root hfound)
  · rintro (hsilent | hunread)
    · exact nullRoots_of_saysNothing hsilent
    · intro root hroot
      rw [hunread] at hroot
      contradiction

end Yaml

/-! ## Lines of a text and lines of YAML -/

/-- YAML cuts a text wherever it is cut into lines, and perhaps inside them. -/
theorem Yaml.lines_eq_flatMap (cs : List Char) :
    lines cs = (Text.pieces '\n' cs).flatMap lines := by
  induction cs with
  | nil => rfl
  | cons c cs ih =>
      by_cases hc : c = '\n'
      · subst hc
        rw [lines_break (by decide), Text.pieces, if_pos rfl, List.flatMap_cons, ← ih]
        rfl
      · obtain ⟨first, others, hpieces, hcons⟩ := Text.exists_pieces_cons hc cs
        rw [hpieces, List.flatMap_cons] at ih
        rw [hcons, List.flatMap_cons]
        cases hbreak : isBreak c with
        | true => rw [lines_break hbreak, lines_break hbreak, ih, List.cons_append]
        | false =>
            obtain ⟨line, more, hline⟩ :=
              List.exists_cons_of_ne_nil (List.splitOnP_ne_nil isBreak first)
            rw [lines_cons hbreak, lines_cons hbreak, ih, lines, hline]
            rfl

section BlankText

variable {text : String} (hblank : isBlankYaml text = true)

include hblank

theorem blankLine_of_isBlankYaml {line : List Char} (hline : line ∈ Text.lines text.toList) :
    BlankLine line := by
  rw [isBlankYaml_eq, List.all_eq_true] at hblank
  exact blankLine_of_isBlankLine (hblank line hline)

/-- A byte order mark is not blank. -/
theorem dropByteOrderMark_of_isBlankYaml : Yaml.dropByteOrderMark text.toList = text.toList := by
  unfold Yaml.dropByteOrderMark
  split
  · next rest heq =>
      obtain ⟨first, others, -, hpieces⟩ :=
        Text.exists_pieces_cons (by decide : '\uFEFF' ≠ '\n') rest
      rw [← heq] at hpieces
      rcases Text.exists_line_of_mem_pieces (hpieces ▸ List.mem_cons_self) with
        hnil | ⟨line, hline, tail, hfirst, htail⟩
      · contradiction
      · cases blankLine_of_isBlankYaml hblank hline with
        | nil => rcases htail with rfl | rfl <;> simp at hfirst
        | blank hc _ =>
            obtain ⟨rfl, -⟩ := List.cons.inj hfirst
            exact absurd hc (by decide)
        | comment => simp at hfirst
        | marker => simp at hfirst
  · rfl

/-- If no line hides a line end of YAML, all lines of YAML are blank. -/
theorem blankLine_of_mem_yamlLines
    (hends : ∀ line ∈ Text.lines text.toList, ∀ c ∈ line, Yaml.isBreak c = false) :
    ∀ line ∈ Yaml.lines text.toList, BlankLine line := by
  intro line hline
  rw [Yaml.lines_eq_flatMap] at hline
  obtain ⟨piece, hpiece, hmem⟩ := List.mem_flatMap.mp hline
  rcases Text.exists_line_of_mem_pieces hpiece with rfl | ⟨kept, hkept, tail, rfl, htail⟩
  · rw [List.mem_singleton.mp hmem]
    exact .nil
  · have hkeptBlank := blankLine_of_isBlankYaml hblank hkept
    have hall : Yaml.LinesFrom BlankLine BlankLine (kept ++ tail) := by
      rw [Yaml.linesFrom_append (hends kept hkept)]
      rcases htail with rfl | rfl
      · exact Yaml.linesFrom_nil.mpr (by rwa [List.append_nil])
      · exact (Yaml.linesFrom_break (by decide)).mpr
          ⟨by rwa [List.append_nil], Yaml.linesFrom_nil.mpr .nil⟩
    exact Yaml.linesFrom_self.mp hall line hmem

end BlankText

/-! ## The shortcut -/

/-- The draft of a YAML text that is read as a document whatever its lines. -/
def readDocument? (text : String) : Option Draft :=
  match Yaml.read? text with
  | none => none
  | some none => some {}
  | some (some root) => (optionally Draft.read? root).map (·.getD {})

theorem readYaml?_eq (text : String) :
    readYaml? text = if isBlankYaml text then some {} else readDocument? text := rfl

theorem readDocument?_of_saysNothing {text : String}
    (hsilent : Yaml.SaysNothing (Yaml.dropByteOrderMark text.toList))
    (hread : Yaml.read? text ≠ none) : readDocument? text = some {} := by
  obtain ⟨found, hfound⟩ := Option.ne_none_iff_exists'.mp hread
  rcases Yaml.read?_of_saysNothing hsilent hfound with rfl | rfl
  · rw [readDocument?, hfound]
  · rw [readDocument?, hfound]
    rfl

/-- A blank text is read as the empty draft.  If it says nothing to YAML either, its roots are
null, and read as a document it is the empty draft as well, unless it is no single document.  If no
line hides a line end, its roots are null in these cases only. -/
theorem nullRoots_of_isBlankYaml (text : String) (hblank : isBlankYaml text = true) :
    readYaml? text = some {} ∧
      (Yaml.SaysNothing text.toList → Yaml.NullRoots text ∧
        (Yaml.read? text ≠ none → readDocument? text = readYaml? text)) ∧
      ((∀ line ∈ Text.lines text.toList, ∀ c ∈ line, Yaml.isBreak c = false) →
        (Yaml.NullRoots text ↔ Yaml.SaysNothing text.toList ∨ Yaml.read? text = none)) := by
  have hempty : readYaml? text = some {} := by rw [readYaml?_eq, if_pos hblank]
  have hmark := dropByteOrderMark_of_isBlankYaml hblank
  refine ⟨hempty, fun hsilent => ?_, fun hends => ?_⟩
  · rw [← hmark] at hsilent
    exact ⟨Yaml.nullRoots_of_saysNothing hsilent,
      fun hread => by rw [hempty, readDocument?_of_saysNothing hsilent hread]⟩
  · rw [← hmark]
    refine Yaml.nullRoots_iff_of_blankLine ?_
    rw [hmark]
    exact blankLine_of_mem_yamlLines hblank hends

theorem nullRoots_commented :
    isBlankYaml "# nothing yet\n---\n" = true ∧ readYaml? "# nothing yet\n---\n" = some {} ∧
      Yaml.NullRoots "# nothing yet\n---\n" := by
  have hblank : isBlankYaml "# nothing yet\n---\n" = true := by decide
  have htokens : Yaml.tokens? "# nothing yet\n---\n".toList =
      some [.documentStart, .streamEnd] := by
    decide
  have hsilent : Yaml.SaysNothing "# nothing yet\n---\n".toList :=
    (Yaml.tokens?_eq_replicate_iff htokens).mp ⟨1, rfl⟩
  obtain ⟨hempty, hnull, -⟩ := nullRoots_of_isBlankYaml _ hblank
  exact ⟨hblank, hempty, (hnull hsilent).1⟩

/-- An indented document start is blank, but a text to YAML. -/
theorem not_nullRoots_indented :
    isBlankYaml " ---" = true ∧ readYaml? " ---" = some {} ∧ readDocument? " ---" = none ∧
      ¬ Yaml.NullRoots " ---" := by
  have hblank : isBlankYaml " ---" = true := by decide
  have htokens : Yaml.tokens? " ---".toList = some [.scalar true ['-', '-', '-'], .streamEnd] := by
    decide
  have hread : Yaml.read? " ---" = some (some (.root (.scalar {} true ['-', '-', '-']))) := by
    rw [Yaml.read?_of_tokens? htokens]
    rfl
  refine ⟨hblank, ?_, ?_, ?_⟩
  · rw [readYaml?_eq, if_pos hblank]
  · rw [readDocument?, hread]
    rfl
  · intro hnull
    exact absurd (hnull _ hread) (Yaml.optional?_word (c := '-') rfl (by decide))

end Provision
