import Provision.Proofs.Artifact.Emitted

/-!
# Artifacts, read back

What the lines of an artifact say is read off their characters: the variables that a line of a
Makefile assigns, and what a line of a Dockerfile declares, starts and copies from.  The lines that
artifacts are made of say what they look like as long as their parts keep to one line each.
-/

namespace Provision

/-! ## Makefiles -/

namespace Makefile

/-- A character that a variable can have in its name where a value is assigned to it. -/
def isVariableChar (c : Char) : Bool :=
  !(Text.isBlank c || c == ':' || c == '=' || c == '?' || c == '#')

def isAssignment : List Char → Bool
  | '?' :: '=' :: _ => true
  | ':' :: '=' :: _ => true
  | _ => false

/-- The variable that a line assigns a value to. -/
def assigned? (line : List Char) : Option String :=
  let name := line.takeWhile isVariableChar
  let rest := (line.dropWhile isVariableChar).dropWhile Text.isBlank
  if name ≠ [] ∧ isAssignment rest then some (String.ofList name) else none

/-- The variables that a Makefile assigns values to, once for each of the assignments. -/
def assignedNames (text : String) : List String :=
  (Text.pieces '\n' text.toList).filterMap assigned?

def IsVariable (name : String) : Prop :=
  name ≠ "" ∧ ∀ c ∈ name.toList, isVariableChar c = true

/-- A word in a list of prerequisites, which is not the sign in front of the order-only ones. -/
def IsWord (s : String) : Prop :=
  s ≠ "|" ∧ ∀ c ∈ s.toList, Text.isBlank c = false

namespace Line

def assigned? : Line → Option String
  | default name _ => some name
  | clear name => some name
  | _ => none

/-- The parts of a line keep it one line of its kind. -/
def Sound : Line → Prop
  | blank => True
  | comment text => OneLine text
  | default name value => IsVariable name ∧ OneLine value
  | clear name => IsVariable name
  | phony name => OneLine name
  | rule target prerequisites orderOnly =>
      IsVariable target ∧ (∀ name ∈ prerequisites, IsWord name) ∧ ∀ name ∈ orderOnly, IsWord name
  | recipe command => OneLine command

end Line

variable {name : String}

theorem isVariableChar_of_isNameChar {c : Char} (h : Name.isNameChar true c = true) :
    isVariableChar c = true := by
  refine Name.of_isNameChar (P := fun c => isVariableChar c = true) ?_ h
  decide

theorem isVariable_of_isPlain (h : Name.IsPlain name) (hne : name ≠ "") : IsVariable name :=
  ⟨hne, fun c hc => isVariableChar_of_isNameChar (h c hc)⟩

theorem isWord_of_isPlain (h : Name.IsPlain name) : IsWord name := by
  refine ⟨?_, fun c hc => Name.isBlank_of_isNameChar (h c hc)⟩
  rintro rfl
  exact absurd h (by decide)

theorem isVariable_reference (h : Name.IsPlain name) : IsVariable (reference name) := by
  refine ⟨?_, ?_⟩
  · intro hempty
    have hlist := congrArg String.toList hempty
    simp [ArtifactKind.reference] at hlist
  · intro c hc
    simp only [ArtifactKind.reference, String.toList_append, List.mem_append] at hc
    rcases hc with (hopen | hname) | hclose
    · have hall : ∀ c ∈ "$(".toList, isVariableChar c = true := by decide
      exact hall c hopen
    · exact isVariableChar_of_isNameChar (h c hname)
    · have hall : ∀ c ∈ ")".toList, isVariableChar c = true := by decide
      exact hall c hclose

theorem isWord_reference (h : Name.IsPlain name) : IsWord (reference name) := by
  refine ⟨?_, fun c hc => ?_⟩
  · intro heq
    have hlist := congrArg String.toList heq
    simp [ArtifactKind.reference] at hlist
  · have hvariable := (isVariable_reference h).2 c hc
    unfold isVariableChar at hvariable
    revert hvariable
    cases Text.isBlank c <;> simp

theorem IsWord.notMem (h : IsWord name) {c : Char} (hc : Text.isBlank c = true) :
    c ∉ name.toList := by
  intro hmem
  rw [h.2 c hmem] at hc
  contradiction

theorem IsVariable.oneLine (h : IsVariable name) : OneLine name := by
  intro hmem
  exact absurd (h.2 '\n' hmem) (by decide)

theorem assigned?_cons {c : Char} (hc : isVariableChar c = false) (rest : List Char) :
    assigned? (c :: rest) = none := by
  have hnil : (c :: rest).takeWhile isVariableChar = [] :=
    List.takeWhile_cons_of_neg (by simp [hc])
  simp [assigned?, hnil]

theorem assigned?_append (h : IsVariable name) {c : Char} (hc : isVariableChar c = false)
    (rest : List Char) :
    assigned? (name.toList ++ c :: rest) =
      if isAssignment ((c :: rest).dropWhile Text.isBlank) then some name else none := by
  have hne : name.toList ≠ [] := fun hnil => h.1 (String.toList_inj.mp hnil)
  have hname : (name.toList ++ c :: rest).takeWhile isVariableChar = name.toList := by
    rw [List.takeWhile_append_of_pos h.2, List.takeWhile_cons_of_neg (by simp [hc]),
      List.append_nil]
  have hrest : (name.toList ++ c :: rest).dropWhile isVariableChar = c :: rest := by
    rw [List.dropWhile_append_of_pos h.2, List.dropWhile_cons_of_neg (by simp [hc])]
  simp [assigned?, hname, hrest, hne]

namespace Line.Sound

variable {line : Line}

theorem oneLine (h : line.Sound) : OneLine line.text := by
  cases line with
  | blank => decide
  | comment text => exact OneLine.append_iff.mpr ⟨by decide, h⟩
  | default name value =>
      have hname := h.1.oneLine
      exact OneLine.append_iff.mpr ⟨OneLine.append_iff.mpr ⟨hname, by decide⟩, h.2⟩
  | clear name => exact OneLine.append_iff.mpr ⟨IsVariable.oneLine h, by decide⟩
  | phony name => exact OneLine.append_iff.mpr ⟨by decide, h⟩
  | rule target prerequisites orderOnly =>
      obtain ⟨htarget, hprerequisites, horder⟩ := h
      have hspace : OneLine " " := by decide
      have hcolon : OneLine ":" := by decide
      have hbar : OneLine " |" := by decide
      have hempty : OneLine "" := by decide
      have hnames : ∀ names : List String, (∀ name ∈ names, IsWord name) →
          OneLine (String.join (names.map (" " ++ ·))) := by
        intro names hwords
        have hall : ∀ name ∈ names, OneLine name :=
          fun name hname => (hwords name hname).notMem (by decide)
        simpa [hspace] using hall
      simp only [Line.text, OneLine.append_iff]
      refine ⟨⟨⟨htarget.oneLine, hcolon⟩, hnames _ hprerequisites⟩, ?_⟩
      split
      · exact hempty
      · exact OneLine.append_iff.mpr ⟨hbar, hnames _ horder⟩
  | recipe command =>
      by_cases hempty : command = ""
      · subst hempty
        decide
      · rw [Line.text, OneLine, Text.toList_indented hempty]
        exact List.not_mem_cons_of_ne_of_not_mem (by decide) h

theorem assigned?_text (h : line.Sound) :
    Makefile.assigned? line.text.toList = line.assigned? := by
  cases line with
  | blank => rfl
  | comment text =>
      have htext : (Line.comment text).text.toList = '#' :: ' ' :: text.toList := by
        simp [Line.text]
      rw [htext]
      exact assigned?_cons (by decide) _
  | default name value =>
      have htext : (Line.default name value).text.toList =
          name.toList ++ ' ' :: '?' :: '=' :: ' ' :: value.toList := by
        simp [Line.text]
      rw [htext, assigned?_append h.1 (by decide)]
      rfl
  | clear name =>
      have htext : (Line.clear name).text.toList = name.toList ++ ' ' :: ':' :: '=' :: [] := by
        simp [Line.text]
      rw [htext, assigned?_append h (by decide)]
      rfl
  | phony name =>
      have hphony : IsVariable ".PHONY" := ⟨by decide, by decide⟩
      have htext : (Line.phony name).text.toList =
          ".PHONY".toList ++ ':' :: ' ' :: name.toList := by
        simp [Line.text]
      rw [htext, assigned?_append hphony (by decide)]
      rfl
  | rule target prerequisites orderOnly =>
      -- What stands behind the colon starts with a space, if there is anything.
      obtain ⟨rest, htext, hrest⟩ : ∃ rest,
          (Line.rule target prerequisites orderOnly).text.toList = target.toList ++ ':' :: rest ∧
            rest.head? ≠ some '=' := by
        refine ⟨_, by simp only [Line.text, String.toList_append, List.append_assoc]; rfl, ?_⟩
        cases prerequisites <;> cases orderOnly <;> simp
      have hassign : isAssignment ((':' :: rest).dropWhile Text.isBlank) = false := by
        rw [List.dropWhile_cons_of_neg (by decide)]
        cases rest with
        | nil => rfl
        | cons c more =>
            unfold isAssignment
            split <;> simp_all
      rw [htext, assigned?_append h.1 (by decide), hassign]
      rfl
  | recipe command =>
      by_cases hempty : command = ""
      · subst hempty
        rfl
      · rw [Line.text, Text.toList_indented hempty]
        exact assigned?_cons (by decide) _

end Line.Sound

/-- The assignments in a text made of sound lines are those lines that look like ones. -/
theorem assignedNames_unlines {lines : List Line} (h : ∀ line ∈ lines, line.Sound) :
    assignedNames (Text.unlines (lines.map Line.text)) = lines.filterMap Line.assigned? := by
  have hlast : [[]].filterMap assigned? = [] := rfl
  rw [assignedNames, Text.pieces_unlines (fun line hline => (h line hline).oneLine),
    List.filterMap_append, List.filterMap_map, hlast, List.append_nil]
  exact List.filterMap_congr (fun line hline => (h line hline).assigned?_text)

end Makefile

/-! ## Dockerfiles -/

namespace Dockerfile

/-- A text without blank characters. -/
def Unblank (s : String) : Prop :=
  ∀ c ∈ s.toList, Text.isBlank c = false

/-- Whether a line starts a stage. -/
def isStage (line : List Char) : Bool :=
  decide ("FROM ".toList <+: line)

/-- The name of the stage that a line starts. -/
def stage? (line : List Char) : Option String :=
  if isStage line then
    match Text.pieces ' ' line with
    | [_, _, word, name] => if word = "AS".toList then some (String.ofList name) else none
    | _ => none
  else none

/-- The build argument that a line declares. -/
def argument? (line : List Char) : Option String :=
  if "ARG ".toList <+: line then
    some (String.ofList ((line.drop 4).takeWhile (· ≠ '=')))
  else none

/-- The build argument that a line declares together with a default. -/
def defaulted? (line : List Char) : Option String :=
  if '=' ∈ line then argument? line else none

/-- The stage that a line copies from. -/
def origin? (line : List Char) : Option String :=
  if "COPY --from=".toList <+: line then
    some (String.ofList ((line.drop 12).takeWhile (fun c => !Text.isBlank c)))
  else none

/-- The build arguments with defaults that are declared before the first stage. -/
def declaredNames (text : String) : List String :=
  ((Text.pieces '\n' text.toList).takeWhile (fun line => !isStage line)).filterMap defaulted?

namespace Line

def stage? : Line → Option String
  | stage _ name => some name
  | _ => none

def argument? : Line → Option String
  | argument name _ => some name
  | _ => none

def defaulted? : Line → Option String
  | argument name (some _) => some name
  | _ => none

def origin? : Line → Option String
  | copy origin _ _ => some origin
  | _ => none

/-- The parts of a line keep it one line of its kind.  Instructions from the settings can be of any
kind. -/
def Sound : Line → Prop
  | blank => True
  | comment text => OneLine text
  | argument name value => Name.IsPlain name ∧ ∀ text ∈ value, OneLine text
  | stage image name => Unblank image ∧ Unblank name
  | copy origin source target => Unblank origin ∧ OneLine source ∧ OneLine target
  | run command => OneLine command
  | searchPath dir => OneLine dir
  | script command => OneLine command
  | scriptEnd => True
  | verbatim _ => False

end Line

variable {s : String}

theorem Unblank.notMem (h : Unblank s) {c : Char} (hc : Text.isBlank c = true) : c ∉ s.toList := by
  intro hmem
  rw [h c hmem] at hc
  contradiction

theorem Unblank.append {t : String} (h : Unblank s) (ht : Unblank t) : Unblank (s ++ t) := by
  intro c hc
  rw [String.toList_append] at hc
  rcases List.mem_append.mp hc with hleft | hright
  · exact h c hleft
  · exact ht c hright

theorem unblank_of_isPlain (h : Name.IsPlain s) : Unblank s :=
  fun c hc => Name.isBlank_of_isNameChar (h c hc)

theorem not_prefix_indented {c : Char} (hc : c ≠ '\t') (cs : List Char) (command : String) :
    ¬ c :: cs <+: (Text.indented command).toList := by
  by_cases hempty : command = ""
  · subst hempty
    exact fun h => absurd (List.prefix_nil.mp h) (List.cons_ne_nil c cs)
  · rw [Text.toList_indented hempty, List.cons_prefix_cons]
    exact fun h => hc h.1

namespace Line.Sound

variable {line : Line}

theorem oneLine (h : line.Sound) : OneLine line.text := by
  cases line with
  | blank => decide
  | comment text => exact OneLine.append_iff.mpr ⟨by decide, h⟩
  | argument name value =>
      have hname := h.1.oneLine
      have hstart : OneLine "ARG " := by decide
      have hequals : OneLine "=" := by decide
      cases value with
      | none => exact OneLine.append_iff.mpr ⟨hstart, hname⟩
      | some text =>
          simp only [Line.text, OneLine.append_iff]
          exact ⟨⟨⟨hstart, hname⟩, hequals⟩, h.2 text rfl⟩
  | stage image name =>
      have hstart : OneLine "FROM " := by decide
      have has : OneLine " AS " := by decide
      simp only [Line.text, OneLine.append_iff]
      exact ⟨⟨⟨hstart, h.1.notMem (by decide)⟩, has⟩, h.2.notMem (by decide)⟩
  | copy origin source target =>
      obtain ⟨horigin, hsource, htarget⟩ := h
      have horigin : OneLine origin := horigin.notMem (by decide)
      have hstart : OneLine "COPY --from=" := by decide
      have hspace : OneLine " " := by decide
      have hmiddle : OneLine "/ " := by decide
      have hend : OneLine "/" := by decide
      simp [Line.text, horigin, hsource, htarget, hstart, hspace, hmiddle, hend]
  | run command => exact OneLine.append_iff.mpr ⟨by decide, h⟩
  | searchPath dir =>
      exact OneLine.append_iff.mpr ⟨OneLine.append_iff.mpr ⟨by decide, h⟩, by decide⟩
  | script command =>
      by_cases hempty : command = ""
      · subst hempty
        decide
      · rw [Line.text, OneLine, Text.toList_indented hempty]
        exact List.not_mem_cons_of_ne_of_not_mem (by decide) h
  | scriptEnd => decide
  | verbatim text => exact absurd h id

theorem isStage_text (h : line.Sound) : isStage line.text.toList = line.stage?.isSome := by
  cases line with
  | script command => simp [isStage, Line.text, Line.stage?, not_prefix_indented]
  | verbatim text => exact absurd h id
  | argument name value => cases value <;> simp [isStage, Line.text, Line.stage?]
  | _ => simp [isStage, Line.text, Line.stage?]

theorem stage?_text (h : line.Sound) : Dockerfile.stage? line.text.toList = line.stage? := by
  have hstage := h.isStage_text
  unfold Dockerfile.stage?
  rw [hstage]
  cases line with
  | stage image name =>
      have hpieces : Text.pieces ' ' (Line.stage image name).text.toList =
          ["FROM".toList, image.toList, "AS".toList, name.toList] := by
        have htext : (Line.stage image name).text.toList =
            "FROM".toList ++ ' ' ::
              (image.toList ++ ' ' :: ("AS".toList ++ ' ' :: name.toList)) := by
          simp [Line.text]
        rw [htext, Text.pieces_append_cons (by decide),
          Text.pieces_append_cons (h.1.notMem (by decide)), Text.pieces_append_cons (by decide),
          Text.pieces_of_notMem (h.2.notMem (by decide))]
      rw [hpieces]
      simp [Line.stage?]
  | _ => rfl

theorem argument?_text (h : line.Sound) :
    Dockerfile.argument? line.text.toList = line.argument? := by
  cases line with
  | argument name value =>
      have hname : ∀ c ∈ name.toList, (!decide (c = '=')) = true := by
        intro c hc
        have hplain := h.1 c hc
        simp only [Bool.not_eq_true', decide_eq_false_iff_not]
        rintro rfl
        exact absurd hplain (by decide)
      have hread : name.toList.takeWhile (fun c => !decide (c = '=')) = name.toList :=
        List.takeWhile_eq_self_iff.mpr hname
      have hreadSome : ∀ rest : List Char,
          (name.toList ++ '=' :: rest).takeWhile (fun c => !decide (c = '=')) = name.toList := by
        intro rest
        rw [List.takeWhile_append_of_pos hname, List.takeWhile_cons_of_neg (by decide),
          List.append_nil]
      cases value <;> simp [Dockerfile.argument?, Line.text, Line.argument?, hread, hreadSome]
  | script command => simp [Dockerfile.argument?, Line.text, Line.argument?, not_prefix_indented]
  | verbatim text => exact absurd h id
  | _ => simp [Dockerfile.argument?, Line.text, Line.argument?]

theorem origin?_text (h : line.Sound) :
    Dockerfile.origin? line.text.toList = line.origin? := by
  cases line with
  | copy origin source target =>
      have horigin : ∀ c ∈ origin.toList, (!Text.isBlank c) = true :=
        fun c hc => by rw [h.1 c hc]; rfl
      have hread : ∀ rest : List Char,
          (origin.toList ++ ' ' :: rest).takeWhile (fun c => !Text.isBlank c) = origin.toList := by
        intro rest
        rw [List.takeWhile_append_of_pos horigin, List.takeWhile_cons_of_neg (by decide),
          List.append_nil]
      simp [Dockerfile.origin?, Line.text, Line.origin?, hread]
  | script command => simp [Dockerfile.origin?, Line.text, Line.origin?, not_prefix_indented]
  | verbatim text => exact absurd h id
  | argument name value => cases value <;> simp [Dockerfile.origin?, Line.text, Line.origin?]
  | _ => simp [Dockerfile.origin?, Line.text, Line.origin?]

theorem defaulted?_text (h : line.Sound) :
    Dockerfile.defaulted? line.text.toList = line.defaulted? := by
  unfold Dockerfile.defaulted?
  rw [h.argument?_text]
  cases line with
  | argument name value =>
      have hname : '=' ∉ name.toList := fun hmem => absurd (h.1 '=' hmem) (by decide)
      cases value <;> simp [Line.text, Line.argument?, Line.defaulted?, hname]
  | _ => simp [Line.argument?, Line.defaulted?]

end Line.Sound

/-- The declarations before the first stage are those of the lines that look like ones. -/
theorem declaredNames_unlines {before after : List Line} {image name : String}
    (h : ∀ line ∈ before, line.Sound) (hbefore : ∀ line ∈ before, line.stage? = none) :
    declaredNames (Text.unlines ((before ++ .stage image name :: after).map Line.text)) =
      before.filterMap Line.defaulted? := by
  have hstart : '\n' ∉ "FROM ".toList := by decide
  obtain ⟨rest, hrest⟩ : ∃ rest,
      (Text.unlines ((.stage image name :: after).map Line.text)).toList = "FROM ".toList ++ rest :=
    ⟨_, by simp only [List.map_cons, Text.unlines_cons, Line.text, String.toList_append,
      List.append_assoc]; rfl⟩
  obtain ⟨first, others, hfirst⟩ := Text.exists_pieces_append hstart rest
  have hpieces := Text.pieces_unlines_append (fun line hline => (h line hline).oneLine)
    ("FROM ".toList ++ rest)
  have hkept : ∀ piece ∈ before.map (fun line => line.text.toList),
      (!isStage piece) = true := by
    intro piece hpiece
    obtain ⟨line, hline, rfl⟩ := List.mem_map.mp hpiece
    rw [(h line hline).isStage_text, hbefore line hline]
    rfl
  have hended : (("FROM ".toList ++ first) :: others).takeWhile (fun line => !isStage line) = [] :=
    List.takeWhile_cons_of_neg (by simp [isStage])
  rw [declaredNames, List.map_append, Text.unlines_append, String.toList_append, hrest, hpieces,
    hfirst, List.takeWhile_append_of_pos hkept, hended, List.append_nil, List.filterMap_map]
  exact List.filterMap_congr (fun line hline => (h line hline).defaulted?_text)

end Dockerfile

end Provision
