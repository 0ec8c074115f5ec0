import Mathlib.Data.List.SplitBy
import Provision.Proofs.Name.Separators
import Provision.Proofs.Name.Start
import Provision.Proofs.Text.Nesting

/-!
# Words of names

What reading a name comes to, said without reading it: the words of a name are its longest runs of
letters and digits, cut before the capitals that start a word, and its identifier is made of these
words in capitals with one underscore between them.
-/

namespace Provision
namespace Name

open Text

/-! ## Words -/

/-- The longest runs of letters and digits in a text. -/
def runs (cs : List Char) : List (List Char) :=
  (cs.splitOnP (fun c => !c.isAlphanum)).filter (· ≠ [])

/-- Whether a run is cut before a letter: before a capital behind a small letter or a digit, and
before one that stands between a capital and a small letter. -/
def isCutBefore (previous c : Char) (next : Option Char) : Bool :=
  c.isUpper && (previous.isLower || previous.isDigit || (previous.isUpper && next.any Char.isLower))

/-- The letters of a run, each with the one behind it. -/
def withNext (run : List Char) : List (Char × Option Char) :=
  run.zip (run.tail.map some ++ [none])

/-- The words of a run. -/
def humps (run : List Char) : List (List Char) :=
  ((withNext run).splitBy (fun a b => !isCutBefore a.1 b.1 b.2)).map (·.map Prod.fst)

/-- The words of a text. -/
def words (cs : List Char) : List (List Char) :=
  (runs cs).flatMap humps

example : words "--kube.v2BetaHTTPServer--".toList =
    ["kube", "v2", "Beta", "HTTP", "Server"].map String.toList := by
  decide +kernel

/-! ## Cutting runs -/

theorem splitBy_cons_cons {α : Type} (r : α → α → Bool) (a b : α) (rest : List α) :
    (a :: b :: rest).splitBy r =
      if r a b then ((b :: rest).splitBy r).modifyHead (a :: ·)
      else [a] :: (b :: rest).splitBy r := by
  split
  · next hab =>
      obtain ⟨group, groups, hsplit⟩ := List.exists_cons_of_ne_nil
        (List.splitBy_ne_nil.mpr (List.cons_ne_nil b rest) : (b :: rest).splitBy r ≠ [])
      obtain ⟨hflat, hnil, hinside, hbetween⟩ := List.splitBy_eq_iff.mp hsplit
      obtain ⟨hgroup, hgroups⟩ := List.forall_mem_cons.mp hinside
      cases group with
      | nil => exact absurd List.mem_cons_self hnil
      | cons first others =>
          obtain ⟨rfl, -⟩ := List.cons.inj hflat
          rw [hsplit, List.splitBy_eq_iff]
          refine ⟨by rw [hflat]; rfl, ?_, ?_, ?_⟩
          · exact fun hmem => hnil (List.mem_cons_of_mem _
              ((List.mem_cons.mp hmem).resolve_left (List.cons_ne_nil _ _).symm))
          · exact List.forall_mem_cons.mpr
              ⟨List.isChain_cons_cons.mpr ⟨hab, hgroup⟩, hgroups⟩
          · cases groups with
            | nil => exact List.isChain_singleton _
            | cons second more =>
                obtain ⟨⟨hlast, hhead, hcut⟩, hrest⟩ := List.isChain_cons_cons.mp hbetween
                refine List.isChain_cons_cons.mpr ⟨⟨List.cons_ne_nil _ _, hhead, ?_⟩, hrest⟩
                rw [List.getLast_cons hlast]
                exact hcut
  · next hab =>
      have hcut : ∀ x ∈ [a].getLast?, r x b = false := by simpa using hab
      exact List.splitBy_append_cons rest hcut

theorem withNext_cons (c : Char) (rest : List Char) :
    withNext (c :: rest) = (c, rest.head?) :: withNext rest := by
  cases rest <;> rfl

theorem map_fst_withNext (run : List Char) : (withNext run).map Prod.fst = run := by
  induction run with
  | nil => rfl
  | cons c rest ih => rw [withNext_cons, List.map_cons, ih]

theorem humps_cons_cons (c d : Char) (rest : List Char) :
    humps (c :: d :: rest) =
      if isCutBefore c d rest.head? then [c] :: humps (d :: rest)
      else (humps (d :: rest)).modifyHead (c :: ·) := by
  rw [humps, humps, withNext_cons, withNext_cons, splitBy_cons_cons]
  cases isCutBefore c d rest.head? with
  | true => rfl
  | false =>
      cases ((d, rest.head?) :: withNext rest).splitBy (fun a b => !isCutBefore a.1 b.1 b.2) <;> rfl

theorem flatten_humps (run : List Char) : (humps run).flatten = run := by
  rw [humps, ← List.map_flatten, List.flatten_splitBy, map_fst_withNext]

theorem nil_notMem_humps (run : List Char) : [] ∉ humps run := by
  intro hmem
  obtain ⟨group, hgroup, hnil⟩ := List.mem_map.mp hmem
  exact List.ne_nil_of_mem_splitBy hgroup (List.map_eq_nil_iff.mp hnil)

/-! ## Words, letter by letter -/

section Words

variable {c d : Char}

theorem splitOnP_cons_of_isAlphanum (h : c.isAlphanum = true) (rest : List Char) :
    (c :: rest).splitOnP (fun c => !c.isAlphanum) =
      (rest.splitOnP (fun c => !c.isAlphanum)).modifyHead (c :: ·) := by
  rw [List.splitOnP_cons_eq_if_modifyHead, if_neg (by simp [h])]

theorem splitOnP_cons_of_isAlphanum_eq_false (h : c.isAlphanum = false) (rest : List Char) :
    (c :: rest).splitOnP (fun c => !c.isAlphanum) =
      [] :: rest.splitOnP (fun c => !c.isAlphanum) := by
  rw [List.splitOnP_cons_eq_if_modifyHead, if_pos (by simp [h])]

theorem words_of_isAlphanum_eq_false (h : c.isAlphanum = false) (rest : List Char) :
    words (c :: rest) = words rest := by
  rw [words, runs, splitOnP_cons_of_isAlphanum_eq_false h]
  rfl

/-- A text starts with its first run, unless it starts with a separator. -/
theorem head?_of_splitOnP_eq_cons {cs run : List Char} {others : List (List Char)}
    (h : cs.splitOnP (fun c => !c.isAlphanum) = run :: others) :
    run.head? = cs.head?.filter Char.isAlphanum := by
  cases cs with
  | nil =>
      obtain ⟨rfl, -⟩ := List.cons.inj h
      rfl
  | cons c rest =>
      cases hletter : c.isAlphanum with
      | false =>
          rw [splitOnP_cons_of_isAlphanum_eq_false hletter] at h
          obtain ⟨rfl, -⟩ := List.cons.inj h
          simp [Option.filter_some, hletter]
      | true =>
          obtain ⟨first, more, hsplit⟩ := List.exists_cons_of_ne_nil
            (List.splitOnP_ne_nil (fun c => !c.isAlphanum) rest)
          rw [splitOnP_cons_of_isAlphanum hletter, hsplit, List.modifyHead_cons] at h
          obtain ⟨rfl, -⟩ := List.cons.inj h
          simp [Option.filter_some, hletter]

/-- What stands in front of a letter or digit joins the run that starts there. -/
theorem exists_runs_cons (h : c.isAlphanum = true) (rest : List Char) :
    ∃ run others, runs (c :: rest) = (c :: run) :: others ∧
      run.head? = rest.head?.filter Char.isAlphanum ∧
      ∀ front, front.isAlphanum = true →
        runs (front :: c :: rest) = (front :: c :: run) :: others := by
  obtain ⟨run, others, hsplit⟩ := List.exists_cons_of_ne_nil
    (List.splitOnP_ne_nil (fun c => !c.isAlphanum) rest)
  refine ⟨run, others.filter (· ≠ []), ?_, head?_of_splitOnP_eq_cons hsplit, ?_⟩
  · rw [runs, splitOnP_cons_of_isAlphanum h, hsplit]
    rfl
  · intro front hfront
    rw [runs, splitOnP_cons_of_isAlphanum hfront, splitOnP_cons_of_isAlphanum h, hsplit]
    rfl

theorem words_singleton (h : c.isAlphanum = true) : words [c] = [[c]] := by
  rw [words, runs, splitOnP_cons_of_isAlphanum h]
  rfl

theorem words_cons_of_isAlphanum_eq_false (hc : c.isAlphanum = true) (hd : d.isAlphanum = false)
    (rest : List Char) : words (c :: d :: rest) = [c] :: words rest := by
  rw [words, runs, splitOnP_cons_of_isAlphanum hc, splitOnP_cons_of_isAlphanum_eq_false hd]
  rfl

theorem isCutBefore_filter (previous c : Char) (next : Option Char) :
    isCutBefore previous c (next.filter Char.isAlphanum) = isCutBefore previous c next := by
  cases next with
  | none => rfl
  | some d =>
      cases hletter : d.isAlphanum with
      | true => simp [Option.filter_some, hletter]
      -- A separator is no small letter either.
      | false =>
          have hlower : d.isLower = false := by
            obtain ⟨halpha, -⟩ := Bool.or_eq_false_iff.mp hletter
            exact (Bool.or_eq_false_iff.mp halpha).2
          simp [isCutBefore, Option.filter_some, hletter, hlower]

theorem words_cons_cons (hc : c.isAlphanum = true) (hd : d.isAlphanum = true) (rest : List Char) :
    words (c :: d :: rest) =
      if isCutBefore c d rest.head? then [c] :: words (d :: rest)
      else (words (d :: rest)).modifyHead (c :: ·) := by
  obtain ⟨run, others, hruns, hhead, hfront⟩ := exists_runs_cons hd rest
  rw [words, words, hfront c hc, hruns, List.flatMap_cons, List.flatMap_cons, humps_cons_cons,
    hhead, isCutBefore_filter]
  split
  · rfl
  · cases hhumps : humps (d :: run) with
    | nil =>
        have hflat := flatten_humps (d :: run)
        rw [hhumps] at hflat
        exact absurd hflat.symm (List.cons_ne_nil d run)
    | cons first more => rfl

end Words

/-! ## What words hold -/

theorem flatten_splitOnP (cs : List Char) :
    (cs.splitOnP (fun c => !c.isAlphanum)).flatten = cs.filter Char.isAlphanum := by
  induction cs with
  | nil => rfl
  | cons c rest ih =>
      cases hletter : c.isAlphanum with
      | false =>
          rw [splitOnP_cons_of_isAlphanum_eq_false hletter,
            List.filter_cons_of_neg (by simp [hletter]), ← ih]
          rfl
      | true =>
          obtain ⟨first, more, hsplit⟩ := List.exists_cons_of_ne_nil
            (List.splitOnP_ne_nil (fun c => !c.isAlphanum) rest)
          rw [splitOnP_cons_of_isAlphanum hletter, List.filter_cons_of_pos hletter, ← ih, hsplit]
          rfl

theorem flatten_flatMap_humps (runs : List (List Char)) :
    (runs.flatMap humps).flatten = runs.flatten := by
  induction runs with
  | nil => rfl
  | cons run others ih =>
      rw [List.flatMap_cons, List.flatten_append, flatten_humps, ih, List.flatten_cons]

/-- The words of a text hold its letters and digits, in their order. -/
theorem flatten_words (cs : List Char) : (words cs).flatten = cs.filter Char.isAlphanum := by
  rw [words, flatten_flatMap_humps, runs, List.flatten_filter_ne_nil, flatten_splitOnP]

theorem nil_notMem_words (cs : List Char) : [] ∉ words cs := by
  intro hmem
  obtain ⟨run, -, hnil⟩ := List.mem_flatMap.mp hmem
  exact nil_notMem_humps run hnil

theorem words_eq_nil_iff {cs : List Char} :
    words cs = [] ↔ ∀ c ∈ cs, c.isAlphanum = false := by
  have hfilter : words cs = [] ↔ cs.filter Char.isAlphanum = [] := by
    rw [← flatten_words, List.flatten_eq_nil_iff]
    constructor
    · intro hnil
      rw [hnil]
      exact fun _ hmem => absurd hmem List.not_mem_nil
    · exact fun hall => List.eq_nil_iff_forall_not_mem.mpr
        (fun word hword => nil_notMem_words cs (hall word hword ▸ hword))
  simp only [hfilter, List.filter_eq_nil_iff, Bool.not_eq_true]

/-! ## Reading words -/

/-- The classes of the characters of names are those of ASCII. -/
theorem classes_of_isNameChar {c : Char} (h : isNameChar true c = true) :
    isUpper c = c.isUpper ∧ isLower c = c.isLower := by
  refine of_isNameChar (P := fun c => isUpper c = c.isUpper ∧ isLower c = c.isLower) ?_ h
  decide +kernel

theorem startsWord_eq_isCutBefore {previous c : Char} {next : Option Char}
    (hprevious : isNameChar true previous = true) (hc : isNameChar true c = true)
    (hnext : ∀ d ∈ next, isNameChar true d = true) :
    startsWord previous c next = isCutBefore previous c next := by
  have hlower : next.any isLower = next.any Char.isLower := by
    cases next with
    | none => rfl
    | some d => exact (classes_of_isNameChar (hnext d rfl)).2
  rw [startsWord, isCutBefore, hlower, (classes_of_isNameChar hc).1,
    (classes_of_isNameChar hprevious).1, (classes_of_isNameChar hprevious).2, Bool.or_assoc]

/-- Behind a separator the next word gets an underscore, if there is one. -/
theorem snakeFrom_separator (cs : List Char) :
    snakeFrom .separator cs =
      if cs.any isAlphanumeric then '_' :: snakeFrom .start cs else [] := by
  induction cs with
  | nil => rfl
  | cons c rest ih =>
      cases hletter : isAlphanumeric c with
      | true =>
          rw [snakeFrom_of_isAlphanumeric hletter, snakeFrom_of_isAlphanumeric hletter,
            List.any_cons, hletter, Bool.true_or]
          rfl
      | false =>
          rw [snakeFrom_of_isAlphanumeric_eq_false hletter,
            snakeFrom_of_isAlphanumeric_eq_false hletter, List.any_cons, hletter, Bool.false_or]
          exact ih

/-- The capital forms of a text in snake case. -/
def capitalized (cs : List Char) : List Char := (snakeFrom .start cs).flatMap upper

theorem upper_underscore : upper '_' = ['_'] := by decide +kernel

section Reading

variable {c d : Char} {rest : List Char}

theorem capitalized_of_isAlphanum_eq_false (h : isNameChar true c = true)
    (hletter : c.isAlphanum = false) (rest : List Char) :
    capitalized (c :: rest) = capitalized rest := by
  rw [capitalized, snakeFrom_of_isAlphanumeric_eq_false
    ((isAlphanumeric_of_isNameChar h).trans hletter)]
  rfl

theorem capitalized_cons (h : isNameChar true c = true) (hletter : c.isAlphanum = true)
    (rest : List Char) :
    capitalized (c :: rest) = c.toUpper :: (snakeFrom (.letter c) rest).flatMap upper := by
  obtain ⟨hlower, hupper⟩ := cases_of_isNameChar h hletter
  rw [capitalized, snakeFrom_of_isAlphanumeric ((isAlphanumeric_of_isNameChar h).trans hletter),
    hlower, List.flatMap_append]
  simp [Before.needsUnderscore, hupper]

theorem flatMap_upper_separator {cs : List Char} (h : ∀ c ∈ cs, isNameChar true c = true) :
    (snakeFrom .separator cs).flatMap upper =
      if words cs = [] then [] else '_' :: capitalized cs := by
  have hwords : words cs = [] ↔ cs.any isAlphanumeric = false := by
    rw [words_eq_nil_iff, List.any_eq_false]
    refine forall₂_congr fun c hc => ?_
    rw [isAlphanumeric_of_isNameChar (h c hc), Bool.not_eq_true]
  rw [snakeFrom_separator]
  by_cases hnil : words cs = []
  · rw [if_pos hnil, hwords.mp hnil]
    rfl
  · have hany : cs.any isAlphanumeric = true := by simpa using mt hwords.mpr hnil
    rw [if_neg hnil, if_pos hany, List.flatMap_cons, upper_underscore]
    rfl

theorem capitalized_cons_of_isAlphanum_eq_false
    (h : ∀ other ∈ c :: d :: rest, isNameChar true other = true) (hc : c.isAlphanum = true)
    (hd : d.isAlphanum = false) :
    capitalized (c :: d :: rest) =
      c.toUpper :: (if words rest = [] then [] else '_' :: capitalized rest) := by
  obtain ⟨hcname, hdrest⟩ := List.forall_mem_cons.mp h
  obtain ⟨hdname, hrest⟩ := List.forall_mem_cons.mp hdrest
  rw [capitalized_cons hcname hc, snakeFrom_of_isAlphanumeric_eq_false
    ((isAlphanumeric_of_isNameChar hdname).trans hd), Before.afterSeparator,
    flatMap_upper_separator hrest]

theorem capitalized_cons_cons (h : ∀ other ∈ c :: d :: rest, isNameChar true other = true)
    (hc : c.isAlphanum = true) (hd : d.isAlphanum = true) :
    capitalized (c :: d :: rest) =
      c.toUpper ::
        ((if isCutBefore c d rest.head? then ['_'] else []) ++ capitalized (d :: rest)) := by
  obtain ⟨hcname, hdrest⟩ := List.forall_mem_cons.mp h
  obtain ⟨hdname, hrest⟩ := List.forall_mem_cons.mp hdrest
  have hclass := (isAlphanumeric_of_isNameChar hdname).trans hd
  have hcut : Before.needsUnderscore (.letter c) d rest.head? = isCutBefore c d rest.head? :=
    startsWord_eq_isCutBefore hcname hdname
      (fun other hother => hrest other (List.mem_of_mem_head? hother))
  obtain ⟨hlower, hupper⟩ := cases_of_isNameChar hdname hd
  rw [capitalized_cons hcname hc, snakeFrom_of_isAlphanumeric hclass, capitalized_cons hdname hd,
    hcut, hlower, List.append_assoc, List.flatMap_append, List.singleton_append,
    List.flatMap_cons, hupper]
  split
  · simp [upper_underscore]
  · rfl

end Reading

/-- Words in capitals, with one underscore between them. -/
def joinedCapitals (words : List (List Char)) : List Char :=
  joinPieces '_' (words.map (·.map Char.toUpper))

theorem joinedCapitals_letter_cons (c : Char) (words : List (List Char)) :
    joinedCapitals ([c] :: words) =
      c.toUpper :: (if words = [] then [] else '_' :: joinedCapitals words) := by
  split
  · next hnil =>
      rw [hnil]
      rfl
  · next hnil =>
      have hne : words.map (·.map Char.toUpper) ≠ [] := mt List.map_eq_nil_iff.mp hnil
      rw [joinedCapitals, List.map_cons, joinPieces_cons '_' _ hne]
      rfl

theorem joinedCapitals_modifyHead (c : Char) {words : List (List Char)} (h : words ≠ []) :
    joinedCapitals (words.modifyHead (c :: ·)) = c.toUpper :: joinedCapitals words := by
  obtain ⟨word, others, rfl⟩ := List.exists_cons_of_ne_nil h
  cases others <;> rfl

/-- In capitals, the words of a name stand with one underscore between them. -/
theorem capitalized_eq_joinedCapitals {cs : List Char} (h : ∀ c ∈ cs, isNameChar true c = true) :
    capitalized cs = joinedCapitals (words cs) := by
  induction cs with
  | nil => rfl
  | cons c rest ih =>
      obtain ⟨hc, hrest⟩ := List.forall_mem_cons.mp h
      have hread := ih hrest
      cases hletter : c.isAlphanum with
      | false =>
          rw [capitalized_of_isAlphanum_eq_false hc hletter, hread,
            words_of_isAlphanum_eq_false hletter]
      | true =>
          -- What becomes of a letter depends on the character behind it.
          cases rest with
          | nil =>
              rw [capitalized_cons hc hletter, words_singleton hletter]
              rfl
          | cons d more =>
              have hd : isNameChar true d = true := hrest d List.mem_cons_self
              cases hnext : d.isAlphanum with
              | false =>
                  rw [capitalized_of_isAlphanum_eq_false hd hnext,
                    words_of_isAlphanum_eq_false hnext] at hread
                  rw [capitalized_cons_of_isAlphanum_eq_false h hletter hnext, hread,
                    words_cons_of_isAlphanum_eq_false hletter hnext, joinedCapitals_letter_cons]
              | true =>
                  have hwords : words (d :: more) ≠ [] := by
                    rw [ne_eq, words_eq_nil_iff]
                    intro hall
                    rw [hall d List.mem_cons_self] at hnext
                    contradiction
                  rw [capitalized_cons_cons h hletter hnext, hread, words_cons_cons hletter hnext]
                  split
                  · rw [joinedCapitals_letter_cons, if_neg hwords]
                    rfl
                  · rw [joinedCapitals_modifyHead c hwords]
                    rfl

/-! ## Upper snake case -/

/-- Capitals, digits and underscores, which stand one by one and not at the ends. -/
structure IsUpperSnake (text : String) : Prop where
  chars : ∀ c ∈ text.toList, c.isUpper = true ∨ c.isDigit = true ∨ c = '_'
  starts : text.toList.head? ≠ some '_'
  ends : text.toList.getLast? ≠ some '_'
  single : ¬ ['_', '_'] <:+: text.toList

theorem underscore_notMem {piece : List Char}
    (h : ∀ c ∈ piece, c.isUpper = true ∨ c.isDigit = true) : '_' ∉ piece :=
  fun hline => absurd (h '_' hline) (by decide)

/-- Where underscores stand is known from the pieces between them, none of which is empty. -/
theorem isUpperSnake_of_joinPieces {text : String} {pieces : List (List Char)}
    (htext : text.toList = joinPieces '_' pieces) (hne : [] ∉ pieces)
    (hchars : ∀ piece ∈ pieces, ∀ c ∈ piece, c.isUpper = true ∨ c.isDigit = true) :
    IsUpperSnake text := by
  have hcut : ∀ piece ∈ pieces, '_' ∉ piece :=
    fun piece hpiece => underscore_notMem (hchars piece hpiece)
  have hpieces : text.toList ≠ [] → [] ∉ Text.pieces '_' text.toList := by
    intro hfilled
    have hsome : pieces ≠ [] := by
      rintro rfl
      exact hfilled htext
    rwa [htext, pieces_joinPieces hsome hcut]
  have hsplit : ∀ front back, text.toList = front ++ '_' :: back →
      [] ∉ Text.pieces '_' front ∧ [] ∉ Text.pieces '_' back := by
    intro front back heq
    have hall := hpieces (by simp [heq])
    rwa [heq, pieces_append_cut, List.mem_append, not_or] at hall
  refine ⟨?_, ?_, ?_, ?_⟩
  · intro c hc
    rw [htext] at hc
    rcases mem_joinPieces hc with hline | ⟨piece, hpiece, hmem⟩
    · exact Or.inr (Or.inr hline)
    · exact (hchars piece hpiece c hmem).imp_right Or.inl
  · intro hstart
    obtain ⟨rest, heq⟩ := List.head?_eq_some_iff.mp hstart
    exact (hsplit [] rest heq).1 List.mem_cons_self
  · intro hend
    obtain ⟨front, heq⟩ := List.getLast?_eq_some_iff.mp hend
    exact (hsplit front [] heq).2 List.mem_cons_self
  · rintro ⟨front, back, heq⟩
    rw [List.append_assoc] at heq
    refine (hsplit front ('_' :: back) heq.symm).2 ?_
    rw [Text.pieces, if_pos rfl]
    exact List.mem_cons_self

/-! ## Identifiers -/

variable {name : String}

theorem IsPlain.toList_identifier (h : IsPlain name) :
    (Name.identifier name).toList =
      joinPieces '_' ((words name.toList).map (·.map Char.toUpper)) := by
  rw [Name.identifier, upperText, String.toList_ofList, toList_snakeCase]
  exact capitalized_eq_joinedCapitals h

theorem IsPlain.isUpper_or_isDigit_of_mem_words (h : IsPlain name) :
    ∀ word ∈ (words name.toList).map (·.map Char.toUpper), ∀ c ∈ word,
      c.isUpper = true ∨ c.isDigit = true := by
  rw [List.forall_mem_map]
  intro word hword
  rw [List.forall_mem_map]
  intro c hc
  have hmem : c ∈ name.toList.filter Char.isAlphanum :=
    flatten_words name.toList ▸ List.mem_flatten_of_mem hword hc
  obtain ⟨hname, hletter⟩ := List.mem_filter.mp hmem
  refine of_isNameChar (P := fun c => c.isAlphanum = true →
    c.toUpper.isUpper = true ∨ c.toUpper.isDigit = true) ?_ (h c hname) hletter
  decide

/-- The identifier of a name is made of the words of the name in capitals, with one underscore
between them.  It is in upper snake case, it is empty if the name has no letter or digit and not
otherwise, and apart from underscores it has just the letters and digits of the name. -/
theorem identifier_eq_joinPieces_words (h : isName true name = true) :
    (identifier name).toList =
        joinPieces '_' ((words name.toList).map (·.map Char.toUpper)) ∧
      IsUpperSnake (identifier name) ∧
      (identifier name = "" ↔ ∀ c ∈ name.toList, c.isAlphanum = false) ∧
      (identifier name).toList.filter (· ≠ '_') =
        (name.toList.filter Char.isAlphanum).map Char.toUpper := by
  have hplain := isPlain_of_isName h
  have hjoined := hplain.toList_identifier
  have hchars := hplain.isUpper_or_isDigit_of_mem_words
  refine ⟨hjoined, isUpperSnake_of_joinPieces hjoined ?_ hchars, ?_, ?_⟩
  · intro hmem
    obtain ⟨word, hword, hnil⟩ := List.mem_map.mp hmem
    exact nil_notMem_words _ (List.map_eq_nil_iff.mp hnil ▸ hword)
  · rw [hplain.identifier_eq_empty_iff]
    refine forall₂_congr fun c hc => ?_
    rw [isAlphanumeric_of_isNameChar (hplain c hc)]
  · rw [hjoined, filter_joinPieces (fun word hword => underscore_notMem (hchars word hword)),
      ← List.map_flatten, flatten_words]

theorem identifier_eq_joinPieces_words_beta :
    isName true "--kube.v2BetaHTTPServer--" = true ∧
      identifier "--kube.v2BetaHTTPServer--" = "KUBE_V2_BETA_HTTP_SERVER" ∧
      IsUpperSnake (identifier "--kube.v2BetaHTTPServer--") := by
  have hname : isName true "--kube.v2BetaHTTPServer--" = true := by decide
  obtain ⟨hjoined, hsnake, -⟩ := identifier_eq_joinPieces_words hname
  refine ⟨hname, String.toList_inj.mp (hjoined.trans ?_), hsnake⟩
  decide +kernel

end Name
end Provision
