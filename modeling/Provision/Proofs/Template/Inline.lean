import Provision.Name.Basic
import Provision.Proofs.Template.Rendering

/-!
# Texts with placeholders

A templated setting is text in which placeholders stand for variables.  Such a text always reads
as a template, and rendering it puts the reference of each variable in the place of its
placeholder and leaves everything else as it is.
-/

namespace Provision
namespace Template

/-! ## Reading a placeholder -/

section Placeholder

variable {fuel room : Nat} {e : Expr} {rest ts : List Token}

theorem readOperators_exprEnd (level : Nat) :
    readOperators (fuel + 1) room level e (.exprEnd :: rest) = some (e, .exprEnd :: rest) := by
  have hnone : operatorAt? level .exprEnd = none := by
    unfold operatorAt?
    split <;> first | rfl | contradiction
  rw [readOperators, List.head?_cons, Option.bind_some, hnone]

theorem readComparisons_exprEnd :
    readComparisons (fuel + 1) room (.exprEnd :: rest) = some ([], .exprEnd :: rest) := by
  rw [readComparisons]
  rfl

theorem readChoice_exprEnd :
    readChoice (fuel + 1) room e (.exprEnd :: rest) = some (e, .exprEnd :: rest) := by
  rw [readChoice]
  rfl

theorem readFilters_exprEnd :
    readFilters (fuel + 1) room e (.exprEnd :: rest) = some (e, .exprEnd :: rest) := by
  rw [readFilters]
  all_goals simp

theorem readPostfix_exprEnd :
    readPostfix (fuel + 1) room e (.exprEnd :: rest) = some (e, .exprEnd :: rest) := by
  rw [readPostfix]
  all_goals simp

/-- A value at the end of a tag is read at every level of precedence. -/
theorem readLevel_of_readValue (hnot : ts.head? ≠ some (.word "not"))
    (h : readValue (fuel + 1) room ts = some (e, .exprEnd :: rest)) {distance level : Nat}
    (hlevel : level + distance = valueLevel) :
    readLevel (fuel + 2 + distance) room level ts = some (e, .exprEnd :: rest) := by
  induction distance generalizing level with
  | zero =>
      rw [readLevel, if_pos (by omega)]
      exact h
  | succ distance ih =>
      have hnext := ih (show level + 1 + distance = valueLevel by omega)
      have hfuel : fuel + 2 + distance = fuel + 1 + distance + 1 := by omega
      rw [← Nat.add_assoc, readLevel, if_neg (by omega)]
      split
      · have hskip : after? (.word "not") ts = none := by
          cases ts with
          | nil => rfl
          | cons first others =>
              rw [after?, if_neg]
              intro heq
              exact hnot (congrArg some heq)
        rw [hskip]
        simp only [hnext, Option.bind_eq_bind, Option.bind_some]
        rw [hfuel, readComparisons_exprEnd]
        rfl
      · rw [hnext]
        simp only [Option.bind_eq_bind, Option.bind_some]
        rw [hfuel, readOperators_exprEnd]

theorem readExpr_of_readValue (hnot : ts.head? ≠ some (.word "not"))
    (h : readValue (fuel + 1) room ts = some (e, .exprEnd :: rest)) :
    readExpr (fuel + 11) (room + 1) ts = some (e, .exprEnd :: rest) := by
  have hlevel : readLevel (fuel + 9) room 0 ts = some (e, .exprEnd :: rest) :=
    readLevel_of_readValue hnot h (Nat.zero_add valueLevel)
  rw [readExpr, readTernary, hlevel]
  simp only [Option.bind_eq_bind, Option.bind_some]
  rw [readChoice_exprEnd]

end Placeholder

/-- Whose variables a placeholder can stand for. -/
inductive Scope where
  | own
  | shared
deriving DecidableEq

namespace Scope

/-- The name under which a template finds the references to the variables. -/
def word : Scope → String
  | .own => "vars"
  | .shared => "global"

end Scope

/-- The tokens of a placeholder. -/
def placeholderTokens (scope : Scope) (key : String) : List Token :=
  [.word scope.word, .symbol ".", .word key]

theorem readValue_placeholder (fuel room : Nat) (scope : Scope) (key : String)
    (rest : List Token) :
    readValue (fuel + 5) (room + 1) (placeholderTokens scope key ++ .exprEnd :: rest) =
      some (.attribute (.var scope.word) key, .exprEnd :: rest) := by
  have hprimary :
      readPrimary (fuel + 2) (room + 1) (placeholderTokens scope key ++ .exprEnd :: rest) =
        some (.var scope.word, .symbol "." :: .word key :: .exprEnd :: rest) := by
    cases scope with
    | own =>
        rw [placeholderTokens, Scope.word, List.cons_append, readPrimary]
        all_goals simp
    | shared =>
        rw [placeholderTokens, Scope.word, List.cons_append, readPrimary]
        all_goals simp
  have hsigned :
      readSigned (fuel + 3) (room + 1) (placeholderTokens scope key ++ .exprEnd :: rest) =
        some (.var scope.word, .symbol "." :: .word key :: .exprEnd :: rest) := by
    rw [readSigned]
    exact hprimary
  have hpostfix :
      readPostfix (fuel + 3) (room + 1) (.var scope.word)
          (.symbol "." :: .word key :: .exprEnd :: rest) =
        some (.attribute (.var scope.word) key, .exprEnd :: rest) := by
    rw [readPostfix, readPostfix_exprEnd]
  rw [readValue, readOperand, hsigned]
  simp only [Option.bind_eq_bind, Option.bind_some, hpostfix, readFilters_exprEnd]

theorem readExpr_placeholder (fuel room : Nat) (scope : Scope) (key : String)
    (rest : List Token) :
    readExpr (fuel + 15) (room + 2) (placeholderTokens scope key ++ .exprEnd :: rest) =
      some (.attribute (.var scope.word) key, .exprEnd :: rest) := by
  apply readExpr_of_readValue _ (readValue_placeholder fuel room scope key rest)
  cases scope <;> simp [placeholderTokens, Scope.word]

/-! ## Tokens of a placeholder -/

theorem pair_notMem {c : Char} (hc : ∀ s ∈ pairSymbols, s.toList.head? ≠ some c)
    (cs : List Char) : String.ofList ((c :: cs).take 2) ∉ pairSymbols := by
  intro hmem
  apply hc _ hmem
  rw [String.toList_ofList]
  rfl

theorem symbol?_of_isWordStart {c : Char} (hc : isWordStart c = true) (cs : List Char) :
    symbol? (c :: cs) = none := by
  have hpair : ∀ s ∈ pairSymbols, s.toList.head? ≠ some c := by
    have hno : ∀ s ∈ pairSymbols, s.toList.head?.any isWordStart = false := by decide
    intro s hs heq
    have hstart := hno s hs
    rw [heq, Option.any_some, hc] at hstart
    contradiction
  have hsingle : c ∉ singleSymbols := by
    have hno : singleSymbols.any isWordStart = false := by decide
    intro hmem
    exact Bool.eq_false_iff.mp hno (List.any_eq_true.mpr ⟨c, hmem, hc⟩)
  unfold symbol?
  rw [if_neg (pair_notMem hpair cs)]
  exact if_neg hsingle

theorem insideToken?_point (cs : List Char) :
    insideToken? ('.' :: cs) = some (.symbol ".", cs) := by
  unfold insideToken? symbol?
  rw [if_neg (pair_notMem (by decide) cs)]
  rfl

theorem isWordChar_of_isWordStart {c : Char} (hc : isWordStart c = true) : isWordChar c = true := by
  unfold isWordStart at hc
  unfold isWordChar Char.isAlphanum
  simp only [Bool.or_eq_true] at hc ⊢
  rcases hc with halpha | hunderscore
  · exact Or.inl (Or.inl halpha)
  · exact Or.inr hunderscore

theorem not_isDigit_of_isWordStart {c : Char} (hc : isWordStart c = true) :
    ¬ c.isDigit = true := by
  intro hdigit
  have hstart : isWordStart c = true := hc
  unfold isWordStart Char.isAlpha Char.isUpper Char.isLower at hstart
  unfold Char.isDigit at hdigit
  simp only [Bool.or_eq_true, Bool.and_eq_true, decide_eq_true_eq, beq_iff_eq, ge_iff_le,
    UInt32.le_iff_toNat_le] at hstart hdigit
  rcases hstart with (hupper | hlower) | rfl
  · simp at hupper hdigit
    omega
  · simp at hlower hdigit
    omega
  · simp at hdigit

/-- A word ends before the first character that no word has. -/
theorem insideToken?_word {c : Char} {cs rest : List Char} (hstart : isWordStart c = true)
    (hword : ∀ d ∈ cs, isWordChar d = true) (hend : ∀ d ∈ rest.head?, isWordChar d = false) :
    insideToken? (c :: cs ++ rest) = some (.word (String.ofList (c :: cs)), rest) := by
  have hall : ∀ d ∈ c :: cs, isWordChar d = true := by
    intro d hd
    rcases List.mem_cons.mp hd with rfl | hmem
    · exact isWordChar_of_isWordStart hstart
    · exact hword d hmem
  have htake : (c :: cs ++ rest).takeWhile isWordChar = c :: cs := by
    rw [List.takeWhile_append_of_pos hall]
    cases rest with
    | nil => exact List.append_nil _
    | cons d others => rw [List.takeWhile_cons_of_neg (by simp [hend d rfl]), List.append_nil]
  have hdrop : (c :: cs ++ rest).dropWhile isWordChar = rest := by
    rw [List.dropWhile_append_of_pos hall]
    cases rest with
    | nil => rfl
    | cons d others => rw [List.dropWhile_cons_of_neg (by simp [hend d rfl])]
  have hquote : ¬ (c = '\x27' ∨ c = '"') := by
    rintro (rfl | rfl) <;> exact absurd hstart (by decide)
  have hdigit : ¬ c.isDigit = true := not_isDigit_of_isWordStart hstart
  unfold insideToken?
  rw [htake, hdrop, List.cons_append, symbol?_of_isWordStart hstart]
  simp only [if_neg hquote, if_neg hdigit, if_pos hstart]

theorem insideTokens_succ {fuel : Nat} {cs after : List Char} {token : Token}
    (hspace : ∀ c ∈ cs.head?, isTagSpace c = false) (hgo : tagEnd? false cs = none)
    (htoken : insideToken? cs = some (token, after)) (hbalance : balanceChange token = 0) :
    insideTokens false (fuel + 1) 0 cs =
      (insideTokens false fuel 0 after).map (fun r => (token :: r.1, r.2)) := by
  have hdrop : cs.dropWhile isTagSpace = cs := by
    cases cs with
    | nil => rfl
    | cons c others => exact List.dropWhile_cons_of_neg (by simp [hspace c rfl])
  rw [insideTokens]
  simp only [hdrop, if_true, hgo, htoken, hbalance, Int.add_zero]

theorem exists_word_of_isIdentifier {key : String} (hkey : Name.isIdentifier key = true) :
    ∃ c cs, key.toList = c :: cs ∧ isWordStart c = true ∧ ∀ d ∈ cs, isWordChar d = true := by
  unfold Name.isIdentifier at hkey
  split at hkey
  · contradiction
  · next c cs hlist =>
      rw [Bool.and_eq_true] at hkey
      exact ⟨c, cs, hlist, hkey.1, List.all_eq_true.mp hkey.2⟩

/-- A word inside of a tag is read as a token. -/
theorem insideTokens_word {fuel : Nat} {word : String} {rest : List Char}
    (hword : Name.isIdentifier word = true) (hend : ∀ d ∈ rest.head?, isWordChar d = false) :
    insideTokens false (fuel + 1) 0 (word.toList ++ rest) =
      (insideTokens false fuel 0 rest).map (fun r => (.word word :: r.1, r.2)) := by
  obtain ⟨c, cs, hlist, hstart, hall⟩ := exists_word_of_isIdentifier hword
  have htoken : insideToken? (word.toList ++ rest) = some (.word word, rest) := by
    rw [hlist, insideToken?_word hstart hall hend, ← hlist, String.ofList_toList]
  have hchar : isWordChar c = true := isWordChar_of_isWordStart hstart
  have hne : ∀ d : Char, isWordChar d = false → c ≠ d := by
    intro d hd heq
    rw [heq, hd] at hchar
    contradiction
  apply insideTokens_succ _ _ htoken rfl
  · intro d hd
    rw [hlist, List.cons_append, List.head?_cons, Option.mem_some_iff] at hd
    subst hd
    unfold isTagSpace
    simp [hne ' ' rfl, hne '\t' rfl, hne '\n' rfl, hne '\r' rfl, hne '\x0C' rfl]
  · have hedge : edgeOf (some c) = .plain := by
      unfold edgeOf
      split
      · next heq => exact absurd (Option.some.inj heq) (hne '-' rfl)
      · next heq => exact absurd (Option.some.inj heq) (hne '+' rfl)
      · rfl
    rw [hlist, List.cons_append]
    unfold tagEnd?
    simp only [List.head?_cons, hedge, if_true]
    split
    · next heq => exact absurd (List.cons.inj heq).1 (hne '%' rfl)
    · next heq => exact absurd (List.cons.inj heq).1 (hne '\x7d' rfl)
    · rfl

/-- The inside of a placeholder, its last two characters included. -/
def placeholderInside (scope : Scope) (key : String) : List Char :=
  ' ' :: (scope.word.toList ++ '.' :: (key.toList ++ [' ', '\x7d', '\x7d']))

theorem insideTokens_placeholderInside {fuel : Nat} (scope : Scope) {key : String}
    (hkey : Name.isIdentifier key = true) (rest : List Char) :
    insideTokens false (fuel + 4) 0 (placeholderInside scope key ++ rest) =
      some (placeholderTokens scope key, .plain, rest) := by
  have hscope : Name.isIdentifier scope.word = true := by cases scope <;> decide
  have hspace : ∀ cs : List Char, insideTokens false (fuel + 4) 0 (' ' :: cs) =
      insideTokens false (fuel + 4) 0 cs := by
    intro cs
    rw [insideTokens, insideTokens, List.dropWhile_cons_of_pos (by decide)]
  have hpoint : ∀ cs : List Char, insideTokens false (fuel + 3) 0 ('.' :: cs) =
      (insideTokens false (fuel + 2) 0 cs).map (fun r => (.symbol "." :: r.1, r.2)) := by
    intro cs
    exact insideTokens_succ (by simp [isTagSpace]) rfl (insideToken?_point cs) rfl
  have hfinish : insideTokens false (fuel + 1) 0 (' ' :: '\x7d' :: '\x7d' :: rest) =
      some ([], .plain, rest) := by
    rw [insideTokens, List.dropWhile_cons_of_pos (by decide),
      List.dropWhile_cons_of_neg (by decide)]
    rfl
  have hall : placeholderInside scope key ++ rest =
      ' ' :: (scope.word.toList ++ '.' :: (key.toList ++ ' ' :: '\x7d' :: '\x7d' :: rest)) := by
    simp [placeholderInside]
  rw [hall, hspace, insideTokens_word hscope (by simp [isWordChar]), hpoint,
    insideTokens_word hkey (by simp [isWordChar]), hfinish]
  rfl

/-! ## Texts with placeholders -/

/-- A text with placeholders for variables. -/
inductive InlineText where
  | text (cs : List Char)
  /-- Some text, a placeholder and what follows it. -/
  | refer (cs : List Char) (scope : Scope) (key : String) (rest : InlineText)

namespace InlineText

/-- A text with placeholders as it is written. -/
def source : InlineText → List Char
  | text cs => cs
  | refer cs scope key rest =>
      cs ++ '\x7b' :: '\x7b' :: (placeholderInside scope key ++ rest.source)

/-- Only placeholders have braces, and they stand for declared variables whose keys are
identifiers. -/
def Fits (declared : Scope → List String) : InlineText → Prop
  | text cs => '\x7b' ∉ cs
  | refer cs scope key rest =>
      '\x7b' ∉ cs ∧ Name.isIdentifier key = true ∧ key ∈ declared scope ∧ rest.Fits declared

/-- A text with values in the places of its placeholders. -/
def filledIn (value : Scope → String → String) : InlineText → String
  | text cs => String.ofList cs
  | refer cs scope key rest => String.ofList cs ++ (value scope key ++ rest.filledIn value)

def tokens : InlineText → List Token
  | text cs => textToken cs
  | refer cs scope key rest =>
      textToken cs ++ .exprStart :: (placeholderTokens scope key ++ .exprEnd :: rest.tokens)

def textStmt (cs : List Char) : List Stmt :=
  if cs.isEmpty then [] else [.text (String.ofList cs)]

def body : InlineText → List Stmt
  | text cs => textStmt cs
  | refer cs scope key rest =>
      textStmt cs ++ .emit (.attribute (.var scope.word) key) :: rest.body

end InlineText

theorem splitTag_of_notMem {cs : List Char} (hcs : '\x7b' ∉ cs) : splitTag cs = (cs, none) := by
  induction cs with
  | nil => rfl
  | cons c rest ih =>
      have hc : c ≠ '\x7b' := fun heq => hcs (heq ▸ List.mem_cons_self)
      have hrest := ih (fun hmem => hcs (List.mem_cons_of_mem _ hmem))
      cases rest with
      | nil => rfl
      | cons d others => simp [splitTag, hc, hrest]

theorem splitTag_append {cs : List Char} (hcs : '\x7b' ∉ cs) (rest : List Char) :
    splitTag (cs ++ '\x7b' :: '\x7b' :: rest) = (cs, some (.expr, rest)) := by
  induction cs with
  | nil => rfl
  | cons c before ih =>
      have hc : c ≠ '\x7b' := fun heq => hcs (heq ▸ List.mem_cons_self)
      have hbefore := ih (fun hmem => hcs (List.mem_cons_of_mem _ hmem))
      cases before with
      | nil =>
          rw [List.nil_append] at hbefore
          rw [List.singleton_append, splitTag, if_neg hc, hbefore]
      | cons d others =>
          rw [List.cons_append] at hbefore
          rw [List.cons_append, List.cons_append, splitTag, if_neg hc, hbefore]

namespace InlineText

variable {declared : Scope → List String}

theorem tokensFrom_source {t : InlineText} (hfits : t.Fits declared) {fuel : Nat}
    (hfuel : t.source.length < fuel) (lineOpen : Bool) :
    tokensFrom fuel ⟨t.source, lineOpen⟩ = some t.tokens := by
  induction t generalizing fuel lineOpen with
  | text cs =>
      cases fuel with
      | zero => omega
      | succ fuel =>
          rw [tokensFrom, source, splitTag_of_notMem hfits]
          rfl
  | refer cs scope key rest ih =>
      obtain ⟨hcs, hkey, -, hrest⟩ := hfits
      cases fuel with
      | zero => omega
      | succ fuel =>
          have hlength : rest.source.length < fuel := by
            simp only [source, List.length_append, List.length_cons] at hfuel
            omega
          have hinner : placeholderInside scope key ++ rest.source =
              ' ' :: (placeholderInside scope key ++ rest.source).tail := rfl
          have henough : ∃ more,
              (placeholderInside scope key ++ rest.source).length + 1 = more + 4 := by
            refine ⟨(placeholderInside scope key ++ rest.source).length + 1 - 4, ?_⟩
            simp only [placeholderInside, List.length_append, List.length_cons, List.length_nil]
            omega
          obtain ⟨more, hmore⟩ := henough
          rw [tokensFrom, source, splitTag_append hcs]
          have hedge : edgeOf (placeholderInside scope key ++ rest.source).head? = .plain := rfl
          simp only [hedge, if_true, hmore, insideTokens_placeholderInside scope hkey,
            reduceCtorEq, if_false, ih hrest hlength, Option.map_some, textBefore, ne_eq,
            not_true, decide_false, Bool.false_and, Bool.false_eq_true]
          simp [tokens]

theorem readBody_textToken {room needed : Nat} {ts : List Token} {later : List Stmt}
    (h : ∀ fuel, needed ≤ fuel → readBody fuel room [] ts = some (later, "", []))
    (cs : List Char) :
    ∀ fuel, needed + 1 ≤ fuel →
      readBody fuel room [] (textToken cs ++ ts) = some (textStmt cs ++ later, "", []) := by
  intro fuel hfuel
  unfold textToken textStmt
  by_cases hcs : cs.isEmpty = true
  · simp only [hcs, if_true, List.nil_append]
    exact h fuel (by omega)
  · cases fuel with
    | zero => omega
    | succ fuel =>
        simp only [if_neg hcs, List.singleton_append, readBody]
        rw [h fuel (by omega)]
        rfl

theorem readBody_tokens (t : InlineText) (room : Nat) :
    ∀ fuel, 16 + 2 * t.tokens.length ≤ fuel →
      readBody fuel (room + 2) [] t.tokens = some (t.body, "", []) := by
  have hnil : ∀ fuel, 1 ≤ fuel → readBody fuel (room + 2) [] [] = some ([], "", []) := by
    intro fuel hfuel
    cases fuel with
    | zero => omega
    | succ fuel =>
        rw [readBody]
        rfl
  induction t with
  | text cs =>
      intro fuel hfuel
      have hbody := readBody_textToken hnil cs fuel (by omega)
      rw [List.append_nil, List.append_nil] at hbody
      exact hbody
  | refer cs scope key rest ih =>
      intro fuel hfuel
      have hlater : ∀ fuel, 16 + 2 * rest.tokens.length + 1 ≤ fuel →
          readBody fuel (room + 2) []
              (.exprStart :: (placeholderTokens scope key ++ .exprEnd :: rest.tokens)) =
            some (.emit (.attribute (.var scope.word) key) :: rest.body, "", []) := by
        intro fuel hfuel
        have hsplit : ∃ more, fuel = more + 15 + 1 := ⟨fuel - 16, by omega⟩
        obtain ⟨more, rfl⟩ := hsplit
        rw [readBody, readExpr_placeholder]
        simp only [Option.bind_eq_bind, Option.bind_some, after?, if_true]
        rw [ih (more + 15) (by omega)]
        rfl
      apply readBody_textToken hlater cs fuel
      simp only [tokens, List.length_append, List.length_cons] at hfuel
      omega

/-- Such a body has neither blocks nor routines. -/
theorem ofBody?_body (t : InlineText) : Template.ofBody? t.body = some ⟨t.body, []⟩ := by
  have htext : ∀ (cs : List Char) (later : List Stmt),
      blocksOfBody (textStmt cs ++ later) = blocksOfBody later ∧
        nestBlock false (textStmt cs ++ later) = nestBlock false later := by
    intro cs later
    unfold textStmt
    by_cases hcs : cs.isEmpty = true
    · simp [hcs]
    · simp [hcs, blocksOfBody, Stmt.blocks, nestBlock, Stmt.nestsBlock]
  have hbody : blocksOfBody t.body = [] ∧ nestBlock false t.body = false := by
    induction t with
    | text cs =>
        have h := htext cs []
        rw [List.append_nil] at h
        exact h
    | refer cs scope key rest ih =>
        rw [body, (htext cs _).1, (htext cs _).2, blocksOfBody, nestBlock]
        exact ih
  unfold Template.ofBody?
  rw [hbody.1, hbody.2]
  rfl

/-- A text with placeholders reads as what it looks like. -/
theorem ofText?_source {t : InlineText} (hfits : t.Fits declared) {source : String}
    (hsource : t.source = source.toList) : ofText? source = some ⟨t.body, []⟩ := by
  have htokens : tokens? source.toList = some t.tokens := by
    rw [← hsource]
    exact tokensFrom_source hfits (Nat.lt_succ_self _) true
  have hread : readBody (callsPerToken * (t.tokens.length + 1)) nestingRoom [] t.tokens =
      some (t.body, "", []) := by
    apply t.readBody_tokens 148
    unfold callsPerToken
    omega
  unfold ofText? ofTokens?
  simp only [htokens, Option.bind_eq_bind, Option.bind_some, hread, ofBody?_body]

/-! ## Rendering -/

theorem output?_textStmt {answer : Answer} {depth : Nat} {env : Env} {later : List Stmt}
    {text : String} (h : output? answer depth env later = some text) (cs : List Char) :
    output? answer depth env (textStmt cs ++ later) = some (String.ofList cs ++ text) := by
  unfold textStmt
  by_cases hcs : cs.isEmpty = true
  · rw [if_pos hcs, List.nil_append, h, List.isEmpty_iff.mp hcs, String.ofList_nil,
      String.empty_append]
  · rw [if_neg hcs, List.singleton_append, output?_text, h, Option.map_some]

/-- The output of a text with placeholders, given what names lead to there. -/
theorem output?_body {t : InlineText} (hfits : t.Fits declared) {answer : Answer} {depth : Nat}
    {env : Env} {value : Scope → String → String}
    (henv : ∀ scope, ∀ key ∈ declared scope,
      (env scope.word).attribute? key = some (.text (value scope key))) :
    output? answer depth env t.body = some (t.filledIn value) := by
  induction t with
  | text cs =>
      have h := output?_textStmt (output?_nil answer depth env) cs
      rw [List.append_nil, String.append_empty] at h
      exact h
  | refer cs scope key rest ih =>
      obtain ⟨-, -, hkey, hrest⟩ := hfits
      apply output?_textStmt
      have hword : scope.word ≠ "loop" := by cases scope <;> decide
      rw [output?_emit, value?_attribute, value?_var answer env hword, next?_some,
        henv scope key hkey, next?_some]
      change (next? (some (value scope key)) fun text => _) = _
      rw [next?_some, ih hrest]
      rfl

end InlineText
end Template

open Template

/-- Rendering a text with placeholders fills them in. -/
theorem Engine.inlined?_source (engine : Engine) (depth : Nat) {declared : Scope → List String}
    {t : InlineText} (hfits : t.Fits declared) {source : String}
    (hsource : t.source = source.toList) {d : Dict Value} (hlive : (Value.ofDict d).isLive = false)
    {value : Scope → String → String}
    (hrefs : ∀ scope, ∀ key ∈ declared scope,
      (Env.ofDict d scope.word).attribute? key = some (.text (value scope key))) :
    engine.inlined? (depth + 2) source (.ofDict d) = some (.text (t.filledIn value)) := by
  have hbody : output? (engine.answer? engine.inlined? depth) 1 (Env.ofContext (.ofDict d)) t.body =
      some (t.filledIn value) := by
    rw [Env.ofContext_ofDict]
    exact InlineText.output?_body hfits hrefs
  have hrender :
      Gives False
        (renderTemplate (engine.host (depth + 1)) inlineName false ⟨t.body, []⟩ (.ofDict d))
        (t.filledIn value) :=
    renderTemplate_gives rfl (engine.answers_host engine.inlines_inlined? depth) hbody
  rw [inlined?, if_neg (by simp [hlive]), inlineText, InlineText.ofText?_source hfits hsource]
  simp only [hrender.eq_ok]
  rfl

end Provision
