import Provision.Proofs.Yaml.Growth
import Provision.Yaml.Document

/-!
# Texts that start with a word

Where the first content of a text is a word, the document is that plain scalar or a mapping with it
as a key, whatever follows.  Where there is no content at all, the document is left out or empty.
-/

namespace Provision
namespace Yaml

/-- A plain scalar starts with a character here that is no indicator, or with two hyphens. -/
def AtWord (c : Char) (l : Lexer) : Prop :=
  l.cursor.peek = some c ∧ l.cursor.atDocumentMarker = false ∧ isSpaceOrBreak c = false ∧
    (Lexer.isIndicator c = false ∨ c = '-' ∧ l.cursor.ahead 1 = some '-')

/-- The first token where a word comes first: the word, or a sign that it belongs to a key. -/
def IsWordStart (text : List Char) (token : Token) : Prop :=
  token = .scalar true text ∨ token = .key ∨ token = .blockMappingStart

/-! ## The scalar -/

theorem plainWord_cons {c : Char} (hspace : isSpaceOrBreak c = false) (hcolon : c ≠ ':')
    (rest : List Char) : ∃ word, plainWord false (c :: rest) = some (c :: word) := by
  have hsome : ∀ cs, ∃ word, plainWord false cs = some word := by
    intro cs
    induction cs with
    | nil => exact ⟨[], rfl⟩
    | cons d cs ih =>
        obtain ⟨word, hword⟩ := ih
        simp only [plainWord, Bool.false_and, Bool.or_false, hword]
        split
        · exact ⟨[], rfl⟩
        · split
          · contradiction
          · split <;> exact ⟨_, rfl⟩
  obtain ⟨word, hword⟩ := hsome rest
  refine ⟨word, ?_⟩
  simp [plainWord, hspace, hcolon, hword]

/-- The text of a plain scalar starts with its first character. -/
theorem head?_scanPlain {indent : Int} {fuel : Nat} {c : Char} {cursor : Cursor} {r : PlainScan}
    (hpeek : cursor.peek = some c) (hspace : isSpaceOrBreak c = false) (hcolon : c ≠ ':')
    (hcomment : c ≠ '#') (hmarker : cursor.atDocumentMarker = false)
    (hscan : scanPlain false indent fuel {} cursor = some r) : r.text.head? = some c := by
  obtain ⟨rest, hrest⟩ := List.head?_eq_some_iff.mp hpeek
  obtain ⟨word, hword⟩ := plainWord_cons hspace hcolon rest
  cases fuel with
  | zero => contradiction
  | succ fuel =>
      have hgo : (cursor.atDocumentMarker || cursor.peek == some '#') = false := by
        simp [hmarker, hpeek, hcomment]
      simp only [scanPlain, hgo, hrest, hword, Bool.false_eq_true, if_false] at hscan
      split at hscan
      · contradiction
      · split at hscan
        · exact Option.some.inj hscan ▸ rfl
        · obtain ⟨more, -, rfl⟩ := Option.map_eq_some_iff.mp hscan
          rfl

namespace Lexer

variable {l next : Lexer} {c : Char}

theorem takeToken_of_atWord (h : l.Idle) (hword : AtWord c l) : l.takeToken = l.plain := by
  obtain ⟨hpeek, hmarkers, hspace, hstart⟩ := hword
  obtain ⟨hstarts, hends⟩ := Bool.or_eq_false_iff.mp hmarkers
  unfold takeToken
  rcases hstart with hplain | ⟨rfl, hnext⟩
  · have hblank : isBlank c = false := (Bool.or_eq_false_iff.mp hspace).1
    have hword : startsPlain false c (l.cursor.ahead 1) = true := by
      simp [startsPlain, hplain, hblank]
    simp only [isIndicator, String.reduceToList, List.mem_cons, List.not_mem_nil, or_false,
      Bool.decide_or, Bool.or_eq_false_iff, decide_eq_false_iff_not] at hplain
    simp [hpeek, hstarts, hends, h.inFlow, hplain, hword]
  · simp [hpeek, hstarts, hends, hnext, h.inFlow, startsPlain, isBlank, endsWord, isSpaceOrBreak,
      isBreak]

theorem Idle.saveMark (h : l.Idle) (hnext : l.saveMark = some next) :
    ∃ mark, next = { l with mark } ∧ ∀ m, mark = some m → m.number = l.count := by
  unfold Lexer.saveMark at hnext
  split at hnext
  · rw [h.dropMark, Option.map_some, Option.some.injEq] at hnext
    exact ⟨_, hnext.symm, fun m hm => Option.some.inj hm ▸ rfl⟩
  · exact ⟨l.mark, (Option.some.inj hnext).symm, by simp [h.mark]⟩

/-- From the word on, the first token is the word or tells of the mapping that it is a key of. -/
theorem Idle.keeps_plain (h : l.Idle) (hword : AtWord c l) (hnext : l.plain = some next) :
    ∃ text, text.head? = some c ∧ Keeps l.tokens (IsWordStart text) True next := by
  obtain ⟨hpeek, hmarkers, hspace, hstart⟩ := hword
  unfold Lexer.plain at hnext
  split at hnext
  · contradiction
  · next saved hsaved =>
      obtain ⟨mark, rfl, hmark⟩ := h.saveMark hsaved
      obtain ⟨r, hscan, rfl⟩ := Option.map_eq_some_iff.mp hnext
      have hnever : ∀ d, isIndicator d = true → d ≠ '-' → c ≠ d := by
        rintro d hd hne rfl
        rcases hstart with hplain | ⟨heq, -⟩
        · rw [hd] at hplain
          contradiction
        · exact hne heq
      have hflow : ({ l with mark } : Lexer).inFlow = false := h.inFlow
      rw [hflow] at hscan
      have hcount : l.count = l.tokens.length := by rw [h.tokens, List.length_replicate]
      refine ⟨r.text, head?_scanPlain hpeek hspace (hnever ':' (by decide) (by decide))
        (hnever '#' (by decide) (by decide)) hmarkers hscan, ?_⟩
      refine ⟨⟨[.scalar true r.text], rfl, by simp [IsWordStart]⟩, fun _ => List.cons_ne_self _ _,
        fun hsame => absurd hsame (List.cons_ne_self _ _), Or.inr (Or.inl rfl),
        Or.inr (Or.inr rfl), ?_, ?_⟩
      · exact congrArg (· + 1) hcount
      · rintro m (hm | hm)
        · exact (hcount ▸ (hmark m hm).ge)
        · rw [h.outerMarks] at hm
          contradiction

end Lexer

/-! ## The document -/

/-- Without content a document is left out, or its node is empty. -/
theorem document?_replicate {n : Nat} {found : Option Node}
    (h : document? (List.replicate n .documentStart ++ [.streamEnd]) = some found) :
    found = none ∨ found = some .empty := by
  rcases n with _ | _ | n
  · exact Or.inl (Option.some.inj h).symm
  · exact Or.inr (Option.some.inj h).symm
  · contradiction

theorem readNode_word {handles : Handles} {fuel : Nat} {text : List Char} {token : Token}
    {later : List Token} (htoken : IsWordStart text token) {node : Node} {r : Reading}
    (h : readNode handles (fuel + 1) .block { tokens := token :: later } = some (node, r)) :
    node = .scalar {} true text ∨ ∃ entries, node = .mapping {} entries := by
  rcases htoken with rfl | rfl | rfl
  · simp only [readNode, Reading.properties, Reading.next, List.head?_cons, Option.some.injEq,
      Prod.mk.injEq] at h
    exact Or.inl h.1.symm
  · simp [readNode, Reading.properties, Reading.next] at h
  · simp only [readNode, Reading.properties, Reading.next, List.head?_cons] at h
    rw [if_pos (by simp)] at h
    obtain ⟨entries, -, heq⟩ := Option.map_eq_some_iff.mp h
    exact Or.inr ⟨entries.1, (Prod.mk.inj heq).1.symm⟩

/-- Behind at most one document start the root is read from the first token that is inside. -/
theorem exists_readNode_of_document? {n : Nat} {token : Token} {later : List Token}
    (hinside : isDocumentBoundary token = false) {found : Option Node}
    (h : document? (List.replicate n .documentStart ++ token :: later) = some found) :
    ∃ handles fuel node r,
      readNode handles (fuel + 1) .block { tokens := token :: later } = some (node, r) ∧
        found = some node := by
  rcases n with _ | _ | n
  · change document? (token :: later) = some found at h
    unfold document? at h
    split at h
    · next heq =>
        obtain ⟨rfl, -⟩ := List.cons.inj heq
        contradiction
    · rw [if_neg (by simp [hinside])] at h
      dsimp only at h
      split at h
      · contradiction
      · next node r hnode =>
          split at h
          · exact ⟨_, _, node, r, hnode, (Option.some.inj h).symm⟩
          · contradiction
  · change document? (.documentStart :: token :: later) = some found at h
    have hmarker : isDocumentBoundary .documentStart = true := rfl
    simp only [document?, ne_eq, decide_not, List.head?_cons, Option.any_some, hmarker,
      reduceCtorEq, decide_false, Bool.not_false, Bool.and_self, if_true, readDirectives,
      hinside, Bool.false_eq_true, if_false] at h
    split at h
    · contradiction
    · next node r hnode =>
        split at h
        · exact ⟨_, _, node, r, hnode, (Option.some.inj h).symm⟩
        · contradiction
  · contradiction

/-- A word that comes first is the node, or the node is a mapping. -/
theorem document?_word {n : Nat} {text : List Char} {token : Token} {later : List Token}
    (htoken : IsWordStart text token) {found : Option Node}
    (h : document? (List.replicate n .documentStart ++ token :: later) = some found) :
    found = some (.scalar {} true text) ∨ ∃ entries, found = some (.mapping {} entries) := by
  have hinside : isDocumentBoundary token = false := by
    rcases htoken with rfl | rfl | rfl <;> rfl
  obtain ⟨handles, fuel, node, r, hnode, rfl⟩ := exists_readNode_of_document? hinside h
  exact (readNode_word htoken hnode).imp (congrArg some) (Exists.imp fun _ => congrArg some)

end Yaml
end Provision
