import Mathlib.Data.List.Basic
import Provision.Proofs.Yaml.FirstContent

/-!
# Tokens that stay

The lexer never takes a token back.  It adds tokens at the end, and puts a key and the start of a
mapping in front of a token that may be a key; no such place is in front of the first content.  So
the document starts before the first content stay where they are, and the token behind them is that
content or the start of a collection around it.
-/

namespace Provision
namespace Yaml

/-- A token that is more than a document start or the end of the text. -/
def IsContent (token : Token) : Prop := token ≠ .documentStart ∧ token ≠ .streamEnd

theorem isContent_of_scanVersion {c : Cursor} {r : Token × Cursor}
    (hscan : scanVersion c = some r) : IsContent r.1 := by
  unfold scanVersion at hscan
  split at hscan
  · contradiction
  · split at hscan
    · obtain ⟨minor, -, rfl⟩ := Option.map_eq_some_iff.mp hscan
      simp [IsContent]
    · contradiction

theorem isContent_of_scanTagDirective {c : Cursor} {r : Token × Cursor}
    (hscan : scanTagDirective c = some r) : IsContent r.1 := by
  unfold scanTagDirective at hscan
  split at hscan
  · contradiction
  · split at hscan
    · contradiction
    · split at hscan
      · contradiction
      · split at hscan
        · contradiction
        · exact Option.some.inj hscan ▸ by simp [IsContent]

theorem isContent_of_scanDirective {c : Cursor} {r : Token × Cursor}
    (hscan : scanDirective c = some r) : IsContent r.1 := by
  unfold scanDirective at hscan
  simp only at hscan
  split at hscan
  · contradiction
  · next token after hbody =>
      have htoken : IsContent token := by
        split at hbody
        · contradiction
        · split at hbody
          · exact isContent_of_scanVersion hbody
          · split at hbody
            · exact isContent_of_scanTagDirective hbody
            · contradiction
      split at hscan
      · exact Option.some.inj hscan ▸ htoken
      · split at hscan
        · exact Option.some.inj hscan ▸ htoken
        · contradiction

namespace Lexer

/-- Some tokens are in front, and the one behind them, as soon as there is one, is as it should be;
`grown` says that there is one. -/
structure Keeps (front : List Token) (P : Token → Prop) (grown : Prop) (l : Lexer) : Prop where
  tokens : ∃ later, l.tokens = later ++ front ∧ ∀ token, later.getLast? = some token → P token
  more : grown → l.tokens ≠ front
  opens : l.tokens = front → ∀ token, IsContent token → P token
  key : P .key
  mapping : P .blockMappingStart
  count : l.count = l.tokens.length
  marks : ∀ mark, l.mark = some mark ∨ some mark ∈ l.outerMarks → front.length ≤ mark.number

namespace Keeps

variable {front : List Token} {P : Token → Prop} {grown : Prop} {l next : Lexer} {token : Token}

/-- What else a lexer holds does not matter. -/
theorem frame (h : Keeps front P grown l) (htokens : next.tokens = l.tokens)
    (hcount : next.count = l.count)
    (hmarks : ∀ mark, next.mark = some mark ∨ some mark ∈ next.outerMarks →
      l.mark = some mark ∨ some mark ∈ l.outerMarks) : Keeps front P grown next where
  tokens := htokens ▸ h.tokens
  more := htokens ▸ h.more
  opens := htokens ▸ h.opens
  key := h.key
  mapping := h.mapping
  count := by rw [hcount, htokens, h.count]
  marks mark hmark := h.marks mark (hmarks mark hmark)

theorem weaken (h : Keeps front P True l) : Keeps front P grown l :=
  ⟨h.tokens, fun _ => h.more trivial, h.opens, h.key, h.mapping, h.count, h.marks⟩

theorem length_le (h : Keeps front P grown l) : front.length ≤ l.count := by
  obtain ⟨later, htokens, -⟩ := h.tokens
  rw [h.count, htokens, List.length_append]
  exact Nat.le_add_left _ _

/-! ## Adding tokens -/

/-- A token put in front of some of the later tokens. -/
theorem insertAt (h : Keeps front P grown l) {number : Nat} (hnumber : front.length ≤ number)
    (htoken : number < l.count ∨ l.tokens ≠ front ∨ IsContent token)
    (hfirst : number < l.count → P token) :
    Keeps front P True (l.insertAt number token) := by
  obtain ⟨later, htokens, hlater⟩ := h.tokens
  have hcount : l.count = later.length + front.length := by
    rw [h.count, htokens, List.length_append]
  have hwithin : l.count - number ≤ later.length := by omega
  have hinserted : (l.insertAt number token).tokens =
      (later.take (l.count - number) ++ token :: later.drop (l.count - number)) ++ front := by
    simp only [Lexer.insertAt, htokens, List.take_append_of_le_length hwithin,
      List.drop_append_of_le_length hwithin, List.append_assoc, List.cons_append]
  have hmore : (l.insertAt number token).tokens ≠ front := by
    intro heq
    have hlength := congrArg List.length heq
    rw [hinserted, List.length_append, List.length_append, List.length_cons] at hlength
    omega
  refine ⟨⟨_, hinserted, ?_⟩, fun _ => hmore, fun heq => absurd heq hmore, h.key, h.mapping, ?_,
    h.marks⟩
  · intro first hlast
    rw [List.getLast?_append_cons] at hlast
    cases hdropped : later.drop (l.count - number) with
    | nil =>
        -- The new token is the first behind the front.
        rw [hdropped, List.getLast?_singleton, Option.some.injEq] at hlast
        subst hlast
        rcases Nat.lt_or_ge number l.count with hlt | hge
        · exact hfirst hlt
        · rw [Nat.sub_eq_zero_of_le hge, List.drop_zero] at hdropped
          rw [hdropped, List.nil_append] at htokens
          rcases htoken with hlt | hne | hcontent
          · exact absurd hlt (Nat.not_lt.mpr hge)
          · exact absurd htokens hne
          · exact h.opens htokens token hcontent
    | cons second others =>
        refine hlater first ?_
        rw [hdropped, List.getLast?_cons_cons] at hlast
        rw [← List.take_append_drop (l.count - number) later, hdropped, List.getLast?_append_cons]
        exact hlast
  · rw [hinserted]
    simp only [Lexer.insertAt, List.length_append, List.length_cons, List.length_take,
      List.length_drop]
    omega

theorem insertAt_count (l : Lexer) (token : Token) :
    l.insertAt l.count token = l.push token := by
  simp [Lexer.insertAt, Lexer.push]

theorem push (h : Keeps front P grown l) (htoken : grown ∨ IsContent token) :
    Keeps front P True (l.push token) := by
  rw [← insertAt_count]
  exact h.insertAt h.length_le (Or.inr (htoken.imp h.more id))
    (fun hlt => absurd hlt (Nat.lt_irrefl _))

theorem openBlock (h : Keeps front P grown l) {column number : Nat}
    (hnumber : front.length ≤ number)
    (htoken : number < l.count ∨ l.tokens ≠ front ∨ IsContent token)
    (hfirst : number < l.count → P token) :
    Keeps front P grown (l.openBlock column number token) := by
  unfold Lexer.openBlock
  split
  · exact h
  · split
    · exact (h.insertAt hnumber htoken hfirst).weaken.frame rfl rfl (fun _ => id)
    · exact h

theorem closeBlocks (h : Keeps front P grown l) (column : Int) :
    Keeps front P grown (l.closeBlocks column) := by
  have hgo : ∀ (indents : List Int) (l : Lexer), Keeps front P grown l →
      Keeps front P grown (Lexer.closeBlocks.go column indents l) := by
    intro indents
    induction indents with
    | nil => exact fun _ hl => hl
    | cons outer rest ih =>
        intro l hl
        rw [Lexer.closeBlocks.go]
        split
        · have hpush : Keeps front P True (l.push .blockEnd) :=
            hl.push (Or.inr (by simp [IsContent]))
          exact ih _ (hpush.weaken.frame rfl rfl (fun _ => id))
        · exact hl
  unfold Lexer.closeBlocks
  split
  · exact h
  · exact hgo _ l h

theorem openForIndicator (h : Keeps front P grown l) (hcontent : IsContent token)
    (hnext : l.openForIndicator token = some next) : Keeps front P grown next := by
  unfold Lexer.openForIndicator at hnext
  split at hnext
  · exact Option.some.inj hnext ▸ h
  · split at hnext
    · exact Option.some.inj hnext ▸ h.openBlock h.length_le (Or.inr (Or.inr hcontent))
        (fun hlt => absurd hlt (Nat.lt_irrefl _))
    · contradiction

/-! ## Possible keys -/

theorem dropMark (h : Keeps front P grown l) (hnext : l.dropMark = some next) :
    Keeps front P grown next := by
  unfold Lexer.dropMark at hnext
  split at hnext
  · contradiction
  · exact Option.some.inj hnext ▸ h.frame rfl rfl (fun mark hmark => Or.inr (by simpa using hmark))

theorem saveMark (h : Keeps front P grown l) (hnext : l.saveMark = some next) :
    Keeps front P grown next := by
  unfold Lexer.saveMark at hnext
  split at hnext
  · obtain ⟨dropped, hdropped, rfl⟩ := Option.map_eq_some_iff.mp hnext
    have hkept := h.dropMark hdropped
    refine ⟨hkept.tokens, hkept.more, hkept.opens, h.key, h.mapping, hkept.count, ?_⟩
    rintro mark (hmark | hmark)
    · cases hmark
      exact hkept.length_le
    · exact hkept.marks mark (Or.inr hmark)
  · exact Option.some.inj hnext ▸ h

theorem dropStale (h : Keeps front P grown l) (hnext : l.dropStale = some next) :
    Keeps front P grown next := by
  unfold Lexer.dropStale at hnext
  simp only at hnext
  split at hnext
  · contradiction
  · refine Option.some.inj hnext ▸ h.frame rfl rfl fun mark hmark => hmark.imp ?_ ?_
    · intro hkept
      simp only at hkept
      split at hkept
      · contradiction
      · exact hkept
    · intro hmem
      obtain ⟨outer, houter, hkept⟩ := List.mem_map.mp hmem
      split at hkept
      · contradiction
      · exact hkept ▸ houter

theorem skipSpace (h : Keeps front P grown l) (fuel : Nat) :
    Keeps front P grown (l.skipSpace fuel) := by
  induction fuel generalizing l with
  | zero => exact h
  | succ fuel ih =>
      rw [Lexer.skipSpace]
      split
      · exact ih (h.frame rfl rfl (fun _ => id))
      · exact h.frame rfl rfl (fun _ => id)

/-! ## One token -/

/-- Whatever the token, it comes last and the cursor moves on. -/
theorem read (h : Keeps front P grown l) (allowed : Bool) (htoken : grown ∨ IsContent token)
    (cursor : Cursor) :
    Keeps front P True { (l.allowKey allowed).push token with cursor := cursor } := by
  have hallowed : Keeps front P grown (l.allowKey allowed) := h.frame rfl rfl (fun _ => id)
  exact (hallowed.push htoken).frame rfl rfl (fun _ => id)

theorem endStream (h : Keeps front P grown l) (hgrown : grown)
    (hnext : l.endStream = some next) : Keeps front P True next := by
  obtain ⟨dropped, hdropped, rfl⟩ := Option.map_eq_some_iff.mp hnext
  exact ((h.closeBlocks _).dropMark hdropped).read false (Or.inl hgrown) dropped.cursor

theorem documentMarker (h : Keeps front P grown l) (htoken : grown ∨ IsContent token)
    (hnext : l.documentMarker token = some next) : Keeps front P True next := by
  obtain ⟨dropped, hdropped, rfl⟩ := Option.map_eq_some_iff.mp hnext
  exact ((h.closeBlocks _).dropMark hdropped).read false htoken _

theorem directive (h : Keeps front P grown l) (hnext : l.directive = some next) :
    Keeps front P True next := by
  unfold Lexer.directive at hnext
  split at hnext
  · contradiction
  · next dropped hdropped =>
      obtain ⟨r, hscan, rfl⟩ := Option.map_eq_some_iff.mp hnext
      exact ((h.closeBlocks _).dropMark hdropped).read false
        (Or.inr (isContent_of_scanDirective hscan)) r.2

theorem openFlow (h : Keeps front P grown l) (htoken : IsContent token)
    (hnext : l.openFlow token = some next) : Keeps front P True next := by
  obtain ⟨saved, hsaved, rfl⟩ := Option.map_eq_some_iff.mp hnext
  have hkept : Keeps front P grown
      { saved with mark := none, outerMarks := saved.mark :: saved.outerMarks } :=
    (h.saveMark hsaved).frame rfl rfl fun mark hmark => by simpa [eq_comm] using hmark
  exact hkept.read true (Or.inr htoken) _

theorem closeFlow (h : Keeps front P grown l) (htoken : IsContent token)
    (hnext : l.closeFlow token = some next) : Keeps front P True next := by
  obtain ⟨dropped, hdropped, rfl⟩ := Option.map_eq_some_iff.mp hnext
  have hkept := h.dropMark hdropped
  dsimp only
  split
  · exact hkept.read false (Or.inr htoken) _
  · next mark rest hmarks =>
      have houter : Keeps front P grown { dropped with mark := mark, outerMarks := rest } :=
        hkept.frame rfl rfl fun m hm => Or.inr (by
          rw [hmarks, List.mem_cons]
          exact hm.imp Eq.symm id)
      exact houter.read false (Or.inr htoken) _

theorem flowEntry (h : Keeps front P grown l) (hnext : l.flowEntry = some next) :
    Keeps front P True next := by
  obtain ⟨dropped, hdropped, rfl⟩ := Option.map_eq_some_iff.mp hnext
  exact (h.dropMark hdropped).read true (Or.inr (by simp [IsContent])) _

/-- An indicator that may open a collection, and gives up the possible key. -/
theorem openForEntry (h : Keeps front P grown l) {opening : Token} (hopening : IsContent opening)
    (hnext : (l.openForIndicator opening).bind Lexer.dropMark = some next) :
    Keeps front P grown next := by
  obtain ⟨opened, hopened, hdropped⟩ := Option.bind_eq_some_iff.mp hnext
  exact (h.openForIndicator hopening hopened).dropMark hdropped

theorem blockEntry (h : Keeps front P grown l) (hnext : l.blockEntry = some next) :
    Keeps front P True next := by
  unfold Lexer.blockEntry at hnext
  split at hnext
  · contradiction
  · next opened hopened =>
      obtain rfl := Option.some.inj hnext
      exact (h.openForEntry (by simp [IsContent]) hopened).read true
        (Or.inr (by simp [IsContent])) _

theorem explicitKey (h : Keeps front P grown l) (hnext : l.explicitKey = some next) :
    Keeps front P True next := by
  unfold Lexer.explicitKey at hnext
  split at hnext
  · contradiction
  · next opened hopened =>
      obtain rfl := Option.some.inj hnext
      exact (h.openForEntry (by simp [IsContent]) hopened).read _ (Or.inr (by simp [IsContent])) _

/-- The key goes in front of the token that is one, and the start of a mapping in front of both. -/
theorem value (h : Keeps front P grown l) (hnext : l.value = some next) :
    Keeps front P True next := by
  unfold Lexer.value at hnext
  split at hnext
  · next mark hmark =>
      obtain rfl := Option.some.inj hnext
      have hnumber := h.marks mark (Or.inl hmark)
      have hkept : Keeps front P grown { l with mark := none } :=
        h.frame rfl rfl fun m hm => Or.inr (by simpa using hm)
      have hkey := hkept.insertAt hnumber (Or.inr (Or.inr (by simp [IsContent]))) fun _ => h.key
      exact (hkey.openBlock hnumber (Or.inr (Or.inr (by simp [IsContent]))) fun _ => h.mapping).read
        false (Or.inl trivial) _
  · obtain ⟨opened, hopened, rfl⟩ := Option.map_eq_some_iff.mp hnext
    exact (h.openForIndicator (by simp [IsContent]) hopened).read _
      (Or.inr (by simp [IsContent])) _

/-- Reading something that may be a key and making a token of it. -/
theorem content (h : Keeps front P grown l) {α : Type} {scan : Cursor → Option α}
    {token : α → Token × Cursor} (htoken : ∀ r, IsContent (token r).1)
    (hnext : l.content (fun c => (scan c).map token) = some next) : Keeps front P True next := by
  unfold Lexer.content at hnext
  split at hnext
  · contradiction
  · next saved hsaved =>
      obtain ⟨r, hr, rfl⟩ := Option.map_eq_some_iff.mp hnext
      obtain ⟨found, -, rfl⟩ := Option.map_eq_some_iff.mp hr
      exact (h.saveMark hsaved).read false (Or.inr (htoken found)) _

theorem block (h : Keeps front P grown l) {literal : Bool} (hnext : l.block literal = some next) :
    Keeps front P True next := by
  unfold Lexer.block at hnext
  split at hnext
  · contradiction
  · next dropped hdropped =>
      obtain ⟨r, -, rfl⟩ := Option.map_eq_some_iff.mp hnext
      exact (h.dropMark hdropped).read true (Or.inr (by simp [IsContent])) r.2

theorem plain (h : Keeps front P grown l) (hnext : l.plain = some next) :
    Keeps front P True next := by
  unfold Lexer.plain at hnext
  split at hnext
  · contradiction
  · next saved hsaved =>
      obtain ⟨r, -, rfl⟩ := Option.map_eq_some_iff.mp hnext
      exact (h.saveMark hsaved).read r.broken (Or.inr (by simp [IsContent])) r.cursor

/-! ## Whole runs -/

/-- The first token is content, unless there is nothing or a document start to read. -/
theorem takeToken (h : Keeps front P grown l)
    (hcontent : grown ∨ l.cursor.peek ≠ none ∧ l.cursor.atMarker ['-', '-', '-'] = false)
    (hnext : l.takeToken = some next) : Keeps front P True next := by
  unfold Lexer.takeToken at hnext
  dsimp only at hnext
  split at hnext
  · next hend => exact h.endStream (hcontent.resolve_right fun hpeek => hpeek.1 hend) hnext
  · next c hpeek =>
      -- One branch for each first character.
      rcases ite_eq_iff.mp hnext with ⟨-, hnext⟩ | ⟨-, hnext⟩
      · exact h.directive hnext
      rcases ite_eq_iff.mp hnext with ⟨hmarker, hnext⟩ | ⟨-, hnext⟩
      · refine h.documentMarker (Or.inl (hcontent.resolve_right fun hno => ?_)) hnext
        simp [hmarker] at hno
      rcases ite_eq_iff.mp hnext with ⟨-, hnext⟩ | ⟨-, hnext⟩
      · exact h.documentMarker (Or.inr (by simp [IsContent])) hnext
      rcases ite_eq_iff.mp hnext with ⟨-, hnext⟩ | ⟨-, hnext⟩
      · exact h.openFlow (by simp [IsContent]) hnext
      rcases ite_eq_iff.mp hnext with ⟨-, hnext⟩ | ⟨-, hnext⟩
      · exact h.openFlow (by simp [IsContent]) hnext
      rcases ite_eq_iff.mp hnext with ⟨-, hnext⟩ | ⟨-, hnext⟩
      · exact h.closeFlow (by simp [IsContent]) hnext
      rcases ite_eq_iff.mp hnext with ⟨-, hnext⟩ | ⟨-, hnext⟩
      · exact h.closeFlow (by simp [IsContent]) hnext
      rcases ite_eq_iff.mp hnext with ⟨-, hnext⟩ | ⟨-, hnext⟩
      · exact h.flowEntry hnext
      rcases ite_eq_iff.mp hnext with ⟨-, hnext⟩ | ⟨-, hnext⟩
      · exact h.blockEntry hnext
      rcases ite_eq_iff.mp hnext with ⟨-, hnext⟩ | ⟨-, hnext⟩
      · exact h.explicitKey hnext
      rcases ite_eq_iff.mp hnext with ⟨-, hnext⟩ | ⟨-, hnext⟩
      · exact h.value hnext
      rcases ite_eq_iff.mp hnext with ⟨-, hnext⟩ | ⟨-, hnext⟩
      · exact h.content (fun _ => by simp [IsContent]) hnext
      rcases ite_eq_iff.mp hnext with ⟨-, hnext⟩ | ⟨-, hnext⟩
      · exact h.content (fun _ => by simp [IsContent]) hnext
      rcases ite_eq_iff.mp hnext with ⟨-, hnext⟩ | ⟨-, hnext⟩
      · exact h.content (fun _ => by simp [IsContent]) hnext
      rcases ite_eq_iff.mp hnext with ⟨-, hnext⟩ | ⟨-, hnext⟩
      · exact h.block hnext
      rcases ite_eq_iff.mp hnext with ⟨-, hnext⟩ | ⟨-, hnext⟩
      · exact h.block hnext
      rcases ite_eq_iff.mp hnext with ⟨-, hnext⟩ | ⟨-, hnext⟩
      · exact h.content (fun _ => by simp [IsContent]) hnext
      rcases ite_eq_iff.mp hnext with ⟨-, hnext⟩ | ⟨-, hnext⟩
      · exact h.plain hnext
      contradiction

theorem step (h : Keeps front P True l) (hnext : l.step = some next) : Keeps front P True next := by
  rw [step_eq] at hnext
  obtain ⟨kept, hkept, htaken⟩ := Option.bind_eq_some_iff.mp hnext
  exact (((h.skipSpace _).dropStale hkept).closeBlocks _).takeToken (Or.inl trivial) htaken

theorem run (h : Keeps front P True l) {fuel : Nat} (hnext : Lexer.run fuel l = some next) :
    Keeps front P True next := by
  induction fuel generalizing l with
  | zero => contradiction
  | succ fuel ih =>
      rw [Lexer.run] at hnext
      split at hnext
      · contradiction
      · next mid hmid =>
          have hkept := h.step hmid
          split at hnext
          · exact Option.some.inj hnext ▸ hkept
          · exact ih hkept hnext

theorem tokens_reverse (h : Keeps front P True l) :
    ∃ token later, l.tokens.reverse = front.reverse ++ token :: later ∧ P token := by
  obtain ⟨later, htokens, hfirst⟩ := h.tokens
  have hne : later ≠ [] := by
    rintro rfl
    exact h.more trivial htokens
  refine ⟨later.getLast hne, later.dropLast.reverse, ?_,
    hfirst _ (List.getLast?_eq_getLast_of_ne_nil hne)⟩
  calc l.tokens.reverse = (later.dropLast ++ [later.getLast hne] ++ front).reverse := by
        rw [htokens, List.dropLast_concat_getLast]
    _ = front.reverse ++ later.getLast hne :: later.dropLast.reverse := by simp

end Keeps

/-- A tab where a block may start is no token. -/
theorem takeToken_of_tab {l : Lexer} (h : l.Idle) (hpeek : l.cursor.peek = some '\t') :
    l.takeToken = none := by
  have hmarker : ∀ c, c ≠ '\t' → l.cursor.atMarker [c, c, c] = false := by
    intro c hc
    obtain ⟨rest, hrest⟩ := List.head?_eq_some_iff.mp hpeek
    simp [Cursor.atMarker, hrest, hc]
  unfold takeToken
  simp [hpeek, hmarker, h.inFlow, startsPlain, isIndicator, isBlank]

end Lexer

/-! ## The tokens of a text -/

open Lexer

/-- The lexer passes over what says nothing, and there the text is over or its first content is. -/
theorem exists_first_of_tokens? {text : List Char} {tokens : List Token}
    (h : tokens? text = some tokens) :
    ∃ first : Lexer, first.Idle ∧ first.Stops ∧
      (∀ P, LineWise P → P true (dropByteOrderMark text) → first.cursor.Satisfies P) ∧
      (first.cursor.rest = [] ∧
          (∃ n, tokens = List.replicate n .documentStart ++ [.streamEnd]) ∨
        first.cursor.rest ≠ [] ∧ first.cursor.atMarker ['-', '-', '-'] = false ∧
          ∃ next, first.takeToken = some next ∧ ∀ front P, Keeps front P True next →
            ∃ token later, tokens = front.reverse ++ token :: later ∧ P token) := by
  unfold tokens? at h
  simp only at h
  split at h
  · obtain ⟨final, hrun, rfl⟩ := Option.map_eq_some_iff.mp h
    have hidle : ({ cursor := .start (dropByteOrderMark text) } : Lexer).Idle :=
      ⟨rfl, rfl, rfl, rfl⟩
    obtain ⟨first, hfirst, hstops, hall, hends⟩ := hidle.exists_first hrun
    refine ⟨first, hfirst, hstops, hall, hends.imp ?_ ?_⟩
    · rintro ⟨hrest, n, htokens⟩
      exact ⟨hrest, n, by rw [htokens, List.reverse_cons, List.reverse_replicate]⟩
    · rintro ⟨hrest, hmarker, next, hnext, hfinal⟩
      refine ⟨hrest, hmarker, next, hnext, fun front P hkept => ?_⟩
      rcases hfinal with rfl | ⟨fuel, hon⟩
      · exact hkept.tokens_reverse
      · exact (hkept.run hon).tokens_reverse
  · contradiction

/-- The tokens of a text are document starts alone exactly when the text says nothing. -/
theorem tokens?_eq_replicate_iff {text : List Char} {tokens : List Token}
    (h : tokens? text = some tokens) :
    (∃ n, tokens = List.replicate n .documentStart ++ [.streamEnd]) ↔
      SaysNothing (dropByteOrderMark text) := by
  obtain ⟨first, hidle, hstops, hall, ⟨hend, htokens⟩ | ⟨hrest, hmarker, next, hnext, hgrow⟩⟩ :=
    exists_first_of_tokens? h
  · refine iff_of_true htokens (silentFrom_true_iff.mp ?_)
    by_contra hloud
    have hnever := hall _ lineWise_not_silentFrom hloud
    rw [Cursor.Satisfies, hend] at hnever
    exact hnever (linesFrom_nil.mpr (Or.inl isBare_nil))
  · refine iff_of_false ?_ fun hsilent => ?_
    · rintro ⟨n, htokens⟩
      have hkept : Keeps first.tokens IsContent False first :=
        ⟨⟨[], rfl, by simp⟩, False.elim, fun _ _ => id, by simp [IsContent], by simp [IsContent],
          by rw [hidle.tokens, List.length_replicate], by simp [hidle.mark, hidle.outerMarks]⟩
      have hpeek : first.cursor.peek ≠ none := by
        rwa [Cursor.peek, ne_eq, List.head?_eq_none_iff]
      obtain ⟨token, later, hsplit, hcontent⟩ :=
        hgrow _ _ (hkept.takeToken (Or.inr ⟨hpeek, hmarker⟩) hnext)
      have hmem : token ∈ List.replicate n Token.documentStart ++ [.streamEnd] := by
        rw [← htokens, hsplit]
        simp
      rcases List.mem_append.mp hmem with hstart | hlast
      · exact hcontent.1 (List.eq_of_mem_replicate hstart)
      · exact hcontent.2 (List.mem_singleton.mp hlast)
    · have hhere := hall _ lineWise_silentFrom (silentFrom_true_iff.mpr hsilent)
      obtain ⟨c, rest, hcs⟩ := List.exists_cons_of_ne_nil hrest
      have hpeek : first.cursor.peek = some c := by rw [Cursor.peek, hcs]; rfl
      obtain ⟨hspace, hcomment, hbreak, -⟩ := hstops c hpeek
      rw [Cursor.Satisfies, hcs] at hhere
      rcases SilentFrom.head_cases hhere with hblank | rfl | hend | ⟨hstart, hprefix, hends⟩
      · have htab : c = '\t' := by
          simp only [isBlank, Bool.or_eq_true, beq_iff_eq] at hblank
          exact hblank.resolve_left hspace
        rw [takeToken_of_tab hidle (htab ▸ hpeek)] at hnext
        contradiction
      · exact hcomment rfl
      · rw [hend] at hbreak
        contradiction
      · rw [← hcs] at hprefix hends
        have hat : first.cursor.atMarker ['-', '-', '-'] = true := by
          simp only [Cursor.atMarker, Cursor.ahead, Bool.and_eq_true]
          exact ⟨⟨hstart, List.isPrefixOf_iff_prefix.mpr hprefix⟩, hends⟩
        rw [hat] at hmarker
        contradiction

end Yaml
end Provision
