import Provision.Proofs.Artifact.Values
import Provision.Proofs.Template.Inline

/-!
# Templated settings

The settings of an installer that are templates, as they may be written: text with placeholders
for variables of the tool and for shared ones.  Filling one in puts references in the places of
the placeholders.
-/

namespace Provision

open Template

/-! ## What settings are filled in with -/

/-- The reference that a placeholder stands for in a setting of a tool. -/
def Template.Scope.referred (reference : String → String) (tool : String) (scope : Scope)
    (key : String) : String :=
  match scope with
  | .own => reference (Name.scopedIdentifier tool key)
  | .shared => reference (Name.scopedIdentifier "" key)

/-- The keys of a tool's own variables and of the shared ones. -/
def scopeKeys (vars globals : Dict String) : Scope → List String
  | .own => vars.keys
  | .shared => globals.keys

/-- References to variables under the keys of the variables. -/
def variableRefs (reference : String → String) (tool : String) (vars : Dict String) : Value :=
  .ofDict (vars.mapValues (fun key _ => .text (reference (Name.scopedIdentifier tool key))))

/-- What a templated setting of a tool is rendered with. -/
def scopes (reference : String → String) (tool : String) (vars globals : Dict String) :
    Dict Value :=
  Dict.ofList
    [("vars", variableRefs reference tool vars), ("global", variableRefs reference "" globals)]

section Scopes

variable {reference : String → String} {tool : String} {vars globals : Dict String}

theorem isLive_variableRefs : (variableRefs reference tool vars).isLive = false := by
  rw [variableRefs, ← Dict.ofList_entries (vars.mapValues _)]
  apply Value.isLive_ofDict_ofList
  intro field hfield
  obtain ⟨entry, -, rfl⟩ := List.mem_map.mp hfield
  rfl

theorem attribute?_variableRefs {key : String} (hkey : key ∈ vars.keys) :
    (variableRefs reference tool vars).attribute? key =
      some (.text (reference (Name.scopedIdentifier tool key))) := by
  obtain ⟨value, hvalue⟩ := Dict.exists_get?_of_mem_keys hkey
  rw [variableRefs, Value.attribute?_ofDict, Dict.get?_mapValues, hvalue]
  rfl

theorem isLive_scopes : (Value.ofDict (scopes reference tool vars globals)).isLive = false := by
  apply Value.isLive_ofDict_ofList
  intro field hfield
  rcases List.mem_pair.mp hfield with rfl | rfl <;> exact isLive_variableRefs

theorem attribute?_scopes (scope : Scope) {key : String}
    (hkey : key ∈ scopeKeys vars globals scope) :
    (Env.ofDict (scopes reference tool vars globals) scope.word).attribute? key =
      some (.text (scope.referred reference tool key)) := by
  rw [scopes, Env.ofDict_ofList]
  cases scope with
  | own =>
      simp only [Env.bindAll, Scope.word, Function.update_apply, String.reduceEq, if_false, if_true]
      exact attribute?_variableRefs hkey
  | shared =>
      simp only [Env.bindAll, Scope.word, Function.update_apply, if_true]
      exact attribute?_variableRefs hkey

end Scopes

namespace Tool

/-- The identifiers of a tool that is fetched. -/
def fetchedNames (tool : Tool) : List String :=
  (if tool.installer.hasUrl then [Name.urlIdentifier tool.name.text] else []) ++
    (if tool.installer.hasArchive then [Name.archiveIdentifier tool.name.text] else [])

/-- The identifiers of the variables of a tool. -/
def varNames (tool : Tool) : List String :=
  tool.vars.keys.map (Name.scopedIdentifier tool.name.text)

variable (kind : ArtifactKind) (config : Config) (tool : Tool)

/-- The keys of the variables that a setting of a tool can refer to. -/
def declared : Scope → List String
  | .own => tool.vars.keys
  | .shared => config.vars.keys

/-- The reference that a placeholder stands for. -/
def placeholder (scope : Scope) (key : String) : String :=
  match scope with
  | .own => kind.reference (Name.scopedIdentifier tool.name.text key)
  | .shared => kind.reference (Name.scopedIdentifier "" key)

/-- What a templated setting is rendered with. -/
def refs : Dict Value :=
  Dict.ofList
    [("vars", .ofDict (tool.vars.mapValues
        (fun key _ => .text (kind.reference (Name.scopedIdentifier tool.name.text key))))),
      ("global", .ofDict (config.vars.mapValues
        (fun key _ => .text (kind.reference (Name.scopedIdentifier "" key)))))]

/-- Only placeholders for declared variables have braces in a text. -/
def IsTemplated (source : String) : Prop :=
  ∃ t : InlineText, t.source = source.toList ∧ t.Fits (tool.declared config)

/-- What an artifact makes of a templated setting, by how deep renderings may nest there. -/
def filled (depth : Nat) (source : String) : String :=
  ((kind.engine.inlined? depth source (.ofDict (tool.refs kind config))).bind Value.str?).getD ""

/-- A templated setting comes to what an artifact makes of it. -/
def Fills (inlining : Engine.Inlining) (source : String) : Prop :=
  ∀ depth, inlining (depth + 2) source (.ofDict (tool.refs kind config)) =
    some (.text (tool.filled kind config (depth + 2) source))

variable {kind config tool}

theorem isLive_refs : (Value.ofDict (tool.refs kind config)).isLive = false :=
  isLive_scopes

theorem attribute?_refs (scope : Scope) {key : String} (hkey : key ∈ tool.declared config scope) :
    (Env.ofDict (tool.refs kind config) scope.word).attribute? key =
      some (.text (tool.placeholder kind scope key)) := by
  have hscopes : key ∈ scopeKeys tool.vars config.vars scope := by
    cases scope <;> exact hkey
  cases scope with
  | own => exact attribute?_scopes .own hscopes
  | shared => exact attribute?_scopes .shared hscopes

theorem index?_refs (kind : ArtifactKind) (config : Config) (tool : Tool) {key : String}
    (hkey : key ∈ tool.vars.keys) :
    Value.index? (.text key) (((tool.refs kind config).get? "vars").getD .missing) =
      some (.text (kind.reference (Name.scopedIdentifier tool.name.text key))) := by
  have hvars :
      (tool.refs kind config).get? "vars" = some (.ofDict (tool.vars.mapValues
        (fun key _ => .text (kind.reference (Name.scopedIdentifier tool.name.text key))))) := by
    rw [refs, Dict.get?_ofList]
    rfl
  obtain ⟨value, hvalue⟩ := Dict.exists_get?_of_mem_keys hkey
  rw [hvars, Option.getD_some, Value.index?_text_ofDict, Dict.get?_mapValues, hvalue]
  rfl

theorem isTemplated_of_notMem {source : String} (h : '\x7b' ∉ source.toList) :
    tool.IsTemplated config source :=
  ⟨.text source.toList, rfl, h⟩

theorem inlined?_eq_filledIn {t : InlineText} (hfits : t.Fits (tool.declared config))
    {source : String} (hsource : t.source = source.toList) (depth : Nat) :
    kind.engine.inlined? (depth + 2) source (.ofDict (tool.refs kind config)) =
      some (.text (t.filledIn (tool.placeholder kind))) :=
  kind.engine.inlined?_source depth hfits hsource isLive_refs
    (fun scope _ hkey => attribute?_refs scope hkey)

theorem filled_eq_filledIn {t : InlineText} (hfits : t.Fits (tool.declared config))
    {source : String} (hsource : t.source = source.toList) (depth : Nat) :
    tool.filled kind config (depth + 2) source = t.filledIn (tool.placeholder kind) := by
  rw [filled, inlined?_eq_filledIn hfits hsource depth]
  rfl

theorem fills_inlined? {source : String} (h : tool.IsTemplated config source) :
    tool.Fills kind config kind.engine.inlined? source := by
  intro depth
  obtain ⟨t, hsource, hfits⟩ := h
  rw [inlined?_eq_filledIn hfits hsource depth, filled_eq_filledIn hfits hsource depth]

theorem fills_supposed? (kind : ArtifactKind) (config : Config) (tool : Tool) (source : String) :
    tool.Fills kind config kind.engine.supposed? source := by
  intro depth
  rw [Engine.supposed?, if_neg (by simp [isLive_refs]), filled]
  cases hfound : kind.engine.inlined? (depth + 2) source (.ofDict (tool.refs kind config)) with
  | none => rfl
  | some value =>
      obtain ⟨text, rfl⟩ := kind.engine.exists_text_of_inlined? hfound
      rfl

end Tool

/-! ## Package paths -/

namespace Template
namespace InlineText

variable {declared : Scope → List String}

def behind (before : List Char) : InlineText → InlineText
  | text cs => text (before ++ cs)
  | refer cs scope key rest => refer (before ++ cs) scope key rest

def append : InlineText → InlineText → InlineText
  | text cs, other => other.behind cs
  | refer cs scope key rest, other => refer cs scope key (rest.append other)

theorem source_behind (before : List Char) (t : InlineText) :
    (t.behind before).source = before ++ t.source := by
  cases t <;> simp [behind, source]

theorem source_append (t other : InlineText) :
    (t.append other).source = t.source ++ other.source := by
  induction t with
  | text cs => exact source_behind cs other
  | refer cs scope key rest ih => simp [append, source, ih]

theorem Fits.behind {t : InlineText} (h : t.Fits declared) {before : List Char}
    (hbefore : '\x7b' ∉ before) : (t.behind before).Fits declared := by
  cases t with
  | text cs =>
      intro hmem
      rcases List.mem_append.mp hmem with hleft | hright
      · exact hbefore hleft
      · exact h hright
  | refer cs scope key rest =>
      refine ⟨?_, h.2⟩
      intro hmem
      rcases List.mem_append.mp hmem with hleft | hright
      · exact hbefore hleft
      · exact h.1 hright

theorem Fits.append {t other : InlineText} (h : t.Fits declared) (hother : other.Fits declared) :
    (t.append other).Fits declared := by
  induction t with
  | text cs => exact hother.behind h
  | refer cs scope key rest ih => exact ⟨h.1, h.2.1, h.2.2.1, ih h.2.2.2⟩

theorem exists_dropSlashes {t : InlineText} (h : t.Fits declared) :
    ∃ u : InlineText, u.source = GoPackage.dropSlashes t.source ∧ u.Fits declared := by
  have hnot : ∀ cs : List Char, '\x7b' ∉ cs → '\x7b' ∉ cs.dropWhile (· = '/') := by
    intro cs hcs hmem
    exact hcs ((List.dropWhile_suffix _).subset hmem)
  cases t with
  | text cs => exact ⟨text (cs.dropWhile (· = '/')), rfl, hnot cs h⟩
  | refer cs scope key rest =>
      refine ⟨refer (cs.dropWhile (· = '/')) scope key rest, ?_, hnot cs h.1, h.2⟩
      unfold GoPackage.dropSlashes source
      rw [List.dropWhile_append]
      split
      · next hempty =>
          rw [List.isEmpty_iff.mp hempty]
          rfl
      · rfl

end InlineText
end Template

theorem GoPackage.trimSlashes_append_cons (before after : List Char) {c : Char} (hc : c ≠ '/') :
    trimSlashes (before ++ c :: after) = before ++ c :: trimSlashes after := by
  unfold trimSlashes dropSlashes
  rw [List.reverse_append, List.reverse_cons, List.append_assoc, List.dropWhile_append]
  split
  · next hempty =>
      rw [List.isEmpty_iff.mp hempty, List.singleton_append,
        List.dropWhile_cons_of_neg (by simpa using hc)]
      simp
  · simp

namespace Template

/-- A placeholder as it is written. -/
def Scope.written (scope : Scope) (key : String) : String :=
  String.ofList ('\x7b' :: '\x7b' :: placeholderInside scope key)

/-- What stands for variables stays inside of the elements of a path and is no part of a version. -/
def StaysInElements (value : Scope → String → String) : Prop :=
  ∀ scope key, Name.isIdentifier key = true →
    '/' ∉ (value scope key).toList ∧ ∃ c ∈ (value scope key).toList, c ≠ 'v' ∧ c.isDigit = false

theorem staysInElements_written : StaysInElements Scope.written := by
  intro scope key hkey
  have hslash : '/' ∉ key.toList :=
    fun hmem => absurd ((Name.isPlain_of_isIdentifier hkey).1 '/' hmem) (by decide)
  refine ⟨?_, '\x7b', by simp [Scope.written], by decide, by decide⟩
  cases scope <;> simp [Scope.written, placeholderInside, Scope.word, hslash]

namespace InlineText

variable {declared : Scope → List String} {t : InlineText}

theorem toList_filledIn_written (t : InlineText) :
    (t.filledIn Scope.written).toList = t.source := by
  induction t with
  | text cs => exact String.toList_ofList
  | refer cs scope key rest ih => simp [filledIn, source, Scope.written, ih]

/-- Trimming takes text away, and leaves all placeholders. -/
theorem exists_filledIn_trimSlashes (h : t.Fits declared) :
    ∃ u : InlineText, u.Fits declared ∧ ∀ value, StaysInElements value →
      GoPackage.trimSlashes (t.filledIn value).toList = (u.filledIn value).toList := by
  induction t with
  | text cs =>
      refine ⟨text (GoPackage.trimSlashes cs), ?_, fun value _ => by simp [filledIn]⟩
      intro hmem
      unfold GoPackage.trimSlashes at hmem
      exact h (List.mem_reverse.mp
        ((List.dropWhile_suffix _).subset (List.mem_reverse.mp hmem)))
  | refer cs scope key rest ih =>
      obtain ⟨hcs, hkey, hmem, hrest⟩ := h
      obtain ⟨u, hfits, htrimmed⟩ := ih hrest
      refine ⟨refer cs scope key u, ⟨hcs, hkey, hmem, hfits⟩, ?_⟩
      intro value hvalue
      obtain ⟨hslash, c, hc, -⟩ := hvalue scope key hkey
      obtain ⟨front, last, hlast⟩ : ∃ front last, (value scope key).toList = front ++ [last] :=
        ⟨_, _, (List.dropLast_append_getLast (List.ne_nil_of_mem hc)).symm⟩
      have hne : last ≠ '/' := by
        rintro rfl
        exact hslash (by simp [hlast])
      have hsplit : ∀ more : List Char,
          cs ++ ((front ++ [last]) ++ more) = (cs ++ front) ++ last :: more := by simp
      simp only [filledIn, String.toList_append, String.toList_ofList, hlast, hsplit]
      rw [GoPackage.trimSlashes_append_cons _ _ hne, htrimmed value hvalue]

theorem exists_trimSlashes (h : t.Fits declared) :
    ∃ u : InlineText, u.source = GoPackage.trimSlashes t.source ∧ u.Fits declared := by
  obtain ⟨u, hfits, htrimmed⟩ := exists_filledIn_trimSlashes h
  refine ⟨u, ?_, hfits⟩
  rw [← toList_filledIn_written, ← toList_filledIn_written,
    htrimmed Scope.written staysInElements_written]

end InlineText
end Template

namespace Tool

variable {config : Config} {tool : Tool}

/-- A package path is templated if its module and the path below it are. -/
theorem isTemplated_path {modulePath : String} {subPath : Option String}
    (hmodule : tool.IsTemplated config modulePath)
    (hsub : ∀ sub ∈ subPath, tool.IsTemplated config sub) :
    tool.IsTemplated config (GoPackage.path modulePath subPath) := by
  unfold GoPackage.path
  split
  · exact hmodule
  · next sub =>
      split
      · exact hmodule
      · obtain ⟨t, htsource, htfits⟩ := hmodule
        obtain ⟨u, husource, hufits⟩ := hsub sub rfl
        obtain ⟨trimmed, htrimmed, htrimmedFits⟩ := InlineText.exists_trimSlashes htfits
        obtain ⟨dropped, hdropped, hdroppedFits⟩ := InlineText.exists_dropSlashes hufits
        refine ⟨trimmed.append (dropped.behind ['/']), ?_,
          htrimmedFits.append (hdroppedFits.behind (by decide))⟩
        simp [InlineText.source_append, InlineText.source_behind, htrimmed, hdropped, htsource,
          husource]

end Tool
end Provision
