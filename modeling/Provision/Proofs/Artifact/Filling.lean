import Provision.Proofs.Artifact.Templated
import Provision.Proofs.Template.Parsed

/-!
# Filling in a setting

A template fills in a setting of a tool by two calls for references, one for the variables of the
tool and one for the shared ones, and a call that renders the setting with both.  Placeholders
become the references and the text around them stays, line breaks at its end included.
-/

namespace Provision

open Template

/-- Variables as templates see them. -/
def variableTexts (vars : Dict String) : Value :=
  .ofDict (vars.mapValues (fun _ value => .text value))

namespace Engine

/-- Fills in a setting with references to the variables of a tool and to shared ones. -/
def fillSetting (engine : Engine) (depth : Nat) (setting tool : String)
    (vars globals : Dict String) : Run Value := do
  let own ← (engine.host depth).call .references [.text tool, variableTexts vars]
  let shared ← (engine.host depth).call .references [.text "", variableTexts globals]
  (engine.host depth).call .inlineTemplate
    [.text setting, .ofEntries (Value.namedEntries [("vars", own), ("global", shared)])]

/-- A template that fills in a setting. -/
def fillingSource : String :=
  "\x7b\x7b tpl(setting, \x7b'vars': var_dict(tool, vars), 'global': var_dict('', globals)\x7d)" ++
    " \x7d\x7d"

def fillingBody : List Stmt :=
  [.emit (.ask "tpl"
    [.path "setting" [],
      .record
        [("vars", .ask "var_dict" [.path "tool" [], .path "vars" []]),
          ("global", .ask "var_dict" [.str "", .path "globals" []])]])]

/-- What `fillingSource` is rendered with. -/
def fillingContext (setting tool : String) (vars globals : Dict String) : Dict Value :=
  Dict.ofList
    [("setting", .text setting), ("tool", .text tool), ("vars", variableTexts vars),
      ("globals", variableTexts globals)]

theorem ofText?_fillingSource : ofText? fillingSource = some ⟨fillingBody, []⟩ := by
  have hagrees : ((tokens? fillingSource.toList).bind ofTokens?).any
      (fun template => agreesBody template.body fillingBody && template.blocks.isEmpty) = true := by
    decide +kernel
  have hread := ofText?_ofList_eq_of_agrees hagrees
  rwa [String.ofList_toList] at hread

theorem reference_of_ofFragments {reference : String → String} {fragments : List Fragment}
    {engine : Engine} (h : ofFragments reference fragments = .ok engine) :
    engine.reference = reference := by
  unfold ofFragments at h
  split at h <;> cases h
  rfl

section Filling

variable (engine : Engine) {tool : String} {vars globals : Dict String} {setting : InlineText}

/-- A setting that refers to declared variables only comes to its text with references. -/
theorem inlined?_scopes (depth : Nat) (hfits : setting.Fits (scopeKeys vars globals)) :
    engine.inlined? (depth + 2) (String.ofList setting.source)
        (.ofDict (scopes engine.reference tool vars globals)) =
      some (.text (setting.filledIn (Scope.referred engine.reference tool))) :=
  engine.inlined?_source depth hfits String.toList_ofList.symm isLive_scopes
    (fun scope _ hkey => attribute?_scopes scope hkey)

theorem fillSetting_eq (depth : Nat) (hfits : setting.Fits (scopeKeys vars globals)) (s : State) :
    engine.fillSetting (depth + 2) (String.ofList setting.source) tool vars globals s =
      .ok (.text (setting.filledIn (Scope.referred engine.reference tool)), s) := by
  have hrefs : ∀ (tool : String) (vars : Dict String),
      (engine.host (depth + 2)).call .references [.text tool, variableTexts vars] s =
        .ok (variableRefs engine.reference tool vars, s) :=
    fun tool vars => (engine.answers_host engine.inlines_inlined? (depth + 2) _ _ _
      (engine.answer?_references _ _ tool vars) s).eq_ok
  have hscopes :
      Value.ofEntries (Value.namedEntries
          [("vars", variableRefs engine.reference tool vars),
            ("global", variableRefs engine.reference "" globals)]) =
        .ofDict (scopes engine.reference tool vars globals) :=
    Value.ofEntries_namedEntries _
  rw [fillSetting, Run.bind_eq_of_ok (hrefs tool vars), Run.bind_eq_of_ok (hrefs "" globals),
    hscopes]
  exact (engine.inlines_inlined? _ _ _ _ (engine.inlined?_scopes depth hfits) s).eq_ok

theorem renderText_fillingSource (hfits : setting.Fits (scopeKeys vars globals)) :
    engine.renderText fillingSource
        (.ofDict (fillingContext (String.ofList setting.source) tool vars globals)) =
      .ok (setting.filledIn (Scope.referred engine.reference tool)) := by
  have houtput :
      output? (engine.answer? engine.inlined? (nestingLimit - 1)) 1
          (Env.ofContext
            (.ofDict (fillingContext (String.ofList setting.source) tool vars globals)))
          fillingBody =
        some (setting.filledIn (Scope.referred engine.reference tool)) := by
    have hfilled : engine.inlined? (nestingLimit - 1) (String.ofList setting.source)
        (.ofDict (scopes engine.reference tool vars globals)) =
          some (.text (setting.filledIn (Scope.referred engine.reference tool))) :=
      engine.inlined?_scopes (nestingLimit - 3) hfits
    unfold scopes variableRefs at hfilled
    rw [Env.ofContext_ofDict, fillingContext, Env.ofDict_ofList]
    simp [fillingBody, Env.bindAll, variableTexts, hfilled]
  have hrender : Gives False
      (renderTemplate (engine.host nestingLimit) inlineName false ⟨fillingBody, []⟩
        (.ofDict (fillingContext (String.ofList setting.source) tool vars globals)))
      (setting.filledIn (Scope.referred engine.reference tool)) :=
    renderTemplate_gives rfl (engine.answers_host engine.inlines_inlined? (nestingLimit - 1))
      houtput
  rw [renderText, inlineText, ofText?_fillingSource]
  simp only [hrender.eq_ok]

/-- Filling in a setting replaces its placeholders by references of the engine's kind, wherever it
is asked for and also by a template of its own, and changes nothing else. -/
theorem filledIn_of_fits {kind : ArtifactKind} {fragments : List Fragment}
    (hengine : ofFragments kind.reference fragments = .ok engine)
    (hfits : setting.Fits (scopeKeys vars globals)) :
    (∀ depth s,
      engine.fillSetting (depth + 2) (String.ofList setting.source) tool vars globals s =
        .ok (.text (setting.filledIn (Scope.referred kind.reference tool)), s)) ∧
      engine.renderText fillingSource
          (.ofDict (fillingContext (String.ofList setting.source) tool vars globals)) =
        .ok (setting.filledIn (Scope.referred kind.reference tool)) := by
  rw [← reference_of_ofFragments hengine]
  exact ⟨fun depth => engine.fillSetting_eq depth hfits, engine.renderText_fillingSource hfits⟩

end Filling

/-- A setting on several lines, with line breaks at its end. -/
theorem filledIn_of_fits_lines :
    let engine : Engine := ⟨ArtifactKind.dockerfile.reference, Dict.empty⟩
    let setting : InlineText :=
      .refer ['s', 'h', '\n', ' '] .own "build_dir"
        (.refer ['/'] .shared "mirror" (.text ['\x7d', '#', '\n', '\n']))
    let vars := Dict.ofList [("build_dir", "/tmp")]
    let globals := Dict.ofList [("mirror", "https://example.org"), ("proxy", "")]
    ofFragments ArtifactKind.dockerfile.reference [] = .ok engine ∧
      setting.Fits (scopeKeys vars globals) ∧
      setting.filledIn (Scope.referred ArtifactKind.dockerfile.reference "jq") =
        "sh\n $\x7bJQ_BUILD_DIR\x7d/$\x7bMIRROR\x7d\x7d#\n\n" ∧
      engine.fillSetting 7 (String.ofList setting.source) "jq" vars globals
          (.start "jq.jinja" false ⟨[], []⟩ .missing) =
        .ok (.text (setting.filledIn (Scope.referred ArtifactKind.dockerfile.reference "jq")),
          .start "jq.jinja" false ⟨[], []⟩ .missing) := by
  have hengine : ofFragments ArtifactKind.dockerfile.reference [] =
      .ok ⟨ArtifactKind.dockerfile.reference, Dict.empty⟩ := rfl
  have hfits : (InlineText.refer ['s', 'h', '\n', ' '] .own "build_dir"
      (.refer ['/'] .shared "mirror" (.text ['\x7d', '#', '\n', '\n']))).Fits
        (scopeKeys (Dict.ofList [("build_dir", "/tmp")])
          (Dict.ofList [("mirror", "https://example.org"), ("proxy", "")])) :=
    ⟨by decide, by decide, by decide, by decide, by decide, by decide,
      (by decide : '\x7b' ∉ ['\x7d', '#', '\n', '\n'])⟩
  exact ⟨hengine, hfits, by decide +kernel, (filledIn_of_fits _ hengine hfits).1 5 _⟩

end Engine
end Provision
