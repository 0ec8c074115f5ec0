import Provision.Proofs.Artifact.Emitted
import Provision.Proofs.Artifact.References

/-!
# Both artifacts run the same recipes

A recipe is made of pieces that do not depend on the kind of artifact.  So the recipe of a
Dockerfile is that of a Makefile with every reference written the other way, and its references are
to the variables that a tool has.
-/

namespace Provision

/-! ## Texts without dollar signs -/

theorem GoPackage.mem_of_mem_path {modulePath : String} {subPath : Option String} {c : Char}
    (h : c ∈ (path modulePath subPath).toList) :
    c ∈ modulePath.toList ∨ c = '/' ∨ ∃ sub ∈ subPath, c ∈ sub.toList := by
  unfold path at h
  split at h
  · exact Or.inl h
  · next sub =>
      split at h
      · exact Or.inl h
      · simp only [String.toList_append, String.toList_ofList, List.mem_append, trimSlashes,
          dropSlashes, List.mem_reverse] at h
        rcases h with (hmodule | hslash) | hsub
        · exact Or.inl (List.mem_reverse.mp ((List.dropWhile_suffix _).subset hmodule))
        · exact Or.inr (Or.inl (by simpa using hslash))
        · exact Or.inr (Or.inr ⟨sub, rfl, (List.dropWhile_suffix _).subset hsub⟩)

namespace Installer

variable {installer : Installer} {s : String}

theorem mem_texts_of_mem_settings (name : String) (h : (name, Json.str s) ∈ installer.settings) :
    s ∈ installer.toJson.texts := by
  rw [toJson]
  exact Json.mem_texts_of_mem name (List.mem_cons_of_mem _ h)

theorem texts_subset_of_mem_settings (name : String) {json : Json}
    (h : (name, json) ∈ installer.settings) : json.texts ⊆ installer.toJson.texts := by
  rw [toJson]
  exact Json.texts_subset_of_mem name (List.mem_cons_of_mem _ h)

theorem mem_texts_of_mem_templates (h : s ∈ installer.templates) :
    s ∈ installer.toJson.texts := by
  have hfetched : ∀ source : Fetch, fetchFields source ⊆ installer.settings →
      s ∈ source.url :: (source.archive.map Archive.path).toList →
        s ∈ installer.toJson.texts := by
    intro source hsettings hmem
    rcases List.mem_cons.mp hmem with rfl | hpath
    · exact mem_texts_of_mem_settings _ (hsettings List.mem_cons_self)
    · obtain ⟨archive, harchive, rfl⟩ := Option.map_eq_some_iff.mp (Option.mem_toList.mp hpath)
      have hfield : ("archive", archive.toJson) ∈ fetchFields source := by
        simp [fetchFields, harchive, Json.ofOption]
      apply texts_subset_of_mem_settings _ (hsettings hfield)
      cases archive <;> exact Json.mem_texts_of_mem "path" (by simp [Archive.path])
  have hoption : ∀ (name : String) (value : Option String),
      (name, Json.ofOption .str value) ∈ installer.settings → s ∈ value →
        s ∈ installer.toJson.texts := by
    rintro name value hsettings hmem
    obtain rfl := Option.mem_def.mp hmem
    exact mem_texts_of_mem_settings _ hsettings
  cases installer with
  | provided default => exact absurd h List.not_mem_nil
  | http source => exact hfetched source (List.Subset.refl _) h
  | objectStore source => exact hfetched source (List.Subset.refl _) h
  | pythonApp app =>
      rcases List.mem_cons.mp h with rfl | hversion
      · exact mem_texts_of_mem_settings "package" (by simp [settings])
      · exact hoption "version" app.version (by simp [settings]) (Option.mem_toList.mp hversion)
  | goModule m =>
      simp only [templates, List.cons_append, List.mem_cons, List.mem_append,
        Option.mem_toList] at h
      rcases h with rfl | hsub | rfl | henv | hflag
      · exact mem_texts_of_mem_settings "module" (by simp [settings])
      · exact hoption "sub_path" m.subPath (by simp [settings]) hsub
      · exact mem_texts_of_mem_settings "version" (by simp [settings])
      · exact texts_subset_of_mem_settings "env" (by simp [settings])
          (Dict.mem_texts_of_mem_values henv)
      · exact texts_subset_of_mem_settings "flags" (by simp [settings])
          (Json.mem_texts_strings hflag)
  | maven artifact =>
      obtain rfl := List.mem_singleton.mp h
      exact mem_texts_of_mem_settings "artifact" (by simp [settings])

/-- What has no dollar signs in the settings of an installer has none in what is rendered. -/
theorem dollar_notMem_of_mem_rendered (hdollar : ∀ s ∈ installer.toJson.texts, '$' ∉ s.toList)
    (h : s ∈ installer.rendered) : '$' ∉ s.toList := by
  have htemplates : ∀ s ∈ installer.templates, '$' ∉ s.toList :=
    fun s hs => hdollar s (mem_texts_of_mem_templates hs)
  unfold rendered at h
  split at h
  · next m =>
      simp only [templates, List.cons_append, List.mem_cons, List.mem_append,
        Option.mem_toList] at htemplates
      rcases List.mem_cons.mp h with rfl | hrest
      · intro hmem
        rcases GoPackage.mem_of_mem_path hmem with hmodule | hslash | ⟨sub, hsub, hmem⟩
        · exact htemplates _ (Or.inl rfl) hmodule
        · exact absurd hslash (by decide)
        · exact htemplates _ (Or.inr (Or.inl hsub)) hmem
      · apply htemplates s
        rw [List.mem_cons, List.mem_append] at hrest
        exact Or.inr (Or.inr hrest)
  · exact htemplates s h

end Installer

/-! ## Recipes -/

/-- What a recipe takes from the settings has dollar signs nowhere, and its references are to
identifiers. -/
structure Legible (config : Config) (tool : Tool) (runner : Option String) : Prop where
  isIdentifier_localBinVar : Name.isIdentifier config.localBinVar = true
  isPlain_shared : ∀ key ∈ config.vars.keys, Name.IsPlain key ∧ Name.identifier key ≠ ""
  identifier_ne_empty : Name.identifier tool.name.text ≠ ""
  isPlain_vars : ∀ key ∈ tool.vars.keys, Name.IsPlain key
  runner : ∀ name ∈ runner, Name.IsPlain name ∧ Name.identifier name ≠ ""
  commands : ∀ field ∈ config.commands.fields, '$' ∉ field.2.toList
  settings : ∀ s ∈ tool.installer.toJson.texts, '$' ∉ s.toList
  templates : ∀ source ∈ tool.installer.templates, tool.IsTemplated config source

namespace Recipe

/-- The identifiers that a templated setting can refer to. -/
def templateNames (config : Config) (tool : Tool) : List String :=
  config.vars.keys.map (Name.scopedIdentifier "") ++ tool.varNames

/-- The identifiers that a recipe can refer to. -/
def names (config : Config) (tool : Tool) (runner : Option String) : List String :=
  config.localBinVar :: templateNames config tool ++
    Name.identifier tool.name.text :: tool.fetchedNames ++ (runner.map Name.identifier).toList

section

variable {config : Config} {tool : Tool} {runner : Option String} (h : Legible config tool runner)

include h

theorem isPlain_of_mem_names {name : String} (hname : name ∈ names config tool runner) :
    Name.IsPlain name := by
  have hplain := tool.name.isPlain_text
  have hempty : Name.IsPlain "" := by decide
  simp only [names, templateNames, Tool.varNames, Tool.fetchedNames, List.cons_append,
    List.mem_cons, List.mem_append, List.mem_map, List.mem_ite_nil_right, List.not_mem_nil,
    or_false, Option.mem_toList, Option.map_eq_some_iff] at hname
  rcases hname with rfl | ((⟨key, hkey, rfl⟩ | ⟨key, hkey, rfl⟩) | rfl | ⟨-, rfl⟩ | ⟨-, rfl⟩) |
    ⟨other, hother, rfl⟩
  · exact (Name.isPlain_of_isIdentifier h.isIdentifier_localBinVar).1
  · exact hempty.scopedIdentifier (h.isPlain_shared key hkey).1
  · exact hplain.scopedIdentifier (h.isPlain_vars key hkey)
  · exact hplain.identifier
  · exact hplain.urlIdentifier
  · exact hplain.archiveIdentifier
  · exact (h.runner other hother).1.identifier

theorem mirrored_localBin :
    Mirrored (· ∈ names config tool runner) (fun kind => localBin kind config) := by
  obtain ⟨hplain, hne⟩ := Name.isPlain_of_isIdentifier h.isIdentifier_localBinVar
  exact .reference hplain hne (by simp [names])

theorem mirrored_binary :
    Mirrored (· ∈ names config tool runner) (fun kind => binary kind tool) :=
  .reference tool.name.isPlain_text.identifier h.identifier_ne_empty (by simp [names])

theorem identifier_append_ne_empty (ending : String) :
    Name.identifier tool.name.text ++ ending ≠ "" := by
  intro hempty
  exact h.identifier_ne_empty (String.append_eq_empty_iff.mp hempty).1

theorem mirrored_url (hurl : tool.installer.hasUrl = true) :
    Mirrored (· ∈ names config tool runner) (fun kind => url kind tool) :=
  .reference tool.name.isPlain_text.urlIdentifier (identifier_append_ne_empty h _)
    (by simp [names, Tool.fetchedNames, hurl])

theorem mirrored_archive (harchive : tool.installer.hasArchive = true) :
    Mirrored (· ∈ names config tool runner) (fun kind => archive kind tool) :=
  .reference tool.name.isPlain_text.archiveIdentifier (identifier_append_ne_empty h _)
    (by simp [names, Tool.fetchedNames, harchive])

theorem mirrored_runnerOr {command : String} (hcommand : '$' ∉ command.toList) :
    Mirrored (· ∈ names config tool runner) (fun kind => runnerOr kind runner command) := by
  cases runner with
  | none => exact .literal hcommand
  | some name =>
      obtain ⟨hplain, hne⟩ := h.runner name rfl
      exact .reference hplain.identifier hne (by simp [names])

/-- A templated setting is text and references to variables. -/
theorem mirrored_template {source : String} (hsource : source ∈ tool.installer.rendered)
    (depth : Nat) :
    Mirrored (· ∈ templateNames config tool)
      (fun kind => tool.filled kind config (depth + 2) source) := by
  have hdollar := Installer.dollar_notMem_of_mem_rendered h.settings hsource
  obtain ⟨t, htext, hfits⟩ := Tool.isTemplated_of_mem_rendered h.templates source hsource
  have hfilled : ∀ kind : ArtifactKind, tool.filled kind config (depth + 2) source =
      t.filledIn (tool.placeholder kind) := fun _ => Tool.filled_eq_filledIn hfits htext depth
  simp only [hfilled]
  rw [← htext] at hdollar
  clear htext hsource hfilled
  induction t with
  | text cs =>
      have hliteral : '$' ∉ (String.ofList cs).toList := by
        rw [String.toList_ofList]
        exact hdollar
      exact .literal hliteral
  | refer cs scope key rest ih =>
      obtain ⟨-, hkey, hdeclared, hrest⟩ := hfits
      obtain ⟨hplain, -⟩ := Name.isPlain_of_isIdentifier hkey
      simp only [Template.InlineText.source, List.mem_append, List.mem_cons, not_or] at hdollar
      have hfront : '$' ∉ (String.ofList cs).toList := by
        rw [String.toList_ofList]
        exact hdollar.1
      refine (Mirrored.literal hfront).append (.append ?_ (ih hdollar.2.2.2.2 hrest))
      cases scope with
      | own =>
          refine .reference (tool.name.isPlain_text.scopedIdentifier hplain) ?_ ?_
          · rw [Name.scopedIdentifier, if_neg tool.name.text_ne_empty, String.append_assoc]
            exact identifier_append_ne_empty h _
          · exact List.mem_append_right _ (List.mem_map_of_mem hdeclared)
      | shared =>
          have hempty : Name.IsPlain "" := by decide
          refine .reference (hempty.scopedIdentifier hplain) ?_ ?_
          · exact (h.isPlain_shared key hdeclared).2
          · exact List.mem_append_left _ (List.mem_map_of_mem hdeclared)

theorem mirrored_filled {source : String} (hsource : source ∈ tool.installer.rendered)
    (depth : Nat) :
    Mirrored (· ∈ names config tool runner)
      (fun kind => tool.filled kind config (depth + 2) source) := by
  refine (mirrored_template h hsource depth).mono ?_
  intro name hname
  simp [names, hname]

omit h in
theorem endsSolid_binary (kind : ArtifactKind) (tool : Tool) :
    Text.EndsSolid (binary kind tool) := by
  have hclosing : Text.isBlank kind.closing = false := by cases kind <;> decide
  refine ⟨'$' :: kind.opening :: (Name.identifier tool.name.text).toList, kind.closing, ?_,
    hclosing⟩
  rw [binary, kind.toList_reference]
  rfl

/-- The line that unpacks an archive, which is trimmed. -/
theorem mirrored_extract {packed : Archive} (hpath : packed.path ∈ tool.installer.rendered)
    (harchive : tool.installer.hasArchive = true) (depth : Nat) :
    Mirrored (· ∈ names config tool runner)
      (fun kind => Text.trimmed (extract kind config depth tool packed ++ "\n")) := by
  have hspace : '$' ∉ " ".toList := by decide
  have hinto : '$' ∉ " > ".toList := by decide
  have hback : Mirrored (· ∈ names config tool runner) (fun kind => archive kind tool ++
      (" " ++ (tool.filled kind config (depth + 2) packed.path ++ (" > " ++ binary kind tool)))) :=
    (mirrored_archive h harchive).append (.append (.literal hspace)
      ((mirrored_filled h hpath depth).append (.append (.literal hinto) (mirrored_binary h))))
  have hend : ∀ kind, Text.EndsSolid (archive kind tool ++
      (" " ++ (tool.filled kind config (depth + 2) packed.path ++ (" > " ++ binary kind tool)))) :=
    fun kind => ((((endsSolid_binary kind tool).append _).append _).append _).append _
  cases packed with
  | zip path =>
      have hunzip := h.commands ("unzip", config.commands.unzip) (by simp [Commands.fields])
      have hfront : '$' ∉ (config.commands.unzip ++ " -p ").toList := by simp [hunzip]
      have hsolid : ∃ c ∈ (config.commands.unzip ++ " -p ").toList, Text.isBlank c = false :=
        ⟨'-', by simp, by decide⟩
      simpa [extract, Archive.path, String.append_assoc] using
        Mirrored.trimmed hfront hsolid hback hend
  | tar compression path =>
      have htar := h.commands ("tar", config.commands.tar) (by simp [Commands.fields])
      have hflag : '$' ∉ (flag compression).toList := by cases compression <;> decide
      have hfront : '$' ∉ (config.commands.tar ++ " " ++
          (if compression = .zstd then "--zstd " else "") ++ "-x" ++ flag compression ++
          "Of ").toList := by
        split <;> simp [htar, hflag]
      have hsolid : ∃ c ∈ (config.commands.tar ++ " " ++
          (if compression = .zstd then "--zstd " else "") ++ "-x" ++ flag compression ++
          "Of ").toList, Text.isBlank c = false :=
        ⟨'x', by simp, by decide⟩
      simpa [extract, Archive.path, String.append_assoc] using
        Mirrored.trimmed hfront hsolid hback hend

theorem mirrored_fetch {source : Fetch} (hfetch : tool.installer.fetch? = some source)
    {download : ArtifactKind → String → String}
    (hdownload : ∀ target : ArtifactKind → String, Mirrored (· ∈ names config tool runner) target →
      Mirrored (· ∈ names config tool runner) (fun kind => download kind (target kind)))
    (depth : Nat) :
    Mirrored (· ∈ names config tool runner)
      (fun kind => Text.unlines (fetch kind config depth tool (download kind) source)) := by
  have hchmod := h.commands ("chmod", config.commands.chmod) (by simp [Commands.fields])
  have hrm := h.commands ("rm", config.commands.rm) (by simp [Commands.fields])
  have hexecutable : '$' ∉ " +x ".toList := by decide
  have hforce : '$' ∉ " -f ".toList := by decide
  have hnone : Mirrored (· ∈ names config tool runner) (fun _ => Text.unlines []) :=
    .literal (by decide)
  have hbinary := mirrored_binary h
  have hlast : Mirrored (· ∈ names config tool runner)
      (fun kind => config.commands.chmod ++ " +x " ++ binary kind tool) :=
    ((Mirrored.literal hchmod).append (.literal hexecutable)).append hbinary
  unfold fetch
  cases hpacked : source.archive with
  | none => exact (hdownload _ hbinary).line (hlast.line hnone)
  | some packed =>
      have harchive : tool.installer.hasArchive = true := by
        simp [Installer.hasArchive, hfetch, hpacked]
      have hpath : packed.path ∈ tool.installer.rendered := by
        rw [Installer.rendered_of_fetch? hfetch, hpacked]
        simp
      have harchived := mirrored_archive h harchive
      exact (hdownload _ harchived).line ((mirrored_extract h hpath harchive depth).line
        ((((Mirrored.literal hrm).append (.literal hforce)).append harchived).line
          (hlast.line hnone)))

theorem mirrored_pythonApp {app : PythonApp} (hinstaller : tool.installer = .pythonApp app)
    (depth : Nat) :
    Mirrored (· ∈ names config tool runner)
      (fun kind => Text.unlines (pythonApp kind config depth tool runner app)) := by
  have hpipx := h.commands ("pipx", config.commands.pipx) (by simp [Commands.fields])
  have hln := h.commands ("ln", config.commands.ln) (by simp [Commands.fields])
  have happ : '$' ∉ app.app.toList := by
    apply h.settings
    rw [hinstaller]
    exact Installer.mem_texts_of_mem_settings "app" (by simp [Installer.settings])
  have hpackage : app.package ∈ tool.installer.rendered := by
    rw [hinstaller]
    exact List.mem_cons_self
  have hpinning : Mirrored (· ∈ names config tool runner)
      (fun kind => pinning kind config depth tool app.version) := by
    unfold pinning
    cases hversion : app.version with
    | none => exact .literal (by decide)
    | some version =>
        by_cases hempty : version = ""
        · simp only [if_pos hempty]
          exact .literal (by decide)
        · have hrendered : version ∈ tool.installer.rendered := by
            simp [hinstaller, Installer.rendered, Installer.templates, hversion]
          simp only [if_neg hempty]
          exact (Mirrored.literal (by decide)).append (mirrored_filled h hrendered (depth + 2))
  have hhome : Mirrored (· ∈ names config tool runner)
      (fun kind => localBin kind config ++ "/.make-env/pipx") :=
    (mirrored_localBin h).append (.literal (by decide))
  have hinstall : Mirrored (· ∈ names config tool runner) (fun kind =>
      "PIPX_HOME=" ++ (localBin kind config ++ "/.make-env/pipx") ++ " PIPX_BIN_DIR=" ++
        (localBin kind config ++ "/.make-env/pipx") ++ "/bin " ++
        runnerOr kind runner config.commands.pipx ++ " install --force " ++
        tool.filled kind config (depth + 4) app.package ++
        pinning kind config depth tool app.version) :=
    (((((((Mirrored.literal (by decide)).append hhome).append (.literal (by decide))).append
      hhome).append (.literal (by decide))).append (mirrored_runnerOr h hpipx)).append
      (.literal (by decide))).append (mirrored_filled h hpackage (depth + 2)) |>.append hpinning
  have hlink : Mirrored (· ∈ names config tool runner) (fun kind =>
      config.commands.ln ++ " -sf " ++ (localBin kind config ++ "/.make-env/pipx") ++ "/bin/" ++
        app.app ++ " " ++ binary kind tool) :=
    ((((((Mirrored.literal hln).append (.literal (by decide))).append hhome).append
      (.literal (by decide))).append (.literal happ)).append (.literal (by decide))).append
      (mirrored_binary h)
  exact hinstall.line (hlink.line (.literal (by decide)))

theorem mirrored_goModule {m : GoModule} (hinstaller : tool.installer = .goModule m)
    (depth : Nat) :
    Mirrored (· ∈ names config tool runner)
      (fun kind => Text.unlines (goModule kind config depth tool runner m)) := by
  have hgo := h.commands ("go", config.commands.go) (by simp [Commands.fields])
  have hmv := h.commands ("mv", config.commands.mv) (by simp [Commands.fields])
  have hrendered : ∀ source ∈ m.package :: m.version :: (m.env.values ++ m.flags),
      Mirrored (· ∈ names config tool runner)
        (fun kind => tool.filled kind config (depth + 4) source) := by
    intro source hsource
    refine mirrored_filled h ?_ (depth + 2)
    rw [hinstaller]
    exact hsource
  have hbinaryName : '$' ∉ m.binary.toList := by
    apply h.settings
    rw [hinstaller]
    exact Installer.mem_texts_of_mem_settings "binary" (by simp [Installer.settings])
  have hsettings : Mirrored (· ∈ names config tool runner) (fun kind =>
      String.join (m.env.entries.map (fun entry =>
        entry.1 ++ ("=" ++ (tool.filled kind config (depth + 4) entry.2 ++ " "))))) := by
    apply Mirrored.join
    intro entry hentry
    have hkey : '$' ∉ entry.1.toList := by
      apply h.settings
      rw [hinstaller]
      exact Installer.texts_subset_of_mem_settings "env" (by simp [Installer.settings])
        (Dict.mem_texts_of_mem_keys (List.mem_map_of_mem hentry))
    have hvalue := hrendered entry.2 (by simp [Dict.values, List.mem_map_of_mem hentry])
    exact (Mirrored.literal hkey).append (.append (.literal (by decide))
      (hvalue.append (.literal (by decide))))
  have hflags : Mirrored (· ∈ names config tool runner) (fun kind =>
      String.join (m.flags.map (fun flag => " " ++ tool.filled kind config (depth + 4) flag))) := by
    apply Mirrored.join
    intro flag hflag
    exact (Mirrored.literal (by decide)).append (hrendered flag (by simp [hflag]))
  have hinstall : Mirrored (· ∈ names config tool runner) (fun kind =>
      String.join (m.env.entries.map (fun entry =>
          entry.1 ++ ("=" ++ (tool.filled kind config (depth + 4) entry.2 ++ " ")))) ++
        "GOBIN=" ++ localBin kind config ++ " " ++ runnerOr kind runner config.commands.go ++
        " install" ++
        String.join (m.flags.map (fun flag => " " ++ tool.filled kind config (depth + 4) flag)) ++
        " " ++ tool.filled kind config (depth + 4) m.package ++ "@" ++
        tool.filled kind config (depth + 4) m.version) :=
    (((((((((hsettings.append (.literal (by decide))).append (mirrored_localBin h)).append
      (.literal (by decide))).append (mirrored_runnerOr h hgo)).append
      (.literal (by decide))).append hflags).append (.literal (by decide))).append
      (hrendered _ (by simp))).append (.literal (by decide))).append (hrendered _ (by simp))
  have hmove : Mirrored (· ∈ names config tool runner) (fun kind =>
      config.commands.mv ++ " -f " ++ localBin kind config ++ "/" ++ m.binary ++ " " ++
        binary kind tool) :=
    ((((((Mirrored.literal hmv).append (.literal (by decide))).append
      (mirrored_localBin h)).append (.literal (by decide))).append (.literal hbinaryName)).append
      (.literal (by decide))).append (mirrored_binary h)
  unfold goModule
  refine hinstall.line ?_
  by_cases hsame : m.binary = tool.name.text
  · simp only [if_pos hsame]
    exact .literal (by decide)
  · simp only [if_neg hsame]
    exact hmove.line (.literal (by decide))

theorem mirrored_maven {artifact : String} (hinstaller : tool.installer = .maven artifact)
    (depth : Nat) :
    Mirrored (· ∈ names config tool runner)
      (fun kind => Text.unlines (maven kind config depth tool runner artifact)) := by
  have hrm := h.commands ("rm", config.commands.rm) (by simp [Commands.fields])
  have hmvn := h.commands ("mvn", config.commands.mvn) (by simp [Commands.fields])
  have hmv := h.commands ("mv", config.commands.mv) (by simp [Commands.fields])
  have hjava := h.commands ("java", config.commands.java) (by simp [Commands.fields])
  have hchmod := h.commands ("chmod", config.commands.chmod) (by simp [Commands.fields])
  have hname : '$' ∉ tool.name.text.toList :=
    fun hmem => absurd (tool.name.isPlain_text '$' hmem) (by decide)
  have hartifact : artifact ∈ tool.installer.rendered := by
    rw [hinstaller]
    exact List.mem_cons_self
  have hdir : Mirrored (· ∈ names config tool runner)
      (fun kind => localBin kind config ++ "/.make-env/maven/" ++ tool.name.text) :=
    ((mirrored_localBin h).append (.literal (by decide))).append (.literal hname)
  have hjar : Mirrored (· ∈ names config tool runner) (fun kind =>
      localBin kind config ++ "/.make-env/maven/" ++ tool.name.text ++ "/" ++ tool.name.text ++
        ".jar") :=
    ((hdir.append (.literal (by decide))).append (.literal hname)).append (.literal (by decide))
  have hforce : '$' ∉ " -rf ".toList := by decide
  have hclear := ((Mirrored.literal hrm).append (.literal hforce)).append hdir
  have hcopy : Mirrored (· ∈ names config tool runner) (fun kind =>
      runnerOr kind runner config.commands.mvn ++ " -q dependency:copy -Dartifact=" ++
        tool.filled kind config (depth + 4) artifact ++ " -DoutputDirectory=" ++
        (localBin kind config ++ "/.make-env/maven/" ++ tool.name.text)) :=
    ((((mirrored_runnerOr h hmvn).append (.literal (by decide))).append
      (mirrored_filled h hartifact (depth + 2))).append (.literal (by decide))).append hdir
  have hmove : Mirrored (· ∈ names config tool runner) (fun kind =>
      config.commands.mv ++ " -f " ++ (localBin kind config ++ "/.make-env/maven/" ++
        tool.name.text) ++ "/*.jar " ++ (localBin kind config ++ "/.make-env/maven/" ++
        tool.name.text ++ "/" ++ tool.name.text ++ ".jar")) :=
    ((((Mirrored.literal hmv).append (.literal (by decide))).append hdir).append
      (.literal (by decide))).append hjar
  have hscript : Mirrored (· ∈ names config tool runner) (fun kind =>
      "printf '#!/bin/sh\\nexec %s -jar %s \"\\044@\"\\n' '" ++ config.commands.java ++ "' \"" ++
        (localBin kind config ++ "/.make-env/maven/" ++ tool.name.text ++ "/" ++
          tool.name.text ++ ".jar") ++ "\" > " ++ binary kind tool) :=
    (((((Mirrored.literal (by decide)).append (.literal hjava)).append
      (.literal (by decide))).append hjar).append (.literal (by decide))).append
      (mirrored_binary h)
  have hmode : Mirrored (· ∈ names config tool runner)
      (fun kind => config.commands.chmod ++ " +x " ++ binary kind tool) :=
    ((Mirrored.literal hchmod).append (.literal (by decide))).append (mirrored_binary h)
  exact hclear.line (hcopy.line (hmove.line (hscript.line (hmode.line (.literal (by decide))))))

/-- The recipe of a tool is the same in both artifacts, apart from how identifiers are referred
to. -/
theorem mirrored_lines (depth : Nat) :
    Mirrored (· ∈ names config tool runner)
      (fun kind => Text.unlines (lines kind config depth tool runner)) := by
  unfold lines
  cases hinstaller : tool.installer with
  | provided default =>
      have hcheck : Mirrored (· ∈ names config tool runner)
          (fun kind => "command -v " ++ binary kind tool ++ " >/dev/null") :=
        ((Mirrored.literal (by decide)).append (mirrored_binary h)).append (.literal (by decide))
      exact hcheck.line (.literal (by decide))
  | http source =>
      have hfetch : tool.installer.fetch? = some source := by rw [hinstaller]; rfl
      have hcurl := h.commands ("curl", config.commands.curl) (by simp [Commands.fields])
      have hurl := mirrored_url h (by simp [Installer.hasUrl, hfetch])
      apply mirrored_fetch h hfetch
      intro target htarget
      exact ((((Mirrored.literal hcurl).append (.literal (by decide))).append htarget).append
        (.literal (by decide))).append hurl
  | objectStore source =>
      have hfetch : tool.installer.fetch? = some source := by rw [hinstaller]; rfl
      have haws := h.commands ("aws", config.commands.aws) (by simp [Commands.fields])
      have hurl := mirrored_url h (by simp [Installer.hasUrl, hfetch])
      apply mirrored_fetch h hfetch
      intro target htarget
      exact ((((Mirrored.literal haws).append (.literal (by decide))).append hurl).append
        (.literal (by decide))).append htarget
  | pythonApp app => exact mirrored_pythonApp h hinstaller depth
  | goModule m => exact mirrored_goModule h hinstaller depth
  | maven artifact => exact mirrored_maven h hinstaller depth

end

end Recipe

/-! ## Accepted drafts -/

theorem Accepted.legible {draft : Draft} {config : Config} (h : Accepted draft config)
    (hdollar : ∀ s ∈ config.toJson.texts, '$' ∉ s.toList) {tool : Tool}
    (htool : tool ∈ config.tools.values)
    (htemplates : ∀ source ∈ tool.installer.templates, tool.IsTemplated config source)
    {runner : Option String}
    (hrunner : ∀ name ∈ runner, Name.IsPlain name ∧ Name.identifier name ≠ "") :
    Legible config tool runner where
  isIdentifier_localBinVar := h.isIdentifier_localBinVar
  isPlain_shared := fun _ hkey => h.isPlain_sharedVar hkey
  identifier_ne_empty := h.identifier_tool_ne_empty htool
  isPlain_vars := fun _ hkey => h.isPlain_toolVar htool hkey
  runner := hrunner
  commands := fun field hfield => hdollar _ (Config.command_mem_texts field hfield)
  settings := fun s hs =>
    hdollar s (Config.texts_tool_subset htool (tool.texts_installer_subset hs))
  templates := htemplates

/-- Both engines render the recipe of a tool that no declared tool installs, and what the engine for
Dockerfiles makes of it is what the engine for Makefiles makes of it with the references written the
other way. -/
theorem recipes_rewritten_of_check {draft : Draft} {config : Config}
    (hok : draft.check = .ok config) (hdollar : ∀ s ∈ config.toJson.texts, '$' ∉ s.toList)
    (htemplates : ∀ tool ∈ config.tools.values, ∀ source ∈ tool.installer.templates,
      tool.IsTemplated config source) :
    ∃ makefile dockerfile,
      Engine.ofFragments ArtifactKind.makefile.reference ArtifactKind.makefile.fragments =
        .ok makefile ∧
      Engine.ofFragments ArtifactKind.dockerfile.reference ArtifactKind.dockerfile.fragments =
        .ok dockerfile ∧
      ∀ tool ∈ config.tools.values, ∃ recipe,
        makefile.render tool.installer.fragment
            (.ofDict ((ToolView.ofTool config tool).sceneWith config none)) = .ok recipe ∧
          dockerfile.render tool.installer.fragment
            (.ofDict ((ToolView.ofTool config tool).sceneWith config none)) =
              .ok (rewritten recipe) := by
  have h := Draft.check_eq_ok_iff.mp hok
  refine ⟨_, _, ArtifactKind.makefile.ofFragments_fragments,
    ArtifactKind.dockerfile.ofFragments_fragments, ?_⟩
  intro tool htool
  have hnone : "" ∉ (none : Option String) := by simp
  have hrunner : "" ∉ (ToolView.ofTool config tool).runner :=
    fun hempty => (ToolView.isPlain_of_runner hempty).2 rfl
  have hrendered : ∀ kind : ArtifactKind,
      kind.engine.render tool.installer.fragment
          (.ofDict ((ToolView.ofTool config tool).sceneWith config none)) =
        .ok (Text.unlines (Recipe.lines kind config (Engine.nestingLimit - 5) tool none)) := by
    intro kind
    obtain ⟨hfragment, hescape⟩ := Recipe.fragment?_install kind tool.installer
    exact (kind.engine.render_gives kind.engine.inlines_inlined? hfragment hescape
      (Recipe.output?_recipe (ToolView.renderable_inlined? hrunner (htemplates tool htool)) hnone
        (Engine.nestingLimit - 5))).eq_ok
  have hlegible : Legible config tool none :=
    h.legible hdollar htool (htemplates tool htool) (by simp)
  have hmirrored := (Recipe.mirrored_lines hlegible (Engine.nestingLimit - 5)).rewritten_makefile
  exact ⟨_, hrendered .makefile, by rw [hmirrored]; exact hrendered .dockerfile⟩

theorem recipes_rewritten_packed :
    ∃ makefile dockerfile,
      Engine.ofFragments ArtifactKind.makefile.reference ArtifactKind.makefile.fragments =
        .ok makefile ∧
      Engine.ofFragments ArtifactKind.dockerfile.reference ArtifactKind.dockerfile.fragments =
        .ok dockerfile ∧
      ∀ tool ∈ Config.packed.tools.values, ∃ recipe,
        makefile.render tool.installer.fragment
            (.ofDict ((ToolView.ofTool Config.packed tool).sceneWith Config.packed none)) =
              .ok recipe ∧
          dockerfile.render tool.installer.fragment
            (.ofDict ((ToolView.ofTool Config.packed tool).sceneWith Config.packed none)) =
              .ok (rewritten recipe) := by
  have hdollar : ∀ s ∈ Config.packed.toJson.texts, '$' ∉ s.toList :=
    fun s hs => (Config.texts_packed s hs).2
  exact recipes_rewritten_of_check Config.check_packed hdollar Config.isTemplated_packed

end Provision
