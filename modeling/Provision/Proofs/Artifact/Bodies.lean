import Provision.Artifact.Plan
import Provision.Proofs.Template.Output
import Provision.Proofs.Template.Parsed

/-!
# Bodies of the built-in fragments

What each built-in fragment reads as, and the engine that serves the fragments of one kind of
artifact.  The parts that many fragments share have names of their own.
-/

namespace Provision

open Template

namespace Fragment

set_option maxRecDepth 20000

/-! ## Parts of fragments -/

def toolName : Expr := .path "tool" ["name"]

def setting (names : List String) : Expr := .path "tool" ("installer" :: names)

def command (name : String) : Expr := .path "config" ["commands", name]

def localBin : Expr := .ask "ref" [.path "config" ["local_bin_var"]]

/-- A reference to an identifier of the tool. -/
def toolRef (helper : String) : Expr := .ask "ref" [.ask helper [toolName]]

/-- The declared tool that runs the installer, or else a command. -/
def runnerOr (name : String) : Expr :=
  .choose (.var "runner") (.ask "ref" [.ask "identifier" [.var "runner"]]) (some (command name))

/-- The references to the variables that a templated setting may use. -/
def refs : Stmt :=
  .assign (.name "refs")
    (.record
      [("vars", .ask "var_dict" [toolName, .path "tool" ["vars"]]),
        ("global", .ask "var_dict" [.str "", .path "config" ["vars"]])])

/-- A templated setting with its references filled in. -/
def filled (e : Expr) : Expr := .ask "tpl" [e, .var "refs"]

/-- The version that a package is pinned to, if there is one. -/
def pinned : Expr :=
  .choose (.var "version") (.binary .concat (.str "==") (filled (.var "version"))) (some (.str ""))

def scene : Expr := .record [("tool", .var "tool"), ("config", .var "config")]

def included (name context : Expr) : Expr := .through "trim" (.ask "include" [name, context]) []

def nested (e : Expr) : Expr := .through "indent_wrap" e [.literal (.int 1)]

/-- Whether there is something to install for a tool. -/
def isInstalled (name : Expr) : Expr :=
  .compare (.attribute (.attribute (.index (.path "config" ["tools"]) name) "installer") "kind")
    [(.notEqual, .str "provided")]

/-! ## Install recipes -/

def extractTarBody : List Stmt :=
  [refs, .assign (.name "compression") (setting ["archive", "compression"]),
    .assign (.name "flags")
      (.record
         [("none", .str ""), ("gzip", .str "z"), ("bzip2", .str "j"), ("xz", .str "J"),
           ("zstd", .str "")]),
    .emit (command "tar"), .text " ",
    .emit
      (.choose (.compare (.var "compression") [(.equal, .str "zstd")]) (.str "--zstd ")
         (some (.str ""))),
    .text "-x", .emit (.index (.var "flags") (.var "compression")), .text "Of ",
    .emit (toolRef "archive_identifier"), .text " ", .emit (filled (setting ["archive", "path"])),
    .text " > ", .emit (toolRef "identifier"), .text "\n"]

def extractZipBody : List Stmt :=
  [refs, .emit (command "unzip"), .text " -p ", .emit (toolRef "archive_identifier"), .text " ",
    .emit (filled (setting ["archive", "path"])), .text " > ", .emit (toolRef "identifier"),
    .text "\n"]

def installGoBody : List Stmt :=
  [refs, .assign (.name "local") localBin, .assign (.name "go") (runnerOr "go"),
    .repeat (.items [.name "key", .name "value"]) (.through "items" (setting ["env"]) []) none false
      [.emit (.var "key"), .text "=", .emit (filled (.var "value")), .text " "] [],
    .text "GOBIN=", .emit (.var "local"), .text " ", .emit (.var "go"), .text " install",
    .repeat (.name "flag") (setting ["flags"]) none false [.text " ", .emit (filled (.var "flag"))]
      [],
    .text " ", .emit (filled (.path "tool" ["package"])), .text "@",
    .emit (filled (setting ["version"])), .text "\n",
    .branch (.compare (setting ["binary"]) [(.notEqual, toolName)])
      [.emit (command "mv"), .text " -f ", .emit (.var "local"), .text "/",
        .emit (setting ["binary"]), .text " ", .emit (toolRef "identifier"), .text "\n"]
      []]

/-- Fetches what lies behind the URL of a tool, and the binary out of it if that is an archive. -/
def fetchBody (download : String → List Stmt) : List Stmt :=
  [.assign (.name "bin") (toolRef "identifier"), .assign (.name "url") (toolRef "url_identifier"),
    .branch (setting ["archive"])
      (.assign (.name "archive") (toolRef "archive_identifier") :: download "archive" ++
        [.emit (included (.binary .concat (.str "extract/") (setting ["archive", "kind"])) scene),
          .text "\n", .emit (command "rm"), .text " -f ", .emit (.var "archive"), .text "\n"])
      (download "bin"),
    .emit (command "chmod"), .text " +x ", .emit (.var "bin"), .text "\n"]

def installHttpBody : List Stmt :=
  fetchBody (fun target =>
    [.emit (command "curl"), .text " -fsSL -o ", .emit (.var target), .text " ",
      .emit (.var "url"), .text "\n"])

def installMavenBody : List Stmt :=
  [refs,
    .assign (.name "dir")
      (.binary .concat (.binary .concat localBin (.str "/.make-env/maven/")) toolName),
    .assign (.name "mvn") (runnerOr "mvn"), .assign (.name "bin") (toolRef "identifier"),
    .emit (command "rm"), .text " -rf ", .emit (.var "dir"), .text "\n", .emit (.var "mvn"),
    .text " -q dependency:copy -Dartifact=", .emit (filled (setting ["artifact"])),
    .text " -DoutputDirectory=", .emit (.var "dir"), .text "\n", .emit (command "mv"), .text " -f ",
    .emit (.var "dir"), .text "/*.jar ", .emit (.var "dir"), .text "/", .emit toolName,
    .text ".jar\nprintf '#!/bin/sh\\nexec %s -jar %s \"\\044@\"\\n' '", .emit (command "java"),
    .text "' \"", .emit (.var "dir"), .text "/", .emit toolName, .text ".jar\" > ",
    .emit (.var "bin"), .text "\n", .emit (command "chmod"), .text " +x ", .emit (.var "bin"),
    .text "\n"]

def installPipxBody : List Stmt :=
  [refs, .assign (.name "home") (.binary .concat localBin (.str "/.make-env/pipx")),
    .assign (.name "pipx") (runnerOr "pipx"), .assign (.name "version") (setting ["version"]),
    .text "PIPX_HOME=", .emit (.var "home"), .text " PIPX_BIN_DIR=", .emit (.var "home"),
    .text "/bin ", .emit (.var "pipx"), .text " install --force ",
    .emit (filled (setting ["package"])),
    .emit pinned, .text "\n", .emit (command "ln"), .text " -sf ", .emit (.var "home"),
    .text "/bin/", .emit (setting ["app"]), .text " ", .emit (toolRef "identifier"), .text "\n"]

def installProvidedBody : List Stmt :=
  [.text "command -v ", .emit (toolRef "identifier"), .text " >/dev/null\n"]

def installS3Body : List Stmt :=
  fetchBody (fun target =>
    [.emit (command "aws"), .text " s3 cp --only-show-errors ", .emit (.var "url"), .text " ",
      .emit (.var target), .text "\n"])

/-! ## Makefiles -/

def makefileMainBody : List Stmt :=
  [.text "# Code generated by make-env ", .emit (.var "version"),
    .text ". DO NOT EDIT.\n# Source: ", .emit (.var "in_path"), .text " (sha256:",
    .emit (.var "config_digest"), .text ")\n# Output: ", .emit (.var "out_path"), .text "\n",
    .assign (.name "local") (.path "config" ["local_bin_var"]), .text "\n", .emit (.var "local"),
    .text " ?= $(CURDIR)/bin\n$(", .emit (.var "local"), .text "):\n\t", .emit (command "mkdir"),
    .text " -p $@\n",
    .branch (.path "config" ["vars"])
      [.text "\n",
        .repeat (.items [.name "key", .name "value"])
          (.through "items" (.path "config" ["vars"]) []) none false
          [.emit (.ask "scoped_identifier" [.str "", .var "key"]), .text " ?= ",
            .emit (.through "make_value" (.var "value") []), .text "\n"]
          []]
      [],
    .repeat (.name "tool") (.var "tools") none false
      [.text "\n", .emit (included (.str "tool") scene), .text "\n"] [],
    .repeat (.items [.name "name", .name "set"])
      (.through "items" (.path "config" ["tool_sets"]) []) none false
      [.text "\n.PHONY: ", .emit (.var "name"), .text "\n", .emit (.var "name"), .text ":",
        .repeat (.name "member") (.path "set" ["tools"]) none false
          [.text " ", .emit (.var "member")] [],
        .text "\n"]
      []]

/-- Installs a tool unless its stamp is there already. -/
def stampBody : List Stmt :=
  [.emit (.var "id"), .text " ?= ", .emit (.var "local"), .text "/", .emit toolName,
    .text "\n", .emit (.var "stamp"), .text " ?= ", .emit (.var "local"), .text "/.make-env/",
    .emit toolName, .text "@", .emit (.path "tool" ["installer_digest"]),
    .repeat (.name "key") (.path "tool" ["vars"]) none false
      [.text "@$(subst /,_,", .emit (.index (.path "refs" ["vars"]) (.var "key")), .text ")"]
      [],
    .text ".stamp\n\n.PHONY: ", .emit toolName, .text "\n", .emit toolName, .text ": $(",
    .emit (.var "stamp"), .text ")\n\n$(", .emit (.var "stamp"), .text "):",
    .repeat (.name "dep") (.path "tool" ["prerequisites"]) none false
      [.text " $(", .emit (.ask "stamp_identifier" [.var "dep"]), .text ")"] [],
    .text " | ", .emit (.var "local"), .text "\n\t@", .emit (command "mkdir"),
    .text " -p $(dir $@)\n\t@", .emit (command "rm"), .text " -f ", .emit (.var "local"),
    .text "/.make-env/", .emit toolName, .text "@*.stamp",
    .emit (nested (included (.path "tool" ["fragment"]) (.var "ctx"))), .text "\n\t@",
    .emit (command "touch"), .text " $@\n"]

def makefileToolBody : List Stmt :=
  [.assign (.name "id") (.ask "identifier" [toolName]),
    .assign (.name "stamp") (.ask "stamp_identifier" [toolName]), .assign (.name "local") localBin,
    refs,
    .assign (.name "ctx")
      (.record
         [("tool", .var "tool"), ("config", .var "config"), ("runner", .path "tool" ["runner"])]),
    .text "# ", .emit toolName, .text " (", .emit (setting ["kind"]), .text ")\n",
    .repeat (.items [.name "key", .name "value"]) (.through "items" (.path "tool" ["vars"]) []) none
      false
      [.emit (.ask "scoped_identifier" [toolName, .var "key"]), .text " ?= ",
        .emit (.through "make_value" (.var "value") []), .text "\n"]
      [],
    .branch (.path "tool" ["provided"])
      [.emit (.var "id"), .text " ?= ", .emit (.through "make_value" (setting ["default"]) []),
        .text "\n", .emit (.var "stamp"), .text " :=\n\n.PHONY: ", .emit toolName, .text "\n",
        .emit toolName, .text ":",
        .emit (nested (included (.path "tool" ["fragment"]) (.var "ctx"))), .text "\n"]
      (.branch (.path "tool" ["has_url"])
          [.emit (.ask "url_identifier" [toolName]), .text " ?= ",
            .emit (.through "make_value" (filled (setting ["url"])) []), .text "\n"]
          [] ::
        .branch (.path "tool" ["has_archive"])
          [.emit (.ask "archive_identifier" [toolName]), .text " ?= ", .emit (.var "local"),
            .text "/.make-env/", .emit toolName, .text ".", .emit (setting ["archive", "kind"]),
            .text "\n"]
          [] :: stampBody)]

/-! ## Dockerfiles -/

def dockerfileMainBody : List Stmt :=
  [.text "# syntax=docker/dockerfile:1\n# Code generated by make-env ", .emit (.var "version"),
    .text ". DO NOT EDIT.\n# Source: ", .emit (.var "in_path"), .text " (sha256:",
    .emit (.var "config_digest"), .text ")\n# Output: ", .emit (.var "out_path"), .text "\n",
    .assign (.name "local") (.path "config" ["local_bin_var"]),
    .assign (.name "docker") (.path "config" ["dockerfile"]), .text "\nARG ", .emit (.var "local"),
    .text "=", .emit (.through "arg_value" (.path "docker" ["install_dir"]) []), .text "\n",
    .repeat (.items [.name "key", .name "value"]) (.through "items" (.path "config" ["vars"]) [])
      none false
      [.text "ARG ", .emit (.ask "scoped_identifier" [.str "", .var "key"]), .text "=",
        .emit (.through "arg_value" (.var "value") []), .text "\n"]
      [],
    .repeat (.name "tool") (.var "tools") none false
      [.emit (included (.str "tool_args") scene), .text "\n"] [],
    .repeat (.name "tool") (.var "tools") (some (.unary .not (.path "tool" ["provided"]))) false
      [.text "\n", .emit (included (.str "tool") scene), .text "\n"] [],
    .repeat (.items [.name "name", .name "set"])
      (.through "items" (.path "config" ["tool_sets"]) []) none false
      [.text "\nFROM scratch AS ", .emit (.path "docker" ["stage_prefix"]), .text "set-",
        .emit (.ask "stage_id" [.var "name"]), .text "\nARG ", .emit (.var "local"), .text "\n",
        .repeat (.name "member") (.path "set" ["tools"])
          (some (isInstalled (.var "member"))) false
          [.text "COPY --from=", .emit (.path "docker" ["stage_prefix"]),
            .emit (.ask "stage_id" [.var "member"]), .text " ", .emit (.ask "ref" [.var "local"]),
            .text "/ ", .emit (.ask "ref" [.var "local"]), .text "/\n"]
          []]
      [],
    .text "\nFROM ", .emit (.path "docker" ["final_image"]), .text " AS ",
    .emit (.path "docker" ["final_stage"]), .text "\nARG ", .emit (.var "local"), .text "\n",
    .branch (.path "docker" ["pre_copy"])
      [.emit (.through "trim" (.path "docker" ["pre_copy"]) []), .text "\n"] [],
    .repeat (.name "tool") (.var "tools") (some (.unary .not (.path "tool" ["provided"]))) false
      [.text "COPY --from=", .emit (.path "docker" ["stage_prefix"]),
        .emit (.ask "stage_id" [toolName]), .text " ", .emit (.ask "ref" [.var "local"]),
        .text "/ ", .emit (.path "docker" ["install_dir"]), .text "/\n"]
      [],
    .text "ENV PATH=\"", .emit (.path "docker" ["install_dir"]), .text ":$\x7bPATH\x7d\"\n",
    .branch (.path "docker" ["post_copy"])
      [.emit (.through "trim" (.path "docker" ["post_copy"]) []), .text "\n"] []]

def dockerfileScriptBody : List Stmt :=
  [.text "set -eu\n", .emit (command "mkdir"), .text " -p ", .emit localBin, .text "/.make-env\n",
    .emit
      (included (.path "tool" ["fragment"])
         (.record [("tool", .var "tool"), ("config", .var "config"), ("runner", .literal .none)])),
    .text "\n"]

def dockerfileToolBody : List Stmt :=
  [.assign (.name "local") (.path "config" ["local_bin_var"]),
    .assign (.name "docker") (.path "config" ["dockerfile"]),
    .assign (.name "images")
      (.record
         [("http", .path "docker" ["fetch_image"]), ("s3", .path "docker" ["s3_image"]),
           ("pipx", .path "docker" ["python_image"]), ("go", .path "docker" ["go_image"]),
           ("maven", .path "docker" ["maven_image"])]),
    .text "FROM ", .emit (.index (.var "images") (setting ["kind"])), .text " AS ",
    .emit (.path "docker" ["stage_prefix"]), .emit (.ask "stage_id" [toolName]), .text "\nARG ",
    .emit (.var "local"), .text "\n",
    .repeat (.name "key") (.path "config" ["vars"]) none false
      [.text "ARG ", .emit (.ask "scoped_identifier" [.str "", .var "key"]), .text "\n"] [],
    .repeat (.name "key") (.path "tool" ["vars"]) none false
      [.text "ARG ", .emit (.ask "scoped_identifier" [toolName, .var "key"]), .text "\n"] [],
    .text "ARG ", .emit (.ask "identifier" [toolName]), .text "\n",
    .branch (.path "tool" ["has_url"])
      [.text "ARG ", .emit (.ask "url_identifier" [toolName]), .text "\n"] [],
    .branch (.path "tool" ["has_archive"])
      [.text "ARG ", .emit (.ask "archive_identifier" [toolName]), .text "\n"] [],
    .repeat (.name "dep") (.path "tool" ["depends_on"]) none false
      [.text "ARG ", .emit (.ask "identifier" [.var "dep"]), .text "\n"] [],
    .repeat (.name "dep") (.path "tool" ["depends_on"])
      (some (isInstalled (.var "dep"))) false
      [.text "COPY --from=", .emit (.path "docker" ["stage_prefix"]),
        .emit (.ask "stage_id" [.var "dep"]), .text " ", .emit (.ask "ref" [.var "local"]),
        .text "/ ", .emit (.ask "ref" [.var "local"]), .text "/\n"]
      [],
    .branch (.compare (setting ["kind"]) [(.equal, .str "pipx")])
      [.text "RUN python3 -m pip install --no-cache-dir pipx\n"] [],
    .text "RUN <<EOF", .emit (nested (included (.str "script") scene)), .text "\nEOF\n"]

def dockerfileToolArgsBody : List Stmt :=
  [refs, .assign (.name "local") localBin,
    .repeat (.items [.name "key", .name "value"]) (.through "items" (.path "tool" ["vars"]) []) none
      false
      [.text "ARG ", .emit (.ask "scoped_identifier" [toolName, .var "key"]), .text "=",
        .emit (.through "arg_value" (.var "value") []), .text "\n"]
      [],
    .branch (.path "tool" ["provided"])
      [.text "ARG ", .emit (.ask "identifier" [toolName]), .text "=",
        .emit (.through "arg_value" (setting ["default"]) []), .text "\n"]
      [.text "ARG ", .emit (.ask "identifier" [toolName]), .text "=", .emit (.var "local"),
        .text "/", .emit toolName, .text "\n",
        .branch (.path "tool" ["has_url"])
          [.text "ARG ", .emit (.ask "url_identifier" [toolName]), .text "=",
            .emit (.through "arg_value" (filled (setting ["url"])) []), .text "\n"]
          [],
        .branch (.path "tool" ["has_archive"])
          [.text "ARG ", .emit (.ask "archive_identifier" [toolName]), .text "=",
            .emit (.var "local"), .text "/.make-env/", .emit toolName, .text ".",
            .emit (setting ["archive", "kind"]), .text "\n"]
          []]]

/-! ## Engines -/

def commonBodies : List (String × List Stmt) :=
  [("extract/tar", extractTarBody), ("extract/zip", extractZipBody), ("install/go", installGoBody),
    ("install/http", installHttpBody), ("install/maven", installMavenBody),
    ("install/pipx", installPipxBody), ("install/provided", installProvidedBody),
    ("install/s3", installS3Body)]

/-- A fragment reads as a body under its name. -/
def ReadsAs (fragment : Fragment) (entry : String × List Stmt) : Prop :=
  fragment.name = entry.1 ∧ Template.ofText? fragment.source = some ⟨entry.2, []⟩

/-- That a fragment reads as a body is settled by the characters it is written with. -/
theorem readsAs_of_agrees {name : String} {source : List Char} {body : List Stmt}
    (hagrees : ((tokens? source).bind ofTokens?).any
      (fun template => agreesBody template.body body && template.blocks.isEmpty) = true) :
    ReadsAs ⟨name, String.ofList source⟩ (name, body) :=
  ⟨rfl, ofText?_ofList_eq_of_agrees hagrees⟩

theorem forall₂_common : List.Forall₂ ReadsAs common commonBodies := by
  unfold common extractTar extractZip installGo installHttp installMaven installPipx
    installProvided installS3
  repeat refine .cons (readsAs_of_agrees (by decide +kernel)) ?_
  exact .nil

end Fragment

open Fragment

theorem Engine.register_eq_ok {fragments : List Fragment} {entries : List (String × List Stmt)}
    (h : List.Forall₂ ReadsAs fragments entries) (d : Dict Template) :
    Engine.register d fragments =
      .ok ((entries.map (fun entry => (entry.1, ⟨entry.2, []⟩))).foldl
        (fun d entry => d.insert entry.1 entry.2) d) := by
  induction h generalizing d with
  | nil => rfl
  | cons hfirst _ ih =>
      rw [Engine.register, hfirst.2, hfirst.1]
      exact ih _

namespace ArtifactKind

def ownBodies : ArtifactKind → List (String × List Stmt)
  | .makefile => [("main", makefileMainBody), ("tool", makefileToolBody)]
  | .dockerfile =>
      [("main", dockerfileMainBody), ("script", dockerfileScriptBody),
        ("tool", dockerfileToolBody), ("tool_args", dockerfileToolArgsBody)]

set_option maxRecDepth 20000 in
theorem forall₂_fragments (kind : ArtifactKind) :
    List.Forall₂ ReadsAs kind.fragments (commonBodies ++ kind.ownBodies) := by
  apply List.rel_append forall₂_common
  cases kind with
  | makefile =>
      unfold ownFragments makefileMain makefileTool
      repeat refine .cons (readsAs_of_agrees (by decide +kernel)) ?_
      exact .nil
  | dockerfile =>
      unfold ownFragments dockerfileMain dockerfileScript dockerfileTool dockerfileToolArgs
      repeat refine .cons (readsAs_of_agrees (by decide +kernel)) ?_
      exact .nil

/-- The engine that serves the built-in fragments of a kind of artifact. -/
def engine (kind : ArtifactKind) : Engine :=
  ⟨kind.reference,
    Dict.ofList ((commonBodies ++ kind.ownBodies).map (fun entry => (entry.1, ⟨entry.2, []⟩)))⟩

@[simp] theorem reference_engine (kind : ArtifactKind) :
    kind.engine.reference = kind.reference := rfl

theorem ofFragments_fragments (kind : ArtifactKind) :
    Engine.ofFragments kind.reference kind.fragments = .ok kind.engine := by
  rw [Engine.ofFragments, Engine.register_eq_ok kind.forall₂_fragments]
  rfl

theorem fragment?_engine (kind : ArtifactKind) (name : String) :
    kind.engine.fragment? name =
      ((commonBodies ++ kind.ownBodies).reverse.lookup name).map (fun body => ⟨body, []⟩) := by
  rw [Engine.fragment?, engine, Dict.get?_ofList, ← List.map_reverse]
  exact Dict.lookup_map (fun _ body => (⟨body, []⟩ : Template)) _ name

end ArtifactKind
end Provision
