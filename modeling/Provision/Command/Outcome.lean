import Provision.Command.Invocation
import Provision.Command.Verbosity
import Provision.Release
import Provision.Run.Generate

/-!
# Outcomes of the program

What the program prints and the code that it ends with.
-/

namespace Provision

/-- The description of the command line. -/
def usageText : String :=
  String.join
    ["Generate a Makefile and a Dockerfile that install the tools listed in make-env.yaml\n",
      "\nUsage: make-env [OPTIONS]\n",
      "\nOptions:\n",
      "      --config <PATH>      Tool manifest to read (YAML, or TOML by extension)",
      " [default: make-env.yaml]\n",
      "      --out <PATH>         Makefile to write; empty to skip",
      " [default: make-env.Makefile] [alias: --makefile]\n",
      "      --dockerfile <PATH>  Dockerfile to write; empty to skip",
      " [default: make-env.Dockerfile]\n",
      "  -C, --directory <DIR>    Change to this directory before resolving any path\n",
      "      --debug              Enable debug logging\n",
      "  -h, --help               Print help\n",
      "  -V, --version            Print version\n"]

def versionText : String := programName ++ " " ++ version ++ "\n"

/-- The code, the output and the reports of a program that has ended. -/
structure Outcome where
  exit : Nat
  output : String
  reports : String
deriving DecidableEq, Repr

namespace Outcome

open Decimal

/-- The line about an artifact that was written. -/
def writtenLine (tools : Nat) (written : Written) : String :=
  "✅ Wrote " ++ written.kind.name ++ " to " ++ written.path ++ " (" ++ natText tools ++
    " tools, " ++ natText written.bytes ++ " bytes)\n"

def eventNotice (event : Event) : Notice := ⟨.debug, event.source, event.details⟩

/-- The notice of a run that failed. -/
def failureNotice : Notice := ⟨.error, "make_env::app::cli", ["message"]⟩

/-- The reports of the events that are shown. -/
def eventLines (v : Verbosity) (events : List Event) : String :=
  String.join ((events.filter (fun event => v.shows (eventNotice event))).map
    (fun event => "DEBUG " ++ event.text ++ "\n"))

def ofRun (v : Verbosity) (logged : Logged Report) : Outcome :=
  match logged.outcome with
  | .ok report =>
      { exit := 0
        output := String.join (report.artifacts.map (writtenLine report.tools))
        reports := eventLines v logged.events }
  | .error err =>
      { exit := 1
        output := ""
        reports := eventLines v logged.events ++
          (if v.shows failureNotice then "ERROR " ++ err.message ++ "\n" else "") }

end Outcome
end Provision
