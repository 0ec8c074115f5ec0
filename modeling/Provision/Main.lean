import Provision.Command.Outcome

/-!
# The program

Reads the manifest, has the artifacts made and writes them.  Everything that is decided on the
way is decided by the modules below; what is left here is to ask the system.
-/

namespace Provision
namespace Program

def faultOf : IO.Error → Fault
  | .noFileOrDirectory _ _ _ => .noEntry
  | .alreadyExists _ _ _ => .entryExists
  | .permissionDenied _ _ _ => .accessDenied
  | .inappropriateType _ code details =>
      if code = 20 then .notADirectory
      else if code = 21 then .isADirectory
      else .system details
  | .invalidArgument _ code details => if code = 36 then .nameTooLong else .system details
  | .userError _ => .notText
  | err => .system (toString err)

/-- A path against which other paths are resolved: the current directory or one in it. -/
def resolve (directory : Option String) (path : String) : IO String := do
  let here ← IO.currentDir
  let root := (directory.map (here / ·)).getD here
  return (root / path).toString

/-- The real path of a directory, if it is one. -/
def realDirectory? (directory : String) : IO (Option String) := do
  let path := (← IO.currentDir) / directory
  if ← path.isDir then return some (← IO.FS.realPath path).toString else return none

def readText (path : String) : IO (Except Fault String) := do
  try return .ok (← IO.FS.readFile path) catch err => return .error (faultOf err)

/-- Writes a text and makes the directories above it. -/
def writeText (path content : String) : IO (Option Fault) := do
  let parts := path.splitOn "/"
  try
    IO.FS.createDirAll ("/".intercalate parts.dropLast ++ "/")
    IO.FS.writeFile path content
    return none
  catch err => return some (faultOf err)

/-- Writes artifacts up to the first that cannot be written. -/
def writeArtifacts (directory : Option String) : List Artifact → IO (Logged (List Written))
  | [] => return ⟨[], .ok []⟩
  | artifact :: rest => do
      match ← writeText (← resolve directory artifact.path) artifact.content with
      | some fault => return ⟨[], .error (.outputWrite artifact.path fault)⟩
      | none =>
          let later ← writeArtifacts directory rest
          return ⟨artifact.written.event :: later.events,
            later.outcome.map (artifact.written :: ·)⟩

/-- Makes the artifacts in a directory. -/
def generate (options : Options) (directory : Option String) : IO (Logged Report) := do
  match ← readText (← resolve directory options.configPath) with
  | .error fault => return ⟨[], .error (.configRead options.configPath fault)⟩
  | .ok content =>
      match Loaded.ofText options.configPath content with
      | .error err => return ⟨[], .error err⟩
      | .ok loaded =>
          let prepared := prepare .builtIn options loaded
          match prepared.outcome with
          | .error err => return ⟨prepared.events, .error err⟩
          | .ok (tools, artifacts) =>
              let written ← writeArtifacts directory artifacts
              return ⟨prepared.events ++ written.events, written.outcome.map (⟨tools, ·⟩)⟩

/-- Makes the artifacts in the current directory or in another one. -/
def run (options : Options) : Option String → IO (Logged Report)
  | none => generate options none
  | some directory => do
      match ← realDirectory? directory with
      | none => return ⟨[], .error (.directoryNotFound directory)⟩
      | some path =>
          let logged ← generate options (some path)
          return ⟨.changedDirectory path :: logged.events, logged.outcome⟩

end Program
end Provision

open Provision

def main (arguments : List String) : IO UInt32 := do
  match Invocation.ofArguments arguments with
  | .help =>
      IO.print usageText
      return 0
  | .version =>
      IO.print versionText
      return 0
  | .misuse =>
      IO.eprintln ("error: unusable arguments\n\nUsage: " ++ programName ++ " [OPTIONS]")
      return 2
  | .run options directory debug =>
      let verbosity := Verbosity.ofRun debug (← IO.getEnv "RUST_LOG")
      let outcome := Outcome.ofRun verbosity (← Program.run options directory)
      IO.print outcome.output
      IO.eprint outcome.reports
      return outcome.exit.toUInt32
