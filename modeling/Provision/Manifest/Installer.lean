import Provision.Dict
import Provision.Json.Printer
import Provision.Digest.Sha256
import Provision.Manifest.GoPackage

/-!
# Installers

The six ways to get a tool, each with the settings it needs, and the structured value under which
templates and digests see an installer: its kind first, then its settings in a fixed order.
-/

namespace Provision

inductive Compression where
  | none
  | gzip
  | bzip2
  | xz
  | zstd
deriving DecidableEq, Repr

namespace Compression

def name : Compression → String
  | .none => "none"
  | .gzip => "gzip"
  | .bzip2 => "bzip2"
  | .xz => "xz"
  | .zstd => "zstd"

/-- The compression of a name or of a short form of it. -/
def ofName? : String → Option Compression
  | "none" => some .none
  | "" => some .none
  | "gzip" => some .gzip
  | "gz" => some .gzip
  | "bzip2" => some .bzip2
  | "bz2" => some .bzip2
  | "xz" => some .xz
  | "zstd" => some .zstd
  | _ => Option.none

end Compression

/-- An archive and where the binary lies in it. -/
inductive Archive where
  | zip (path : String)
  | tar (compression : Compression) (path : String)
deriving DecidableEq, Repr

namespace Archive

def kind : Archive → String
  | .zip _ => "zip"
  | .tar _ _ => "tar"

def toJson : Archive → Json
  | .zip path => .obj [("kind", .str "zip"), ("path", .str path)]
  | .tar compression path =>
      .obj [("kind", .str "tar"), ("compression", .str compression.name), ("path", .str path)]

end Archive

/-- A file that is fetched from a URL, which is an inline template. -/
structure Fetch where
  url : String
  archive : Option Archive
deriving DecidableEq

structure PythonApp where
  package : String
  version : Option String
  /-- The binary that the package links. -/
  app : String
deriving DecidableEq

structure GoModule where
  modulePath : String
  subPath : Option String
  version : String
  env : Dict String
  flags : List String
  /-- The binary that the package installs. -/
  binary : String
deriving DecidableEq

namespace GoModule

def package (m : GoModule) : String :=
  GoPackage.path m.modulePath m.subPath

end GoModule

inductive Installer where
  /-- Expected on the machine; the text is the command to use. -/
  | provided (default : String)
  | http (source : Fetch)
  | objectStore (source : Fetch)
  | pythonApp (app : PythonApp)
  | goModule (goModule : GoModule)
  /-- A Maven artifact by its coordinate. -/
  | maven (artifact : String)
deriving DecidableEq

def Dict.toJson (d : Dict String) : Json :=
  .obj (d.entries.map (fun entry => (entry.1, .str entry.2)))

namespace Installer

def kind : Installer → String
  | .provided _ => "provided"
  | .http _ => "http"
  | .objectStore _ => "s3"
  | .pythonApp _ => "pipx"
  | .goModule _ => "go"
  | .maven _ => "maven"

/-- The fragment that renders the install recipe. -/
def fragment (installer : Installer) : String :=
  "install/" ++ installer.kind

def isProvided : Installer → Bool
  | .provided _ => true
  | _ => false

def fetch? : Installer → Option Fetch
  | .http source => some source
  | .objectStore source => some source
  | _ => none

def hasUrl (installer : Installer) : Bool :=
  installer.fetch?.isSome

def hasArchive (installer : Installer) : Bool :=
  (installer.fetch?.bind Fetch.archive).isSome

def package? : Installer → Option String
  | .goModule m => some m.package
  | _ => none

/-- The tool whose binary runs the installer. -/
def runner? : Installer → Option String
  | .goModule _ => some "go"
  | .pythonApp _ => some "pipx"
  | .maven _ => some "mvn"
  | _ => none

def fetchFields (source : Fetch) : List (String × Json) :=
  [("url", .str source.url), ("archive", .ofOption Archive.toJson source.archive)]

def settings : Installer → List (String × Json)
  | .provided default => [("default", .str default)]
  | .http source => fetchFields source
  | .objectStore source => fetchFields source
  | .pythonApp app =>
      [("package", .str app.package), ("version", .ofOption .str app.version),
        ("app", .str app.app)]
  | .goModule m =>
      [("module", .str m.modulePath), ("sub_path", .ofOption .str m.subPath),
        ("version", .str m.version), ("env", m.env.toJson), ("flags", .strings m.flags),
        ("binary", .str m.binary)]
  | .maven artifact => [("artifact", .str artifact)]

def toJson (installer : Installer) : Json :=
  .obj (("kind", .str installer.kind) :: installer.settings)

/-- The first twelve digits of the digest of the compact structured value; they change the stamp
of a tool whenever a setting of its installer changes. -/
def digest (installer : Installer) : String :=
  String.ofList ((Digest.ofText installer.toJson.compactText).toList.take 12)

end Installer
end Provision
