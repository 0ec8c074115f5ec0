import Provision.Run.FileTree
import Provision.Run.Generate

/-!
# Workspaces

A directory of a file tree against which relative paths are resolved.
-/

namespace Provision

structure Workspace where
  tree : FileTree
  root : FileTree.Place

namespace Workspace

def read (w : Workspace) (path : String) : Except Fault String :=
  w.tree.readText w.root path

def write (w : Workspace) (path content : String) : Workspace × Option Fault :=
  let (tree, fault?) := w.tree.write w.root path content.toUTF8
  (⟨tree, w.root⟩, fault?)

instance : Storage Workspace where
  read := read
  write := write

/-- The workspace of a directory, which has to be there. -/
def enter (w : Workspace) (directory : String) : Except RunError Workspace :=
  match w.tree.find w.root directory with
  | .ok (place, .directory _) => .ok ⟨w.tree, place⟩
  | _ => .error (.directoryNotFound directory)

/-- The path of the root, given the path of the tree. -/
def rootPath (base : String) (w : Workspace) : String :=
  "/".intercalate (base :: w.root)

/-- A path as it is resolved against the root; an absolute one stands for itself. -/
def resolve (base : String) (w : Workspace) (path : String) : String :=
  if FileTree.isAbsolute path then path else w.rootPath base ++ "/" ++ path

/-- Makes the artifacts of a manifest in a directory of a workspace. -/
def generateIn (base : String) (catalog : Catalog) (options : Options)
    (directory : Option String) (w : Workspace) : Workspace × Logged Report :=
  match directory with
  | none => generate catalog options w
  | some directory =>
      match w.enter directory with
      | .error err => (w, ⟨[], .error err⟩)
      | .ok inner =>
          let (after, logged) := generate catalog options inner
          (⟨after.tree, w.root⟩,
            ⟨.changedDirectory (inner.rootPath base) :: logged.events, logged.outcome⟩)

end Workspace
end Provision
