import Provision.Run.Generate

/-!
# Stores

A store keeps texts by their paths.  A locked path can be read but not written.
-/

namespace Provision

structure Store where
  files : Dict String
  locked : List String
deriving DecidableEq

namespace Store

def empty : Store := ⟨.empty, []⟩

def get? (store : Store) (path : String) : Option String :=
  store.files.get? path

def put (store : Store) (path content : String) : Store :=
  { store with files := store.files.insert path content }

def isLocked (store : Store) (path : String) : Bool :=
  path ∈ store.locked

def lock (store : Store) (path : String) : Store :=
  { store with locked := path :: store.locked }

def unlock (store : Store) (path : String) : Store :=
  { store with locked := store.locked.filter (· ≠ path) }

def read (store : Store) (path : String) : Except Fault String :=
  match store.get? path with
  | some content => .ok content
  | none => .error .noSuchFile

def write (store : Store) (path content : String) : Store × Option Fault :=
  if store.isLocked path then (store, some .readOnly) else (store.put path content, none)

instance : Storage Store where
  read := read
  write := write

end Store
end Provision
