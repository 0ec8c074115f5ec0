import Provision.Run.Store

/-!
# Sessions

A session asks one thing of a store after the other.  Texts are put under any path, locked or not;
only the artifacts of a run respect the locks.
-/

namespace Provision

inductive Request where
  | put (path content : String)
  | lock (path : String)
  | unlock (path : String)
  | get (path : String)
  | load (path : String)
  | generate (catalog : Catalog) (options : Options)

inductive Response where
  | done
  | content (found : Option String)
  | loaded (outcome : Except RunError Loaded)
  | generated (outcome : Except RunError Report)

namespace Store

/-- The store after a request, and the answer to it. -/
def serve (store : Store) : Request → Store × Response
  | .put path content => (store.put path content, .done)
  | .lock path => (store.lock path, .done)
  | .unlock path => (store.unlock path, .done)
  | .get path => (store, .content (store.get? path))
  | .load path => (store, .loaded (Provision.load store path))
  | .generate catalog options =>
      let (after, logged) := Provision.generate catalog options store
      (after, .generated logged.outcome)

end Store
end Provision
