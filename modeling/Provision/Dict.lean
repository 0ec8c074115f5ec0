/-!
# Finite maps with text keys

A dictionary lists its entries in increasing order of their keys, so two dictionaries with the
same entries are equal and every traversal visits the keys in that order.
-/

namespace Provision

/-- Entries in strictly increasing order of their keys. -/
structure Dict (β : Type) where
  entries : List (String × β)
  increasing : entries.Pairwise (fun a b => a.1 < b.1)

namespace Dict

variable {α β : Type}

def empty : Dict β := ⟨[], List.Pairwise.nil⟩

instance : Inhabited (Dict β) := ⟨empty⟩

instance : EmptyCollection (Dict β) := ⟨empty⟩

@[ext] theorem ext {d e : Dict β} (h : d.entries = e.entries) : d = e := by
  cases d
  cases e
  cases h
  rfl

instance [DecidableEq β] : DecidableEq (Dict β) := fun d e =>
  if h : d.entries = e.entries then isTrue (ext h)
  else isFalse (fun hde => h (hde ▸ rfl))

def keys (d : Dict β) : List String := d.entries.map Prod.fst

def values (d : Dict β) : List β := d.entries.map Prod.snd

def size (d : Dict β) : Nat := d.entries.length

def isEmpty (d : Dict β) : Bool := d.entries.isEmpty

def get? (d : Dict β) (key : String) : Option β := d.entries.lookup key

def contains (d : Dict β) (key : String) : Bool := d.entries.any (fun entry => entry.1 == key)

/-- Puts an entry in its place, over an entry of the same key. -/
def insertEntry (key : String) (value : β) : List (String × β) → List (String × β)
  | [] => [(key, value)]
  | entry :: rest =>
      if key < entry.1 then (key, value) :: entry :: rest
      else if key = entry.1 then (key, value) :: rest
      else entry :: insertEntry key value rest

theorem mem_insertEntry {key : String} {value : β} {entries : List (String × β)}
    {entry : String × β} (h : entry ∈ insertEntry key value entries) :
    entry = (key, value) ∨ entry ∈ entries := by
  induction entries with
  | nil => simpa [insertEntry] using h
  | cons first rest ih =>
      rw [insertEntry] at h
      split at h
      · simpa using h
      · split at h
        · rcases List.mem_cons.mp h with rfl | hrest
          · exact Or.inl rfl
          · exact Or.inr (List.mem_cons_of_mem _ hrest)
        · rcases List.mem_cons.mp h with rfl | hrest
          · exact Or.inr List.mem_cons_self
          · exact (ih hrest).imp id (List.mem_cons_of_mem _)

theorem insertEntry_increasing {key : String} {value : β} {entries : List (String × β)}
    (h : entries.Pairwise (fun a b => a.1 < b.1)) :
    (insertEntry key value entries).Pairwise (fun a b => a.1 < b.1) := by
  induction entries with
  | nil => simp [insertEntry]
  | cons first rest ih =>
      have hcons := List.pairwise_cons.mp h
      rw [insertEntry]
      split
      · next hlt =>
          refine List.pairwise_cons.mpr ⟨fun entry hentry => ?_, h⟩
          rcases List.mem_cons.mp hentry with rfl | hrest
          · exact hlt
          · exact String.lt_trans hlt (hcons.1 entry hrest)
      · split
        · next heq => exact List.pairwise_cons.mpr ⟨heq ▸ hcons.1, hcons.2⟩
        · next hnlt hne =>
            refine List.pairwise_cons.mpr ⟨fun entry hentry => ?_, ih hcons.2⟩
            rcases mem_insertEntry hentry with rfl | hrest
            · rcases Std.lt_trichotomy key first.1 with hlt | heq | hgt
              · exact absurd hlt hnlt
              · exact absurd heq hne
              · exact hgt
            · exact hcons.1 entry hrest

def insert (d : Dict β) (key : String) (value : β) : Dict β :=
  ⟨insertEntry key value d.entries, insertEntry_increasing d.increasing⟩

/-- The dictionary of a list of entries, in which the last entry of a key holds. -/
def ofList (entries : List (String × β)) : Dict β :=
  entries.foldl (fun d entry => d.insert entry.1 entry.2) empty

/-- Replaces every value, seeing its key. -/
def mapValues (f : String → α → β) (d : Dict α) : Dict β :=
  ⟨d.entries.map (fun entry => (entry.1, f entry.1 entry.2)),
    List.Pairwise.map _ (fun _ _ h => h) d.increasing⟩

/-- Replaces the values one by one from the smallest key, stopping at the first failure. -/
def traverseEntries {ε : Type} (f : String → α → Except ε β) :
    List (String × α) → Except ε (List (String × β))
  | [] => .ok []
  | (key, value) :: rest =>
      match f key value with
      | .error err => .error err
      | .ok image =>
          match traverseEntries f rest with
          | .error err => .error err
          | .ok images => .ok ((key, image) :: images)

theorem keys_traverseEntries {ε : Type} {f : String → α → Except ε β}
    {entries : List (String × α)} {images : List (String × β)}
    (h : traverseEntries f entries = .ok images) :
    images.map Prod.fst = entries.map Prod.fst := by
  induction entries generalizing images with
  | nil =>
      cases h
      rfl
  | cons entry rest ih =>
      rw [traverseEntries] at h
      split at h
      · exact nomatch h
      · split at h
        · exact nomatch h
        · next himages =>
            cases h
            simp [ih himages]

theorem increasing_of_keys {entries : List (String × α)} {images : List (String × β)}
    (hkeys : images.map Prod.fst = entries.map Prod.fst)
    (h : entries.Pairwise (fun a b => a.1 < b.1)) :
    images.Pairwise (fun a b => a.1 < b.1) := by
  have hmap : (entries.map Prod.fst).Pairwise (· < ·) := List.pairwise_map.mpr h
  exact List.pairwise_map.mp (hkeys ▸ hmap)

def traverse {ε : Type} (f : String → α → Except ε β) (d : Dict α) : Except ε (Dict β) :=
  match h : traverseEntries f d.entries with
  | .error err => .error err
  | .ok images => .ok ⟨images, increasing_of_keys (keys_traverseEntries h) d.increasing⟩

end Dict
end Provision
