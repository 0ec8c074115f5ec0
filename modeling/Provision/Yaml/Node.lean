import Provision.Yaml.Token

/-!
# From tokens to a tree of nodes

A document is one node.  Nodes may carry an anchor and a tag, and where a collection leaves a key,
a value or an item out there is an empty plain scalar.  An anchor is known by a number: how many
different names had been anchored when its node began.
-/

namespace Provision
namespace Yaml

/-- What stands before the content of a node. -/
structure Properties where
  anchor : Option Nat := none
  tag : Option (List Char) := none
deriving DecidableEq, Repr

inductive Node where
  | alias (anchor : Nat)
  | scalar (properties : Properties) (plain : Bool) (text : List Char)
  | sequence (properties : Properties) (items : List Node)
  | mapping (properties : Properties) (entries : List (Node × Node))
deriving Repr, Inhabited

namespace Node

def empty : Node := .scalar {} true []

end Node

/-- The URIs that tag handles stand for. -/
abbrev Handles := List (List Char × List Char)

/-- The rest of the tokens and the anchors known so far. -/
structure Reading where
  tokens : List Token
  anchors : List (List Char × Nat) := []

namespace Reading

def next (r : Reading) : Option Token := r.tokens.head?

def drop (r : Reading) : Reading := { r with tokens := r.tokens.tail }

/-- Whether the next token is one of some tokens. -/
def nextIn (r : Reading) (tokens : List Token) : Bool :=
  r.next.any (· ∈ tokens)

/-- Gives an anchor its number, in the place of an earlier anchor of that name. -/
def addAnchor (r : Reading) (name : List Char) : Nat × Reading :=
  let number := r.anchors.length
  (number, { r with
    anchors := (name, number) :: r.anchors.filter (fun known => known.1 ≠ name) })

/-- The full form of a tag. -/
def resolveTag? (handles : Handles) (handle suffix : List Char) : Option (List Char) :=
  if handle = [] then some suffix else (handles.lookup handle).map (· ++ suffix)

/-- Reads the anchor and the tag of a node in either order. -/
def properties (handles : Handles) (r : Reading) : Option (Properties × Reading) :=
  match r.tokens with
  | .anchor name :: .tag handle suffix :: rest =>
      let (number, r) := { r with tokens := rest }.addAnchor name
      (resolveTag? handles handle suffix).map (fun tag => (⟨some number, some tag⟩, r))
  | .tag handle suffix :: .anchor name :: rest =>
      let (number, r) := { r with tokens := rest }.addAnchor name
      (resolveTag? handles handle suffix).map (fun tag => (⟨some number, some tag⟩, r))
  | .anchor name :: rest =>
      let (number, r) := { r with tokens := rest }.addAnchor name
      some (⟨some number, none⟩, r)
  | .tag handle suffix :: rest =>
      (resolveTag? handles handle suffix).map
        (fun tag => (⟨none, some tag⟩, { r with tokens := rest }))
  | _ => some ({}, r)

end Reading

/-- Where a node stands, which decides what collections it may be. -/
inductive Place where
  | flow
  | block
  /-- In a block mapping, where the items of a sequence need not be indented. -/
  | mappingEntry
deriving DecidableEq

mutual

def readNode (handles : Handles) : (fuel : Nat) → Place → Reading → Option (Node × Reading)
  | 0, _, _ => none
  | fuel + 1, place, r =>
      match r.tokens with
      | .alias name :: rest =>
          (r.anchors.lookup name).map (fun number => (.alias number, { r with tokens := rest }))
      | _ =>
          match r.properties handles with
          | none => none
          | some (p, r) =>
              let sequence (result : Option (List Node × Reading)) : Option (Node × Reading) :=
                result.map (fun s => (.sequence p s.1, s.2))
              let mapping (result : Option (List (Node × Node) × Reading)) :
                  Option (Node × Reading) :=
                result.map (fun s => (.mapping p s.1, s.2))
              match r.next with
              | some (.scalar plain text) => some (Node.scalar p plain text, r.drop)
              | some .flowSequenceStart => sequence (readFlowItems handles fuel true r.drop)
              | some .flowMappingStart => mapping (readFlowEntries handles fuel true r.drop)
              | some .blockEntry =>
                  if place = .mappingEntry then sequence (readOpenItems handles fuel r)
                  else if p = {} then none else some (.scalar p true [], r)
              | some .blockSequenceStart =>
                  if place ≠ .flow then sequence (readBlockItems handles fuel r.drop)
                  else if p = {} then none else some (.scalar p true [], r)
              | some .blockMappingStart =>
                  if place ≠ .flow then mapping (readBlockEntries handles fuel r.drop)
                  else if p = {} then none else some (.scalar p true [], r)
              | _ => if p = {} then none else some (.scalar p true [], r)

/-- A node, or the empty node in front of one of some tokens. -/
def readNodeUnless (handles : Handles) : (fuel : Nat) → Place → List Token → Reading →
    Option (Node × Reading)
  | 0, _, _, _ => none
  | fuel + 1, place, ends, r =>
      if r.nextIn ends then some (.empty, r) else readNode handles fuel place r

/-- The items of a block sequence. -/
def readBlockItems (handles : Handles) : (fuel : Nat) → Reading → Option (List Node × Reading)
  | 0, _ => none
  | fuel + 1, r =>
      match r.next with
      | some .blockEntry =>
          match readNodeUnless handles fuel .block [.blockEntry, .blockEnd] r.drop with
          | none => none
          | some (item, r) => (readBlockItems handles fuel r).map (fun s => (item :: s.1, s.2))
      | some .blockEnd => some ([], r.drop)
      | _ => none

/-- The items of a sequence that is not indented; any other token ends it. -/
def readOpenItems (handles : Handles) : (fuel : Nat) → Reading → Option (List Node × Reading)
  | 0, _ => none
  | fuel + 1, r =>
      match r.next with
      | some .blockEntry =>
          match readNodeUnless handles fuel .block [.blockEntry, .key, .value, .blockEnd] r.drop
            with
          | none => none
          | some (item, r) => (readOpenItems handles fuel r).map (fun s => (item :: s.1, s.2))
      | _ => some ([], r)

/-- The entries of a block mapping. -/
def readBlockEntries (handles : Handles) : (fuel : Nat) → Reading →
    Option (List (Node × Node) × Reading)
  | 0, _ => none
  | fuel + 1, r =>
      match r.next with
      | some .key =>
          match readNodeUnless handles fuel .mappingEntry [.key, .value, .blockEnd] r.drop with
          | none => none
          | some (key, r) =>
              let value :=
                if r.next = some .value then
                  readNodeUnless handles fuel .mappingEntry [.key, .value, .blockEnd] r.drop
                else some (.empty, r)
              match value with
              | none => none
              | some (value, r) =>
                  (readBlockEntries handles fuel r).map (fun s => ((key, value) :: s.1, s.2))
      | some .blockEnd => some ([], r.drop)
      | _ => none

/-- The items of a flow sequence.  An item with a key is a mapping of one entry. -/
def readFlowItems (handles : Handles) : (fuel : Nat) → (first : Bool) → Reading →
    Option (List Node × Reading)
  | 0, _, _ => none
  | fuel + 1, first, r =>
      if r.next = some .flowSequenceEnd then some ([], r.drop)
      else if !first && r.next ≠ some .flowEntry then none
      else
        let r := if first then r else r.drop
        match r.next with
        | some .flowSequenceEnd => some ([], r.drop)
        | some .key =>
            match readPair handles fuel r.drop with
            | none => none
            | some (entry, r) =>
                (readFlowItems handles fuel false r).map
                  (fun s => (.mapping {} [entry] :: s.1, s.2))
        | _ =>
            match readNode handles fuel .flow r with
            | none => none
            | some (item, r) =>
                (readFlowItems handles fuel false r).map (fun s => (item :: s.1, s.2))

/-- The single entry of a mapping inside a flow sequence.  A key that is left out takes the token
after it along. -/
def readPair (handles : Handles) : (fuel : Nat) → Reading → Option ((Node × Node) × Reading)
  | 0, _ => none
  | fuel + 1, r =>
      let key :=
        if r.nextIn [.value, .flowEntry, .flowSequenceEnd] then some (.empty, r.drop)
        else readNode handles fuel .flow r
      match key with
      | none => none
      | some (key, r) =>
          if r.next = some .value then
            (readNodeUnless handles fuel .flow [.flowEntry, .flowSequenceEnd] r.drop).map
              (fun s => ((key, s.1), s.2))
          else some ((key, .empty), r)

/-- The entries of a flow mapping. -/
def readFlowEntries (handles : Handles) : (fuel : Nat) → (first : Bool) → Reading →
    Option (List (Node × Node) × Reading)
  | 0, _, _ => none
  | fuel + 1, first, r =>
      if r.next = some .flowMappingEnd then some ([], r.drop)
      else if !first && r.next ≠ some .flowEntry then none
      else
        let r := if first then r else r.drop
        match r.next with
        | some .flowMappingEnd => some ([], r.drop)
        | some .key =>
            match readNodeUnless handles fuel .flow [.value, .flowEntry, .flowMappingEnd] r.drop
              with
            | none => none
            | some (key, r) =>
                let value :=
                  if r.next = some .value then
                    readNodeUnless handles fuel .flow [.flowEntry, .flowMappingEnd] r.drop
                  else some (.empty, r)
                match value with
                | none => none
                | some (value, r) =>
                    (readFlowEntries handles fuel false r).map
                      (fun s => ((key, value) :: s.1, s.2))
        | _ =>
            match readNode handles fuel .flow r with
            | none => none
            | some (key, r) =>
                (readFlowEntries handles fuel false r).map
                  (fun s => ((key, .empty) :: s.1, s.2))

end

/-- The handles that every document has. -/
def defaultHandles : Handles :=
  [(['!'], ['!']), (['!', '!'], "tag:yaml.org,2002:".toList)]

/-- What the directives before a document declare. -/
structure Directives where
  versioned : Bool := false
  handles : Handles := []

/-- Reads directives.  A version is declared once and is 1.1 or 1.2, a handle is declared once. -/
def readDirectives (d : Directives) : List Token → Option (Directives × List Token)
  | .version major minor :: rest =>
      if d.versioned || major != 1 || !(minor == 1 || minor == 2) then none
      else readDirectives { d with versioned := true } rest
  | .tagDirective handle uri :: rest =>
      if (d.handles.lookup handle).isSome then none
      else readDirectives { d with handles := d.handles ++ [(handle, uri)] } rest
  | tokens => some (d, tokens)

def isDocumentBoundary : Token → Bool
  | .version _ _ => true
  | .tagDirective _ _ => true
  | .documentStart => true
  | .documentEnd => true
  | .streamEnd => true
  | _ => false

/-- Whether nothing but ends of documents is left. -/
def isOver : List Token → Bool
  | [.streamEnd] => true
  | .documentEnd :: rest => isOver rest
  | _ => false

/-- The node of a stream of one document; a stream may also have none. -/
def document? (tokens : List Token) : Option (Option Node) :=
  let root (handles : Handles) (tokens : List Token) : Option (Option Node) :=
    match readNode (handles ++ defaultHandles) (4 * tokens.length + 4) .block { tokens } with
    | none => none
    | some (node, r) => if isOver r.tokens then some (some node) else none
  match tokens with
  | [.streamEnd] => some none
  | _ =>
      if tokens.head?.any (fun t => isDocumentBoundary t && t ≠ .documentEnd) then
        match readDirectives {} tokens with
        | some (d, .documentStart :: rest) =>
            if rest.head?.any isDocumentBoundary then
              if isOver rest then some (some .empty) else none
            else root d.handles rest
        | _ => none
      else root [] tokens

end Yaml
end Provision
