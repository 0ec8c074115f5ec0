import Provision.Template.Token
import Provision.Template.Tree

/-!
# Reading templates

An expression is read by levels of precedence, from the loosest to the tightest.  At the tightest
level stand values with what is attached to them: attributes, subscripts, calls, filters and tests.
Statements, expressions and values stand inside of one another up to a limit.
-/

namespace Provision
namespace Template

/-- What follows a given token. -/
def after? (token : Token) : List Token → Option (List Token)
  | [] => none
  | first :: rest => if first = token then some rest else none

def afterSymbol? (s : String) (ts : List Token) : Option (List Token) :=
  after? (.symbol s) ts

/-- What follows a word, and whether the word is there. -/
def skipWord (w : String) (ts : List Token) : Bool × List Token :=
  match after? (.word w) ts with
  | some rest => (true, rest)
  | none => (false, ts)

def startsWithSymbol (s : String) (ts : List Token) : Bool :=
  (afterSymbol? s ts).isSome

/-- The level of comparisons, which also holds negation. -/
def comparisonLevel : Nat := 2

/-- The level of values. -/
def valueLevel : Nat := 7

/-- The operator that a token stands for at a level of precedence. -/
def operatorAt? : (level : Nat) → Token → Option BinaryOp
  | 0, .word "or" => some .either
  | 1, .word "and" => some .both
  | 3, .symbol "+" => some .add
  | 3, .symbol "-" => some .subtract
  | 4, .symbol "~" => some .concat
  | 5, .symbol "*" => some .multiply
  | 5, .symbol "/" => some .divide
  | 5, .symbol "//" => some .divideFloor
  | 5, .symbol "%" => some .remainder
  | 6, .symbol "**" => some .power
  | _, _ => none

/-- The comparison at the start of some tokens, and what follows it. -/
def comparison? : List Token → Option (Comparison × List Token)
  | .symbol "==" :: ts => some (.equal, ts)
  | .symbol "!=" :: ts => some (.notEqual, ts)
  | .symbol "<" :: ts => some (.less, ts)
  | .symbol "<=" :: ts => some (.lessEqual, ts)
  | .symbol ">" :: ts => some (.greater, ts)
  | .symbol ">=" :: ts => some (.greaterEqual, ts)
  | .word "in" :: ts => some (.member, ts)
  | .word "not" :: .word "in" :: ts => some (.notMember, ts)
  | _ => none

/-- Whether a token can start the operand that a test takes without parentheses. -/
def startsOperand : Token → Bool
  | .word w => w ∉ ["and", "or", "else", "is", "if"]
  | .str _ => true
  | .int _ => true
  | .real _ => true
  | .symbol s => s ∈ ["+", "-", "[", "\x7b"]
  | _ => false

/-- Joins the strings that stand directly behind a string. -/
def joinStrings (s : String) : List Token → String × List Token
  | .str t :: ts => joinStrings (s ++ t) ts
  | ts => (s, ts)

/-- The arguments of a call. -/
abbrev Args := List (ArgKind × Expr)

mutual

def readExpr : (fuel room : Nat) → List Token → Option (Expr × List Token)
  | fuel + 1, room + 1, ts => readTernary fuel room ts
  | _, _, _ => none

/-- Reads an expression with the conditions that follow it. -/
def readTernary : (fuel room : Nat) → List Token → Option (Expr × List Token)
  | 0, _, _ => none
  | fuel + 1, room, ts => do
      let (e, ts) ← readLevel fuel room 0 ts
      readChoice fuel room e ts

def readChoice : (fuel room : Nat) → Expr → List Token → Option (Expr × List Token)
  | 0, _, _, _ => none
  | fuel + 1, room, e, ts =>
      match after? (.word "if") ts with
      | none => some (e, ts)
      | some ts => do
          let (condition, ts) ← readLevel fuel room 0 ts
          match after? (.word "else") ts with
          | none => readChoice fuel room (.choose condition e none) ts
          | some ts => do
              let (other, ts) ← readTernary fuel room ts
              readChoice fuel room (.choose condition e (some other)) ts

/-- Reads an expression whose operators are at a level or tighter. -/
def readLevel : (fuel room level : Nat) → List Token → Option (Expr × List Token)
  | 0, _, _, _ => none
  | fuel + 1, room, level, ts =>
      if valueLevel ≤ level then readValue fuel room ts
      else if level = comparisonLevel then
        match after? (.word "not") ts with
        | some ts => do
            let (e, ts) ← readLevel fuel room level ts
            some (.unary .not e, ts)
        | none => do
            let (first, ts) ← readLevel fuel room (level + 1) ts
            let (rest, ts) ← readComparisons fuel room ts
            some (if rest.isEmpty then first else .compare first rest, ts)
      else do
        let (left, ts) ← readLevel fuel room (level + 1) ts
        readOperators fuel room level left ts

/-- Reads comparisons with their second operands. -/
def readComparisons : (fuel room : Nat) → List Token →
    Option (List (Comparison × Expr) × List Token)
  | 0, _, _ => none
  | fuel + 1, room, ts =>
      match comparison? ts with
      | none => some ([], ts)
      | some (comparison, ts) => do
          let (right, ts) ← readLevel fuel room (comparisonLevel + 1) ts
          let (others, ts) ← readComparisons fuel room ts
          some ((comparison, right) :: others, ts)

/-- Reads the operators of a level behind their first operand. -/
def readOperators : (fuel room level : Nat) → Expr → List Token → Option (Expr × List Token)
  | 0, _, _, _, _ => none
  | fuel + 1, room, level, left, ts =>
      match ts.head?.bind (operatorAt? level) with
      | none => some (left, ts)
      | some op => do
          let (right, rest) ← readLevel fuel room (level + 1) ts.tail
          readOperators fuel room level (.binary op left right) rest

/-- Reads a value with everything attached to it. -/
def readValue : (fuel room : Nat) → List Token → Option (Expr × List Token)
  | 0, _, _ => none
  | fuel + 1, room, ts => do
      let (e, ts) ← readOperand fuel room ts
      readFilters fuel room e ts

/-- Reads a value with attributes, subscripts and calls. -/
def readOperand : (fuel room : Nat) → List Token → Option (Expr × List Token)
  | 0, _, _ => none
  | fuel + 1, room, ts => do
      let (e, ts) ← readSigned fuel room ts
      readPostfix fuel room e ts

def readSigned : (fuel room : Nat) → List Token → Option (Expr × List Token)
  | 0, _, _ => none
  | fuel + 1, room, ts =>
      match afterSymbol? "-" ts with
      | some ts => do
          let (e, ts) ← readSigned fuel room ts
          some (.unary .negate e, ts)
      | none => readPrimary fuel room ts

def readPrimary : (fuel room : Nat) → List Token → Option (Expr × List Token)
  | _ + 1, _ + 1, .word "true" :: ts => some (.literal (.bool true), ts)
  | _ + 1, _ + 1, .word "True" :: ts => some (.literal (.bool true), ts)
  | _ + 1, _ + 1, .word "false" :: ts => some (.literal (.bool false), ts)
  | _ + 1, _ + 1, .word "False" :: ts => some (.literal (.bool false), ts)
  | _ + 1, _ + 1, .word "none" :: ts => some (.literal .none, ts)
  | _ + 1, _ + 1, .word "None" :: ts => some (.literal .none, ts)
  | _ + 1, _ + 1, .word name :: ts => some (.var name, ts)
  | _ + 1, _ + 1, .str s :: ts =>
      let (s, ts) := joinStrings s ts
      some (.literal (.str s), ts)
  | _ + 1, _ + 1, .int n :: ts => some (.literal (.int n), ts)
  | _ + 1, _ + 1, .real x :: ts => some (.literal (.real x), ts)
  | fuel + 1, room + 1, .symbol "(" :: ts =>
      match afterSymbol? ")" ts with
      | some ts => some (.list [], ts)
      | none => do
          let (e, ts) ← readExpr fuel room ts
          match afterSymbol? ")" ts with
          | some ts => some (e, ts)
          | none => do
              let ts ← afterSymbol? "," ts
              let (items, ts) ← readItems fuel room ")" ts
              some (.list (e :: items), ts)
  | fuel + 1, room + 1, .symbol "[" :: ts => do
      let (items, ts) ← readItems fuel room "]" ts
      some (.list items, ts)
  | fuel + 1, room + 1, .symbol "\x7b" :: ts => do
      let (entries, ts) ← readEntries fuel room ts
      some (.dict entries, ts)
  | _, _, _ => none

/-- Reads items up to a closing bracket; a comma may stand before it. -/
def readItems : (fuel room : Nat) → (close : String) → List Token →
    Option (List Expr × List Token)
  | 0, _, _, _ => none
  | fuel + 1, room, close, ts =>
      match afterSymbol? close ts with
      | some ts => some ([], ts)
      | none => do
          let (item, ts) ← readExpr fuel room ts
          match afterSymbol? close ts with
          | some ts => some ([item], ts)
          | none => do
              let ts ← afterSymbol? "," ts
              let (items, ts) ← readItems fuel room close ts
              some (item :: items, ts)

/-- Reads entries up to a closing brace; a comma may stand before it. -/
def readEntries : (fuel room : Nat) → List Token → Option (List (Expr × Expr) × List Token)
  | 0, _, _ => none
  | fuel + 1, room, ts =>
      match afterSymbol? "\x7d" ts with
      | some ts => some ([], ts)
      | none => do
          let (key, ts) ← readExpr fuel room ts
          let ts ← afterSymbol? ":" ts
          let (value, ts) ← readExpr fuel room ts
          match afterSymbol? "\x7d" ts with
          | some ts => some ([(key, value)], ts)
          | none => do
              let ts ← afterSymbol? "," ts
              let (entries, ts) ← readEntries fuel room ts
              some ((key, value) :: entries, ts)

def readPostfix : (fuel room : Nat) → Expr → List Token → Option (Expr × List Token)
  | 0, _, _, _ => none
  | fuel + 1, room, e, ts =>
      match ts with
      | .symbol "." :: .word name :: ts => readPostfix fuel room (.attribute e name) ts
      | .symbol "." :: .int n :: ts => readPostfix fuel room (.index e (.literal (.int n))) ts
      | .symbol "." :: _ => none
      | .symbol "[" :: ts => do
          let (e, ts) ← readSubscript fuel room e ts
          readPostfix fuel room e ts
      | .symbol "(" :: ts => do
          let (args, ts) ← readArgs fuel room true false ts
          match e with
          | .attribute object name => readPostfix fuel room (.method object name args) ts
          | e => readPostfix fuel room (.call e args) ts
      | ts => some (e, ts)

/-- Reads what stands between brackets: a key, or the bounds and the step of a slice. -/
def readSubscript : (fuel room : Nat) → Expr → List Token → Option (Expr × List Token)
  | 0, _, _, _ => none
  | fuel + 1, room, e, ts => do
      let (start, ts) ← readBound fuel room ts
      match afterSymbol? ":" ts with
      | none => do
          let ts ← afterSymbol? "]" ts
          some (.index e (← start), ts)
      | some ts => do
          let (stop, ts) ← readBound fuel room ts
          match afterSymbol? ":" ts with
          | none => do
              let ts ← afterSymbol? "]" ts
              some (.slice e start stop none, ts)
          | some ts => do
              let (step, ts) ← readBound fuel room ts
              let ts ← afterSymbol? "]" ts
              some (.slice e start stop step, ts)

/-- Reads an expression, unless a colon or the closing bracket comes first. -/
def readBound : (fuel room : Nat) → List Token → Option (Option Expr × List Token)
  | 0, _, _ => none
  | _ + 1, _, .symbol ":" :: ts => some (none, .symbol ":" :: ts)
  | _ + 1, _, .symbol "]" :: ts => some (none, .symbol "]" :: ts)
  | fuel + 1, room, ts => do
      let (e, ts) ← readExpr fuel room ts
      some (some e, ts)

/-- Reads arguments up to the closing parenthesis, with a comma before each but the first; behind
a named one there are no more positional ones. -/
def readArgs : (fuel room : Nat) → (first onlyNamed : Bool) → List Token →
    Option (Args × List Token)
  | 0, _, _, _, _ => none
  | fuel + 1, room, first, onlyNamed, ts =>
      match afterSymbol? ")" ts with
      | some ts => some ([], ts)
      | none => do
          let ts ← if first then some ts else afterSymbol? "," ts
          match (if first then none else afterSymbol? ")" ts) with
          | some ts => some ([], ts)
          | none => do
              let ((kind, e), ts) ← readArg fuel room ts
              match kind with
              | .positional =>
                  if onlyNamed then none
                  else do
                    let (args, ts) ← readArgs fuel room false false ts
                    some ((kind, e) :: args, ts)
              | .items => do
                  let (args, ts) ← readArgs fuel room false onlyNamed ts
                  some ((kind, e) :: args, ts)
              | _ => do
                  let (args, ts) ← readArgs fuel room false true ts
                  some ((kind, e) :: args, ts)

def readArg : (fuel room : Nat) → List Token → Option ((ArgKind × Expr) × List Token)
  | 0, _, _ => none
  | fuel + 1, room, .symbol "**" :: ts => do
      let (e, ts) ← readExpr fuel room ts
      some ((.entries, e), ts)
  | fuel + 1, room, .symbol "*" :: ts => do
      let (e, ts) ← readExpr fuel room ts
      some ((.items, e), ts)
  | fuel + 1, room, ts => do
      let (e, ts) ← readExpr fuel room ts
      match e, afterSymbol? "=" ts with
      | .var name, some ts => do
          let (value, ts) ← readLevel fuel room 0 ts
          some ((.named name, value), ts)
      | e, _ => some ((.positional, e), ts)

/-- Reads arguments in parentheses, if there are any. -/
def readOptionalArgs : (fuel room : Nat) → List Token → Option (Args × List Token)
  | 0, _, _ => none
  | fuel + 1, room, .symbol "(" :: ts => readArgs fuel room true false ts
  | _ + 1, _, ts => some ([], ts)

/-- Reads the filters and tests behind a value. -/
def readFilters : (fuel room : Nat) → Expr → List Token → Option (Expr × List Token)
  | 0, _, _, _ => none
  | fuel + 1, room, e, ts =>
      match ts with
      | .symbol "|" :: .word name :: ts => do
          let (args, ts) ← readOptionalArgs fuel room ts
          readFilters fuel room (.filter name e args) ts
      | .symbol "|" :: _ => none
      | .word "is" :: ts => do
          let (negated, ts) := skipWord "not" ts
          let (test, ts) ← readTest fuel room e ts
          readFilters fuel room (if negated then .unary .not test else test) ts
      | ts => some (e, ts)

def readTest : (fuel room : Nat) → Expr → List Token → Option (Expr × List Token)
  | 0, _, _, _ => none
  | fuel + 1, room, e, .word name :: ts =>
      if ts.head?.any startsOperand then do
        let (operand, ts) ← readOperand fuel room ts
        some (.test name e [(.positional, operand)], ts)
      else do
        let (args, ts) ← readOptionalArgs fuel room ts
        some (.test name e args, ts)
  | _ + 1, _, _, _ => none

end

/-- Names that nothing can be bound to. -/
def reservedNames : List String :=
  ["true", "True", "false", "False", "none", "None", "loop", "self"]

/-- Reads a name that something can be bound to. -/
def readName : List Token → Option (String × List Token)
  | .word n :: ts => if n ∈ reservedNames then none else some (n, ts)
  | _ => none

/-- Reads the fields behind an object. -/
def readFields (object : Expr) : (fuel : Nat) → List Token → Option (Expr × List Token)
  | 0, _ => none
  | fuel + 1, .symbol "." :: .word name :: ts => readFields (.attribute object name) fuel ts
  | _ + 1, .symbol "." :: _ => none
  | _ + 1, ts => some (object, ts)

/-- Reads a name or, if fields can be bound, a field. -/
def readNameOrField (fuel : Nat) (fields : Bool) (ts : List Token) :
    Option (Target × List Token) := do
  let (name, ts) ← readName ts
  if fields then do
    let (object, ts) ← readFields (.var name) fuel ts
    match object with
    | .attribute inner field => some (.field inner field, ts)
    | _ => some (.name name, ts)
  else some (.name name, ts)

/-- Whether a list of targets ends before a token. -/
def endsTargets : Token → Bool
  | .symbol ")" => true
  | .symbol "=" => true
  | .exprEnd => true
  | .blockEnd => true
  | .word "in" => true
  | _ => false

mutual

/-- Reads one target, or several with commas between them. -/
def readTarget : (fuel : Nat) → (fields : Bool) → List Token → Option (Target × List Token)
  | 0, _, _ => none
  | fuel + 1, fields, ts => do
      let (targets, several, ts) ← readTargets fuel fields ts
      match targets, several with
      | [target], false => some (target, ts)
      | targets, _ => some (.items targets, ts)

def readTargetItem : (fuel : Nat) → (fields : Bool) → List Token → Option (Target × List Token)
  | 0, _, _ => none
  | fuel + 1, fields, ts =>
      match afterSymbol? "(" ts with
      | some ts => do
          let (target, ts) ← readTarget fuel fields ts
          let ts ← afterSymbol? ")" ts
          some (target, ts)
      | none => readNameOrField fuel fields ts

/-- Reads targets, and whether there is a comma among them. -/
def readTargets : (fuel : Nat) → (fields : Bool) → List Token →
    Option (List Target × Bool × List Token)
  | 0, _, _ => none
  | fuel + 1, fields, ts =>
      if ts.head?.any endsTargets then some ([], false, ts)
      else do
        let (target, ts) ← readTargetItem fuel fields ts
        match afterSymbol? "," ts with
        | none => some ([target], false, ts)
        | some ts => do
            let (targets, _, ts) ← readTargets fuel fields ts
            some (target :: targets, true, ts)

end

/-- Reads an expression, or several with commas between them as a list. -/
def readValues (fuel room : Nat) (ts : List Token) : Option (Expr × List Token) := do
  let (first, ts) ← readExpr fuel room ts
  match afterSymbol? "," ts with
  | none => some (first, ts)
  | some ts => do
      let (others, ts) ← readOthers fuel ts
      some (.list (first :: others), ts)
where
  readOthers : (fuel : Nat) → List Token → Option (List Expr × List Token)
    | 0, _ => none
    | fuel + 1, ts =>
        if ts.head? = some .blockEnd then some ([], ts)
        else do
          let (e, ts) ← readExpr fuel room ts
          match afterSymbol? "," ts with
          | none => some ([e], ts)
          | some ts => do
              let (others, ts) ← readOthers fuel ts
              some (e :: others, ts)

/-- Reads the filters of captured output, from the first to be applied. -/
def readFilterUses : (fuel room : Nat) → List Token → Option (List FilterUse × List Token)
  | 0, _, _ => none
  | fuel + 1, room, .word name :: ts => do
      let (args, ts) ← readOptionalArgs fuel room ts
      match afterSymbol? "|" ts with
      | none => some ([⟨name, args⟩], ts)
      | some ts => do
          let (others, ts) ← readFilterUses fuel room ts
          some (⟨name, args⟩ :: others, ts)
  | _ + 1, _, _ => none

/-- Reads bindings up to the end of their block. -/
def readBindings : (fuel room : Nat) → List Token → Option (List (Target × Expr) × List Token)
  | 0, _, _ => none
  | fuel + 1, room, ts =>
      match after? .blockEnd ts with
      | some ts => some ([], ts)
      | none => do
          let (target, ts) ← readTargetItem fuel false ts
          let ts ← afterSymbol? "=" ts
          let (value, ts) ← readExpr fuel room ts
          match afterSymbol? "," ts with
          | some ts => do
              let (others, ts) ← readBindings fuel room ts
              if others.isEmpty then none else some ((target, value) :: others, ts)
          | none => do
              let ts ← after? .blockEnd ts
              some ([(target, value)], ts)

/-- Reads parameters up to the closing parenthesis, with a comma before each but the first; behind
one that has a default all have one. -/
def readParameters : (fuel room : Nat) → (first defaults : Bool) → List Token →
    Option (List Parameter × List Token)
  | 0, _, _, _, _ => none
  | fuel + 1, room, first, defaults, ts =>
      match afterSymbol? ")" ts with
      | some ts => some ([], ts)
      | none => do
          let ts ← if first then some ts else afterSymbol? "," ts
          match (if first then none else afterSymbol? ")" ts) with
          | some ts => some ([], ts)
          | none => do
              let (name, ts) ← readName ts
              match afterSymbol? "=" ts with
              | some ts => do
                  let (value, ts) ← readExpr fuel room ts
                  let (others, ts) ← readParameters fuel room false true ts
                  some (⟨name, some value⟩ :: others, ts)
              | none =>
                  if defaults then none
                  else do
                    let (others, ts) ← readParameters fuel room false false ts
                    some (⟨name, none⟩ :: others, ts)

/-- Skips a remark on whether variables are seen, which are seen in any case. -/
def skipContext : List Token → Option (List Token)
  | .word "with" :: ts => after? (.word "context") ts
  | .word "without" :: ts => after? (.word "context") ts
  | ts => some ts

/-- Reads the rest of a block that runs another fragment in its place. -/
def readInclude (fuel room : Nat) (ts : List Token) : Option (Stmt × List Token) := do
  let (name, ts) ← readExpr fuel room ts
  let ts ← skipContext ts
  match after? (.word "ignore") ts with
  | none => some (.includeFragment name false, ts)
  | some ts => do
      let ts ← after? (.word "missing") ts
      let ts ← skipContext ts
      some (.includeFragment name true, ts)

/-- Whether the names of an import end before a token. -/
def endsNames : Token → Bool
  | .blockEnd => true
  | .word "with" => true
  | .word "without" => true
  | _ => false

/-- Reads the names of an import, each with the name that it is bound to. -/
def readImportNames : (fuel : Nat) → List Token → Option (List (String × String) × List Token)
  | 0, _ => none
  | fuel + 1, ts =>
      if ts.head?.any endsNames then some ([], ts)
      else do
        let (name, ts) ← readName ts
        let (bound, ts) ←
          match after? (.word "as") ts with
          | none => some (name, ts)
          | some ts => readName ts
        match afterSymbol? "," ts with
        | none => if ts.head?.any endsNames then some ([(name, bound)], ts) else none
        | some ts => do
            let (others, ts) ← readImportNames fuel ts
            some ((name, bound) :: others, ts)

def readImportAll (fuel room : Nat) (ts : List Token) : Option (Stmt × List Token) := do
  let (fragment, ts) ← readExpr fuel room ts
  let ts ← after? (.word "as") ts
  let (name, ts) ← readName ts
  let ts ← skipContext ts
  some (.importAll fragment name, ts)

def readImportSome (fuel room : Nat) (ts : List Token) : Option (Stmt × List Token) := do
  let (fragment, ts) ← readExpr fuel room ts
  let ts ← after? (.word "import") ts
  let (names, ts) ← readImportNames fuel ts
  let ts ← skipContext ts
  some (.importNames fragment names, ts)

/-- Skips the name of a block at its end, which may be left out. -/
def skipBlockName (name : String) : List Token → Option (List Token)
  | .word w :: ts => if w = name then some ts else none
  | ts => some ts

def isCall : Expr → Bool
  | .call _ _ => true
  | .method _ _ _ => true
  | _ => false

mutual

/-- Reads statements up to a block that starts with one of some words, or to the end of the text
if there is no such word.  Answers the word too. -/
def readBody : (fuel room : Nat) → (ends : List String) → List Token →
    Option (List Stmt × String × List Token)
  | 0, _, _, _ => none
  | _ + 1, _, ends, [] => if ends.isEmpty then some ([], "", []) else none
  | fuel + 1, room, ends, .text cs :: ts => do
      let (later, last, ts) ← readBody fuel room ends ts
      some (.text (String.ofList cs) :: later, last, ts)
  | fuel + 1, room, ends, .exprStart :: ts => do
      let (e, ts) ← readExpr fuel room ts
      let ts ← after? .exprEnd ts
      let (later, last, ts) ← readBody fuel room ends ts
      some (.emit e :: later, last, ts)
  | fuel + 1, room, ends, .blockStart :: .word w :: ts =>
      if w ∈ ends then some ([], w, ts)
      else do
        let (stmt, ts) ← readStmt fuel room w ts
        let ts ← after? .blockEnd ts
        let (later, last, ts) ← readBody fuel room ends ts
        some (stmt :: later, last, ts)
  | _ + 1, _, _, _ => none

/-- Reads a statement behind its first word, up to the end of its last block. -/
def readStmt : (fuel room : Nat) → String → List Token → Option (Stmt × List Token)
  | fuel + 1, room + 1, "for", ts => do
      let (target, ts) ← readTarget fuel false ts
      let ts ← after? (.word "in") ts
      let (source, ts) ← readLevel fuel room 0 ts
      let (condition, ts) ←
        match after? (.word "if") ts with
        | none => some (none, ts)
        | some ts => (readExpr fuel room ts).map (fun r => (some r.1, r.2))
      let (nested, ts) := skipWord "recursive" ts
      let ts ← after? .blockEnd ts
      let (body, last, ts) ← readBody fuel room ["endfor", "else"] ts
      if last = "else" then do
        let ts ← after? .blockEnd ts
        let (whenEmpty, _, ts) ← readBody fuel room ["endfor"] ts
        some (.repeat target source condition nested body whenEmpty, ts)
      else some (.repeat target source condition nested body [], ts)
  | fuel + 1, room + 1, "if", ts => readBranch fuel room ts
  | fuel + 1, room + 1, "set", ts => readSet fuel room ts
  | fuel + 1, room + 1, "with", ts => do
      let (bindings, ts) ← readBindings fuel room ts
      let (body, _, ts) ← readBody fuel room ["endwith"] ts
      some (.scope bindings body, ts)
  | fuel + 1, room + 1, "filter", ts => do
      let (filters, ts) ← readFilterUses fuel room ts
      let ts ← after? .blockEnd ts
      let (body, _, ts) ← readBody fuel room ["endfilter"] ts
      some (.filtered filters body, ts)
  | fuel + 1, room + 1, "autoescape", ts => do
      let (enabled, ts) ← readExpr fuel room ts
      let ts ← after? .blockEnd ts
      let (body, _, ts) ← readBody fuel room ["endautoescape"] ts
      some (.escaping enabled body, ts)
  | fuel + 1, room + 1, "do", ts => do
      let (e, ts) ← readExpr fuel room ts
      if isCall e then some (.run e, ts) else none
  | fuel + 1, room + 1, "include", ts => readInclude fuel room ts
  | fuel + 1, room + 1, "extends", ts => do
      let (parent, ts) ← readExpr fuel room ts
      some (.extend parent, ts)
  | fuel + 1, room + 1, "import", ts => readImportAll fuel room ts
  | fuel + 1, room + 1, "from", ts => readImportSome fuel room ts
  | fuel + 1, room + 1, "block", .word name :: ts => do
      let ts ← after? .blockEnd ts
      let (body, _, ts) ← readBody fuel room ["endblock"] ts
      let ts ← skipBlockName name ts
      some (.block name body, ts)
  | fuel + 1, room + 1, "macro", .word name :: .symbol "(" :: ts => do
      let (parameters, ts) ← readParameters fuel room true false ts
      let ts ← after? .blockEnd ts
      let (body, _, ts) ← readBody fuel room ["endmacro"] ts
      some (.define name parameters body, ts)
  | fuel + 1, room + 1, "call", ts => do
      let (parameters, ts) ←
        match afterSymbol? "(" ts with
        | none => some ([], ts)
        | some ts => readParameters fuel room true false ts
      let (call, ts) ← readExpr fuel room ts
      let ts ← after? .blockEnd ts
      let (body, _, ts) ← readBody fuel room ["endcall"] ts
      if isCall call then some (.callWith call parameters body, ts) else none
  | _, _, _, _ => none

/-- Reads what is bound to a target: a value, or the output up to the end of the block. -/
def readSet : (fuel room : Nat) → List Token → Option (Stmt × List Token)
  | 0, _, _ => none
  | fuel + 1, room, ts =>
      if startsWithSymbol "=" ts then none
      else do
        let inParens := startsWithSymbol "(" ts
        let (target, ts) ← readTarget fuel true ts
        match target, afterSymbol? "=" ts with
        | target, some ts => do
            let (value, ts) ← readValues fuel room ts
            some (.assign target value, ts)
        | .items _, none => none
        | target, none =>
            if inParens then none
            else do
              let (filters, ts) ←
                match afterSymbol? "|" ts with
                | none => some ([], ts)
                | some ts => readFilterUses fuel room ts
              let ts ← after? .blockEnd ts
              let (body, _, ts) ← readBody fuel room ["endset"] ts
              some (.capture target filters body, ts)

/-- Reads a choice from its condition on. -/
def readBranch : (fuel room : Nat) → List Token → Option (Stmt × List Token)
  | 0, _, _ => none
  | fuel + 1, room, ts => do
      let (condition, ts) ← readLevel fuel room 0 ts
      let ts ← after? .blockEnd ts
      let (whenTrue, last, ts) ← readBody fuel room ["endif", "else", "elif"] ts
      match last with
      | "else" => do
          let ts ← after? .blockEnd ts
          let (whenFalse, _, ts) ← readBody fuel room ["endif"] ts
          some (.branch condition whenTrue whenFalse, ts)
      | "elif" => do
          let (other, ts) ← readBranch fuel room ts
          some (.branch condition whenTrue [other], ts)
      | _ => some (.branch condition whenTrue [], ts)

end

/-- Between two tokens at most this many calls are nested. -/
def callsPerToken : Nat := 24

/-- How many statements, expressions and values stand inside of one another. -/
def nestingRoom : Nat := 150

/-- The template of a token list. -/
def ofTokens? (ts : List Token) : Option Template := do
  let (body, _, _) ← readBody (callsPerToken * (ts.length + 1)) nestingRoom [] ts
  Template.ofBody? body

/-- The template that a text denotes, if it is one. -/
def ofText? (source : String) : Option Template := do
  ofTokens? (← tokens? source.toList)

end Template
end Provision
