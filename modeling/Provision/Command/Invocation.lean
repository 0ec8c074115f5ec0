import Provision.Options

/-!
# Command lines

Arguments are read from left to right; the first one that asks for help or the version, or that
cannot be used, decides.  No option may be given twice, and a value that starts with a hyphen has
to be joined to its option.
-/

namespace Provision

inductive OptionName where
  | config
  | makefile
  | dockerfile
  | directory
deriving DecidableEq, Repr

/-- What is asked for. -/
inductive Invocation where
  | help
  | version
  /-- The arguments cannot be used. -/
  | misuse
  | run (options : Options) (directory : Option String) (debug : Bool)
deriving DecidableEq, Repr

namespace Invocation

/-- The values that were given so far. -/
structure Given where
  values : List (OptionName × String) := []
  debug : Bool := false

def optionOf? : String → Option OptionName
  | "config" => some .config
  | "out" => some .makefile
  | "makefile" => some .makefile
  | "dockerfile" => some .dockerfile
  | "directory" => some .directory
  | _ => none

/-- Takes the value of an option; a directory has to have a name. -/
def Given.add? (given : Given) (option : OptionName) (value : String) : Option Given :=
  if (given.values.lookup option).isSome then none
  else if option = .directory ∧ value = "" then none
  else some { given with values := (option, value) :: given.values }

def Given.toRun (given : Given) : Invocation :=
  let defaults : Options := {}
  .run
    { configPath := (given.values.lookup .config).getD defaults.configPath
      makefilePath := (given.values.lookup .makefile).getD defaults.makefilePath
      dockerfilePath := (given.values.lookup .dockerfile).getD defaults.dockerfilePath }
    (given.values.lookup .directory) given.debug

/-- A long argument without its hyphens: the name, and the value if one is joined to it. -/
def splitValue (cs : List Char) : String × Option String :=
  let name := cs.takeWhile (· ≠ '=')
  (String.ofList name,
    match cs.drop name.length with
    | [] => none
    | _ :: value => some (String.ofList value))

/-- Whether an argument looks like an option. -/
def isOptionLike (argument : String) : Bool :=
  match argument.toList with
  | '-' :: _ :: _ => true
  | _ => false

/-- The value that is joined to a short option; an equals sign before it is left out. -/
def joinedValue : List Char → String
  | '=' :: value => String.ofList value
  | value => String.ofList value

/-- Reads arguments after what was given before them. -/
def read (given : Given) : List String → Invocation
  | [] => given.toRun
  | argument :: rest =>
      match argument.toList with
      | ['-', '-'] => if rest.isEmpty then given.toRun else .misuse
      | '-' :: '-' :: long =>
          match splitValue long with
          | ("help", none) => .help
          | ("version", none) => .version
          | ("debug", none) =>
              if given.debug then .misuse else read { given with debug := true } rest
          | (name, value?) =>
              match optionOf? name, value? with
              | none, _ => .misuse
              | some option, some value =>
                  match given.add? option value with
                  | some given => read given rest
                  | none => .misuse
              | some option, none =>
                  match rest with
                  | [] => .misuse
                  | value :: rest =>
                      if isOptionLike value then .misuse
                      else
                        match given.add? option value with
                        | some given => read given rest
                        | none => .misuse
      | '-' :: 'h' :: _ => .help
      | '-' :: 'V' :: _ => .version
      | ['-', 'C'] =>
          match rest with
          | [] => .misuse
          | value :: rest =>
              if isOptionLike value then .misuse
              else
                match given.add? .directory value with
                | some given => read given rest
                | none => .misuse
      | '-' :: 'C' :: value =>
          match given.add? .directory (joinedValue value) with
          | some given => read given rest
          | none => .misuse
      | _ => .misuse

/-- What the arguments of a command line ask for. -/
def ofArguments (arguments : List String) : Invocation :=
  read {} arguments

end Invocation
end Provision
