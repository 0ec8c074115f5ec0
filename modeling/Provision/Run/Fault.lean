/-!
# Faults of a storage

What can go wrong when a text is read or written, each with its message and the class of faults
that it belongs to.
-/

namespace Provision

inductive FaultKind where
  | notFound
  | alreadyExists
  | notADirectory
  | isADirectory
  | permissionDenied
  | invalidInput
  | invalidData
  | invalidName
  | other
deriving DecidableEq, Repr

inductive Fault where
  /-- Nothing is kept under the path. -/
  | noSuchFile
  /-- The path is locked. -/
  | readOnly
  | noEntry
  | entryExists
  | notADirectory
  | isADirectory
  | accessDenied
  /-- The path holds the character that ends paths. -/
  | zeroInPath
  /-- A name in the path or the whole path has too many bytes. -/
  | nameTooLong
  /-- The bytes are no text. -/
  | notText
  /-- Any other fault, in the words of the system. -/
  | system (message : String)
deriving DecidableEq, Repr

namespace Fault

def kind : Fault → FaultKind
  | .noSuchFile => .notFound
  | .readOnly => .permissionDenied
  | .noEntry => .notFound
  | .entryExists => .alreadyExists
  | .notADirectory => .notADirectory
  | .isADirectory => .isADirectory
  | .accessDenied => .permissionDenied
  | .zeroInPath => .invalidInput
  | .nameTooLong => .invalidName
  | .notText => .invalidData
  | .system _ => .other

def message : Fault → String
  | .noSuchFile => "no such file"
  | .readOnly => "read-only"
  | .noEntry => "No such file or directory (os error 2)"
  | .entryExists => "File exists (os error 17)"
  | .notADirectory => "Not a directory (os error 20)"
  | .isADirectory => "Is a directory (os error 21)"
  | .accessDenied => "Permission denied (os error 13)"
  | .zeroInPath => "file name contained an unexpected NUL byte"
  | .nameTooLong => "File name too long (os error 36)"
  | .notText => "stream did not contain valid UTF-8"
  | .system message => message

end Fault
end Provision
