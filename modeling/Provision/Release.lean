/-!
# Name and version of the program
-/

namespace Provision

def programName : String := "make-env"

def version : String := "0.1.0"

end Provision
