/-!
# The version of the program
-/

namespace TypedTemplates

def version : String := "0.1.0"

end TypedTemplates
