/-!
# The program

The name under which the program speaks and the version that it reports.
-/

namespace GuardedInstall.Program

/-- The name of the program. -/
def name : String := "lockguard"

/-- The version of the program. -/
def version : String := "0.4.0"

end GuardedInstall.Program
