/-! # Failures and their reports

  A failure is a message and the causes beneath it, from the outermost to the
  innermost. Its report has an entry for each of them and ends every entry with
  a line feed.
-/

namespace DocSync

/-- A message and the causes beneath it. -/
structure Failure where
  message : String
  causes : List String
  deriving DecidableEq, Repr

namespace Failure

/-- The failure with a message of its own around it. -/
def within (context : String) (f : Failure) : Failure := ⟨context, f.message :: f.causes⟩

def causeEntry (cause : String) : String := "Caused by: " ++ cause ++ "\n"

/-- The entries of a failure, one after another. -/
def report (f : Failure) : String :=
  "Error: " ++ f.message ++ "\n" ++ String.join (f.causes.map causeEntry)

end Failure

end DocSync
