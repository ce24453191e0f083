import DesignCompiler.Http.Retry

/-!
Contract: the progress that is shown while a command waits.

Owns: `progress?`, the line about an attempt after which the command waits.

Does not own: where the line is shown, see `DesignCompiler.CommandLine.Run`.
-/

set_option autoImplicit false

namespace DesignCompiler.CommandLine

open DesignCompiler.Http

/-- The line about an attempt that will be repeated, and nothing about any other one; none if the
wait cannot be written. -/
def progress? (attempt : Attempt) : Option String :=
  if attempt.outcome = .retryableFailure then
    attempt.wait.briefText?.map fun wait =>
      (if attempt.status = some 429 then "Rate limit hit." else "Network error.")
        ++ " Retrying in " ++ wait ++ " seconds... (Attempt "
        ++ (Number.int (attempt.number + 1)).text ++ "/" ++ (Number.int attempt.maxAttempts).text
        ++ ")\n"
  else some ""

end DesignCompiler.CommandLine
