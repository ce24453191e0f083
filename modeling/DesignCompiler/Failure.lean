import DesignCompiler.Component.Name
import DesignCompiler.Design.Reading
import DesignCompiler.Http.Retry
import DesignCompiler.Style.Color

/-!
Contract: everything that can go wrong on the way from a design to a source.

Owns:
- `Failure` and its message;
- `Failure.isExpected`, the failures that are reported to the user; any other one is a fault of this
  program.

Does not own: failures of files, see `DesignCompiler.Files.Tree`.
-/

set_option autoImplicit false

namespace DesignCompiler

inductive CredentialUse where
  /-- A client is made without a token. -/
  | client
  /-- A command needs a token from the environment. -/
  | command
deriving DecidableEq

inductive ShapeFault where
  | noEntries
  | wrongType
deriving DecidableEq

/-- Everything that can go wrong. -/
inductive Failure where
  | credential (use : CredentialUse)
  | call (error : Http.CallError)
  | design (refusal : Design.Refusal)
  | name (error : Component.NameError)
  | color (fault : ColorFault)
  | shape (fault : ShapeFault)

namespace Failure

def remote (error : Http.RemoteError) : Failure :=
  .call (.remote error)

def credentialMessage : CredentialUse → String
  | .client =>
    "Figma token not configured. Set FIGMA_TOKEN environment variable "
      ++ "or pass token= to FigmaClient(). "
      ++ "Get a token at: https://www.figma.com/developers/api#authentication"
  | .command => "FIGMA_TOKEN environment variable is not set."

def message : Failure → String
  | .credential use => credentialMessage use
  | .call (.remote error) => error.message
  | .call (.foreign fault) => fault.message
  | .call (.order fault) => fault.message
  | .call .wait => ColorFault.tooLarge.message
  | .design refusal => refusal.message
  | .name error => error.message
  | .color fault => fault.message
  | .shape .noEntries => "the value has no entries"
  | .shape .wrongType => "the value has another type"

/-- Whether a failure is reported to the user. -/
def isExpected : Failure → Bool
  | .credential _ | .call (.remote _) | .design ⟨.defective _, _⟩ | .name _ => true
  | _ => false

end Failure

end DesignCompiler
