/-
# Errors

Every failure of a query is one of the causes below.  An error has a message of its own and a
chain of underlying causes, nearest first; the message never repeats the causes.
-/
import KernelCensus.Host.Program
import KernelCensus.Text.Utf8

namespace KernelCensus

/-! ## Host query errors -/

/-- Why the build host's release could not be told. -/
inductive HostFault
  /-- The host itself gave a reason, and perhaps a cause. -/
  | reported (reason : String) (cause : Option Cause)
  | emptyCommand
  | notFound (program : String) (cause : Cause)
  | notStarted (commandLine : String) (cause : IoError)
  | unsuccessful (commandLine : String) (status : ExitStatus) (complaint : String)
  | notText (commandLine : String) (fault : Utf8.Fault)
  | unrecognized (release : String)
  deriving DecidableEq, Repr

/-- The reason in words, without its cause. -/
def HostFault.reason : HostFault → String
  | reported reason _ => reason
  | emptyCommand => "empty host release command"
  | notFound program _ => s!"'{program}' not found in PATH"
  | notStarted commandLine _ => s!"executing '{commandLine}'"
  | unsuccessful commandLine status complaint =>
    s!"'{commandLine}' failed (status {status.text}): {complaint}"
  | notText commandLine _ => s!"'{commandLine}' printed non UTF-8 output"
  | unrecognized release => s!"unrecognized kernel release '{release}'"

/-! ## Query errors -/

/-- What the scan was doing when input or output failed. -/
inductive ScanAction
  | enumerate
  | checkEmpty
  deriving DecidableEq, Repr

/-- The action in words. -/
def ScanAction.text : ScanAction → String
  | enumerate => "enumerate kernels under"
  | checkEmpty => "check if directory is empty"

/-- Why a query failed. -/
inductive QueryError
  | badRelease (raw : String)
  | io (action : ScanAction) (path : Path) (cause : IoError)
  | emptyInventory (searched : Path)
  | noKernelInstalled
  | hostQuery (fault : HostFault)
  deriving DecidableEq, Repr

namespace QueryError

/-- The error's own text. -/
def message : QueryError → String
  | badRelease raw => s!"failed to parse kernel version ({raw})"
  | io action path _ => s!"failed to {action.text} ({path.text})"
  | emptyInventory searched => s!"no installed kernels found in image (searched {searched.text})"
  | noKernelInstalled => "no installed kernel found"
  | hostQuery fault => s!"failed to get kernel version using uname: {fault.reason}"

/-- The error at the bottom of the chain: an unrecognized host release fails because it does
not parse. -/
def innermost : QueryError → QueryError
  | hostQuery (.unrecognized release) => badRelease release
  | error => error

/-- The texts of the underlying causes, nearest first. -/
def causes : QueryError → List String
  | io _ _ cause => cause.chain
  | hostQuery (.reported _ (some cause)) => cause.chain
  | hostQuery (.notFound _ cause) => cause.chain
  | hostQuery (.notStarted _ cause) => cause.chain
  | hostQuery (.notText _ fault) => [fault.message]
  | hostQuery (.unrecognized release) => [(badRelease release).message]
  | _ => []

/-- The whole chain of texts, the error's own first. -/
def chain (error : QueryError) : List String :=
  error.message :: error.causes

end QueryError

end KernelCensus
