/-
# The build host's release

A command, by default `uname -r`, prints the release of the kernel that the build host runs.  Its
output is trimmed; everything that can go wrong with the command is a host query error.
-/
import KernelCensus.Text.Blank
import KernelCensus.Traced
import KernelCensus.Version.Release

namespace KernelCensus

/-- The release that a command prints: its standard output, trimmed.  The command's first word is
the program.  An unsuccessful end outweighs whatever was printed. -/
def Programs.release (programs : Programs) : List String → Except QueryError String
  | [] => .error (.hostQuery .emptyCommand)
  | program :: arguments =>
    let commandLine := String.intercalate " " (program :: arguments)
    match programs.find program with
    | .error cause => .error (.hostQuery (.notFound program cause))
    | .ok location =>
      match programs.run location arguments with
      | .error cause => .error (.hostQuery (.notStarted commandLine cause))
      | .ok output =>
        if output.status.isSuccess then
          match Utf8.decode output.stdout with
          | .ok printed => .ok (trim printed)
          | .error fault => .error (.hostQuery (.notText commandLine fault))
        else
          .error (.hostQuery (.unsuccessful commandLine output.status
            (trim (Utf8.decodeLossy output.stderr))))

/-- The version of the build host's kernel, given the answer of the host; a release that does not
parse is a failure of the host query, and a success is logged. -/
def hostVersion (release : Except QueryError String) : Traced QueryError Version := do
  let answered ← Traced.called .host release
  let name := trim answered
  match Version.ofRelease? name with
  | none => Traced.ofExcept (.error (.hostQuery (.unrecognized name)))
  | some version => do
    Traced.logged (.hostKernel name version)
    pure version

end KernelCensus
