/-
# Running simulated programs

A simulated machine stands in for what lies around the program, so that sessions can be replayed
(`Machine.system`); no result rests on it.  It starts the programs of its file tree, with nothing to
read and with what they print kept.  A program may change the file tree.  It cannot be started when
one of its arguments holds a zero byte.
-/
import KernelCensus.Session
import KernelCensus.Simulation.Machine
import KernelCensus.Simulation.Shell.Start
import KernelCensus.Simulation.Toml.Reader
import KernelCensus.Simulation.Utility.Cat
import KernelCensus.Simulation.Utility.Head
import KernelCensus.Simulation.Utility.Printf

namespace KernelCensus

namespace Machine

/-- Prints the release if its only argument is `-r`, and otherwise the name of the kernel. -/
def uname (release : String) (invocation : Invocation) : Job Nat := do
  let line := if invocation.arguments = ["-r".toList] then release else "Linux\n"
  let _ ← invocation.put 1 (Octets.ofText line)
  pure 0

/-- Ends with a code, after an answer if the only argument asks about the utility, of which the
outcome is said. -/
def constant (code : Nat) (name outcome : String) (invocation : Invocation) : Job Nat := do
  match About.only? invocation.arguments with
  | some question =>
    let told ←
      invocation.tellAbout name (fun started => About.constant started name outcome) question
    pure (max code told)
  | none => pure code

/-- How deep programs may start programs. -/
def maxDepth : Nat := 20000

/-- How a utility ends: with a code, or by a signal that comes because of what it writes. -/
def ended (utility : Job Nat) : Job ExitStatus := do
  let code ← utility
  match (← get).halt with
  | some (.killed signal) =>
    modify fun world => { world with halt := none }
    pure (.killed signal false)
  | _ => pure (.exited code)

/-- Does what a program does, which cannot start without one more descriptor: its libraries are
files, too. -/
def loaded (invocation : Invocation) (program : Job ExitStatus) : Job ExitStatus := do
  if invocation.mayOpen then program
  else
    invocation.complain <| "error while loading shared libraries: libc.so.6: ".toList ++
      "cannot open shared object file: Error 24".toList
    pure (.exited 127)

/-- Runs a program; a bound on how deep programs start programs is given. -/
def runProgram : Nat → Program → Invocation → Job ExitStatus
  | depth, program, invocation =>
    loaded invocation <|
      match program, depth with
      | .succeed, _ => ended (constant 0 "true" "success" invocation)
      | .fail, _ => ended (constant 1 "false" "failure" invocation)
      | .echo, _ => ended invocation.echo
      | .printf, _ => ended invocation.printf
      | .cat, _ => ended invocation.cat
      | .head, _ => ended invocation.head
      | .uname release, _ => ended (uname release invocation)
      | .shell, 0 => do
        invocation.complain "too many shells".toList
        pure (.exited 126)
      | .shell, depth + 1 => Shell.run (runProgram depth) invocation

/-- Starts the program at a path with arguments: what it leaves behind, and the machine after
it. -/
def launch (machine : Machine Leaf) (path : Path) (arguments : List String) :
    Except IoError (ProgramOutput × Machine Leaf) :=
  if arguments.any fun argument => argument.toList.contains '\x00' then
    .error { kind := .invalidInput, message := "nul byte found in provided data" }
  else
    match machine.programAt? path with
    | none => .error .noEntry
    | some program =>
      let nothing : Stream := ⟨.device .null, true, false⟩
      let kept : Stream := .pipe none
      let searchPath := Octets.join [':'] (searchPath.map fun directory =>
        Octets.ofText directory.text)
      let name := Octets.ofText path.text
      let invocation : Invocation :=
        { path := World.absolute machine.here name
          name
          arguments := arguments.map Octets.ofText
          environment := [("PATH".toList, searchPath)]
          here := machine.here
          descriptors := [(0, 0), (1, 1), (2, 2)] }
      let (status, world) :=
        (runProgram maxDepth program invocation).run
          { root := machine.root
            streams := #[nothing, kept, kept]
            alive := [(outerProcess, invocation)]
            young := machine.here }
      let printed (stream : Nat) : List UInt8 :=
        ((world.held stream).toOption.getD []).toBytes
      .ok (⟨status, printed 1, printed 2⟩, { machine with root := world.settled.root })

/-- Starts the program at a path with arguments. -/
def start (machine : Machine Leaf) (path : Path) (arguments : List String) :
    Except IoError ProgramOutput :=
  (machine.launch path arguments).map Prod.fst

/-- The machine after a command was run, whose first word is the program. -/
def afterCommand (machine : Machine Leaf) : List String → Machine Leaf
  | [] => machine
  | program :: arguments =>
    match machine.findProgram program with
    | .error _ => machine
    | .ok path =>
      match machine.launch path arguments with
      | .ok (_, after) => after
      | .error _ => machine

/-- What lies around the program on a machine. -/
def surroundings (machine : Machine Leaf) : Surroundings :=
  ⟨machine.directories, ⟨machine.findProgram, machine.start⟩, machine.read,
    Settings.Document.read⟩

/-- The system of simulated machines. -/
def system : System (Machine Leaf) Edit :=
  ⟨surroundings, edit, afterCommand⟩

/-! ## A stock machine -/

/-- The bytes of a name of ASCII letters. -/
def entryName (name : String) : EntryName :=
  Utf8.encode name

/-- The directory of the devices, with links to the descriptors of the process that looks. -/
def devices : FileTree :=
  let named : List (String × Device) :=
    (["null", "zero", "full", "random"].zip [.null, .zero, .full, .random]) ++
      [("urandom", .random), ("tty", .terminal)]
  let links : List (String × String) :=
    [("fd", ""), ("stdin", "/0"), ("stdout", "/1"), ("stderr", "/2")]
  let link (name rest : String) : EntryName × FileTree :=
    (entryName name, .link (Utf8.encode ("/proc/self/fd" ++ rest)))
  .dir
    (named.map (fun (name, device) => (entryName name, Node.device device)) ++
      links.map (fun (name, rest) => link name rest) ++
      ["pts", "shm"].map fun name => (entryName name, Node.dir []))

/-- The directories that every system has, beside those of programs and devices; those above others
come first. -/
def usualPlaces : List (List String) :=
  let below (above : String) (names : List String) : List (List String) :=
    [above] :: names.map fun name => [above, name]
  ["boot", "home", "media", "mnt", "opt", "root", "run", "srv", "sys", "tmp"].map ([·]) ++
    below "etc" [] ++
    below "proc" ["sys"] ++ [["proc", "sys", "kernel"]] ++ [["run", "lock"]] ++
    below "usr" ["games", "include", "lib", "lib64", "libexec", "local", "sbin", "share", "src"] ++
    ["bin", "etc", "games", "include", "lib", "sbin", "share", "src"].map (["usr", "local", ·]) ++
    below "var" ["backups", "cache", "lib", "local", "log", "mail", "opt", "spool", "tmp"]

/-- The links to directories that every system has. -/
def usualLinks : List (List String × String) :=
  [(["bin"], "usr/bin"), (["sbin"], "usr/sbin"), (["lib"], "usr/lib"), (["lib64"], "usr/lib64"),
    (["var", "run"], "/run"), (["var", "lock"], "/run/lock")]

/-- What a shell runs first that was logged into. -/
def profile : Octets :=
  "PATH=".toList ++ Shell.standardPath ++ "\nexport PATH\n".toList ++
    "if [ \"$\x7bPS1-\x7d\" ]; then PS1='# '; fi\nunset i\n".toList

/-- A tree with what every system has: directories, a shell and some utilities in `/usr/bin`, the
devices, the list of users, the file for shells that were logged into, and the name of the kernel.
-/
def usualTree : FileTree :=
  let put (root : FileTree) (names : List String) (node : FileTree) : FileTree :=
    root.putAt node (names.map entryName)
  let utilities : List (EntryName × FileTree) :=
    [("true", .succeed), ("false", .fail), ("echo", .echo), ("printf", .printf), ("cat", .cat),
      ("head", .head), ("dash", .shell)].map fun (name, program) =>
        (entryName name, Node.executable program)
  let tree := usualPlaces.foldl (fun root names => put root names (.dir [])) (.dir [])
  let tree := usualLinks.foldl (fun root (names, target) =>
    put root names (.link (Utf8.encode target))) tree
  let tree := put tree ["usr", "bin"] (.dir utilities)
  let tree := put tree ["usr", "bin", "sh"] (.link (Utf8.encode "dash"))
  let tree := put tree ["dev"] devices
  let tree := put tree ["etc", "passwd"] (.file (Account.file Account.usual))
  let tree := put tree ["etc", "profile"] (.file profile)
  put tree ["proc", "sys", "kernel", "ostype"] (.record ["Linux".toList] '\n')

/-- A machine with what every system has, a `uname` that prints the given release first in the
search path, and an empty working directory. -/
def stock (release : String) : Machine Leaf :=
  let host : FileTree := .dir [(entryName "uname", .executable (.uname release))]
  { root := (usualTree.putAt host [entryName "host"]).putAt (.dir []) [entryName "work"]
    here := [entryName "work"] }

end Machine

end KernelCensus
