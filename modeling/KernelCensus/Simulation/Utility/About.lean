/-
# Answers about utilities

A utility that is asked about itself says how it is used, or which version it is.  Of its use it
tells the synopsis, what it does, and its options; of its version only the first line.
-/
import KernelCensus.Simulation.Utility.Basic

namespace KernelCensus

namespace About

/-- What a utility may be asked about itself. -/
inductive Question
  | help
  | version
  deriving DecidableEq, Repr

/-- The question that the only argument asks of a utility without other long options. -/
def only? : List Octets → Option Question
  | [argument] =>
    if argument = "--help".toList then some .help
    else if argument = "--version".toList then some .version
    else none
  | _ => none

/-- Some lines, each of them ended. -/
def lines (texts : List String) : Octets :=
  texts.flatMap fun text => text.toList ++ ['\n']

/-- The lines that tell of the options which every utility has. -/
def common : List String :=
  ["      --help        display this help and exit",
    "      --version     output version information and exit", ""]

/-- The lines that tell of a builtin of the same name. -/
def ofBuiltin (name : String) : List String :=
  ["NOTE: your shell may have its own version of " ++ name ++ ", which usually supersedes",
    "the version described here.  Please refer to your shell's documentation",
    "for details about the options it supports.", ""]

/-- The use of `true` and `false`, which are started under a name. -/
def constant (started : Octets) (name outcome : String) : Octets :=
  "Usage: ".toList ++ started ++ lines [" [ignored command line arguments]"] ++
    "  or:  ".toList ++ started ++ lines ([" OPTION",
      "Exit with a status code indicating " ++ outcome ++ ".", ""] ++ common ++ ofBuiltin name)

/-- The use of `echo`. -/
def echo (started : Octets) : Octets :=
  "Usage: ".toList ++ started ++ lines [" [SHORT-OPTION]... [STRING]..."] ++
    "  or:  ".toList ++ started ++ lines ([" LONG-OPTION",
      "Echo the STRING(s) to standard output.", "",
      "  -n             do not output the trailing newline",
      "  -e             enable interpretation of backslash escapes",
      "  -E             disable interpretation of backslash escapes (default)"] ++ common ++
      ["If -e is in effect, the following sequences are recognized:", "",
      "  \\\\      backslash",
      "  \\a      alert (BEL)",
      "  \\b      backspace",
      "  \\c      produce no further output",
      "  \\e      escape",
      "  \\f      form feed",
      "  \\n      new line",
      "  \\r      carriage return",
      "  \\t      horizontal tab",
      "  \\v      vertical tab",
      "  \\0NNN   byte with octal value NNN (1 to 3 digits)",
      "  \\xHH    byte with hexadecimal value HH (1 to 2 digits)", ""] ++ ofBuiltin "echo")

/-- The use of `printf`. -/
def printf (started : Octets) : Octets :=
  "Usage: ".toList ++ started ++ lines [" FORMAT [ARGUMENT]..."] ++
    "  or:  ".toList ++ started ++ lines ([" OPTION",
      "Print ARGUMENT(s) according to FORMAT, or execute according to OPTION:", ""] ++ common ++
      ["FORMAT controls the output as in C printf.  Interpreted sequences are:", "",
      "  \\\"      double quote",
      "  \\\\      backslash",
      "  \\a      alert (BEL)",
      "  \\b      backspace",
      "  \\c      produce no further output",
      "  \\e      escape",
      "  \\f      form feed",
      "  \\n      new line",
      "  \\r      carriage return",
      "  \\t      horizontal tab",
      "  \\v      vertical tab",
      "  \\NNN    byte with octal value NNN (1 to 3 digits)",
      "  \\xHH    byte with hexadecimal value HH (1 to 2 digits)",
      "  \\uHHHH  Unicode (ISO/IEC 10646) character with hex value HHHH (4 digits)",
      "  \\UHHHHHHHH  Unicode character with hex value HHHHHHHH (8 digits)",
      "  %%      a single %",
      "  %b      ARGUMENT as a string with '\\' escapes interpreted,",
      "          except that octal escapes are of the form \\0 or \\0NNN",
      "  %q      ARGUMENT is printed in a format that can be reused as shell input,",
      "          escaping non-printable characters with the proposed POSIX $'' syntax.", "",
      "and all C format specifications ending with one of diouxXfeEgGcs, with",
      "ARGUMENTs converted to proper type first.  Variable widths are handled.", ""] ++
      ofBuiltin "printf")

/-- The use of `cat`. -/
def cat (started : Octets) : Octets :=
  "Usage: ".toList ++ started ++ lines ([" [OPTION]... [FILE]...",
      "Concatenate FILE(s) to standard output.", "",
      "With no FILE, or when FILE is -, read standard input.", "",
      "  -A, --show-all           equivalent to -vET",
      "  -b, --number-nonblank    number nonempty output lines, overrides -n",
      "  -e                       equivalent to -vE",
      "  -E, --show-ends          display $ at end of each line",
      "  -n, --number             number all output lines",
      "  -s, --squeeze-blank      suppress repeated empty output lines",
      "  -t                       equivalent to -vT",
      "  -T, --show-tabs          display TAB characters as ^I",
      "  -u                       (ignored)",
      "  -v, --show-nonprinting   use ^ and M- notation, except for LFD and TAB"] ++ common ++
      ["Examples:"]) ++
    "  ".toList ++ started ++
      lines [" f - g  Output f's contents, then standard input, then g's contents."] ++
    "  ".toList ++ started ++ lines ["        Copy standard input to standard output.", ""]

/-- The use of `head`. -/
def head (started : Octets) : Octets :=
  "Usage: ".toList ++ started ++ lines ([" [OPTION]... [FILE]...",
      "Print the first 10 lines of each FILE to standard output.",
      "With more than one FILE, precede each with a header giving the file name.", "",
      "With no FILE, or when FILE is -, read standard input.", "",
      "Mandatory arguments to long options are mandatory for short options too.",
      "  -c, --bytes=[-]NUM       print the first NUM bytes of each file;",
      "                             with the leading '-', print all but the last",
      "                             NUM bytes of each file",
      "  -n, --lines=[-]NUM       print the first NUM lines instead of the first 10;",
      "                             with the leading '-', print all but the last",
      "                             NUM lines of each file",
      "  -q, --quiet, --silent    never print headers giving file names",
      "  -v, --verbose            always print headers giving file names",
      "  -z, --zero-terminated    line delimiter is NUL, not newline"] ++ common ++
      ["NUM may have a multiplier suffix:",
      "b 512, kB 1000, K 1024, MB 1000*1000, M 1024*1024,",
      "GB 1000*1000*1000, G 1024*1024*1024, and so on for T, P, E, Z, Y.",
      "Binary prefixes can be used, too: KiB=K, MiB=M, and so on.", ""])

end About

/-- Answers a question about a utility of a name, whose use is given. -/
def Invocation.tellAbout (invocation : Invocation) (name : String) (usage : Octets → Octets) :
    About.Question → Job Nat
  | .help => do invocation.finish 0 (← invocation.put 1 (usage invocation.name))
  | .version => do
    invocation.finish 0 (← invocation.put 1 (name.toList ++ " (GNU coreutils) 9.1\n".toList))

end KernelCensus
