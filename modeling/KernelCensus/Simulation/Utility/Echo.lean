/-
# Echoing

`echo` prints its arguments with spaces between them and a line end after them.  Leading options
leave the line end out (`n`) and turn escapes on (`e`) and off (`E`).  Strictly, escapes are always
on, and there are options only after a lone `-n`.
-/
import KernelCensus.Simulation.Text.Escaped
import KernelCensus.Simulation.Utility.About
import KernelCensus.Simulation.Utility.Buffer

namespace KernelCensus

namespace Echo

/-- The escapes that `echo` knows. -/
def dialect : Escaped.Dialect :=
  { extraZero := true, ends := true, mark := false, hexadecimal := true, characters := false }

/-- Whether an argument is a cluster of options. -/
def isOption : Octets → Bool
  | '-' :: c :: cs => (c :: cs).all fun flag => flag == 'n' || flag == 'e' || flag == 'E'
  | _ => false

/-- Whether the last option about escapes turns them on. -/
def escapesOn (options : List Octets) : Bool :=
  ((options.flatMap id).filter fun flag => flag == 'e' || flag == 'E').getLast? == some 'e'

/-- What is printed for words, with or without escapes and a line end. -/
def line (words : List Octets) (escapes : Option Escaped.Dialect) (ended : Bool) : Octets :=
  let text := Octets.join [' '] words
  let tail := if ended then ['\n'] else []
  match escapes with
  | none => text ++ tail
  | some dialect =>
    let reading := Escaped.read dialect text
    reading.bytes ++ if reading.ending = .whole then tail else []

end Echo

/-- Prints its arguments. -/
def Invocation.echo (invocation : Invocation) : Job Nat := do
  let arguments := invocation.arguments
  let takesOptions := !invocation.isStrict || arguments.head? = some ['-', 'n']
  match (About.only? arguments).filter fun _ => takesOptions with
  | some question => invocation.tellAbout "echo" About.echo question
  | none =>
    let options := if takesOptions then arguments.takeWhile Echo.isOption else []
    let words := arguments.drop options.length
    let ended := !options.any fun option => option.contains 'n'
    let pieces :=
      if Echo.escapesOn options || invocation.isStrict then
        (Echo.line words (some Echo.dialect) ended).map ([·])
      else words.intersperse [' '] ++ if ended then [['\n']] else []
    invocation.close (← invocation.holdEach {} pieces) 0

end KernelCensus
