/-
# Printing formats

`printf` prints its first argument as a format for the others.
-/
import KernelCensus.Simulation.Utility.About
import KernelCensus.Simulation.Utility.Buffer
import KernelCensus.Simulation.Utility.Format

namespace KernelCensus

namespace Printf

/-- The escapes of formats. -/
def escapes (charset : Charset) : Escaped.Dialect :=
  { extraZero := false
    ends := true
    mark := true
    hexadecimal := true
    characters := true
    charset }

/-- The formats of `printf`, strictly or not. -/
def dialect (charset : Charset) (strict : Bool) : Format.Dialect :=
  { charset
    escapes := escapes charset
    argumentEscapes := { escapes charset with extraZero := true }
    escapesPercent := true
    extended := true
    endsWell := true
    form := ⟨64, 16384⟩
    notNumeric := fun text => Quoted.plain charset text ++ ": expected a numeric value".toList
    notWhole := fun text =>
      Quoted.plain charset text ++ ": value not completely converted".toList
    outOfRange := fun text =>
      Quoted.plain charset text ++ ": Numerical result out of range".toList
    rangeFirst := true
    notAlone :=
      if strict then none
      else
        some fun text => "warning: ".toList ++ text ++
          ": character(s) following character constant have been ignored".toList
    tooLarge := some fun name text =>
      "invalid ".toList ++ name ++ ": ".toList ++ Quoted.plain charset text
    badDirective := fun text => text ++ ": invalid conversion specification".toList
    unfinished := fun text => text ++ ": invalid conversion specification".toList
    badCode := 1
    unfit := none }

end Printf

/-- Prints outputs in order. -/
def Invocation.holdOutputs (invocation : Invocation) (buffer : Buffer) :
    List Format.Output → Job Buffer
  | [] => pure buffer
  | .text text :: outputs => do
    invocation.holdOutputs (← invocation.hold buffer text).2 outputs
  | .bytes bytes :: outputs => do
    invocation.holdOutputs (← invocation.holdEach buffer (bytes.map ([·]))) outputs
  | .complaint text :: outputs => do
    invocation.holdOutputs (← invocation.complainAfter buffer text) outputs
  | .lost :: outputs => invocation.holdOutputs { buffer with lost := true } outputs

/-- Prints its first argument as a format for the others. -/
def Invocation.printf (invocation : Invocation) : Job Nat := do
  let operands :=
    match invocation.arguments with
    | ['-', '-'] :: rest => rest
    | arguments => arguments
  match About.only? invocation.arguments, operands with
  | some question, _ => invocation.tellAbout "printf" About.printf question
  | none, [] => invocation.refuse "missing operand".toList
  | none, format :: arguments =>
    let dialect := Printf.dialect invocation.charset invocation.isStrict
    let progress := Format.print dialect format arguments
    let buffer ← invocation.holdOutputs {} progress.outputs.reverse
    let buffer ←
      match progress.asked, progress.arguments, progress.ended with
      | false, excess :: _, none =>
        invocation.complainAfter buffer
          ("warning: ignoring excess arguments, starting with ".toList ++
            Quoted.plain invocation.charset excess)
      | _, _, _ => pure buffer
    invocation.close buffer progress.code

end KernelCensus
