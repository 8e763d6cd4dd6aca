/-
# Builtins for aliases

An alias is a text that is read in the place of its name where a command may start, from the next
line of the script on.
-/
import KernelCensus.Simulation.Shell.Builtin.Basic

namespace KernelCensus

namespace Shell

/-- An alias as it could be set again. -/
def aliasLine (name text : Octets) : Octets :=
  name ++ ['='] ++ quoteWord text

/-- Sets an alias, or shows it. -/
def setAlias (argument : Octets) : Run Nat := do
  let name := argument.take 1 ++ (argument.drop 1).takeWhile (· ≠ '=')
  let aliases := (← get).aliases
  match argument.drop name.length with
  | _ :: text =>
    modify fun state => { state with aliases := Table.put name text aliases }
    pure 0
  | [] =>
    match aliases.lookup name with
    | some text => answer (linesOf [aliasLine name text])
    | none =>
      mutter ("alias: ".toList ++ name ++ " not found".toList)
      pure 1

/-- Does something for each argument; gives one if any of that did not give zero. -/
def forEach (action : Octets → Run Nat) : List Octets → Run Nat
  | [] => pure 0
  | argument :: arguments => do
    let code ← action argument
    let others ← forEach action arguments
    pure (if code = 0 then others else 1)

/-- Sets aliases, shows them, or lists all of them. -/
def setAliases (arguments : List Octets) : Run Nat := do
  if arguments.isEmpty then
    let aliases := inRows 39 Prod.fst (← get).aliases
    answer (linesOf (aliases.map fun (name, text) => aliasLine name text))
  else forEach setAlias arguments

/-- Unsets aliases, or all of them. -/
def unsetAliases (arguments : List Octets) : Run Nat := do
  let (option, names) ← takeFlag "a" arguments
  if option.isSome then
    modify fun state => { state with aliases := [] }
    pure 0
  else
    names |> forEach fun name => do
      let aliases := (← get).aliases
      if (aliases.lookup name).isSome then
        modify fun state => { state with aliases := Table.erase name aliases }
        pure 0
      else
        mutter ("unalias: ".toList ++ name ++ " not found".toList)
        pure 1

end Shell

end KernelCensus
