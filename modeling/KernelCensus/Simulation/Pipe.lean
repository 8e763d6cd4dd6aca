/-
# Pipes

A pipe holds bytes that were written and not yet read.  Programs that are joined by a pipe run one
after the other, so that the writer is done before the reader starts.  A pipe may have room for
only so many bytes; then it may lack bytes that its writer would have written.
-/
import KernelCensus.Simulation.Text.Octets

namespace KernelCensus

/-- The bytes at the front of a pipe, and the texts that were written after them, the last one
first. -/
structure Pipe where
  front : Octets := []
  back : List Octets := []
  /-- How many bytes there is room for, if that is limited. -/
  room : Option Nat := none
  /-- The number of the full pipe because of which bytes are missing from this one. -/
  lacks : Option Nat := none

namespace Pipe

/-- The bytes that are left to read. -/
def content (pipe : Pipe) : Octets :=
  match pipe.back with
  | [] => pipe.front
  | texts => pipe.front ++ texts.reverse.flatten

/-- Whether nothing more is accepted. -/
def isFull (pipe : Pipe) : Bool :=
  pipe.room == some 0

/-- The pipe after a text was written; where there is room for one byte, all of it is accepted. -/
def push (pipe : Pipe) (text : Octets) : Pipe :=
  { pipe with
    back := text :: pipe.back
    room := pipe.room.map fun room => room - text.length }

/-- The pipe after so many bytes were read. -/
def drop (pipe : Pipe) (count : Nat) : Pipe :=
  { pipe with front := pipe.content.drop count, back := [] }

/-- The pipe without bytes that a full pipe kept its writer from writing. -/
def missing (pipe : Pipe) (full : Nat) : Pipe :=
  { pipe with lacks := pipe.lacks.or (some full) }

end Pipe

end KernelCensus
