/-
An output stream that may fail. A line is written and then flushed; either
can fail, and only as the stream's plan says: it holds the fate of the next
writes and of the next flushes, and once a plan is used up everything works.

A failed write leaves the stream as it was. A failed flush leaves the text
but does not count.
-/

namespace InspectionFeed

/-- An output stream. -/
structure Stream where
  /-- The lines that were written, newest first, without their ends. -/
  written : List String
  flushes : Nat
  /-- For each of the next writes, whether it fails. -/
  failingWrites : List Bool
  /-- For each of the next flushes, whether it fails. -/
  failingFlushes : List Bool
  deriving Repr, DecidableEq

namespace Stream

/-- Which step failed. -/
inductive Fault
  | write
  | flush
  deriving Repr, DecidableEq

/-- The wording of a failure. -/
def Fault.message : Fault → String
  | .write => "write failed"
  | .flush => "flush failed"

/-- A new stream on which nothing fails. -/
def empty : Stream := ⟨[], 0, [], []⟩

/-- Nothing will fail any more. -/
def Reliable (s : Stream) : Prop :=
  (∀ b ∈ s.failingWrites, b = false) ∧ ∀ b ∈ s.failingFlushes, b = false

/-- The stream whose next write or flush fails, once. -/
def arm (s : Stream) : Fault → Stream
  | .write => { s with failingWrites := [true], failingFlushes := [] }
  | .flush => { s with failingWrites := [], failingFlushes := [true] }

/-- The lines on the stream, in order. -/
def lines (s : Stream) : List String := s.written.reverse

/-- Lines as text, each with its end. -/
def textOf (lines : List String) : String := String.join (lines.map (· ++ "\n"))

def text (s : Stream) : String := textOf s.lines

/-- The text that was added to an earlier state of the stream. -/
def textSince (s earlier : Stream) : String := textOf (s.lines.drop earlier.written.length)

def flush (s : Stream) : Stream × Except Fault Unit :=
  let rest := s.failingFlushes.tail
  if s.failingFlushes.head? = some true then ({ s with failingFlushes := rest }, .error .flush)
  else ({ s with flushes := s.flushes + 1, failingFlushes := rest }, .ok ())

/-- Writes one line and flushes. -/
def putLine (s : Stream) (line : String) : Stream × Except Fault Unit :=
  let rest := s.failingWrites.tail
  if s.failingWrites.head? = some true then ({ s with failingWrites := rest }, .error .write)
  else flush { s with written := line :: s.written, failingWrites := rest }

end Stream

end InspectionFeed
