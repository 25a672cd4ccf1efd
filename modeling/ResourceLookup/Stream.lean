import ResourceLookup.Fault

/-!
# Streams

A stream gives its octets once, all of them, some, or a line at a time, until it is closed.
Each closing is counted. Reading may fail after some of the octets, but not in memory. A stream
out of an archive is fetched ahead in pieces, and a whole line that was fetched can be read even
after closing.
-/

namespace ResourceLookup

abbrev StreamId := Nat

inductive Medium
  | memory
  | file
  | member
  /-- A stream of a resolver's own. -/
  | custom
  deriving DecidableEq, Repr

structure Flaw where
  after : Nat
  fault : Fault
  deriving DecidableEq, Repr

structure Stream where
  medium : Medium
  rest : Octets
  /-- What reading beyond the rest ends in, where that is not the end of the stream. -/
  failing : Option Fault
  /-- How many octets of the rest were fetched ahead. -/
  ahead : Nat
  closes : Nat
  deriving DecidableEq, Repr

namespace Stream

def ofOctets (medium : Medium) (bs : Octets) : Stream := ⟨medium, bs, none, 0, 0⟩

def flawed (medium : Medium) (bs : Octets) (flaw : Flaw) : Stream :=
  ⟨medium, bs.take flaw.after, some flaw.fault, 0, 0⟩

def isClosed (s : Stream) : Bool := s.closes != 0

def close (s : Stream) : Stream := { s with closes := s.closes + 1 }

def readRefusal : Medium → Fault
  | .memory | .custom => .valueError (text "I/O operation on closed file.")
  | .file => .valueError (text "read of closed file")
  | .member => .valueError (text "read from closed file.")

def lineRefusal : Medium → Fault
  | .file => .valueError (text "readline of closed file")
  | m => readRefusal m

def fetchSize : Nat := 4096

/-- What stays fetched after `n` octets are read at once. -/
def aheadAfterRead (s : Stream) (n : Nat) : Nat :=
  if n ≤ s.ahead then s.ahead - n
  else min (max (n - s.ahead) fetchSize) (s.rest.length - s.ahead) - (n - s.ahead)

/-- What stays fetched after a line of `n` octets is read piece by piece. -/
def aheadAfterLine (s : Stream) (n : Nat) : Nat :=
  let pieces := (n - s.ahead + (fetchSize - 1)) / fetchSize
  min (s.ahead + pieces * fetchSize) s.rest.length - n

def exceeds (s : Stream) : Option Nat → Bool
  | none => true
  | some n => s.rest.length < n

def read (s : Stream) (limit : Option Nat) : Except Fault (Octets × Stream) :=
  if s.isClosed then .error (readRefusal s.medium)
  else
    match if s.exceeds limit then s.failing else none with
    | some f => .error f
    | none =>
      match limit with
      | none => .ok (s.rest, { s with rest := [], ahead := 0 })
      | some n =>
        .ok (s.rest.take n, { s with rest := s.rest.drop n, ahead := s.aheadAfterRead n })

def firstLine : Octets → Octets
  | [] => []
  | b :: r => if b = 0x0A then [b] else b :: firstLine r

def readLine (s : Stream) : Except Fault (Octets × Stream) :=
  let line := firstLine s.rest
  let whole := line.getLast? = some 0x0A
  let fetched := s.medium = .member ∧ whole ∧ line.length ≤ s.ahead
  if s.isClosed ∧ ¬fetched then .error (lineRefusal s.medium)
  else
    match if whole then none else s.failing with
    | some f => .error f
    | none =>
      .ok (line,
        { s with rest := s.rest.drop line.length, ahead := s.aheadAfterLine line.length })

end Stream
end ResourceLookup
