import ResourceLookup.TextReader
import ResourceLookup.World

/-!
# Readers

A reader owns a stream and gives its text. Closing the reader closes the stream, once; a
reader that cannot be made closes the stream it was to have.
-/

namespace ResourceLookup

structure Reader where
  stream : StreamId
  characters : TextReader
  /-- The name of the charset, as it is set. -/
  encoding : Text
  isClosed : Bool
  deriving DecidableEq, Repr

namespace Reader

def ofStream (id : StreamId) : Lookup Reader := do
  let charset := (← get).settings.currentCharset
  Lookup.onFault
    (do pure ⟨id, ← Lookup.answer (TextReader.ofName charset),
      charset.getD TextReader.defaultName, false⟩)
    Fault.isOrdinary (Lookup.closeStream id)

def close (r : Reader) : Lookup Reader :=
  if r.isClosed then pure r
  else do
    Lookup.closeStream r.stream
    pure { r with isClosed := true }

def closedFault : Fault := .valueError (text "I/O operation on closed file.")

/-- A reading, whose fault leaves a changed reader as well. -/
def run (r : Reader)
    (f : OutsideDecoders → Option Fault → TextReader → Octets → TextReader.Outcome) :
    Lookup (Except Fault Text × Reader) :=
  if r.isClosed then pure (.error closedFault, r)
  else do
    let s ← Lookup.stream r.stream
    let out := f (← get).around.decoders s.failing r.characters s.rest
    Lookup.setStream r.stream { s with rest := out.rest }
    pure (out.answer, { r with characters := out.reader })

def read (r : Reader) (limit : Option Nat) : Lookup (Except Fault Text × Reader) :=
  match limit with
  | none => r.run TextReader.readAll
  | some n => r.run (TextReader.readSome n)

def readLine (r : Reader) : Lookup (Except Fault Text × Reader) := r.run TextReader.readLine

end Reader
end ResourceLookup
