import ResourceLookup.Charset.Decoder

/-!
# Reading text from octets

A reader decodes octets piece by piece and turns each line end, be it a return, a line
feed or both together, into a line feed. A return at the end of a piece waits for what
follows. Characters that were decoded and not asked for yet stay ready. Where taking more octets
fails, so does the reading.
-/

namespace ResourceLookup

structure TextReader where
  decoder : Decoder
  /-- Octets kept back for the next piece. -/
  kept : Octets
  /-- A return waits for the next piece. -/
  returnWaits : Bool
  ready : Text
  /-- Octets and characters of the piece taken last. -/
  lastPiece : Nat × Nat
  deriving DecidableEq, Repr

namespace TextReader

def defaultName : Text := text "utf-8"

def ofName (name : Option Text) : Except Fault TextReader :=
  (Charset.lookupTextual (name.getD defaultName)).map fun c => ⟨.ofCharset c, [], false, [], (0, 0)⟩

def unifyLineEnds : Text → Text
  | [] => []
  | c :: r =>
    if c = 0x0D then
      match r with
      | [] => [0x0A]
      | d :: r' => if d = 0x0A then 0x0A :: unifyLineEnds r' else 0x0A :: unifyLineEnds (d :: r')
    else c :: unifyLineEnds r

def take (decoders : OutsideDecoders) (s : TextReader) (final : Bool) (piece : Octets) :
    Except Fault (Text × TextReader) :=
  match s.decoder.decode decoders final (s.kept ++ piece) with
  | .error f => .error f
  | .ok out =>
    let released := s.returnWaits && (final || !out.text.isEmpty)
    let t := if released then 0x0D :: out.text else out.text
    let holds := !final && t.getLast? == some 0x0D
    let t := if holds then t.dropLast else t
    .ok (unifyLineEnds t,
      { s with
        decoder := out.decoder
        kept := out.kept
        returnWaits := holds || (s.returnWaits && !released) })

def leastPiece : Nat := 8192

/-- How many octets the next piece has when this many characters are missing: no fewer than
the last piece had for as many. -/
def pieceSize (s : TextReader) (missing : Nat) : Nat :=
  max leastPiece (max missing (missing * s.lastPiece.1 / s.lastPiece.2))

/-- A reading ends with the text or a fault; either way the reader and the octets go on
from where it stopped. -/
structure Outcome where
  answer : Except Fault Text
  reader : TextReader
  rest : Octets

def readAll (decoders : OutsideDecoders) (failing : Option Fault) (s : TextReader)
    (rest : Octets) : Outcome :=
  match failing with
  | some f => ⟨.error f, s, rest⟩
  | none =>
    match s.take decoders true rest with
    | .error f => ⟨.error f, s, []⟩
    | .ok (t, s') => ⟨.ok (s.ready ++ t), { s' with ready := [] }, []⟩

/-- Takes pieces until nothing is missing from the ready characters or no more come. A
reading that wants an unknown number of characters misses `some 0`. -/
def fill (decoders : OutsideDecoders) (failing : Option Fault) (missing : Text → Option Nat) :
    (pieces : Nat) → TextReader → Octets → Except Fault Unit × TextReader × Octets
  | 0, s, rest => (.ok (), s, rest)
  | n + 1, s, rest =>
    match missing s.ready with
    | none => (.ok (), s, rest)
    | some m =>
      let piece := rest.take (s.pieceSize m)
      let rest' := rest.drop (s.pieceSize m)
      match if piece.isEmpty then failing else none with
      | some f => (.error f, { s with ready := [] }, rest')
      | none =>
        match s.take decoders piece.isEmpty piece with
        | .error f => (.error f, { s with ready := [] }, rest')
        | .ok (t, s') =>
          let s'' := { s' with ready := s.ready ++ t, lastPiece := (piece.length, t.length) }
          if piece.isEmpty && t.isEmpty then (.ok (), s'', rest')
          else fill decoders failing missing n s'' rest'

def pieceCount (rest : Octets) : Nat := rest.length / leastPiece + 3

def readSome (n : Nat) (decoders : OutsideDecoders) (failing : Option Fault) (s : TextReader)
    (rest : Octets) : Outcome :=
  let missing := fun t : Text => if n ≤ t.length then none else some (n - t.length)
  match fill decoders failing missing (pieceCount rest) s rest with
  | (.error f, s', rest') => ⟨.error f, s', rest'⟩
  | (.ok (), s', rest') => ⟨.ok (s'.ready.take n), { s' with ready := s'.ready.drop n }, rest'⟩

def firstLine : Text → Text
  | [] => []
  | c :: r => if c = 0x0A then [c] else c :: firstLine r

def readLine (decoders : OutsideDecoders) (failing : Option Fault) (s : TextReader)
    (rest : Octets) : Outcome :=
  let missing := fun t : Text => if t.contains 0x0A then none else some 0
  match fill decoders failing missing (pieceCount rest) s rest with
  | (.error f, s', rest') => ⟨.error f, s', rest'⟩
  | (.ok (), s', rest') =>
    let l := firstLine s'.ready
    ⟨.ok l, { s' with ready := s'.ready.drop l.length }, rest'⟩

end TextReader
end ResourceLookup
