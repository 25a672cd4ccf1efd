import ResourceLookup.OrderedMap
import ResourceLookup.Properties.Entry

/-!
# Reading property files

The pairs of the logical lines, put into a map one after the other: a later pair replaces
the value of an earlier one with the same key. The first malformed line stops the reading
and is named by its number. As octets, a file is in the eight-bit code whose octets are
the first 256 code points.
-/

namespace ResourceLookup

abbrev Properties := OrderedMap Text Text

namespace Properties

structure Malformed where
  line : Nat
  deriving DecidableEq, Repr

def readEntry (l : Line) : Except Malformed (Text × Text) :=
  match unescape (cut l.content).1, unescape (cut l.content).2 with
  | some k, some v => .ok (k, v)
  | _, _ => .error ⟨l.number⟩

def readEntries (m : Properties) : List Line → Except Malformed Properties
  | [] => .ok m
  | l :: ls =>
    match readEntry l with
    | .ok (k, v) => readEntries (m.put k v) ls
    | .error e => .error e

def read (t : Text) : Except Malformed Properties := readEntries [] (logicalLines t)

def textOfOctets (bs : Octets) : Text := bs.map UInt8.toNat

def readOctets (bs : Octets) : Except Malformed Properties := read (textOfOctets bs)

end Properties
end ResourceLookup
