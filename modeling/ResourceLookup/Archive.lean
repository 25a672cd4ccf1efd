import ResourceLookup.Modules.Source

/-!
# Archives

An archive keeps its members in the order they were stored, and the last one of a name
counts. Its octets are a record for each member, with the octets of the member as they are,
then a directory of the members, then an end record. Every member bears the same date.
-/

namespace ResourceLookup

abbrev Members := List (Text × Body)

namespace Members

/-- The name that a member is stored under: a null ends it. -/
def storedName (name : Text) : Text := name.takeWhile (· ≠ 0)

def ofPairs (ps : List (Text × Body)) : Members := ps.map fun p => (storedName p.1, p.2)

/-- The member of a name, which is the last one stored under it. -/
def get? (m : Members) (name : Text) : Option Body :=
  (m.reverse.find? fun p => p.1 == name).map (·.2)

def has (m : Members) (name : Text) : Bool := (m.get? name).isSome

def isDirectoryName (name : Text) : Bool := name.getLast? == some 0x2F

def file? (m : Members) (name : Text) : Option Body :=
  if isDirectoryName name then none else m.get? name

end Members

namespace Archive

def number : (width : Nat) → Nat → Octets
  | 0, _ => []
  | w + 1, n => UInt8.ofNat n :: number w (n / 0x100)

def checkSteps : (steps : Nat) → UInt32 → UInt32
  | 0, c => c
  | n + 1, c => checkSteps n (if c &&& 1 = 1 then (c >>> 1) ^^^ 0xEDB88320 else c >>> 1)

def checkSum (bs : Octets) : Nat :=
  (bs.foldl (fun c b => checkSteps 8 (c ^^^ b.toUInt32)) 0xFFFFFFFF ^^^ 0xFFFFFFFF).toNat

def date : Nat := 0x21

def flags (name : Text) : Nat := if name.isAscii then 0 else 0x800

def description (name : Text) (bs : Octets) : Octets :=
  number 2 20 ++ number 2 (flags name) ++ number 2 0 ++ number 2 0 ++ number 2 date ++
    number 4 (checkSum bs) ++ number 4 bs.length ++ number 4 bs.length ++
    number 2 (Body.octetsOf name).length ++ number 2 0

def record (name : Text) (bs : Octets) : Octets :=
  number 4 0x04034B50 ++ description name bs ++ Body.octetsOf name ++ bs

def attributes : Nat := 0x1800000

def directoryEntry (name : Text) (bs : Octets) (offset : Nat) : Octets :=
  number 4 0x02014B50 ++ number 2 0x314 ++ description name bs ++ number 6 0 ++
    number 4 attributes ++ number 4 offset ++ Body.octetsOf name

def records (offset : Nat) : Members → Octets × Octets
  | [] => ([], [])
  | (name, body) :: rest =>
    let bs := body.toOctets
    let r := record name bs
    let (rs, ds) := records (offset + r.length) rest
    (r ++ rs, directoryEntry name bs offset ++ ds)

def endRecord (count size offset : Nat) : Octets :=
  number 4 0x06054B50 ++ number 4 0 ++ number 2 count ++ number 2 count ++ number 4 size ++
    number 4 offset ++ number 2 0

end Archive

def Members.toOctets (m : Members) : Octets :=
  let (rs, ds) := Archive.records 0 m
  rs ++ ds ++ Archive.endRecord m.length ds.length rs.length

end ResourceLookup
