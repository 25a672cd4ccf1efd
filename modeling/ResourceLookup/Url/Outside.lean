import ResourceLookup.Fault
import ResourceLookup.Url.HostAddress

/-!
# What opening an address leaves to others

The name of a host is encoded and then resolved to a numeric address. A name in ASCII is refused
for its labels alone; how other names are encoded, and which names are known, is not decided here.
Neither is what reading the headers of several lines ends in.
-/

namespace ResourceLookup

namespace Fault

def nameEncoding (reason : Text) : Fault :=
  .raised "UnicodeError"
    (some (text "encoding with 'idna' codec failed (UnicodeError: " ++ reason ++ text ")")) .none

def nameUnknown : Fault :=
  .raised ⟨"gaierror", "OSError", []⟩ (some (text "[Errno -2] Name or service not known")) .none

def nullInName : Fault :=
  typeError
    (text "gethostbyname() argument 1 must be encoded string without null bytes, not str")

def portOverflow : Fault :=
  .raised "OverflowError" (some (text "Python int too large to convert to C long")) .none

end Fault

namespace Url

open Text

structure Outside where
  /-- Why a name that is not ASCII is not encoded. -/
  foreignFlaw? : Text → Option Text
  /-- The numeric address of a host. -/
  address? : Text → Option Text
  isOwnAddress : Text → Bool
  /-- What reading a media type ends in that goes on over several lines, or that has a boundary. -/
  headersFault? : Text → Option Fault

namespace Outside

/-- A host that knows its own name and addresses of four numbers only, and reads all headers. -/
def plain : Outside where
  foreignFlaw? _ := none
  address? name :=
    if name.isEmpty then some (text "0.0.0.0")
    else if asciiLower name = text "localhost" then some (text "127.0.0.1")
    else if HostAddress.isFourOctets name then some name
    else none
  isOwnAddress address := address == text "127.0.0.1"
  headersFault? _ := none

end Outside

def longestLabel : Nat := 63

/-- The last label may be empty. -/
def labelFlaw? (name : Text) : Option Text :=
  let labels := name.splitOn 0x2E
  if labels.dropLast.any fun l => l.isEmpty || longestLabel < l.length then
    some (text "label empty or too long")
  else if labels.getLast?.any fun l => longestLabel < l.length then some (text "label too long")
  else none

def nameFlaw? (outside : Outside) (name : Text) : Option Fault :=
  (if name.isAscii then labelFlaw? name else outside.foreignFlaw? name).map .nameEncoding

/-- The numeric address that a name is resolved to, if it is known. -/
def resolve (outside : Outside) (name : Text) : Except Fault (Option Text) :=
  match nameFlaw? outside name with
  | some f => .error f
  | none => if name.contains 0 then .error .nullInName else .ok (outside.address? name)

def wordBound : Int := 0x8000000000000000

def isWord (n : Int) : Bool := -wordBound ≤ n && n < wordBound

end Url
end ResourceLookup
