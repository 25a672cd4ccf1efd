import ResourceLookup.Fault
import ResourceLookup.Text.Ranges
import ResourceLookup.Url.HostAddress

/-!
# The parts of an address

An address is split into scheme, authority and path. Control characters and spaces before
it do not count, nor do tabs and line ends anywhere. Query and fragment are cut off, and
from the last segment of the path its parameters where the scheme has any. Brackets in the
authority must match and hold a numeric host address.
-/

namespace ResourceLookup.Url

open Text

structure Split where
  scheme : Text
  authority : Text
  path : Text
  deriving DecidableEq, Repr

def isSchemeCharacter (c : Nat) : Bool :=
  isAsciiLetter c || isDecimalDigit c || c == 0x2B || c == 0x2D || c == 0x2E

/-- The scheme in lower case and what follows its colon; no scheme where none is written. -/
def splitScheme (t : Text) : Text × Text :=
  match t.cutFirst 0x3A with
  | none => ([], t)
  | some (s, rest) =>
    if (match s with | c :: _ => isAsciiLetter c | [] => false) && s.all isSchemeCharacter then
      (asciiLower s, rest)
    else ([], t)

def endsAuthority (c : Nat) : Bool := c == 0x2F || c == 0x3F || c == 0x23

def splitAuthority : Text → Text × Text
  | 0x2F :: 0x2F :: r =>
    (r.takeWhile fun c => !endsAuthority c, r.dropWhile fun c => !endsAuthority c)
  | t => ([], t)

/-- Code points whose compatibility form holds a character that ends or divides an
authority. -/
def disguised : Ranges :=
  [(0x2047, 0x2049), (0x2100, 0x2101), (0x2105, 0x2106), (0x2A74, 0x2A74), (0xFE13, 0xFE13),
   (0xFE16, 0xFE16), (0xFE55, 0xFE56), (0xFE5F, 0xFE5F), (0xFE6B, 0xFE6B), (0xFF03, 0xFF03),
   (0xFF0F, 0xFF0F), (0xFF1A, 0xFF1A), (0xFF1F, 0xFF20)]

def isFutureAddress (t : Text) : Bool :=
  match cutFirst 0x2E (t.drop 1) with
  | some (digits, rest) =>
    !digits.isEmpty && digits.all (fun c => (hexValue? c).isSome) && !rest.isEmpty &&
      !rest.contains 0x0A
  | none => false

def bracketFlaw? (host : Text) : Option Fault :=
  if host.head? = some 0x76 then
    if isFutureAddress host then none
    else some (.valueError (text "IPvFuture address is invalid"))
  else if HostAddress.isFourOctets host then
    some (.valueError (text "An IPv4 address cannot be in brackets"))
  else if HostAddress.isGroups host then none
  else some (.valueError (host.quoted ++ text " does not appear to be an IPv4 or IPv6 address"))

def authorityFlaw? (a : Text) : Option Fault :=
  let opens := a.contains 0x5B
  let closes := a.contains 0x5D
  let inside :=
    match a.cutFirst 0x5B with
    | some (_, r) => r.takeWhile fun c => c != 0x5D
    | none => []
  if opens != closes then some (.valueError (text "Invalid IPv6 URL"))
  else
    (if opens then bracketFlaw? inside else none) <|>
      if a.any disguised.holds then
        some (.valueError (text "netloc '" ++ a ++
          text "' contains invalid characters under NFKC normalization"))
      else none

def parameterSchemes : List String :=
  ["", "ftp", "hdl", "prospero", "http", "imap", "https", "shttp", "rtsp", "rtsps", "rtspu",
   "sip", "sips", "mms", "sftp", "tel"]

def cutParameters (path : Text) : Text :=
  match path.cutLast 0x2F with
  | some (a, segment) => a ++ 0x2F :: segment.takeWhile fun c => c != 0x3B
  | none => path.takeWhile fun c => c != 0x3B

def isRemoved (c : Nat) : Bool := c == 0x09 || c == 0x0A || c == 0x0D

def split (url : Text) : Except Fault Split :=
  let u := (url.dropWhile (· ≤ 0x20)).filter fun c => !isRemoved c
  let s := splitScheme u
  let a := splitAuthority s.2
  match authorityFlaw? a.1 with
  | some f => .error f
  | none =>
    let p := (a.2.takeWhile fun c => c != 0x23).takeWhile fun c => c != 0x3F
    .ok ⟨s.1, a.1, if parameterSchemes.any (fun k => text k == s.1) then cutParameters p else p⟩

end ResourceLookup.Url
