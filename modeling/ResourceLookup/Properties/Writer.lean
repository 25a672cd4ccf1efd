import ResourceLookup.Properties.Reader

/-!
# Writing property files

Every pair becomes one line, its key and value joined by an equals sign; comment lines go
before them behind a number sign. Only printable ASCII and line feeds are written: other
characters by the number of each sixteen-bit unit. Separators, comment marks, backslashes
and line ends are escaped everywhere, spaces in keys and at the start of a value.
-/

namespace ResourceLookup.Properties

open Text (units hexadecimal)

def isPlain (c : Nat) : Bool := 0x20 ≤ c && c ≤ 0x7E

def numbered (c : Nat) : Text := (units c).flatMap fun u => backslash :: 0x75 :: hexadecimal true 4 u

def escapeLetter? (c : Nat) : Option Nat :=
  if c = 0x09 then some 0x74
  else if c = 0x0A then some 0x6E
  else if c = 0x0D then some 0x72
  else if c = 0x0C then some 0x66
  else none

def escapeOne (c : Nat) : Text :=
  if c = backslash || isSeparator c || isCommentMark c then [backslash, c]
  else
    match escapeLetter? c with
    | some l => [backslash, l]
    | none => if isPlain c then [c] else numbered c

def escapeKey (t : Text) : Text := t.flatMap fun c => if c = 0x20 then [backslash, c] else escapeOne c

def escapeValue : Text → Text
  | [] => []
  | c :: r => (if c = 0x20 then [backslash, c] else escapeOne c) ++ r.flatMap escapeOne

def endsCommentLine (c : Nat) : Bool :=
  (0x0A ≤ c && c ≤ 0x0D) || (0x1C ≤ c && c ≤ 0x1E) || c = 0x85 || c = 0x2028 || c = 0x2029

/-- The lines of a comment; the last line end ends a line and begins none. -/
def commentLines : Text → List Text
  | [] => []
  | c :: r =>
    if c = 0x0D then
      match r with
      | [] => [[]]
      | d :: r' => if d = 0x0A then [] :: commentLines r' else [] :: commentLines (d :: r')
    else if endsCommentLine c then [] :: commentLines r
    else
      match commentLines r with
      | [] => [[c]]
      | l :: ls => (c :: l) :: ls

def writeCommentLine (l : Text) : Text :=
  0x23 :: (l.flatMap (fun c => if isPlain c then [c] else numbered c) ++ [0x0A])

def writeEntry (p : Text × Text) : Text := escapeKey p.1 ++ 0x3D :: (escapeValue p.2 ++ [0x0A])

def write (entries : List (Text × Text)) (comment : Text) : Text :=
  (commentLines comment).flatMap writeCommentLine ++ entries.flatMap writeEntry

def writeOctets (entries : List (Text × Text)) (comment : Text) : Octets :=
  (write entries comment).map UInt8.ofNat

end ResourceLookup.Properties
