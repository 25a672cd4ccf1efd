import ResourceLookup.Modules.Source
import ResourceLookup.Text.Quoted

/-!
# Loaders

A module is loaded from its source, from what its source was compiled to, or from a native
library. What octets of each kind hold is not decided here.
-/

namespace ResourceLookup

abbrev Code := Except Fault (List Statement)

structure Loaders where
  source : (file : Text) → Octets → Code
  compiled : (name file : Text) → Octets → Code
  /-- A native module is made before it is run, and making it may fail already. -/
  native : (name file : Text) → Octets → Except Fault Code

namespace Fault

def importError (message subject : Text) : Fault :=
  .raised "ImportError" (some message) (.named subject)

end Fault

namespace Loaders

def byteOrderMark : Octets := [0xEF, 0xBB, 0xBF]

def isBlank (bs : Octets) : Bool :=
  (if byteOrderMark.isPrefixOf bs then bs.drop byteOrderMark.length else bs).all fun b =>
    b == 0x09 || b == 0x0A || b == 0x0C || b == 0x0D || b == 0x20

def badMagic (name : Text) (bs : Octets) : Fault :=
  .importError
    (text "bad magic number in " ++ name.quoted ++ text ": " ++
      Text.quotedOctets ((bs.take 4).map UInt8.toNat)) name

def libraryHeader : Nat := 64

def badLibrary (name file : Text) (bs : Octets) : Fault :=
  .importError
    (file ++ (if bs.length < libraryHeader then text ": file too short"
      else text ": invalid ELF header")) name

/-- Octets that hold no module, but for blank ones, which are a source without statements. -/
def plain : Loaders where
  source file bs := if isBlank bs then .ok [] else .error (.unparsable file)
  compiled name _ bs := .error (badMagic name bs)
  native name file bs := .error (badLibrary name file bs)

end Loaders

namespace Body

def code (loaders : Loaders) (file : Text) : Body → Code
  | octets bs => loaders.source file bs
  | program ss =>
    if ss.any fun | .unparsable => true | _ => false then .error (.unparsable file) else .ok ss

end Body
end ResourceLookup
