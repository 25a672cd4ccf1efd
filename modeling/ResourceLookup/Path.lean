import ResourceLookup.Text.Utf8
import ResourceLookup.Url.Percent

/-!
# Paths

A path is its anchor and its parts. Reading drops empty parts and single dots and keeps
double dots; one leading slash anchors at the root, exactly two anchor at a root of their
own, and more count as one. A path without anchor and parts is written as a dot. A
location is the list of names that leads from the root to a place.
-/

namespace ResourceLookup

inductive Anchor
  | none
  | root
  | doubleRoot
  deriving DecidableEq, Repr

def Anchor.toText : Anchor → Text
  | .none => []
  | .root => [0x2F]
  | .doubleRoot => [0x2F, 0x2F]

structure Path where
  anchor : Anchor
  parts : List Text
  deriving DecidableEq, Repr

namespace Path

def slash : Nat := 0x2F

def dot : Text := [0x2E]

def dotDot : Text := [0x2E, 0x2E]

def partsOf (t : Text) : List Text := (t.splitOn slash).filter fun p => !(p.isEmpty || p == dot)

def anchorOf : Text → Anchor
  | 0x2F :: 0x2F :: 0x2F :: _ => .root
  | 0x2F :: 0x2F :: _ => .doubleRoot
  | 0x2F :: _ => .root
  | _ => .none

def ofText (t : Text) : Path := ⟨anchorOf t, partsOf t⟩

def toText (p : Path) : Text :=
  if p.anchor = .none ∧ p.parts = [] then dot
  else p.anchor.toText ++ Text.joinWith [slash] p.parts

def below (p : Path) (parts : List Text) : Path := { p with parts := p.parts ++ parts }

end Path

abbrev Location := List Text

namespace Location

def toText (l : Location) : Text := Path.slash :: Text.joinWith [Path.slash] l

def toUrl (l : Location) : Except Utf8.Unencodable Text :=
  (Utf8.encodeName? (toText l)).map fun bs => text "file://" ++ Url.Percent.encode bs

end Location
end ResourceLookup
