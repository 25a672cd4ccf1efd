import ResourceLookup.Properties.Line
import ResourceLookup.Text.Surrogate

/-!
# Key and value of a logical line

The key ends before the first separator or blank that no backslash escapes. Blanks and at
most one separator stand between key and value. An escape is a backslash and the character
after it; `u` takes four hexadecimal digits, and fewer than four make the line malformed.
-/

namespace ResourceLookup.Properties

open Text (hexValue? joinPairs)

def isSeparator (c : Nat) : Bool := c = 0x3D || c = 0x3A

/-- The key and what follows it; `escaped` says that a backslash stands just before. -/
def cutKey (escaped : Bool) : Text → Text × Text
  | [] => ([], [])
  | c :: r =>
    if escaped then let p := cutKey false r; (c :: p.1, p.2)
    else if c = backslash then let p := cutKey true r; (c :: p.1, p.2)
    else if isSeparator c || isBlank c then ([], c :: r)
    else let p := cutKey false r; (c :: p.1, p.2)

/-- What follows blanks and at most one separator; `separated` says that one was passed. -/
def skipSeparation (separated : Bool) : Text → Text
  | [] => []
  | c :: r =>
    if isBlank c then skipSeparation separated r
    else if isSeparator c && !separated then skipSeparation true r
    else c :: r

def cut (line : Text) : Text × Text :=
  let p := cutKey false line
  (p.1, skipSeparation false p.2)

def unescapeOne (c : Nat) : Nat :=
  if c = 0x74 then 0x09
  else if c = 0x6E then 0x0A
  else if c = 0x72 then 0x0D
  else if c = 0x66 then 0x0C
  else c

def hexQuad? (a b c d : Nat) : Option Nat := do
  let w ← hexValue? a
  let x ← hexValue? b
  let y ← hexValue? c
  let z ← hexValue? d
  pure (((w * 16 + x) * 16 + y) * 16 + z)

/-- The characters that a written key or value stands for, unit by unit; a backslash at
the end stands for nothing, and a malformed number gives none. -/
def unescapeUnits : Text → Option Text
  | [] => some []
  | c :: r =>
    if c = backslash then
      match r with
      | [] => some []
      | e :: r' =>
        if e = 0x75 then
          match r' with
          | a :: b :: x :: y :: r'' => do
            let n ← hexQuad? a b x y
            (unescapeUnits r'').map (n :: ·)
          | _ => none
        else (unescapeUnits r').map (unescapeOne e :: ·)
    else (unescapeUnits r).map (c :: ·)

/-- A supplementary character may be written as two numbers. -/
def unescape (t : Text) : Option Text := (unescapeUnits t).map joinPairs

end ResourceLookup.Properties
