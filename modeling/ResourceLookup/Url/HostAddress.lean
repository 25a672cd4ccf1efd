import ResourceLookup.Text

/-!
# Numeric host addresses

Four decimal octets without leading zeros, or up to eight groups of hexadecimal digits in
which one run of zero groups may be left out; the last two groups may be written as four
octets, and a zone may follow a percent sign.
-/

namespace ResourceLookup.Url.HostAddress

open Text

def number (t : Text) : Nat := t.foldl (fun n c => n * 10 + (c - 0x30)) 0

def isOctet (t : Text) : Bool :=
  !t.isEmpty && t.all isDecimalDigit && t.length ≤ 3 && (t.length == 1 || t.head? != some 0x30) &&
    number t ≤ 255

def isFourOctets (t : Text) : Bool :=
  let ps := t.splitOn 0x2E
  ps.length == 4 && ps.all isOctet

def isGroup (t : Text) : Bool :=
  !t.isEmpty && t.length ≤ 4 && t.all fun c => (hexValue? c).isSome

def isSide (open? : Bool) (groups : List Text) : Bool :=
  groups.all isGroup || (open? && groups == [[]])

def expanded? (ps : List Text) : Option (List Text) :=
  match ps.getLast? with
  | some l =>
    if l.contains 0x2E then
      if isFourOctets l then some (ps.dropLast ++ [[0x30], [0x30]]) else none
    else some ps
  | none => none

/-- Groups between colons: eight of them, or fewer around one inner empty group. -/
def areGroups (ps : List Text) : Bool :=
  let inner := (ps.drop 1).dropLast
  match inner.filter List.isEmpty with
  | [] => ps.length == 8 && ps.all isGroup
  | [_] =>
    let before := inner.takeWhile fun p => !p.isEmpty
    let after := (inner.dropWhile fun p => !p.isEmpty).drop 1
    let high := ps.take 1 ++ before
    let low := after ++ ps.drop (ps.length - 1)
    isSide true high && isSide true low &&
      (high.filter fun p => !p.isEmpty).length + (low.filter fun p => !p.isEmpty).length < 8
  | _ => false

def isGroups (t : Text) : Bool :=
  let body? : Option Text :=
    match t.cutFirst 0x25 with
    | none => some t
    | some (a, zone) => if zone.isEmpty || zone.contains 0x25 then none else some a
  match body? with
  | none => false
  | some a =>
    let ps := a.splitOn 0x3A
    3 ≤ ps.length &&
      match expanded? ps with
      | some qs => qs.length ≤ 9 && areGroups qs
      | none => false

end ResourceLookup.Url.HostAddress
