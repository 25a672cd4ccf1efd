import ResourceLookup.Text.Utf8

/-!
# Percent encoding

An octet that may not stand in an address is written as a percent sign and two
hexadecimal digits. Reading leaves a percent sign alone that no two digits follow.
-/

namespace ResourceLookup.Url.Percent

open Text

def sign : Nat := 0x25

def isPlain (b : UInt8) : Bool :=
  isAsciiLetter b.toNat || isDecimalDigit b.toNat || b.toNat == 0x5F || b.toNat == 0x2E ||
    b.toNat == 0x2D || b.toNat == 0x7E || b.toNat == 0x2F

def encodeOctet (b : UInt8) : Text :=
  if isPlain b then [b.toNat] else sign :: hexadecimal true 2 b.toNat

def encode (bs : Octets) : Text := bs.flatMap encodeOctet

def decode : Octets → Octets
  | [] => []
  | p :: r =>
    if p.toNat = sign then
      match r with
      | a :: b :: r' =>
        match hexValue? a.toNat, hexValue? b.toNat with
        | some x, some y => UInt8.ofNat (x * 16 + y) :: decode r'
        | _, _ => p :: decode (a :: b :: r')
      | r => p :: decode r
    else p :: decode r
  termination_by bs => bs.length

def octets? (t : Text) : Except Utf8.Unencodable Octets := (Utf8.encode? t).map decode

/-- The text that a text with percent signs stands for: each run of ASCII is read as UTF-8
on its own, and what is not UTF-8 gives replacement characters. -/
def decodeText (t : Text) : Text :=
  if t.contains sign then run [] t else t
where
  /-- `held` is the ASCII run read so far, last first. -/
  run (held : Octets) : Text → Text
    | [] => flush held
    | c :: r => if c < 0x80 then run (UInt8.ofNat c :: held) r else flush held ++ c :: run [] r
  flush (held : Octets) : Text := Utf8.decodeReplacing (decode held.reverse)

end ResourceLookup.Url.Percent
