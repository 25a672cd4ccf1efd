import ResourceLookup.Charset

/-!
# Decoding piece by piece

A decoder takes octets as they come. What may still become a character with more octets
is kept back, unless the octets are the last ones. The forms with a byte order mark decide
on their order at the first two or four octets and refuse to go on without a mark.
-/

namespace ResourceLookup

inductive ByteOrder
  | little
  | big
  deriving DecidableEq, Repr

inductive OctetTable
  | ascii
  | latin1
  | latin9
  | windows1252
  deriving DecidableEq, Repr

namespace OctetTable

/-- The characters of `0x80` to `0x9F`; a zero marks an octet without one. -/
def windowsUpper : List Nat :=
  [0x20AC, 0, 0x201A, 0x0192, 0x201E, 0x2026, 0x2020, 0x2021, 0x02C6, 0x2030, 0x0160, 0x2039,
   0x0152, 0, 0x017D, 0, 0, 0x2018, 0x2019, 0x201C, 0x201D, 0x2022, 0x2013, 0x2014, 0x02DC,
   0x2122, 0x0161, 0x203A, 0x0153, 0, 0x017E, 0x0178]

def latin9Changes : List (Nat × Nat) :=
  [(0xA4, 0x20AC), (0xA6, 0x160), (0xA8, 0x161), (0xB4, 0x17D), (0xB8, 0x17E), (0xBC, 0x152),
   (0xBD, 0x153), (0xBE, 0x178)]

def point? : OctetTable → UInt8 → Option Nat
  | ascii, b => if b.toNat < 0x80 then some b.toNat else none
  | latin1, b => some b.toNat
  | latin9, b =>
    match latin9Changes.find? (·.1 = b.toNat) with
    | some p => some p.2
    | none => some b.toNat
  | windows1252, b =>
    if 0x80 ≤ b.toNat ∧ b.toNat < 0xA0 then
      match windowsUpper.getD (b.toNat - 0x80) 0 with
      | 0 => none
      | c => some c
    else some b.toNat

def codec : OctetTable → Text
  | ascii => text "ascii"
  | _ => text "charmap"

def reason : OctetTable → Text
  | ascii => text "ordinal not in range(128)"
  | _ => text "character maps to <undefined>"

def decodeFrom (table : OctetTable) (place : Nat) : Octets → Except Fault Text
  | [] => .ok []
  | b :: r =>
    match table.point? b with
    | none => .error (.undecodable ⟨table.codec, place, 1, b.toNat, table.reason⟩)
    | some c => (decodeFrom table (place + 1) r).map (c :: ·)

end OctetTable

namespace Wide

def unit16 (order : ByteOrder) (a b : UInt8) : Nat :=
  match order with
  | .little => a.toNat + b.toNat * 0x100
  | .big => a.toNat * 0x100 + b.toNat

def unit32 (order : ByteOrder) (a b c d : UInt8) : Nat :=
  match order with
  | .little => unit16 .little a b + unit16 .little c d * 0x10000
  | .big => unit16 .big a b * 0x10000 + unit16 .big c d

def codec16 : ByteOrder → Text
  | .little => text "utf-16-le"
  | .big => text "utf-16-be"

def codec32 : ByteOrder → Text
  | .little => text "utf-32-le"
  | .big => text "utf-32-be"

abbrev Step := Except Fault (Text × Octets)

def Step.prepend (c : Nat) (s : Step) : Step := s.map fun p => (c :: p.1, p.2)

def flaw (codec : Text) (place length : Nat) (b : UInt8) (reason : String) : Step :=
  .error (.undecodable ⟨codec, place, length, b.toNat, text reason⟩)

/-- The octets that do not make a unit: kept back, or at fault when they are the last. -/
def leftover (codec : Text) (final : Bool) (place : Nat) (rest : Octets) (reason : String) : Step :=
  match rest with
  | [] => .ok ([], [])
  | b :: _ => if final then flaw codec place rest.length b reason else .ok ([], rest)

def decode16 (order : ByteOrder) (final : Bool) (place : Nat) : Octets → Step
  | a :: b :: r =>
    let u := unit16 order a b
    if Text.isHigh u then
      match r with
      | c :: d :: r' =>
        let v := unit16 order c d
        if Text.isLow v then
          Step.prepend (Text.pair u v) (decode16 order final (place + 4) r')
        else flaw (codec16 order) place 2 a "illegal UTF-16 surrogate"
      | _ => leftover (codec16 order) final place (a :: b :: r) "unexpected end of data"
    else if Text.isLow u then flaw (codec16 order) place 2 a "illegal encoding"
    else Step.prepend u (decode16 order final (place + 2) r)
  | rest => leftover (codec16 order) final place rest "truncated data"

def decode32 (order : ByteOrder) (final : Bool) (place : Nat) : Octets → Step
  | a :: b :: c :: d :: r =>
    let u := unit32 order a b c d
    if Text.isSurrogate u then
      flaw (codec32 order) place 4 a "code point in surrogate code point range(0xd800, 0xe000)"
    else if u < 0x110000 then Step.prepend u (decode32 order final (place + 4) r)
    else flaw (codec32 order) place 4 a "code point not in range(0x110000)"
  | rest => leftover (codec32 order) final place rest "truncated data"

end Wide

namespace Utf8

def Flaw.reason : Flaw → String
  | .badStart => "invalid start byte"
  | .badContinuation => "invalid continuation byte"
  | .cutShort => "unexpected end of data"

def decodeStrict (final : Bool) (bs : Octets) : Wide.Step :=
  let d := decode bs
  match d.stop, d.rest with
  | some (kind, n), b :: _ =>
    if kind = .cutShort ∧ final = false then .ok (d.text, d.rest)
    else Wide.flaw (text "utf-8") (bs.length - d.rest.length) n b kind.reason
  | _, _ => .ok (d.text, [])

def mark : Octets := [0xEF, 0xBB, 0xBF]

end Utf8

/-- What the runtime's own decoders make of octets, which may be the last ones, by the name of their
charset and a state: text, the octets kept back and the next state. -/
abbrev OutsideDecoders :=
  (name : String) → (state : Nat) → (final : Bool) → Octets → Except Fault (Text × Octets × Nat)

/-- By default an octet is the character of its number. -/
def OutsideDecoders.plain : OutsideDecoders := fun _ state _ bs =>
  .ok (bs.map UInt8.toNat, [], state)

inductive Decoder
  | table (t : OctetTable)
  | utf8
  /-- Nothing was decided about a mark yet. -/
  | utf8Marked
  | wide16 (order : ByteOrder)
  | wide32 (order : ByteOrder)
  | wide16Marked
  | wide32Marked
  | outside (name : String) (state : Nat)
  deriving DecidableEq, Repr

namespace Decoder

def ofCharset : Charset → Decoder
  | .utf8 => utf8
  | .utf8Marked => utf8Marked
  | .utf16 => wide16Marked
  | .utf16le => wide16 .little
  | .utf16be => wide16 .big
  | .utf32 => wide32Marked
  | .utf32le => wide32 .little
  | .utf32be => wide32 .big
  | .ascii => table .ascii
  | .latin9 => table .latin9
  | .windows1252 => table .windows1252
  | .latin1 | .rotated | .hexadecimal | .base64 => table .latin1
  | .other n => outside n 0

structure Output where
  text : Text
  kept : Octets
  decoder : Decoder

def unmarked (family : String) : Fault :=
  .raised "UnicodeError" (some (text family ++ text " stream does not start with BOM")) .none

def output (next : Decoder) (s : Wide.Step) : Except Fault Output :=
  s.map fun p => ⟨p.1, p.2, next⟩

/-- Without a mark the octets are first read in the little order; where that takes any, the
missing mark is the fault. -/
def withoutMark (self : Decoder) (family : String) (whole : Bool) (s : Wide.Step) :
    Except Fault Output :=
  match s with
  | .error f => .error f
  | .ok p => if whole then .error (unmarked family) else .ok ⟨p.1, p.2, self⟩

def decode (decoders : OutsideDecoders) (d : Decoder) (final : Bool) (bs : Octets) :
    Except Fault Output :=
  match d with
  | outside n state => (decoders n state final bs).map fun p => ⟨p.1, p.2.1, outside n p.2.2⟩
  | table t => output d ((t.decodeFrom 0 bs).map fun t => (t, []))
  | utf8 => output d (Utf8.decodeStrict final bs)
  | utf8Marked =>
    if bs.length < 3 then
      if bs.isPrefixOf Utf8.mark then .ok ⟨[], bs, d⟩ else output utf8 (Utf8.decodeStrict final bs)
    else if Utf8.mark.isPrefixOf bs then output utf8 (Utf8.decodeStrict final (bs.drop 3))
    else output utf8 (Utf8.decodeStrict final bs)
  | wide16 o => output d (Wide.decode16 o final 0 bs)
  | wide32 o => output d (Wide.decode32 o final 0 bs)
  | wide16Marked =>
    match bs with
    | a :: b :: r =>
      if Wide.unit16 .little a b = 0xFEFF then
        output (wide16 .little) (Wide.decode16 .little final 2 r)
      else if Wide.unit16 .little a b = 0xFFFE then
        output (wide16 .big) (Wide.decode16 .big final 2 r)
      else
        let s := Wide.decode16 .little final 0 bs
        withoutMark d "UTF-16" (match s with | .ok p => bs.length - p.2.length ≥ 2 | _ => true) s
    | _ => output d (Wide.decode16 .little final 0 bs)
  | wide32Marked =>
    match bs with
    | a :: b :: c :: e :: r =>
      if Wide.unit32 .little a b c e = 0xFEFF then
        output (wide32 .little) (Wide.decode32 .little final 4 r)
      else if Wide.unit32 .little a b c e = 0xFFFE0000 then
        output (wide32 .big) (Wide.decode32 .big final 4 r)
      else
        let s := Wide.decode32 .little final 0 bs
        withoutMark d "UTF-32" (match s with | .ok p => bs.length - p.2.length ≥ 4 | _ => true) s
    | _ => output d (Wide.decode32 .little final 0 bs)

end Decoder
end ResourceLookup
