import Mathlib
import ResourceLookup.Proofs.Chain.Address
import ResourceLookup.Proofs.Streams.Reading
import ResourceLookup.Proofs.Url.DataAddress

/-!
# How opening an address fails

The opener goes through an address in stages, and each stage has its own faults. Those of the file
system and those about values are reported as a failed connection. The others end the opening as
they are. Where a connection is begun, a port that is no number and a character that cannot be sent
are refused with a fault of the connection's own kind, and a port that is no word overflows. Where a
host is looked up, its name may hold a null. Where a media type is read, the numbers of the parts of
a parameter are compared, also with no number, and the headers that follow it may be at fault.
-/

namespace ResourceLookup

namespace Url

open Text

variable {α β : Type} {tree : FileTree} {cwd : Location} {outside : Outside} {r : Request}
  {name : Text} {f : Fault}

def opened (tree : FileTree) (cwd : Location) (outside : Outside) (url : Text) :
    Except Fault (Source × Octets) :=
  match request url with
  | .error f => .error f
  | .ok r => openRequest tree cwd outside r

def Reported (x : Except Fault α) : Prop := ∀ f, x = .error f → isReported f = true

theorem Reported.ok (a : α) : Reported (.ok a) := by
  intro f h
  cases h

theorem Reported.error (h : isReported f = true) : Reported (.error f : Except Fault α) := by
  intro g hg
  cases hg
  exact h

theorem Reported.map {x : Except Fault α} (h : Reported x) (g : α → β) : Reported (x.map g) := by
  cases x with
  | ok a => exact .ok (g a)
  | error f => exact .error (h f rfl)

/-! ## The address -/

def HasNull (outside : Outside) (name : Text) : Prop := nameFlaw? outside name = none ∧ 0 ∈ name

structure Request.LooksUp (tree : FileTree) (cwd : Location) (r : Request) (name : Text) : Prop where
  allowed : r.isBarred = false
  nameable : ∃ bs, Utf8.encodeName? (Percent.decodeText r.selector) = .ok bs
  unended : 0 ∉ Percent.decodeText r.selector
  located : ∃ found, tree.locate cwd (Percent.decodeText r.selector) = .ok found
  divides : ∃ s, split r.selector = .ok s
  host : splitDigits (r.host.getD []) = (name, [])
  named : name ≠ []

structure Incomparable (t : Text) : Prop where
  written : t.any isSurrogate = true → ∀ c ∈ t, c < 0x80 ∨ isStandIn c
  multipart : isMultipart t = true
  short : ∀ p ∈ parts t, ∀ digits ∈ p.2, digits.length ≤ digitLimit
  mixed : ∃ p ∈ parts t, ∃ q ∈ parts t, q.1 = p.1 ∧ q.2.isSome ≠ p.2.isSome

def afterColon (full : Text) : Text :=
  match full.cutFirst 0x3A with
  | some p => p.2
  | none => full

def unmarked (mediaType : Text) : Text :=
  if lettersMark.isSuffixOf mediaType then
    mediaType.take (mediaType.length - lettersMark.length)
  else mediaType

def HasType (full mediaType : Text) : Prop :=
  ∃ marked payload bs, (afterColon full).cutFirst 0x2C = some (marked, payload) ∧
    openPayload (lettersMark.isSuffixOf marked) payload = .ok bs ∧ unmarked marked = mediaType

/-- A type that goes on over several lines or has a boundary, and whose own value is in order, but
reading all of it ends in a fault. -/
structure Misread (outside : Outside) (mediaType : Text) (f : Fault) : Prop where
  plain : mediaFlaw? mediaType = none
  long : isSimple mediaType = false
  faulty : outside.headersFault? mediaType = some f

def HasBadPort (host : Text) : Prop :=
  ∃ h number, host.cutLast 0x3A = some (h, number) ∧ 0x5D ∉ number ∧ number ≠ [] ∧
    serviceNumber? number = none

def Request.Unfit (r : Request) : Prop :=
  ∃ host, r.host = some host ∧ host ≠ [] ∧
    (HasBadPort host ∨
      ∃ h port, connection host = .ok (h, port) ∧ ∃ c ∈ h ++ r.target, isControl c = true)

def Request.Overflows (outside : Outside) (r : Request) : Prop :=
  ∃ host h n, r.host = some host ∧ host ≠ [] ∧ connection host = .ok (h, some n) ∧
    (∀ c ∈ h ++ r.target, isControl c = false) ∧ sendingFlaw? host r.target = none ∧
    nameFlaw? outside h = none ∧ isWord n = false

structure Request.Transfers (r : Request) (name digits : Text) : Prop where
  host : ∃ host rest, r.host = some host ∧ host ≠ [] ∧ splitDigits host = (rest, digits) ∧
    hostName rest = name
  short : digits.length ≤ digitLimit

def HasLongPort (outside : Outside) (name digits : Text) : Prop :=
  (∃ address, resolve outside name = .ok (some address)) ∧
    isWord (HostAddress.number digits : Nat) = false

/-- The addresses whose opening fails with a fault that is not reported, and the kind of the
fault. -/
inductive Unreported (tree : FileTree) (cwd : Location) (outside : Outside) (url : Text) :
    (kind : String) → Prop
  | connection {r : Request} (asks : request url = .ok r)
      (hypertext : r.scheme = text "http" ∨ r.scheme = text "https") (unfit : r.Unfit) :
      Unreported tree cwd outside url "InvalidURL"
  | port {r : Request} (asks : request url = .ok r)
      (hypertext : r.scheme = text "http" ∨ r.scheme = text "https")
      (overflows : r.Overflows outside) : Unreported tree cwd outside url "OverflowError"
  | transferPort {r : Request} {name digits : Text} (asks : request url = .ok r)
      (transfer : r.scheme = text "ftp") (transfers : r.Transfers name digits)
      (long : HasLongPort outside name digits) : Unreported tree cwd outside url "OverflowError"
  | transferName {r : Request} {name digits : Text} (asks : request url = .ok r)
      (transfer : r.scheme = text "ftp") (transfers : r.Transfers name digits)
      (null : HasNull outside name) : Unreported tree cwd outside url "TypeError"
  | fileName {r : Request} {name : Text} (asks : request url = .ok r)
      (file : r.scheme = text "file") (looksUp : r.LooksUp tree cwd name)
      (null : HasNull outside name) : Unreported tree cwd outside url "TypeError"
  | mediaType {r : Request} {mediaType : Text} (asks : request url = .ok r)
      (data : r.scheme = text "data") (typed : HasType r.full mediaType)
      (incomparable : Incomparable (mediaValue mediaType)) :
      Unreported tree cwd outside url "TypeError"
  | headers {r : Request} {mediaType : Text} {f : Fault} (asks : request url = .ok r)
      (data : r.scheme = text "data") (typed : HasType r.full mediaType)
      (misread : Misread outside mediaType f) (raw : isReported f = false) :
      Unreported tree cwd outside url f.kind

def nestedType : Text := text "message/rfc822\n\nContent-type:multipart/x;a*=;a*0="

def nestedFault : Fault :=
  .typeError (text "'<' not supported between instances of 'int' and 'NoneType'")

def readNested (mediaType : Text) : Option Fault :=
  if mediaType = nestedType then some nestedFault else none

def reader : Outside := { Outside.plain with headersFault? := readNested }

end Url

namespace Access

open Lookup

variable {α : Type} {w : World} {url : Text} {e : Fault}

def EndsIn (work : Lookup α) (w : World) (e : Fault) : Prop := ∃ v, work w = .error e v

def opened (w : World) (url : Text) : Except Fault (Url.Source × Octets) :=
  Url.opened w.around.tree w.around.cwd w.around.outside url

def openUrl (w : World) (url : Text) : Except Fault (Url.Source × Octets) :=
  Url.openUrl w.around.tree w.around.cwd url w.around.outside

/-- Opening the address in this world fails with a fault of this kind that is not reported. -/
def Unreported (w : World) (url : Text) (kind : String) : Prop :=
  Url.Unreported w.around.tree w.around.cwd w.around.outside url kind

theorem EndsIn.bind {β : Type} {work : Lookup α} (h : EndsIn work w e) (k : α → Lookup β) :
    EndsIn (work >>= k) w e := by
  obtain ⟨v, hv⟩ := h
  exact ⟨v, bind_error hv⟩

def nowhere : World := .startIn { tree := [], cwd := [], outside := Url.reader }

end Access
end ResourceLookup
