import ResourceLookup.Base64
import ResourceLookup.FileTree
import ResourceLookup.Text.Case
import ResourceLookup.Text.DecimalDigits
import ResourceLookup.Url.Outside
import ResourceLookup.Url.Split

/-!
# Opening addresses

An address is trimmed and unwrapped, its fragment is set aside, and its scheme decides.
A data address carries its octets, plain or in base 64. A file address is opened on this
host alone, and that is checked after the file was found. No connection is ever made: an
address of a network scheme is checked as far as it would be before, and then refused.
-/

namespace ResourceLookup.Url

open Text

def blanks : Ranges :=
  [(0x09, 0x0D), (0x1C, 0x20), (0x85, 0x85), (0xA0, 0xA0), (0x1680, 0x1680), (0x2000, 0x200A),
   (0x2028, 0x2029), (0x202F, 0x202F), (0x205F, 0x205F), (0x3000, 0x3000)]

def strip (t : Text) : Text := trim blanks.holds t

def unwrap (t : Text) : Text :=
  let u := strip t
  let v :=
    if 2 ≤ u.length && u.head? == some 0x3C && u.getLast? == some 0x3E then
      strip (u.drop 1).dropLast
    else u
  match after? (text "URL:") v with
  | some w => strip w
  | none => v

structure Request where
  /-- The address with its fragment, unless that is empty. -/
  full : Text
  scheme : Text
  host : Option Text
  selector : Text
  deriving DecidableEq, Repr

def requestScheme? (t : Text) : Option (Text × Text) :=
  match t.cutFirst 0x3A with
  | some (s, rest) => if s.isEmpty || s.contains 0x2F then none else some (lower s, rest)
  | none => none

def splitHost : Text → Option Text × Text
  | 0x2F :: 0x2F :: r =>
    let rest := r.dropWhile fun c => !endsAuthority c
    (some (r.takeWhile fun c => !endsAuthority c),
      if rest.isEmpty || rest.head? == some 0x2F then rest else 0x2F :: rest)
  | t => (none, t)

def request (url : Text) : Except Fault Request :=
  let u := unwrap url
  let cut := u.cutLast 0x23
  let address := match cut with | some p => p.1 | none => u
  let full := match cut with | some (a, f) => if f.isEmpty then a else u | none => u
  match requestScheme? address with
  | none => .error (.valueError (text "unknown url type: " ++ full.quoted))
  | some (scheme, rest) =>
    match split full with
    | .error f => .error f
    | .ok _ =>
      let h := splitHost rest
      .ok ⟨full, scheme, h.1.map Percent.decodeText, h.2⟩

def isSpaceOrTab (c : Nat) : Bool := c == 0x20 || c == 0x09

def mediaLine : Text → Text
  | [] => []
  | c :: r =>
    if c = 0x0D ∨ c = 0x0A then
      match r with
      | [] => []
      | d :: r' =>
        if c = 0x0D ∧ d = 0x0A then
          if (r'.head?.map isSpaceOrTab).getD false then c :: d :: mediaLine r' else []
        else if isSpaceOrTab d then c :: mediaLine (d :: r')
        else []
    else c :: mediaLine r

def isStandIn (c : Nat) : Bool := 0xDC80 ≤ c && c ≤ 0xDCFF

/-- The first run beyond ASCII that does not consist of stand-ins, from where these end. -/
def firstForeign? (position : Nat) (t : Text) : Option Unwritable :=
  match t.dropWhile fun c => c < 0x80 || isStandIn c with
  | [] => none
  | c :: r =>
    some ⟨text "ascii", position + (t.length - (c :: r).length),
      ((c :: r).takeWhile (0x80 ≤ ·)).length, c, text "ordinal not in range(128)"⟩

def isWordCharacter (c : Nat) : Bool := isAsciiLetter c || isDecimalDigit c || c == 0x5F

/-- The sections of a header value, cut at the semicolons outside quotes. A quote behind a
backslash neither opens nor closes. -/
def sections : (quoted escaped : Bool) → Text → List Text
  | _, _, [] => [[]]
  | quoted, escaped, c :: r =>
    if c = 0x3B ∧ !quoted then [] :: sections false false r
    else
      match sections (if c = 0x22 ∧ !escaped then !quoted else quoted) (c = 0x5C) r with
      | [] => [[c]]
      | p :: ps => (c :: p) :: ps

def parameterName (t : Text) : Text :=
  match t.cutFirst 0x3D with
  | some (name, _) => lower (strip name)
  | none => strip t

/-- A parameter that is given in parts, or in a code of its own: its name before the first
star, and the number of the part if there is one. -/
def part? (name : Text) : Option (Text × Option Text) :=
  match name.cutFirst 0x2A with
  | some (base, mark) =>
    let digits := if mark.getLast? = some 0x2A then mark.dropLast else mark
    if base.isEmpty || !base.all isWordCharacter then none
    else if mark.isEmpty then some (base, none)
    else if !digits.isEmpty && digits.all isDecimalDigit then some (base, some digits)
    else none
  | none => none

def digitLimit : Nat := 4300

def tooManyDigits (digits : Text) : Fault :=
  .valueError (text "Exceeds the limit (" ++ decimal digitLimit ++
    text " digits) for integer string conversion: value has " ++ decimal digits.length ++
    text " digits; use sys.set_int_max_str_digits() to increase the limit")

def parts (t : Text) : List (Text × Option Text) :=
  ((sections false false t).drop 1).filterMap fun s => part? (parameterName s)

/-- The parts of a parameter are put in the order of their numbers, few of them by insertion. A
part without a number does not compare with one that has one. -/
def partsFlaw? (t : Text) : Option Fault :=
  match ((parts t).filterMap (·.2)).find? (digitLimit < ·.length) with
  | some digits => some (tooManyDigits digits)
  | none =>
    let mixed := (parts t).find? fun p =>
      (parts t).any fun q => q.1 == p.1 && q.2.isSome != p.2.isSome
    mixed.map fun p =>
      .typeError (text "'<' not supported between instances of " ++
        if p.2.isSome then text "'NoneType' and 'int'" else text "'int' and 'NoneType'")

def isMultipart (t : Text) : Bool :=
  match (lower (strip (t.takeWhile (· ≠ 0x3B)))).splitOn 0x2F with
  | [main, _] => main == text "multipart"
  | _ => false

def mediaValue (mediaType : Text) : Text := (mediaLine mediaType).dropWhile isSpaceOrTab

/-- With surrogates a media type must be ASCII but for stand-ins, and the parts of the parameters
of a type of several parts must compare. -/
def mediaFlaw? (mediaType : Text) : Option Fault :=
  let t := mediaValue mediaType
  (if t.any isSurrogate then (firstForeign? 0 t).map .unwritable else none) <|>
    if isMultipart t then partsFlaw? t else none

def isSimple (mediaType : Text) : Bool :=
  mediaLine mediaType == mediaType && !isMultipart (mediaValue mediaType)

def headersFault? (outside : Outside) (mediaType : Text) : Option Fault :=
  mediaFlaw? mediaType <|> if isSimple mediaType then none else outside.headersFault? mediaType

def openPayload (inLetters : Bool) (payload : Text) : Except Fault Octets :=
  match Percent.octets? payload with
  | .error u => .error (.ofUnencodable u)
  | .ok bs =>
    if inLetters then
      match Base64.decode (bs.map UInt8.toNat) with
      | .ok r => .ok r
      | .error .padding => .error (.raised "Error" (some (text "Incorrect padding")) .none)
      | .error (.oneLetter n) =>
        .error (.raised "Error"
          (some (text "Invalid base64-encoded string: number of data characters (" ++
            decimal n ++ text ") cannot be 1 more than a multiple of 4")) .none)
    else .ok bs

def lettersMark : Text := text ";base64"

def openData (outside : Outside) (full : Text) : Except Fault Octets :=
  let data := match full.cutFirst 0x3A with | some p => p.2 | none => full
  match data.cutFirst 0x2C with
  | none => .error (.valueError (text "not enough values to unpack (expected 2, got 1)"))
  | some (mediaType, payload) =>
    let inLetters := lettersMark.isSuffixOf mediaType
    match openPayload inLetters payload with
    | .error f => .error f
    | .ok bs =>
      let media := if inLetters then mediaType.take (mediaType.length - lettersMark.length)
        else mediaType
      match headersFault? outside media with
      | some f => .error f
      | none => .ok bs

def splitDigits (host : Text) : Text × Text :=
  match host.cutLast 0x3A with
  | some (h, p) => if p.all isDecimalDigit then (h, p) else (host, [])
  | none => (host, [])

/-- A host that is named must be this one, and without a port. -/
def checkHost (outside : Outside) (host : Text) : Except Fault Unit :=
  let foreign := .error (.openFailed (text "file not on local host"))
  let (name, digits) := splitDigits host
  if name.isEmpty then .ok ()
  else if !digits.isEmpty then foreign
  else
    match resolve outside name with
    | .error f => .error f
    | .ok address? => if address?.any outside.isOwnAddress then .ok () else foreign

def openLocal (tree : FileTree) (cwd : Location) (outside : Outside) (r : Request) :
    Except Fault Octets :=
  let path := Percent.decodeText r.selector
  match Utf8.encodeName? path with
  | .error u => .error (.ofUnencodable u)
  | .ok _ =>
    if path.contains 0 then .error .embeddedNull
    else
      match tree.locate cwd path with
      | .error why => .error (.openRefused (.refused why (some path)))
      | .ok (_, entry) =>
        match split r.selector with
        | .error f => .error f
        | .ok _ =>
          match checkHost outside (r.host.getD []) with
          | .error f => .error f
          | .ok _ =>
            if entry.isDirectory then
              .error (.openRefused (.refused .isDirectory (some path)))
            else .ok entry.toOctets

/-- A selector that again begins with two slashes is opened for this host alone. -/
def Request.isBarred (r : Request) : Bool :=
  let host := r.host.getD []
  (text "//").isPrefixOf r.selector && (r.selector.drop 2).head? != some 0x2F && !host.isEmpty &&
    host != text "localhost"

def openFile (tree : FileTree) (cwd : Location) (outside : Outside) (r : Request) :
    Except Fault Octets :=
  if r.isBarred then
    if outside.isOwnAddress (r.host.getD []) then
      .error (.openFailed (text "unknown url type: file"))
    else .error (.openFailed (text "file:// scheme is supported only on localhost"))
  else openLocal tree cwd outside r

def isControl (c : Nat) : Bool := c ≤ 0x20 || c == 0x7F

/-- Blank code points around a number; of the separators, ASCII alone has fewer. -/
def isBlankAround (t : Text) (c : Nat) : Bool :=
  if t.isAscii then (0x09 ≤ c && c ≤ 0x0D) || c == 0x20 else blanks.holds c

/-- A number after a sign, with single low lines between its digits. -/
def serviceNumber? (t : Text) : Option Int :=
  let u := trim (isBlankAround t) t
  let digits :=
    match u with
    | c :: r => if c = 0x2B ∨ c = 0x2D then r else u
    | [] => []
  if ((digits.splitOn 0x5F).all fun g => !g.isEmpty && g.all isAnyDigit) &&
      (digits.filter (· ≠ 0x5F)).length ≤ digitLimit then
    let n := (digits.filter (· ≠ 0x5F)).foldl (fun n c => n * 10 + digitValue c) 0
    some (if u.head? = some 0x2D then -(n : Int) else n)
  else none

def controlFlaw? (t : Text) : Option Fault :=
  (t.find? isControl).map fun c =>
    .invalidUrl (text "URL can't contain control characters. " ++ t.quoted ++
      text " (found at least " ++ quoted [c] ++ text ")")

def beyond? (codec : String) (bound : Nat) (t : Text) : Option Fault :=
  match t.dropWhile (· < bound) with
  | [] => none
  | c :: r =>
    some (.unwritable ⟨text codec, t.length - (c :: r).length,
      ((c :: r).takeWhile (bound ≤ ·)).length, c,
      text "ordinal not in range(" ++ decimal bound ++ text ")"⟩)

def breaksLine : Text → Bool
  | [] => false
  | c :: r =>
    (c == 0x0A && !(r.head?.map isSpaceOrTab).getD false) ||
      (c == 0x0D && !(r.head?.map fun d => isSpaceOrTab d || d == 0x0A).getD false) ||
      breaksLine r

def headerFlaw? (host : Text) : Option Fault :=
  if breaksLine host then
    some (.valueError (text "Invalid header value " ++ quotedOctets host))
  else none

def withoutBrackets (host : Text) : Text :=
  if host.head? == some 0x5B && host.getLast? == some 0x5D then (host.drop 1).dropLast else host

/-- The host without brackets, and the port after its last colon. -/
def connection (host : Text) : Except Fault (Text × Option Int) :=
  match host.cutLast 0x3A with
  | some (h, number) =>
    if number.contains 0x5D then .ok (withoutBrackets host, none)
    else if number.isEmpty then .ok (withoutBrackets h, none)
    else
      match serviceNumber? number with
      | some n => .ok (withoutBrackets h, some n)
      | none => .error (.invalidUrl (text "nonnumeric port: '" ++ number ++ text "'"))
  | none => .ok (withoutBrackets host, none)

def Request.target (r : Request) : Text := if r.selector.isEmpty then [0x2F] else r.selector

def sendingFlaw? (host target : Text) : Option Fault :=
  beyond? "ascii" 128 (text "GET " ++ target ++ text " HTTP/1.1") <|>
    (beyond? "latin-1" 256 host <|> headerFlaw? host)

def portFlaw? (port : Option Int) : Option Fault :=
  if port.all isWord then none else some .portOverflow

def unreachable : Fault := .openRefused (.refused .connectionRefused none)

/-- Why an address of the hypertext schemes is not opened. -/
def hypertextFault (outside : Outside) (r : Request) : Fault :=
  match r.host with
  | none | some [] => .openFailed (text "no host given")
  | some host =>
    match connection host with
    | .error f => f
    | .ok (h, port) =>
      ((controlFlaw? h <|> controlFlaw? r.target) <|>
        (sendingFlaw? host r.target <|> (nameFlaw? outside h <|> portFlaw? port))).getD unreachable

def hostName (host : Text) : Text :=
  Percent.decodeText (match host.cutLast 0x40 with | some p => p.2 | none => host)

def transferFault (outside : Outside) (r : Request) : Fault :=
  match r.host with
  | none | some [] => .openFailed (text "ftp error: no host given")
  | some host =>
    let (rest, digits) := splitDigits host
    if digitLimit < digits.length then tooManyDigits digits
    else
      match resolve outside (hostName rest) with
      | .error f => f
      | .ok none => .openRefused .nameUnknown
      | .ok (some _) =>
        (portFlaw? (some (HostAddress.number digits : Nat))).getD unreachable

inductive Source
  | memory
  | file
  deriving DecidableEq, Repr

def openRequest (tree : FileTree) (cwd : Location) (outside : Outside) (r : Request) :
    Except Fault (Source × Octets) :=
  if r.scheme = text "data" then (openData outside r.full).map (Source.memory, ·)
  else if r.scheme = text "file" then (openFile tree cwd outside r).map (Source.file, ·)
  else if r.scheme = text "http" ∨ r.scheme = text "https" then .error (hypertextFault outside r)
  else if r.scheme = text "ftp" then .error (transferFault outside r)
  else .error (.openFailed (text "unknown url type: " ++ r.scheme))

def isReported (f : Fault) : Bool := f.isA "OSError" || f.isA "ValueError"

def openUrl (tree : FileTree) (cwd : Location) (url : Text) (outside : Outside := .plain) :
    Except Fault (Source × Octets) :=
  match request url with
  | .error f => .error (if isReported f then .urlConnection url f else f)
  | .ok r =>
    match openRequest tree cwd outside r with
    | .ok a => .ok a
    | .error f => .error (if isReported f then .urlConnection url f else f)

end ResourceLookup.Url
