import ResourceLookup.Charset.Names

/-!
# Charsets by name

A charset is asked for under many spellings. Letters count without their case, and each
run of other characters than letters, digits and the full stop counts as one low line,
which is dropped at both ends. What results is looked up among the other names, there also
with low lines for full stops, and among the charsets' own.
-/

namespace ResourceLookup
namespace Charset

def isNameCharacter (c : Nat) : Bool :=
  Text.isAsciiLetter c || Text.isDecimalDigit c || c == 0x2E

def normalizeAfter (gap : Bool) : Text → Text
  | [] => []
  | c :: r =>
    if isNameCharacter c then
      (if gap then [0x5F] else []) ++ Text.asciiLower [c] ++ normalizeInside r
    else normalizeAfter gap r
where
  normalizeInside : Text → Text
    | [] => []
    | c :: r =>
      if isNameCharacter c then Text.asciiLower [c] ++ normalizeInside r
      else normalizeAfter true r

def normalize (t : Text) : Text := normalizeAfter false t

def listed? {α : Type} (names : List (Char × List (String × α))) (t : Text) : Option α :=
  (names.find? fun g => t.head? == some g.1.toNat).bind fun g =>
    (g.2.find? fun p => text p.1 == t).map (·.2)

def byName? (t : Text) : Option Charset :=
  let n := normalize t
  let underscored := n.map fun c => if c = 0x2E then 0x5F else c
  match listed? otherNames n <|> listed? otherNames underscored with
  | some own => listed? ownNames (text own)
  | none => listed? ownNames n

def lookup (t : Text) : Except Fault Charset :=
  if t.contains 0 then .error (.valueError (text "embedded null character"))
  else
    match Utf8.encode? t with
    | .error u => .error (.ofUnencodable u)
    | .ok _ =>
      match byName? t with
      | some c => .ok c
      | none => .error (.lookupError (text "unknown encoding: " ++ t))

/-- The charset that a reader uses for a name. -/
def lookupTextual (t : Text) : Except Fault Charset :=
  match lookup t with
  | .error f => .error f
  | .ok c =>
    if c.isTextual then .ok c
    else
      .error (.lookupError ([Text.singleQuote] ++ t ++
        text "' is not a text encoding; use codecs.open() to handle arbitrary codecs"))

def parse (t : Option Text) : Except Fault (Option Text) :=
  match t with
  | none | some [] => .ok none
  | some t => (lookup t).map fun c => some c.name

end Charset
end ResourceLookup
