import ResourceLookup.Text.Quoted
import ResourceLookup.Text.Utf8

/-!
# Faults

What a lookup can end in other than an answer. Five faults are this library's own; the
others come from the file system, from decoding, from addresses, or are raised by module
bodies and scripted resolvers, whose class may be one of their own. Kinds form a tree; an
interrupt and an exit stand outside the ordinary ones, and no lookup absorbs them.
-/

namespace ResourceLookup

inductive Refusal
  | noEntry
  | notDirectory
  | isDirectory
  | nameTooLong
  | tooManyLinks
  | connectionRefused
  deriving DecidableEq, Repr

namespace Refusal

def number : Refusal → Nat
  | noEntry => 2
  | notDirectory => 20
  | isDirectory => 21
  | nameTooLong => 36
  | tooManyLinks => 40
  | connectionRefused => 111

def reason : Refusal → Text
  | noEntry => text "No such file or directory"
  | notDirectory => text "Not a directory"
  | isDirectory => text "Is a directory"
  | nameTooLong => text "File name too long"
  | tooManyLinks => text "Too many levels of symbolic links"
  | connectionRefused => text "Connection refused"

def kind : Refusal → String
  | noEntry => "FileNotFoundError"
  | notDirectory => "NotADirectoryError"
  | isDirectory => "IsADirectoryError"
  | nameTooLong | tooManyLinks => "OSError"
  | connectionRefused => "ConnectionRefusedError"

end Refusal

structure Undecodable where
  codec : Text
  start : Nat
  length : Nat
  first : Nat
  reason : Text
  deriving DecidableEq, Repr

structure Unwritable where
  codec : Text
  start : Nat
  length : Nat
  first : Nat
  reason : Text
  deriving DecidableEq, Repr

/-- The class of what is raised: a kind of the language, which is its own base, or a class that
derives from such kinds. -/
structure FaultClass where
  name : String
  base : String
  others : List String
  deriving DecidableEq, Repr

instance : Coe String FaultClass := ⟨fun kind => ⟨kind, kind, []⟩⟩

/-- What an import fault says it is about. -/
inductive Subject
  | none
  | named (name : Text)
  /-- Not a text, but an object of the runtime, known by its number and written like this. -/
  | object (number : Nat) (written : Text)
  deriving DecidableEq, Repr

instance : Coe (Option Text) Subject :=
  ⟨fun
    | some name => .named name
    | none => .none⟩

inductive Fault
  | resourceNotFound (name : Text)
  | classNotFound (name : Text)
  /-- The module of a class was found and its body failed. -/
  | classLink (name : Text) (cause : Fault)
  | propertiesDecode (problem source : Text) (line : Nat)
  | urlConnection (url : Text) (cause : Fault)
  | raised (cls : FaultClass) (message : Option Text) (subject : Subject)
  | refused (why : Refusal) (path : Option Text)
  /-- The opener of addresses gave up. -/
  | openFailed (reason : Text)
  | openRefused (cause : Fault)
  /-- The source of a module does not parse. -/
  | unparsable (file : Text)
  | undecodable (d : Undecodable)
  | unwritable (u : Unwritable)
  /-- A cause that was not given. -/
  | unknown
  deriving DecidableEq, Repr

namespace Fault

def valueError (message : Text) : Fault := .raised "ValueError" (some message) .none

def typeError (message : Text) : Fault := .raised "TypeError" (some message) .none

def lookupError (message : Text) : Fault := .raised "LookupError" (some message) .none

def keyError (key : Text) : Fault := .raised "KeyError" (some key) .none

def invalidUrl (message : Text) : Fault := .raised "InvalidURL" (some message) .none

def moduleMissing (name : Text) (plain : Option Text) : Fault :=
  .raised "ModuleNotFoundError"
    (some (text "No module named " ++ name.quoted ++
      match plain with
      | some parent => text "; " ++ parent.quoted ++ text " is not a package"
      | none => []))
    (.named name)

/-- Some kinds go by other names as well. -/
def canonicalKind (kind : String) : String :=
  if kind = "IOError" ∨ kind = "EnvironmentError" then "OSError" else kind

def canonical (cls : FaultClass) : FaultClass where
  name := if cls.name = cls.base then canonicalKind cls.name else cls.name
  base := canonicalKind cls.base
  others := cls.others.map canonicalKind

def ofClass (cls : FaultClass) (message : Option Text) (subject : Subject) : Fault :=
  if cls = "ResourceNotFoundError" then .resourceNotFound (message.getD [])
  else .raised (canonical cls) message subject

def ofKind (kind : String) (message subject : Option Text) : Fault := ofClass kind message subject

def embeddedNull : Fault := valueError (text "embedded null byte")

def badArchive : Fault := .raised "BadZipFile" (some (text "File is not a zip file")) .none

def ofUnencodable (u : Utf8.Unencodable) : Fault :=
  .unwritable ⟨text "utf-8", u.start, u.stop - u.start, u.text.getD u.start 0,
    text "surrogates not allowed"⟩

def kind : Fault → String
  | resourceNotFound _ => "ResourceNotFoundError"
  | classNotFound _ => "ClassNotFoundError"
  | classLink _ _ => "ClassLinkError"
  | propertiesDecode _ _ _ => "PropertiesDecodeError"
  | urlConnection _ _ => "UrlConnectionError"
  | raised cls _ _ => cls.name
  | refused why _ => why.kind
  | openFailed _ | openRefused _ => "URLError"
  | unparsable _ => "SyntaxError"
  | undecodable _ => "UnicodeDecodeError"
  | unwritable _ => "UnicodeEncodeError"
  | unknown => "None"

def parents : List (String × String) :=
  [("Exception", "BaseException"), ("KeyboardInterrupt", "BaseException"),
   ("SystemExit", "BaseException"), ("GeneratorExit", "BaseException"),
   ("BaseExceptionGroup", "BaseException"),
   ("ResourceNotFoundError", "FileNotFoundError"), ("ClassNotFoundError", "ImportError"),
   ("ClassLinkError", "ImportError"), ("PropertiesDecodeError", "ValueError"),
   ("UrlConnectionError", "OSError"), ("URLError", "OSError"), ("Error", "ValueError"),
   ("ModuleNotFoundError", "ImportError"), ("IndexError", "LookupError"),
   ("KeyError", "LookupError"), ("FloatingPointError", "ArithmeticError"),
   ("OverflowError", "ArithmeticError"), ("ZeroDivisionError", "ArithmeticError"),
   ("UnboundLocalError", "NameError"), ("BlockingIOError", "OSError"),
   ("ChildProcessError", "OSError"), ("ConnectionError", "OSError"),
   ("BrokenPipeError", "ConnectionError"), ("ConnectionAbortedError", "ConnectionError"),
   ("ConnectionRefusedError", "ConnectionError"), ("ConnectionResetError", "ConnectionError"),
   ("FileExistsError", "OSError"), ("FileNotFoundError", "OSError"),
   ("InterruptedError", "OSError"), ("IsADirectoryError", "OSError"),
   ("NotADirectoryError", "OSError"), ("PermissionError", "OSError"),
   ("ProcessLookupError", "OSError"), ("TimeoutError", "OSError"),
   ("NotImplementedError", "RuntimeError"), ("RecursionError", "RuntimeError"),
   ("IndentationError", "SyntaxError"), ("TabError", "IndentationError"),
   ("UnicodeError", "ValueError"), ("UnicodeDecodeError", "UnicodeError"),
   ("UnicodeEncodeError", "UnicodeError"), ("UnicodeTranslateError", "UnicodeError"),
   ("DeprecationWarning", "Warning"), ("PendingDeprecationWarning", "Warning"),
   ("UserWarning", "Warning"), ("SyntaxWarning", "Warning"), ("RuntimeWarning", "Warning"),
   ("FutureWarning", "Warning"), ("ImportWarning", "Warning"), ("UnicodeWarning", "Warning"),
   ("BytesWarning", "Warning"), ("ResourceWarning", "Warning"), ("EncodingWarning", "Warning")]

def parentKind (kind : String) : String :=
  match parents.find? (·.1 = kind) with
  | some p => p.2
  | none => "Exception"

def lineage : (depth : Nat) → String → List String
  | 0, _ => []
  | d + 1, k => if k = "BaseException" then [k] else k :: lineage d (parentKind k)

def bases : Fault → List String
  | raised cls _ _ => cls.base :: cls.others
  | f => [f.kind]

def isA (f : Fault) (kind : String) : Bool := f.bases.any fun base => (lineage 8 base).contains kind

def isOrdinary (f : Fault) : Bool := f.isA "Exception"

theorem isA_of_bases {f : Fault} {kind : String}
    (h : ∃ base ∈ f.bases, kind ∈ lineage 8 base) : f.isA kind := by
  simpa [isA] using h

@[simp] theorem isOrdinary_valueError (message : Text) : (valueError message).isOrdinary :=
  isA_of_bases ⟨"ValueError", List.mem_cons_self, by decide⟩

@[simp] theorem isOrdinary_lookupError (message : Text) : (lookupError message).isOrdinary :=
  isA_of_bases ⟨"LookupError", List.mem_cons_self, by decide⟩

@[simp] theorem isOrdinary_unwritable (u : Unwritable) : (unwritable u).isOrdinary :=
  isA_of_bases ⟨"UnicodeEncodeError", List.mem_cons_self, by decide⟩

def isModuleMissing (f : Fault) : Bool := f.isA "ModuleNotFoundError"

def subject : Fault → Subject
  | raised _ _ s => s
  | _ => .none

def speaking : List String := ["KeyError", "ImportError", "OSError", "SyntaxError"]

def quotesMessage (cls : FaultClass) : Bool :=
  match (cls.base :: cls.others).find? fun base => speaking.any (lineage 8 base).contains with
  | some base => (lineage 8 base).contains "KeyError"
  | none => false

def shownPoint (c : Nat) : Text :=
  [Text.singleQuote] ++ Text.numbered c ++ [Text.singleQuote]

def Undecodable.message (d : Undecodable) : Text :=
  [Text.singleQuote] ++ d.codec ++ text "' codec can't decode " ++
    (if d.length = 1 then
      text "byte 0x" ++ Text.hexadecimal false 2 d.first ++ text " in position " ++
        Text.decimal d.start
    else
      text "bytes in position " ++ Text.decimal d.start ++ text "-" ++
        Text.decimal (d.start + d.length - 1)) ++
    text ": " ++ d.reason

def Unwritable.message (u : Unwritable) : Text :=
  [Text.singleQuote] ++ u.codec ++ text "' codec can't encode " ++
    (if u.length = 1 then
      text "character " ++ shownPoint u.first ++ text " in position " ++ Text.decimal u.start
    else
      text "characters in position " ++ Text.decimal u.start ++ text "-" ++
        Text.decimal (u.start + u.length - 1)) ++
    text ": " ++ u.reason

def baseName (path : Text) : Text :=
  match path.cutLast 0x2F with
  | some p => p.2
  | none => path

def bracketed (kind : String) (inside : Text) : Text := text kind ++ text "(" ++ inside ++ text ")"

def refusalMessage (why : Refusal) (path : Option Text) : Text :=
  text "[Errno " ++ Text.decimal why.number ++ text "] " ++ why.reason ++
    match path with
    | some p => text ": " ++ p.quoted
    | none => []

def propertiesMessage (problem source : Text) (line : Nat) : Text :=
  (if source.isEmpty then text "<properties>" else source) ++
    (if line = 0 then [] else text ":" ++ Text.decimal line) ++ text ": " ++ problem

mutual

def message : Fault → Text
  | resourceNotFound n => text "Could not find resource " ++ n
  | classNotFound n => text "Cannot find class: " ++ n
  | classLink n c => text "Found but could not initialize class " ++ n ++ text ": " ++ shown c
  | propertiesDecode p s l => propertiesMessage p s l
  | urlConnection u c => text "Could not open URL " ++ u ++ text ": " ++ message c
  | raised cls (some m) _ => if quotesMessage cls then m.quoted else m
  | raised _ none _ => []
  | refused why path => refusalMessage why path
  | openFailed r => text "<urlopen error " ++ r ++ text ">"
  | openRefused c => text "<urlopen error " ++ message c ++ text ">"
  | unparsable f => text "unmatched ')' (" ++ baseName f ++ text ", line 1)"
  | undecodable d => Undecodable.message d
  | unwritable u => Unwritable.message u
  | unknown => text "None"

/-- A fault as it is shown inside the message of another one: its kind and its message
quoted, or the numbers that it consists of. -/
def shown : Fault → Text
  | raised cls (some m) _ => bracketed cls.name m.quoted
  | raised cls none _ => bracketed cls.name []
  | refused why _ =>
    bracketed why.kind (Text.decimal why.number ++ text ", " ++ why.reason.quoted)
  | openFailed r => bracketed "URLError" r.quoted
  | openRefused c => bracketed "URLError" (shown c)
  | unparsable f =>
    bracketed "SyntaxError"
      ((text "unmatched ')'").quoted ++ text ", (" ++ f.quoted ++ text ", 1, 1, ')', 1, 1)")
  | unknown => text "None"
  | resourceNotFound n => bracketed "ResourceNotFoundError" (message (resourceNotFound n)).quoted
  | classNotFound n => bracketed "ClassNotFoundError" (text "Cannot find class: " ++ n).quoted
  | classLink n c =>
    bracketed "ClassLinkError"
      (text "Found but could not initialize class " ++ n ++ text ": " ++ shown c).quoted
  | propertiesDecode p s l => bracketed "PropertiesDecodeError" (propertiesMessage p s l).quoted
  | urlConnection u c =>
    bracketed "UrlConnectionError"
      (text "Could not open URL " ++ u ++ text ": " ++ message c).quoted
  | undecodable d => bracketed "UnicodeDecodeError" (Undecodable.message d).quoted
  | unwritable u => bracketed "UnicodeEncodeError" (Unwritable.message u).quoted

end

def cause? : Fault → Option Fault
  | classLink _ .unknown | urlConnection _ .unknown => none
  | classLink _ c | urlConnection _ c => some c
  | _ => none

end Fault
end ResourceLookup
