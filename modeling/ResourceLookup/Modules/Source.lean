import ResourceLookup.Fault

/-!
# Module sources

The body of a module is a list of statements: it defines classes with their nested ones
and values, gives a name to what another one holds, imports modules or names out of them,
or raises a fault. A source that does not parse has one statement that says so.
-/

namespace ResourceLookup

inductive ClassSource
  | mk (name origin : Text) (nested : List ClassSource)

namespace ClassSource

def name : ClassSource → Text
  | mk n _ _ => n

end ClassSource

inductive Statement
  | classDef (c : ClassSource)
  | value (name : Text) (number : Option Int)
  | copy (name target : Text)
  | raise (cls : FaultClass) (message : Option Text) (subject : Subject)
  | importModule (name : Text)
  /-- `level` counts the leading dots of the module that a name is imported from. -/
  | importFrom (level : Nat) (module name : Text)
  | unparsable

/-- What a file or a member of an archive holds: octets, or the source of a module. -/
inductive Body
  | octets (bs : Octets)
  | program (statements : List Statement)

namespace Statement

def indent (depth : Nat) : Text := List.replicate (4 * depth) 0x20

def writeClass (depth : Nat) : ClassSource → Text
  | .mk name origin nested =>
    indent depth ++ text "class " ++ name ++ text ":\n" ++
      indent (depth + 1) ++ text "origin = " ++ origin.quoted ++ text "\n" ++
      writeNested (depth + 1) nested
where
  writeNested (depth : Nat) : List ClassSource → Text
    | [] => []
    | c :: cs => writeClass depth c ++ writeNested depth cs

/-- A class of the language by its name, and another one with the classes that it derives from. -/
def writeFaultClass (cls : FaultClass) : Text :=
  if cls = cls.name then text cls.name
  else
    text "type(" ++ (text cls.name).quoted ++ text ", (" ++
      (cls.base :: cls.others).flatMap (fun base => text base ++ text ",") ++ text "), \x7b\x7d)"

def writeArguments (message : Option Text) (subject : Subject) : Text :=
  Text.joinWith (text ", ")
    ((match message with | some m => [m.quoted] | none => []) ++
      match subject with
      | .none => []
      | .named n => [text "name=" ++ n.quoted]
      | .object _ written => [text "name=" ++ written])

def write : Statement → Text
  | classDef c => writeClass 0 c
  | value n (some i) => n ++ text " = " ++ Text.integer i ++ text "\n"
  | value n none => n ++ text " = None\n"
  | copy n m => n ++ text " = " ++ m ++ text "\n"
  | raise c m s => text "raise " ++ writeFaultClass c ++ text "(" ++ writeArguments m s ++ text ")\n"
  | importModule n => text "import " ++ n ++ text "\n"
  | importFrom l m n =>
    text "from " ++ List.replicate l 0x2E ++ m ++ text " import " ++ n ++ text "\n"
  | unparsable => text ")\n"

end Statement

namespace Body

def octetsOf (t : Text) : Octets := t.flatMap Utf8.encodeOne

/-- The octets of a file, which for a module are its statements written out. -/
def toOctets : Body → Octets
  | octets bs => bs
  | program ss => octetsOf (ss.flatMap Statement.write)

end Body
end ResourceLookup
