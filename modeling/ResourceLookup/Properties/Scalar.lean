import ResourceLookup.Properties.Writer

/-!
# Entries that are not text

Keys and values may also be nothing, truth values and numbers, which are written by their
names and digits. As keys, a truth value and the number that counts it are the same.
-/

namespace ResourceLookup.Properties

inductive Scalar
  | characters (t : Text)
  | nothing
  | flag (b : Bool)
  | number (i : Int)
  deriving DecidableEq, Repr

namespace Scalar

def toText : Scalar → Text
  | characters t => t
  | nothing => text "None"
  | flag b => text (if b then "True" else "False")
  | number i => Text.integer i

def asKey : Scalar → Scalar
  | flag b => number (if b then 1 else 0)
  | s => s

/-- Puts a value under a key. The key first given stays. -/
def put (k v : Scalar) : List (Scalar × Scalar) → List (Scalar × Scalar)
  | [] => [(k, v)]
  | p :: r => if p.1.asKey = k.asKey then (p.1, v) :: r else p :: put k v r

def entries (ps : List (Scalar × Scalar)) : List (Text × Text) :=
  (ps.foldl (fun m p => put p.1 p.2 m) []).map fun p => (p.1.toText, p.2.toText)

end Scalar
end ResourceLookup.Properties
