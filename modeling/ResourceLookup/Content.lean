import ResourceLookup.Fault

/-!
# Contents of resources in memory

Octets as they are, or a text that stands for its UTF-8. A text with surrogates has none,
which shows only when the octets are asked for.
-/

namespace ResourceLookup

inductive Content
  | octets (bs : Octets)
  | characters (t : Text)
  deriving DecidableEq, Repr

def Content.toOctets : Content → Except Fault Octets
  | octets bs => .ok bs
  | characters t => (Utf8.encode? t).mapError Fault.ofUnencodable

end ResourceLookup
