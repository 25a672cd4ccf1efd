import ResourceLookup.Base64

/-!
# Data addresses

A data address carries octets inside the address itself, in base 64.
-/

namespace ResourceLookup.Url

def defaultMediaType : Text := text "application/octet-stream"

def ofOctets (mediaType : Text) (bs : Octets) : Text :=
  text "data:" ++ mediaType ++ text ";base64," ++ Base64.encode bs

end ResourceLookup.Url
