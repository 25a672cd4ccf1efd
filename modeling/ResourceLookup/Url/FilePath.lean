import ResourceLookup.Path
import ResourceLookup.Url.Split

/-!
# The path of an address

Any address names a path: its path component with the percent signs read. Only for file
addresses is that the path of a file.
-/

namespace ResourceLookup.Url

def toPath (url : Text) : Except Fault Path :=
  (split url).map fun s => Path.ofText (Percent.decodeText s.path)

end ResourceLookup.Url
