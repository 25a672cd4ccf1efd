import ResourceLookup.Charset.Decoder
import ResourceLookup.FileTree
import ResourceLookup.Modules.Loaders
import ResourceLookup.Url.Outside

/-!
# Surroundings

What a lookup finds when it begins and does not change itself.
-/

namespace ResourceLookup

/-- The files, the working directory and the search path of modules. Imports may be nested so deep
inside one another before they are refused. -/
structure Surroundings where
  tree : FileTree
  cwd : Location
  searchPath : List Text := []
  nestingLimit : Nat := 200
  loaders : Loaders := .plain
  outside : Url.Outside := .plain
  decoders : OutsideDecoders := .plain

end ResourceLookup
