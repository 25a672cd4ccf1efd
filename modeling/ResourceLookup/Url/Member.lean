import ResourceLookup.FileTree

/-!
# Addresses of archive members

The address of the archive file and the name of the member, with a mark between them that
the encoded path of a file never holds.
-/

namespace ResourceLookup.Url

def memberScheme : Text := text "zip:"

def memberMark : Text := text "!/"

def ofMember (tree : FileTree) (cwd : Location) (archive : Path) (member : Text) :
    Except Fault Text :=
  (tree.urlOf cwd archive).map fun u => memberScheme ++ u ++ memberMark ++ member

end ResourceLookup.Url
