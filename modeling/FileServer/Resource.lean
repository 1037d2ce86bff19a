import FileServer.Path

/-!
# Resources

The first piece of a request path decides how it is answered. Below the folder of
static documents a file is sent as it is, below the folder of dynamic ones it is
moved in chunks, and everything else is not served. `Folders.classify` decides this,
and `Folders.resolve` finds the file below the document root that a path names,
unless the path tries to lead out.
-/

namespace FileServer

/-- How a path is answered. -/
inductive Resource
  /-- Straight from the file to the socket. -/
  | static
  /-- In chunks through the engine. -/
  | dynamic
  /-- Not at all. -/
  | unserved
  deriving DecidableEq, Repr

/-- The name of the way, as notes give it. -/
def Resource.name : Resource → String
  | static => "Static"
  | dynamic => "Dynamic"
  | unserved => "None"

/-- The folders whose documents are served. -/
structure Folders where
  static : String
  dynamic : String
  deriving DecidableEq, Repr

/-- Whether a path begins with a slash, the folder and a slash, with something behind. -/
def isUnder (folder : List Char) : List Char → Bool
  | '/' :: rest => folder.isPrefixOf rest &&
    match rest.drop folder.length with
    | '/' :: _ :: _ => true
    | _ => false
  | _ => false

namespace Folders

/-- The folder that a path lies under decides. -/
def classify (f : Folders) (path : String) : Resource :=
  if isUnder f.static.toList path.toList then .static
  else if isUnder f.dynamic.toList path.toList then .dynamic
  else .unserved

/-- The pieces below the root that a path leads through, unless it has to be refused:
    it begins with one slash, and it never leads back. -/
def pieces? : List Char → Option (List (List Char))
  | '/' :: rest =>
    if rest.head? = some '/' then none
    else
      let pieces := Path.components rest
      if Path.parent ∈ pieces then none else some pieces
  | _ => none

/-- The file below `root` that a path names. -/
def resolve (root path : String) : Option String :=
  (pieces? path.toList).map fun pieces =>
    String.ofList (pieces.foldl Path.joinChars root.toList)

end Folders

end FileServer
