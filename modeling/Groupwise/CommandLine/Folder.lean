import Groupwise.Names

/-!
# Files in a folder

A folder holds files under paths. A path leads from the folder downwards; nothing outside of the
folder can be reached.
-/
namespace Groupwise.CommandLine

structure Folder where
  files : List (List String × String) := []
  /-- Folders that may hold no file. -/
  folders : List (List String) := []
  deriving Repr, DecidableEq, Inhabited

namespace Folder

def walk : List String → List String → Option (List String)
  | place, [] => some place.reverse
  | place, step :: rest =>
    if step == "" || step == "." then walk place rest
    else if step == ".." then
      match place with
      | [] => none
      | _ :: above => walk above rest
    else walk (step :: place) rest

def locate? (path : String) : Option (List String) :=
  if path.isEmpty || path.startsWith "/" then none else walk [] (path.splitOn "/")

def fileAt? (f : Folder) (place : List String) : Option String :=
  (f.files.find? (·.1 == place)).map (·.2)

/-- Whether a place is a folder: it was made one, or a file lies below it. -/
def isFolder (f : Folder) (place : List String) : Bool :=
  place.isEmpty || f.folders.contains place ||
    f.files.any fun e => place.isPrefixOf e.1 && place != e.1

def read? (f : Folder) (path : String) : Option String := (locate? path).bind f.fileAt?

def write? (f : Folder) (path text : String) : Option Folder := do
  let place ← locate? path
  if f.isFolder place || !f.isFolder place.dropLast then none
  else some { f with files := f.files.filter (·.1 != place) ++ [(place, text)] }

def makeFolders? (f : Folder) (path : String) : Option Folder := do
  if path.isEmpty then return f
  let place ← locate? path
  let places := (List.range (place.length + 1)).map place.take
  if places.any fun p => (f.fileAt? p).isSome then none
  else some { f with folders := f.folders ++ places }

def ofFiles (files : List (String × String)) : Folder where
  files := files.filterMap fun e => (locate? e.1).map (·, e.2)

end Folder

end Groupwise.CommandLine
