import LogicalVolumes.Fault

/-!
Files and directories, and the programs that files hold. A path with a slash at its head is followed from the
root, any other from the working directory.
-/

namespace LogicalVolumes.Host

/-- How a program ends: with a code, or killed by a signal. -/
inductive Ending
  | exited (code : UInt8)
  | killed

/-- What a program leaves when it has ended. -/
structure Finished where
  ending : Ending
  stdout : List UInt8 := []
  stderr : List UInt8 := []

structure Program where
  run : List String → Finished
  /-- The name under which calls of the program are noted, if they are. -/
  noted : Option String := none

/-- A regular file can be executed if it holds a program. -/
inductive Entry
  | file (bytes : List UInt8) (program : Option Program)
  | directory (entries : List (String × Entry))

/-- The components of a path. An empty one, like a dot, stays where it is. -/
def components (path : String) : List String :=
  (Text.pieces (· == '/') path.toList).map String.ofList

/-- How many bytes a name in a directory may have. -/
def nameLimit : Nat :=
  255

/-- How many bytes a path may have. -/
def pathLimit : Nat :=
  4095

/-- Follows components from the directory that comes first in `above`, which its parents follow. -/
def follow : List Entry → List String → Except HostFault Entry
  | [], _ => .error .notFound
  | here :: _, [] => .ok here
  | here :: above, name :: names =>
    match here with
    | .file _ _ => .error .notDirectory
    | .directory entries =>
      if name = "" ∨ name = "." then follow (here :: above) names
      else if name = ".." then follow (if above.isEmpty then [here] else above) names
      else if nameLimit < name.utf8ByteSize then .error .nameTooLong
      else match entries.lookup name with
        | none => .error .notFound
        | some entry => follow (entry :: here :: above) names

def Entry.isExecutable : Entry → Bool
  | .file _ (some _) => true
  | _ => false

structure FileSystem where
  root : Entry
  /-- The path from the root at which relative paths start. -/
  workingDirectory : String := "/"
  /-- What keeps the path of the working directory from being found out, if anything does. -/
  obstacle : Option HostFault := none

def isAbsolute (path : String) : Bool :=
  path.toList.head? = some '/'

/-- The path of `name` in a directory. -/
def inDirectory (directory name : String) : String :=
  if directory = "" ∨ directory.toList.getLast? = some '/' then directory ++ name
  else directory ++ "/" ++ name

/-- Where a path leads that is followed from a directory. -/
def joined (directory path : String) : String :=
  if isAbsolute path then path else inDirectory directory path

namespace FileSystem

/-- The same path, seen from the root. -/
def absolute (files : FileSystem) (path : String) : String :=
  joined files.workingDirectory path

/-- The entry at a path; the empty path leads nowhere. -/
def entry (files : FileSystem) (path : String) : Except HostFault Entry :=
  if path = "" then .error .notFound
  else if pathLimit < path.utf8ByteSize then .error .nameTooLong
  else follow [files.root] (components (files.absolute path))

/-- The path of the working directory. It is not known when the directory is gone. -/
def currentDirectory (files : FileSystem) : Except HostFault String :=
  match files.obstacle with
  | some cause => .error cause
  | none =>
    match follow [files.root] (components files.workingDirectory) with
    | .ok (.directory _) => .ok files.workingDirectory
    | _ => .error .notFound

end FileSystem

end LogicalVolumes.Host
