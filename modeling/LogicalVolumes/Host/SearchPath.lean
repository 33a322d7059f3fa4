import LogicalVolumes.Host.FileSystem

/-!
Where programs are looked for. A search path is a text of directories with colons between them, so a
directory with a colon in its name cannot be put on it.
-/

namespace LogicalVolumes.Host

def splitPath (path : String) : List String :=
  (Text.pieces (· == ':') path.toList).map String.ofList

def directories (path : Option String) : List String :=
  (path.map splitPath).getD []

def joinPath (directories : List String) : Option String :=
  if directories.any (·.toList.contains ':') then none else some (":".intercalate directories)

/-- The search path with the directory `extra` in front, if there is one that can be put on a path. -/
def extendedPath (extra path : Option String) : Option String :=
  extra.bind fun directory => joinPath (directory :: directories path)

/-- The components that lead somewhere else. -/
def steps (path : String) : List String :=
  (components path).filter fun name => name != "" && name != "."

/-- A directory of a search path, with the home directory for a tilde that is its first component. -/
def expandHome (home : Option String) (directory : String) : String :=
  match home, components directory with
  | some home, "~" :: _ => if home = "" then directory else ((steps directory).drop 1).foldl inDirectory home
  | _, _ => directory

def FileSystem.isExecutableAt (files : FileSystem) (path : String) : Bool :=
  match files.entry path with
  | .ok entry => entry.isExecutable
  | .error _ => false

/-- Whether a name is a path of its own, which is not searched for. A slash or a dot at its end does not make
it one. -/
def isPath (name : String) : Bool :=
  let start := if isAbsolute name || (components name).head? == some "." then 1 else 0
  1 < start + (steps name).length

/-- A path as it is when found: a relative one starts at the working directory, without idle components. -/
def ownPlace (here name : String) : String :=
  if isAbsolute name then name else inDirectory here ("/".intercalate (steps name))

/-- Where a program of that name can be. A path has one place, unless the working directory is not known: then
it is tried from each directory of the search path. -/
def places (home here path : Option String) (name : String) : List String :=
  match here.filter fun _ => isPath name with
  | some here => [ownPlace here name]
  | none => (directories path).map fun directory => joined (expandHome home directory) name

/-- The first place that holds an executable file. -/
def FileSystem.locate (files : FileSystem) (home here path : Option String) (name : String) : Option String :=
  (places home here path name).find? files.isExecutableAt

end LogicalVolumes.Host
