import LogicalVolumes.Host.Machine

/-!
Programs that every machine has: `echo`, `true`, `false`, and a shell for scripts of such commands.
-/

namespace LogicalVolumes.Host.Standard

def bytes (text : String) : List UInt8 :=
  text.toUTF8.toList

def words (text : String) : List String :=
  (Text.words text.toList).map String.ofList

/-- Whether a word holds letters for how to print, such as `-n`. -/
def isPrintFlag (word : String) : Bool :=
  match word.toList with
  | '-' :: c :: s => (c :: s).all fun c => c == 'n' || c == 'e' || c == 'E'
  | _ => false

/-- The words after the flags; the flag `n` leaves out the line break at the end. -/
def echoText (args : List String) : String :=
  let flags := args.takeWhile isPrintFlag
  let text := " ".intercalate (args.drop flags.length)
  if flags.any (·.toList.contains 'n') then text else text ++ "\n"

def echo : Program where
  run args := { ending := .exited 0, stdout := bytes (echoText args) }

def constantly (code : UInt8) : Program where
  run _ := { ending := .exited code }

/-- Runs the commands of a script in turn, up to one that ends it. -/
def runScript (sofar : Finished) : List (List String) → Finished
  | [] => sofar
  | ["exit", code] :: _ =>
    { sofar with ending := .exited (UInt8.ofNat ((Text.readNatural 10 code.toList).getD 2)) }
  | ("echo" :: args) :: commands =>
    let shown := bytes (echoText (args.filter (· != ">&2")))
    let sofar := { sofar with ending := .exited 0 }
    runScript (if args.contains ">&2" then { sofar with stderr := sofar.stderr ++ shown }
      else { sofar with stdout := sofar.stdout ++ shown }) commands
  | ["true"] :: commands => runScript { sofar with ending := .exited 0 } commands
  | ["false"] :: commands => runScript { sofar with ending := .exited 1 } commands
  | [] :: commands => runScript sofar commands
  | _ :: commands => runScript { sofar with ending := .exited 127 } commands

/-- Runs the script that follows `-c`. -/
def shell : Program where
  run
    | "-c" :: script :: _ =>
      let commands := (Text.pieces (· == ';') script.toList).map fun command => words (String.ofList command)
      runScript { ending := .exited 0 } commands
    | _ => { ending := .exited 0 }

def programs : List (String × Entry) :=
  [("sh", shell), ("echo", echo), ("true", constantly 0), ("false", constantly 1)].map fun (name, program) =>
    (name, .file [] (some program))

def workingDirectory : String :=
  "/home/operator"

/-- The directories of these programs and an empty working directory, beside `entries`. -/
def filesWith (entries : List (String × Entry)) : FileSystem where
  root := .directory (entries ++ [("bin", .directory programs),
    ("usr", .directory [("bin", .directory programs)]), ("home", .directory [("operator", .directory [])])])
  workingDirectory := workingDirectory

def path : String :=
  "/usr/bin:/bin"

end LogicalVolumes.Host.Standard
