import Detour.Shell.Run
/-!
# Shell: launching programs

A program is launched with words and with an environment on a tree of files. Its input is empty; what it
complains about is a text, whatever its bytes are.
-/

namespace Detour

namespace Shell

/-- The causes for which a program cannot be launched. -/
inductive LaunchError where
  /-- The name of the program or a word holds a NUL character. -/
  | nul
  /-- A word takes more bytes than a program can be given. -/
  | wordTooLong
  | file (e : FileError)
deriving DecidableEq, Repr

/-- The message of an error. -/
def LaunchError.message : LaunchError → String
  | nul => "nul byte found in provided data"
  | wordTooLong => "Argument list too long (os error 7)"
  | file e => e.message

/-- What a program ends with. -/
structure Ended where
  status : Nat := 0
  output : String := ""
  complaint : String := ""
deriving DecidableEq, Repr

/-- The folders that programs find on every system. -/
def systemFolders : List Location :=
  (["bin", "dev", "etc", "home", "lib", "opt", "proc", "root", "run", "sbin", "sys", "tmp", "var"].map
    fun name => ["/", name]) ++
  [["/", "usr", "bin"], ["/", "usr", "lib"], ["/", "usr", "local", "bin"], ["/", "usr", "share"],
    ["/", "var", "tmp"]]

/-- The state in which a program starts. -/
def start (environment : List (String × String)) (fs : Files) : Machine :=
  let given := environment.map fun (name, value) =>
    (Utf8.encode name, { value := some (Utf8.encode value), isExported := true : Variable })
  { files := { fs with folders := systemFolders ++ fs.folders }
    bindings := given ++ Act.initialVariables }

/-- The files that a program leaves behind, without the folders of the system. -/
def left (m : Machine) : Files :=
  { m.files with folders := m.files.folders.filter fun l => !systemFolders.contains l }

/-- Why there is no program of a name or at a path. -/
def launchError (fs : Files) (program : String) : FileError :=
  if program.toList.contains '/' then
    match fs.place (.ofText program) with
    | .ok (.vacant _) => .notFound
    | .ok (.file _ _) => if (Path.ofText program).endsWithSlash then .notFolder else .permissionDenied
    | .ok (.folder _) => .permissionDenied
    | .error e => e
  else if 255 < program.utf8ByteSize then .nameTooLong
  else if program = "." || program = ".." then .permissionDenied
  else .notFound

/-- The greatest number of bytes in a word that a program is given. -/
def maxWordSize : Nat := 131071

/-- Launch a program. -/
def launch (program : String) (words : List String) (environment : List (String × String))
    (fs : Files) : Except LaunchError (Ended × Files) :=
  if (program :: words).any fun w => w.toList.contains '\x00' then .error .nul
  else
    let name := Utf8.encode program
    let m := start environment fs
    let found : Option Act.Program :=
      if program.toList.contains '/' then
        match Act.programAt m name with
        | .absent _ _ => none
        | p => some p
      else Act.known? name
    match found with
    | none => .error (.file (launchError fs program))
    | some _ =>
      if words.any fun w => maxWordSize < w.utf8ByteSize then .error .wordTooLong else
      let body := Act.runProgram (Act.run Act.depth) (words.length + 4) name (words.map Utf8.encode)
      let (result, m) := (ExceptT.run body).run { m with name := name }
      let status := match result with
        | .ok _ => m.status
        | .error _ => 1
      .ok ({ status := status, output := Utf8.decode m.output, complaint := Utf8.decode m.complaint },
        left m)

end Shell

end Detour
