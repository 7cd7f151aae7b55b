import Detour.Shell.Utility
/-!
# Shell: utilities on files and folders

The utilities that make, move, copy, remove and list files and folders, and those that take the names of
files apart.
-/

namespace Detour

namespace Shell

namespace Utility

open Act

/-- The last name of a path, without an ending unless that is all of it. -/
def nameWithout (ending w : String) : String :=
  let name := lastName w
  match Text.beforeSuffix? ending.toList name.toList with
  | some (c :: cs) => String.ofList (c :: cs)
  | _ => name

/-- Put out the last names of paths, without an ending. -/
def basename (ws : List String) : Act Nat :=
  let long := [("multiple", 'a'), ("suffix", 's')]
  withOptions "basename" long ['a'] ['s'] ws fun options ws => do
    match ws, options.reverse.lookup 's' with
    | [], _ => misuse "basename" "missing operand"
    | ws, some ending => each ws fun w => do put (nameWithout ending w ++ "\n"); pure 0
    | w :: rest, none =>
      if !options.isEmpty then each ws fun w => do put (lastName w ++ "\n"); pure 0
      else
        match rest with
        | _ :: extra :: _ => misuse "basename" s!"extra operand {quoted extra}"
        | rest => put (nameWithout (rest.headD "") w ++ "\n"); pure 0

/-- Put out paths without their last names. -/
def dirname (ws : List String) : Act Nat :=
  withOptions "dirname" [] [] [] ws fun _ ws => do
    if ws.isEmpty then misuse "dirname" "missing operand"
    else
      each ws fun w => do
        let cs := Text.dropEnd (· = '/') w.toList
        let up := Text.dropEnd (· = '/') (Text.dropEnd (· ≠ '/') cs)
        let isAbsolute := w.toList.head? = some '/'
        put ((if up.isEmpty then (if isAbsolute then "/" else ".") else String.ofList up) ++ "\n")
        pure 0

/-- Make sure that files are there. -/
def touch (ws : List String) : Act Nat :=
  withOptions "touch" [("no-create", 'c'), ("date", 'd'), ("reference", 'r')] ['a', 'm', 'c', 'f'] ['t', 'd', 'r'] ws fun options ws => do
    if ws.isEmpty then misuse "touch" "missing file operand"
    else
      each ws fun w => do
        let m ← get
        let failed (e : FileError) : Act Nat :=
          if (m.path w).endsWithSlash && m.files.target (m.path w) matches .error .isFolder then
            complain "touch" s!"setting times of {quoted w}: {reason e}"
          else complain "touch" s!"cannot touch {quoted w}: {reason e}"
        match (if w = "-" then .ok (.folder []) else m.place w) with
        | .ok (.vacant l) =>
          if options.any fun o => o.1 = 'c' then pure 0
          else if (m.path w).endsWithSlash then failed .notFound
          else
            putFile l ""
            pure 0
        | .ok _ => pure 0
        | .error e => failed e

/-- The starts of a path, up to its slashes and all of it. -/
def starts (w : String) : List String :=
  let cs := w.toList
  let ends := (List.range cs.length).filter fun n => 0 < n && cs[n]? = some '/'
  (ends.map fun n => String.ofList (cs.take n)) ++ if cs.getLast? = some '/' then [] else [w]

/-- The start of a path that leads to a file; the whole path, if there is none. -/
def blocked (m : Machine) (w : String) : String :=
  ((starts w).find? fun start =>
    start ≠ w && match m.place start with
      | .ok (.file _ _) => true
      | _ => false).getD w

/-- Add folders. -/
def mkdir (ws : List String) : Act Nat :=
  withOptions "mkdir" [("parents", 'p'), ("verbose", 'v'), ("mode", 'm')] ['p', 'v'] ['m'] ws
    fun options ws => do
    let has (c : Char) : Bool := options.any fun o => o.1 = c
    if ws.isEmpty then misuse "mkdir" "missing operand"
    else
      each ws fun w => do
        let m ← get
        let failed (e : FileError) : Act Nat :=
          complain "mkdir" s!"cannot create directory {quoted w}: {reason e}"
        let made (w : String) : Act Unit :=
          if has 'v' then put s!"mkdir: created directory {quoted w}\n" else pure ()
        if has 'p' then
          let (result, fs) := m.files.ensureFolders (m.path w)
          match result with
          | .ok () =>
            for start in starts w do
              if (m.place? start).isNone then made start
            setFiles fs
            pure 0
          | .error e =>
            complain "mkdir" s!"cannot create directory {quoted (blocked m w)}: {reason e}"
        else if w.isEmpty then failed .notFound
        else
          match m.files.createFolder (m.path w) with
          | .ok fs => setFiles fs; made w; pure 0
          | .error e => failed e

/-- Remove folders that are empty. -/
def rmdir (ws : List String) : Act Nat :=
  withOptions "rmdir" [("verbose", 'v')] ['v'] [] ws fun options ws => do
    if ws.isEmpty then misuse "rmdir" "missing operand"
    else
      each ws fun w => do
        let m ← get
        if !options.isEmpty then put s!"rmdir: removing directory, {quoted w}\n"
        let failed (what : String) : Act Nat :=
          complain "rmdir" s!"failed to remove {quoted w}: {what}"
        match m.place w with
        | .ok (.folder l) =>
          if m.files.isEmptyAt l then
            setFiles (m.files.remove l)
            pure 0
          else failed "Directory not empty"
        | .ok (.file _ _) => failed "Not a directory"
        | .ok (.vacant _) => failed "No such file or directory"
        | .error e => failed (reason e)

/-- The long options for work on whole folders, with their letters. -/
def folderOptions : List (String × Char) :=
  [("recursive", 'r'), ("force", 'f'), ("verbose", 'v'), ("no-clobber", 'n'), ("archive", 'a')]

/-- Remove files, and folders with what is in them if asked for. -/
def rm (ws : List String) : Act Nat :=
  withOptions "rm" folderOptions ['r', 'R', 'f', 'i', 'd', 'v'] [] ws fun options ws => do
    let asked (c : Char) := options.any fun o => o.1 = c
    if ws.isEmpty then if asked 'f' then pure 0 else misuse "rm" "missing operand"
    else
      each ws fun w => do
        let m ← get
        let failed (what : String) : Act Nat :=
          complain "rm" s!"cannot remove {quoted w}: {what}"
        let removed (what : String) : Act Unit :=
          if asked 'v' then put s!"removed {what}{quoted w}\n" else pure ()
        match m.place w with
        | .ok (.folder l) =>
          if asked 'r' || asked 'R' || (asked 'd' && m.files.isEmptyAt l) then
            if ["", ".", ".."].contains (lastName w) then
              complain "rm" s!"refusing to remove \x27.\x27 or \x27..\x27 directory: skipping {quoted w}"
            else
              setFiles (m.files.remove l)
              removed "directory "
              pure 0
          else failed "Is a directory"
        | .ok (.file l _) => setFiles (m.files.remove l); removed ""; pure 0
        | .ok (.vacant _) => if asked 'f' then pure 0 else failed "No such file or directory"
        | .error e => if asked 'f' then pure 0 else failed (reason e)

/-- The path of a copy: the last operand, or a name in the folder that it is. -/
def destination (m : Machine) (source last : String) : String :=
  match m.place last with
  | .ok (.folder _) =>
    let last := String.ofList (Text.dropEnd (· = '/') last.toList)
    last ++ "/" ++ lastName source
  | _ => last

/-- Copy or move each source to the last operand. -/
def transfer (name : String) (moves : Bool) (ws : List String)
    (f : String → String → Act Nat) : Act Nat := do
  match ws with
  | [] => misuse name "missing file operand"
  | [w] => misuse name s!"missing destination file operand after {quoted w}"
  | ws =>
    let last := ws.getLastD ""
    let m ← get
    let isFolder := match m.place last with
      | .ok (.folder _) => true
      | _ => false
    if 2 < ws.length && !isFolder then
      match m.place last with
      | .ok (.file _ _) => complain name s!"target {quoted last}: Not a directory"
      | _ => complain name s!"target {quoted last}: No such file or directory"
    else
      each ws.dropLast fun w => do
        match (← get).place w with
        | .ok (.vacant _) => complain name s!"cannot stat {quoted w}: No such file or directory"
        | .error e => complain name s!"cannot stat {quoted w}: {reason e}"
        | .ok place =>
          let goal := destination (← get) w last
          if (← get).place? goal = some place then
            if moves || place matches .file _ _ then
              complain name s!"{quoted w} and {quoted goal} are the same file"
            else complain name s!"cannot copy a directory, {quoted w}, into itself, {quoted goal}"
          else
            match (← get).place goal with
            | .error .notFolder => complain name s!"cannot stat {quoted goal}: Not a directory"
            | _ => f w goal

/-- Copy files. -/
def cp (ws : List String) : Act Nat :=
  withOptions "cp" folderOptions "rRafpvnT".toList [] ws fun options ws => do
    let asked (c : Char) := options.any fun o => o.1 = c
    transfer "cp" false ws fun w goal => do
      let m ← get
      let copied : Act Nat := do
        if asked 'v' then put s!"{quoted w} -> {quoted goal}\n"
        pure 0
      match m.place w, m.place goal with
      | .ok (.file k text), place =>
        match ← target goal with
        | .ok (l, _) =>
          match place with
          | .ok (.file _ _) =>
            if asked 'n' then pure 0
            else
              setFiles (m.files.put l text)
              copied
          | _ =>
            setFiles ((m.files.put l text).setRunners l (m.files.runners k))
            copied
        | .error e =>
          let e := if e = .isFolder then .notFolder else e
          complain "cp" s!"cannot create regular file {quoted goal}: {reason e}"
      | .ok (.folder from_), destination =>
        if asked 'r' || asked 'R' || asked 'a' then
          match destination with
          | .ok (.vacant l) | .ok (.folder l) =>
            setFiles (m.files.copyFolder from_ l)
            copied
          | .ok (.file _ _) =>
            complain "cp" s!"cannot overwrite non-directory {quoted goal} with directory {quoted w}"
          | .error e => complain "cp" s!"cannot create directory {quoted goal}: {reason e}"
        else complain "cp" s!"-r not specified; omitting directory {quoted w}"
      | _, _ => pure 1

/-- Move files and folders. -/
def mv (ws : List String) : Act Nat :=
  withOptions "mv" folderOptions ['f', 'n', 'v', 'T'] [] ws fun options ws => do
    let asked (c : Char) := options.any fun o => o.1 = c
    transfer "mv" true ws fun w goal => do
      let m ← get
      let moved (fs : Files) : Act Nat := do
        setFiles fs
        if asked 'v' then put s!"renamed {quoted w} -> {quoted goal}\n"
        pure 0
      match m.place w, m.place goal with
      | .ok (.file l text), .ok (.vacant k) | .ok (.file l text), .ok (.file k _) =>
        if (m.path goal).endsWithSlash then
          complain "mv" s!"cannot move {quoted w} to {quoted goal}: Not a directory"
        else if asked 'n' && (m.files.text? k).isSome then pure 0
        else moved (((m.files.remove l).put k text).setRunners k (m.files.runners l))
      | .ok (.file _ _), .ok (.folder _) =>
        complain "mv" s!"cannot overwrite directory {quoted goal} with non-directory {quoted w}"
      | .ok (.folder l), .ok (.vacant k) =>
        if l.isPrefixOf k then
          complain "mv"
            s!"cannot move {quoted w} to a subdirectory of itself, {quoted goal}"
        else moved ((m.files.copyFolder l k).remove l)
      | .ok (.folder l), .ok (.folder k) =>
        if m.files.isEmptyAt k then moved ((m.files.copyFolder l k).remove l)
        else complain "mv" s!"cannot move {quoted w} to {quoted goal}: Directory not empty"
      | .ok (.folder _), .ok (.file _ _) =>
        complain "mv" s!"cannot overwrite non-directory {quoted goal} with directory {quoted w}"
      | _, .error e => complain "mv" s!"cannot move {quoted w} to {quoted goal}: {reason e}"
      | _, _ => pure 1

/-- Give files a second name. A name for what is not there leads to no file. -/
def ln (ws : List String) : Act Nat :=
  withOptions "ln" [("symbolic", 's'), ("force", 'f'), ("verbose", 'v')] ['s', 'f', 'n', 'v'] [] ws fun options ws => do
    let asked (c : Char) := options.any fun o => o.1 = c
    match ws with
    | [] => misuse "ln" "missing file operand"
    | ws =>
      let (source, last) := match ws with
        | [w] => (w, lastName w)
        | w :: rest => (w, rest.getLastD w)
        | [] => ("", "")
      let m ← get
      let goal := destination m source last
      let isAbsolute := source.toList.head? = some '/'
      let folder := String.ofList (Text.dropEnd (· ≠ '/') goal.toList)
      let place := m.place (if asked 's' && !isAbsolute then folder ++ source else source)
      match place, m.place goal with
      | _, .error e =>
        let kind := if asked 's' then "symbolic link" else "hard link"
        complain "ln" s!"failed to create {kind} {quoted goal}: {reason e}"
      | .ok (.file k text), .ok (.vacant l) =>
        setFiles ((m.files.put l text).setRunners l (m.files.runners k))
        pure 0
      | .ok (.file k text), .ok (.file l _) =>
        if asked 'f' then
          setFiles ((m.files.put l text).setRunners l (m.files.runners k))
          pure 0
        else
          let kind := if asked 's' then "symbolic link" else "hard link"
          complain "ln" s!"failed to create {kind} {quoted goal}: File exists"
      | .ok (.folder _), _ =>
        if asked 's' then pure 0 else complain "ln" s!"{shown source}: hard link not allowed for directory"
      | place, _ =>
        if asked 's' then pure 0
        else
          let e := match place with
            | .error e => e
            | _ => .notFound
          complain "ln" s!"failed to access {quoted source}: {reason e}"

/-- How names are listed. -/
structure Listing where
  /-- Whether names that start with a dot are there. -/
  showsHidden : Bool
  /-- Whether the folder itself and the one around it are there. -/
  showsDots : Bool
  isReversed : Bool
  /-- Whether folders are marked by a slash. -/
  marksFolders : Bool

namespace Listing

/-- Names in the order in which they are listed. -/
def ordered (x : Listing) (names : List String) : List String :=
  let names := names.mergeSort fun a b => a ≤ b
  if x.isReversed then names.reverse else names

/-- The names of what is in a folder, a line each. -/
def folder (x : Listing) (fs : Files) (l : Location) : String :=
  let names := (fs.names l).map fun name => (Utf8.encode name, fs.isFolderAt (l ++ [name]))
  let shown := names.filter fun (name, _) => x.showsHidden || name.toList.head? ≠ some '.'
  let all := (if x.showsDots then [(".", true), ("..", true)] else []) ++ shown
  let all := if x.isReversed then all.reverse else all
  String.join (all.map fun (name, isFolder) =>
    name ++ (if isFolder && x.marksFolders then "/" else "") ++ "\n")

/-- The folders below a folder, each with its path: in order, and each in front of those in it. -/
def below (x : Listing) (fs : Files) : Nat → String → Location → List (String × Location)
  | 0, _, _ => []
  | fuel + 1, path, l =>
    (path, l) :: (x.ordered (fs.names l)).flatMap fun name =>
      let hides := !x.showsHidden && name.toList.head? = some '.'
      if fs.isFolderAt (l ++ [name]) && !hides then
        x.below fs fuel (Path.join path (Utf8.encode name)) (l ++ [name])
      else []

end Listing

/-- Put out the names in folders. -/
def ls (ws : List String) : Act Nat :=
  let long := [("all", 'a'), ("almost-all", 'A'), ("directory", 'd'), ("recursive", 'R'),
    ("reverse", 'r'), ("classify", 'F')]
  withOptions "ls" long "aA1drRFp".toList [] ws fun options ws => do
    let asked (c : Char) := options.any fun o => o.1 = c
    let m ← get
    let x : Listing :=
      { showsHidden := asked 'a' || asked 'A', showsDots := asked 'a', isReversed := asked 'r'
        marksFolders := asked 'F' || asked 'p' }
    let given := if ws.isEmpty then ["."] else ws
    let failed ← given.filterM fun w => do
      match m.place? w with
      | some _ => pure false
      | none =>
        let e := match m.place w with
          | .error e => e
          | .ok _ => .notFound
        let _ ← complain "ls" s!"cannot access {quoted w}: {reason e}"
        pure true
    let present := x.ordered (given.filter fun w => !failed.contains w)
    let folder? (w : String) : Option Location := match m.place? w with
      | some (.folder l) => if asked 'd' then none else some l
      | _ => none
    let files := present.filter fun w => (folder? w).isNone
    let folders := present.filterMap fun w => (folder? w).map fun l => (w, l)
    let folders :=
      if asked 'R' then
        folders.flatMap fun (w, l) =>
          x.below m.files (m.files.texts.length + m.files.folders.length + 2) w l
      else folders
    let isFolder (w : String) : Bool := m.place? w matches some (.folder _)
    put (String.join (files.map fun w =>
      w ++ (if isFolder w && x.marksFolders then "/" else "") ++ "\n"))
    let named := 1 < ws.length || asked 'R'
    put <| (if files.isEmpty || folders.isEmpty then "" else "\n") ++
      "\n".intercalate (folders.map fun (w, l) =>
        (if named then w ++ ":\n" else "") ++ x.folder m.files l)
    pure (if failed.isEmpty then 0 else 2)

/-- What one clause of a symbolic mode makes of who may run a file. -/
def runnersBy (isFolder : Bool) (who : Nat) (op : Char) (letters : List Char) (old : Nat) : Nat :=
  let bit (c : Char) : Nat := if c = 'u' then 4 else if c = 'g' then 2 else 1
  let runs (c : Char) : Bool :=
    c = 'x' || (c = 'X' && (isFolder || old ≠ 0)) || ("ugo".toList.contains c && old.land (bit c) ≠ 0)
  let changed := if letters.any runs then who else 0
  match op with
  | '+' => old.lor changed
  | '-' => old.lor changed - changed
  | _ => (old.lor who - who).lor changed

/-- What the clauses of a symbolic mode make of who may run a file, if they are clauses. -/
def runnersBySymbols? (isFolder : Bool) (cs : List Char) (old : Nat) : Option Nat :=
  (Text.splitOn ',' cs).foldlM (fun old clause => do
    let whose := clause.takeWhile "ugoa".toList.contains
    let who := whose.foldl (fun n c =>
      n.lor (if c = 'u' then 4 else if c = 'g' then 2 else if c = 'o' then 1 else 7)) 0
    match clause.drop whose.length with
    | op :: letters =>
      if "+-=".toList.contains op && letters.all "rwxXstugo".toList.contains then
        some (runnersBy isFolder (if whose.isEmpty then 7 else who) op letters old)
      else none
    | [] => none) old

/-- What a mode makes of who may run a file, if it is a mode. -/
def runnersByMode? (isFolder : Bool) (mode : String) (old : Nat) : Option Nat :=
  match Decimal.digitsValue? 8 mode.toList with
  | some n =>
    if n < 4096 then some (n.land 64 / 16 + n.land 8 / 4 + n.land 1) else none
  | none => runnersBySymbols? isFolder mode.toList old

/-- Change who may run files. Nothing keeps anybody from reading or writing them. -/
def chmod (ws : List String) : Act Nat := do
  let isMode (w : String) : Bool := (runnersByMode? false w 0).isSome
  let isOption (w : String) : Bool := w.toList.head? = some '-' && !isMode w
  let options := (ws.filter isOption).flatMap fun w => w.toList.drop 1
  match ws.filter fun w => !isOption w with
  | [] => misuse "chmod" "missing operand"
  | [w] => misuse "chmod" s!"missing operand after {quoted w}"
  | mode :: ws =>
    if !isMode mode then misuse "chmod" s!"invalid mode: {quoted mode}"
    else
      each ws fun w => do
        let change (fs : Files) (l : Location) : Files :=
          fs.setRunners l ((runnersByMode? false mode (fs.runners l)).getD 0)
        let m ← get
        match m.place? w with
        | some (.file l _) =>
          setFiles (change m.files l)
          pure 0
        | some (.folder l) =>
          if options.contains 'R' then
            setFiles ((m.files.texts.map Prod.fst |>.filter l.isPrefixOf).foldl change m.files)
          pure 0
        | _ => complain "chmod" s!"cannot access {quoted w}: No such file or directory"

end Utility

end Shell

end Detour
