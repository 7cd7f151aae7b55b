import Detour.Files.Path
/-!
# Files

A tree of files, as a program sees it that works in a directory: the texts of files, and the folders
that hold them. A path is followed step by step, and every step but the last needs a folder. What can
be read depends on where a path leads: to a file, to a folder, or to nothing in a folder. A path takes
at most 4095 bytes and each of its names at most 255, and no path holds a NUL character.
-/

namespace Detour

/-- Where something is: the names from the working directory on, behind a pair of dots for each
folder further up, or the names from the root on behind a first `/`. -/
abbrev Location := List String

namespace Location

/-- The text of a location. -/
def text : Location → String
  | "/" :: names => "/" ++ "/".intercalate names
  | names => "/".intercalate names

/-- Whether a location is the working directory or around it. -/
def isAround (l : Location) : Bool :=
  l.all fun name => name == ".."

/-- Whether a location is below the working directory. -/
def isBelow (l : Location) : Bool :=
  l.head?.any fun name => name != ".." && name != "/"

/-- The location around a location. -/
def up (l : Location) : Location :=
  if l = ["/"] then l else if l.isAround then l ++ [".."] else l.dropLast

/-- Where a step leads from a location, if nothing is in the way. -/
def step (l : Location) (name : String) : Location :=
  if name = "." then l else if name = ".." then l.up else l ++ [name]

end Location

/-- The causes for which work on files fails. -/
inductive FileError where
  | notFound
  | permissionDenied
  | present
  | notFolder
  | isFolder
  | nameTooLong
  /-- A path holds a NUL character. -/
  | nulInPath
deriving DecidableEq, Repr

/-- The message of an error. -/
def FileError.message : FileError → String
  | notFound => "No such file or directory (os error 2)"
  | permissionDenied => "Permission denied (os error 13)"
  | present => "File exists (os error 17)"
  | notFolder => "Not a directory (os error 20)"
  | isFolder => "Is a directory (os error 21)"
  | nameTooLong => "File name too long (os error 36)"
  | nulInPath => "file name contained an unexpected NUL byte"

/-- Where the steps of a path start. -/
def Path.origin (p : Path) : Location :=
  if p.isAbsolute then ["/"] else []

/-- Where a path leads, if nothing is in the way. -/
def Path.location (p : Path) : Location :=
  p.steps.foldl Location.step p.origin

/-- A tree of files. -/
structure Files where
  /-- The texts of the files. -/
  texts : List (Location × String) := []
  /-- Folders beside those that hold a file. -/
  folders : List Location := []
  /-- The files that may be run, each with the octal digit that says by whom: its owner (4), the owner's
  group (2), others (1). -/
  runnable : List (Location × Nat) := []
deriving DecidableEq, Repr

/-- What a path leads to. -/
inductive Place where
  | file (l : Location) (text : String)
  | folder (l : Location)
  /-- A folder without an entry of the last name. -/
  | vacant (l : Location)
deriving DecidableEq, Repr

namespace Files

/-- The text of the file at a location. -/
def text? (fs : Files) (l : Location) : Option String :=
  fs.texts.lookup l

/-- Whether a folder is at a location. -/
def isFolderAt (fs : Files) (l : Location) : Bool :=
  l.isAround || l == ["/"] || fs.folders.any (fun k => l.isPrefixOf k) ||
    fs.texts.any fun e => l.isPrefixOf e.1 && l != e.1

/-- Who may run the file at a location. -/
def runners (fs : Files) (l : Location) : Nat :=
  (fs.runnable.lookup l).getD 0

/-- Say who may run the file at a location. -/
def setRunners (fs : Files) (l : Location) (who : Nat) : Files :=
  { fs with runnable := (l, who) :: fs.runnable.filter fun e => e.1 != l }

/-- Put a text at a location, in the place of what was there. -/
def put (fs : Files) (l : Location) (text : String) : Files :=
  { fs with texts := (l, text) :: fs.texts.filter fun e => e.1 != l }

/-- Add a folder. -/
def addFolder (fs : Files) (l : Location) : Files :=
  { fs with folders := l :: fs.folders }

/-- The names in a folder, in order. -/
def names (fs : Files) (l : Location) : List String :=
  let below := (fs.texts.map Prod.fst ++ fs.folders).filterMap fun k =>
    if l.isPrefixOf k then
      match k.drop l.length with
      | name :: _ => if name = ".." || name = "/" then none else some name
      | [] => none
    else none
  (below.eraseDups).mergeSort fun a b => a ≤ b

/-- Whether a folder holds nothing. -/
def isEmptyAt (fs : Files) (l : Location) : Bool :=
  (fs.names l).isEmpty

/-- Remove what is at a location; the folder around it stays. -/
def remove (fs : Files) (l : Location) : Files :=
  { texts := fs.texts.filter fun e => !l.isPrefixOf e.1
    folders := l.up :: fs.folders.filter fun k => !l.isPrefixOf k
    runnable := fs.runnable.filter fun e => !l.isPrefixOf e.1 }

/-- Copy a folder, with all that is in it, to a location. -/
def copyFolder (fs : Files) (source target : Location) : Files :=
  let moved (k : Location) : Option Location :=
    if source.isPrefixOf k then some (target ++ k.drop source.length) else none
  let texts := fs.texts.filterMap fun e => (moved e.1).map fun k => (k, e.2)
  { texts := texts ++ fs.texts.filter fun e => !(texts.map Prod.fst).contains e.1
    folders := target :: fs.folders.filterMap moved ++ fs.folders
    runnable := (fs.runnable.filterMap fun e => (moved e.1).map fun k => (k, e.2)) ++ fs.runnable }

/-! ## Following paths -/

/-- What is at a location in a folder. -/
def placeAt (fs : Files) (l : Location) : Place :=
  if fs.isFolderAt l then .folder l
  else
    match fs.text? l with
    | some text => .file l text
    | none => .vacant l

/-- What a name leads to from a folder. -/
def lookUp (fs : Files) (l : Location) (name : String) : Except FileError Place :=
  if name.utf8ByteSize ≤ 255 then .ok (fs.placeAt (l.step name)) else .error .nameTooLong

/-- Follow steps that each need a folder. -/
def walk (fs : Files) (l : Location) : List String → Except FileError Location
  | [] => .ok l
  | name :: rest =>
    match fs.lookUp l name with
    | .ok (.folder l) => fs.walk l rest
    | .ok (.file _ _) => .error .notFolder
    | .ok (.vacant _) => .error .notFound
    | .error e => .error e

/-- The folder from which a path takes its last step, and the name of the step; the path to the root
takes none. -/
def approach (fs : Files) (p : Path) : Except FileError (Location × Option String) :=
  if p.text.toList.contains '\x00' then .error .nulInPath
  else if 4096 ≤ p.text.utf8ByteSize then .error .nameTooLong
  else
    match p.steps.getLast? with
    | none => if p.isAbsolute then .ok (p.origin, none) else .error .notFound
    | some last => (fs.walk p.origin p.steps.dropLast).map fun l => (l, some last)

/-- What a path leads to. -/
def place (fs : Files) (p : Path) : Except FileError Place :=
  match fs.approach p with
  | .ok (l, some last) => fs.lookUp l last
  | .ok (l, none) => .ok (.folder l)
  | .error e => .error e

/-- Whether a path leads to a file. -/
def isFile (fs : Files) (p : Path) : Bool :=
  match fs.place p with
  | .ok (.file _ _) => !p.endsWithSlash
  | _ => false

/-- Whether a path leads to a folder. -/
def isFolder (fs : Files) (p : Path) : Bool :=
  match fs.place p with
  | .ok (.folder _) => true
  | _ => false

/-! ## Reading and writing -/

/-- The text of a file. -/
def read (fs : Files) (p : Path) : Except FileError String :=
  match fs.place p with
  | .ok (.file _ text) => if p.endsWithSlash then .error .notFolder else .ok text
  | .ok (.folder _) => .error .isFolder
  | .ok (.vacant _) => .error .notFound
  | .error e => .error e

/-- Where a path lets a file be written. A path with a slash at its end can only mean a folder, so its
last name is not even looked up. -/
def target (fs : Files) (p : Path) : Except FileError Location :=
  match fs.approach p with
  | .ok (l, some last) =>
    if p.endsWithSlash then .error .isFolder
    else
      match fs.lookUp l last with
      | .ok (.file l _) | .ok (.vacant l) => .ok l
      | .ok (.folder _) => .error .isFolder
      | .error e => .error e
  | .ok (_, none) => .error .isFolder
  | .error e => .error e

/-- Write a file, in the place of one that was there. -/
def write (fs : Files) (p : Path) (text : String) : Except FileError Files :=
  (fs.target p).map fun l => fs.put l text

/-- Add a folder where nothing is. -/
def createFolder (fs : Files) (p : Path) : Except FileError Files :=
  match fs.place p with
  | .ok (.vacant l) => .ok (fs.addFolder l)
  | .ok _ => .error .present
  | .error e => .error e

/-- Add a folder unless it is there. -/
def ensureFolder (fs : Files) (p : Path) : Except FileError Files :=
  match fs.createFolder p with
  | .ok fs => .ok fs
  | .error e => if fs.isFolder p then .ok fs else .error e

/-- Add a folder and those around it, unless they are there. Where that fails, the folders that were
added until then remain. -/
def ensureFolders (fs : Files) (p : Path) : Except FileError Unit × Files :=
  if p.isEmpty then (.ok (), fs)
  else
    match fs.ensureFolder p with
    | .ok fs => (.ok (), fs)
    | .error .notFound =>
      if _h : p.parent.pieces.length < p.pieces.length then
        match fs.ensureFolders p.parent with
        | (.ok (), fs) =>
          match fs.ensureFolder p with
          | .ok fs => (.ok (), fs)
          | .error e => (.error e, fs)
        | (.error e, fs) => (.error e, fs)
      else (.error .notFound, fs)
    | .error e => (.error e, fs)
termination_by p.pieces.length

/-! ## Comparing -/

/-- The files of `after` that `before` lacks or holds another text of. -/
def changes (before after : Files) : List (Location × String) :=
  after.texts.filter fun e => before.text? e.1 != some e.2

/-- The files that paths name, each with its text. -/
def ofTexts (entries : List (String × String)) : Files :=
  entries.foldl (fun fs e => fs.put (Path.ofText e.1).location e.2) {}

/-! ## Laws -/

/-- What was put at a location is there. -/
@[simp] theorem text?_put_self (fs : Files) (l : Location) (text : String) :
    (fs.put l text).text? l = some text := by
  simp [text?, put]

/-- Putting a text at a location leaves the other files alone. -/
theorem text?_put_of_ne {fs : Files} {l k : Location} {text : String} (h : k ≠ l) :
    (fs.put l text).text? k = fs.text? k := by
  have hk : (k == l) = false := beq_false_of_ne h
  simp only [text?, put, List.lookup_cons, hk]
  induction fs.texts with
  | nil => rfl
  | cons e rest ih =>
    obtain ⟨m, t⟩ := e
    by_cases hm : m = l
    · subst hm
      simpa [List.lookup_cons, hk] using ih
    · by_cases hkm : k = m
      · simp [hm, hkm]
      · simp [List.lookup_cons, hm, beq_false_of_ne hkm, ih]

end Files

end Detour
