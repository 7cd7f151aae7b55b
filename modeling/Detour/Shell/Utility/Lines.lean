import Detour.Shell.Format
import Detour.Shell.Utility
/-!
# Shell: utilities on lines

The utilities that put out texts, or a part of them, or a text that is made from them line by line or
character by character.
-/

namespace Detour

namespace Shell

namespace Utility

open Act

/-- How files are put out. -/
structure Display where
  /-- Whether lines are numbered, and whether empty ones count. -/
  numbers : Option Bool := none
  /-- Whether only the first of empty lines in a row is put out. -/
  squeezes : Bool := false
  /-- Whether the end of a line is marked. -/
  marksEnds : Bool := false
  showsTabs : Bool := false
  /-- Whether characters that cannot be seen are spelt. -/
  showsOthers : Bool := false
deriving DecidableEq, Repr

namespace Display

/-- A character as it is put out. -/
def character (d : Display) (c : Char) : List Char :=
  let spell (c : Char) : List Char :=
    if c.toNat < 32 then ['^', Char.ofNat (c.toNat + 64)]
    else if c.toNat = 127 then ['^', '?']
    else [c]
  if c = '\n' then [c]
  else if c = '\t' then if d.showsTabs then ['^', 'I'] else [c]
  else if !d.showsOthers then [c]
  else if c.toNat < 128 then spell c
  else 'M' :: '-' :: spell (Char.ofNat (c.toNat - 128))

/-- Lines as they are put out, from one with a number on. The flag says whether an empty line is in
front. -/
def show_ (d : Display) : Nat → Bool → List String → List String
  | _, _, [] => []
  | n, wasEmpty, l :: rest =>
    let isEmpty := l = "\n"
    if d.squeezes && isEmpty && wasEmpty then d.show_ n true rest
    else
      let isNumbered := d.numbers.any fun all => all || !isEmpty
      let label := if isNumbered then aligned 6 (toString n) ++ "\t" else ""
      let cs := l.toList.flatMap fun c =>
        if c = '\n' && d.marksEnds then ['$', '\n'] else d.character c
      (label ++ String.ofList cs) ::
        d.show_ (if isNumbered then n + 1 else n) isEmpty rest

end Display

/-- Put out files one after the other. -/
def cat (ws : List String) : Act Nat :=
  let long := [("number", 'n'), ("number-nonblank", 'b'), ("squeeze-blank", 's'), ("show-ends", 'E'),
    ("show-tabs", 'T'), ("show-nonprinting", 'v'), ("show-all", 'A')]
  withOptions "cat" long "unbsETvAet".toList [] ws fun options ws => do
    let has (cs : String) : Bool := options.any fun o => cs.toList.contains o.1
    let d : Display :=
      { numbers := if has "b" then some false else if has "n" then some true else none
        squeezes := has "s", marksEnds := has "EAe", showsTabs := has "TAt"
        showsOthers := has "vAet" }
    if ((← get).streams.lookup 1).isNone then
      complain "cat" "standard output: Bad file descriptor"
    else
      let isPlain := d = {}
      let (status, texts) ← (if ws.isEmpty then ["-"] else ws).foldlM (fun (status, texts) w => do
        match ← input w with
        | .ok text =>
          if isPlain then put text
          pure (status, text :: texts)
        | .error e => pure (← complain "cat" s!"{shown w}: {reason e}", texts)) (0, [])
      if !isPlain then put (String.join (d.show_ 1 false (lines (String.join texts.reverse))))
      pure status

/-- The number that a word spells, in front of which a sign and behind which a unit may stand. -/
def count? (w : String) : Option (Char × Nat) :=
  let (sign, ds) := match w.toList with
    | '+' :: ds => ('+', ds)
    | '-' :: ds => ('-', ds)
    | ds => (' ', ds)
  let digits := ds.takeWhile Char.isDigit
  let unit? : Option Nat := match String.ofList (ds.drop digits.length) with
    | "" => some 1
    | "b" => some 512
    | "k" | "K" | "KiB" => some 1024
    | "kB" | "KB" => some 1000
    | "m" | "M" | "MiB" => some 1048576
    | "MB" => some 1000000
    | _ => none
  (Decimal.digitsValue? 10 digits).bind fun n => unit?.map fun unit => (sign, n * unit)

/-- A part of a text: the units that `keep` leaves of its lines or characters. -/
def part (byCharacter : Bool) (keep : List String → List String) (s : String) : String :=
  if byCharacter then String.join (keep (s.toList.map Char.toString))
  else String.join (keep (lines s))

/-- The words with an option like `-3` spelt as `-n3`. -/
def withCount : List String → List String
  | w :: rest =>
    match w.toList with
    | '-' :: d :: ds => if d.isDigit then ("-n" ++ String.ofList (d :: ds)) :: rest else w :: rest
    | _ => w :: rest
  | [] => []

/-- Put out a part of each file. -/
def parts (name : String) (keep : Char → Nat → List String → List String) (ws : List String) :
    Act Nat :=
  let long := [("lines", 'n'), ("bytes", 'c'), ("quiet", 'q'), ("silent", 'q'), ("verbose", 'v')]
  withOptions name long ['q', 'v'] ['n', 'c'] (withCount ws) fun options ws => do
    let (byCharacter, w) := match options.filter (fun o => o.1 = 'c' || o.1 = 'n') |>.getLast? with
      | some ('c', w) => (true, w)
      | some (_, w) => (false, w)
      | none => (false, "10")
    match count? w with
    | none =>
      let units := if byCharacter then "bytes" else "lines"
      complain name s!"invalid number of {units}: {quoted w}"
    | some (sign, n) =>
      let isQuiet := match options.filter (fun o => o.1 = 'q' || o.1 = 'v') |>.getLast? with
        | some (c, _) => c = 'q'
        | none => ws.length ≤ 1
      let header (isFirst : Bool) (w : String) : Act Unit := do
        if !isQuiet then
          let shown := if w = "-" then "standard input" else w
          put ((if isFirst then "" else "\n") ++ "==> " ++ shown ++ " <==\n")
      let (status, _) ← (if ws.isEmpty then ["-"] else ws).foldlM (fun (status, isFirst) w => do
        match ← input w with
        | .ok text =>
          header isFirst w
          put (part byCharacter (keep sign n) text)
          pure (status, false)
        | .error .isFolder =>
          header isFirst w
          pure (← complain name s!"error reading {quoted w}: Is a directory", false)
        | .error e =>
          pure (← complain name s!"cannot open {quoted w} for reading: {reason e}", isFirst))
        (0, true)
      pure status

/-- Put out the start of files. -/
def head : List String → Act Nat :=
  parts "head" fun sign n ls => if sign = '-' then ls.take (ls.length - n) else ls.take n

/-- Put out the end of files. -/
def tail (ws : List String) : Act Nat :=
  let ws := match ws with
    | w :: rest =>
      match w.toList with
      | '+' :: ds => if !ds.isEmpty && ds.all Char.isDigit then ("-n" ++ w) :: rest else ws
      | _ => ws
    | [] => []
  parts "tail" (fun sign n ls => if sign = '+' then ls.drop (n - 1) else ls.drop (ls.length - n)) ws

/-- Put out lines in the reverse order. -/
def tac (ws : List String) : Act Nat :=
  withOptions "tac" [] [] [] ws fun _ ws =>
    each (if ws.isEmpty then ["-"] else ws) fun w => do
      match ← input w with
      | .ok text =>
        put (String.join (lines text).reverse)
        pure 0
      | .error .isFolder => complain "tac" s!"{shown w}: read error: Invalid argument"
      | .error e => complain "tac" s!"failed to open {quoted w} for reading: {reason e}"

/-- Put out lines with their characters in the reverse order. -/
def rev (ws : List String) : Act Nat :=
  withOptions "rev" [] [] [] ws fun _ ws =>
    each (if ws.isEmpty then ["-"] else ws) fun w => do
      match ← input w with
      | .ok text =>
        put (String.join ((lines text).map fun l =>
          let cs := Text.dropEnd (· = '\n') l.toList
          String.ofList (cs.reverse ++ l.toList.drop cs.length)))
        pure 0
      | .error .isFolder => complain "rev" s!"{w}: Is a directory"
      | .error e => complain "rev" s!"cannot open {w}: {reason e}"

/-- Put out lines with numbers in front. -/
def nl (ws : List String) : Act Nat :=
  let long := [("body-numbering", 'b'), ("line-increment", 'i'), ("number-format", 'n'),
    ("number-separator", 's'), ("starting-line-number", 'v'), ("number-width", 'w')]
  withOptions "nl" long ['p'] ['b', 'i', 'n', 's', 'v', 'w'] ws fun options ws => do
    let value (c : Char) (default : String) : String := (options.reverse.lookup c).getD default
    let number (c : Char) (default : Nat) : Nat :=
      (Decimal.digitsValue? 10 (value c (toString default)).toList).getD default
    let (step, width) := (number 'i' 1, number 'w' 6)
    let joint := value 's' "\t"
    let label (n : Nat) : String :=
      let digits := toString n
      match value 'n' "rn" with
      | "ln" => digits ++ "".pushn ' ' (width - digits.length)
      | "rz" => "".pushn '0' (width - digits.length) ++ digits
      | _ => aligned width digits
    let kind := value 'b' "t"
    let (status, texts) ← (if ws.isEmpty then ["-"] else ws).foldlM (fun (status, texts) w => do
      match ← input w with
      | .ok text => pure (status, texts ++ bareLines text)
      | .error e => pure (← complain "nl" s!"{shown w}: {reason e}", texts)) (0, [])
    let _ ← texts.foldlM (fun n l => do
      let isNumbered := kind = "a" || (kind = "t" && !l.isEmpty)
      let front := if isNumbered then label n ++ joint else "".pushn ' ' (width + joint.length)
      put (front ++ String.ofList l ++ "\n")
      pure (if isNumbered then n + step else n)) (number 'v' 1)
    pure status

/-- The number of words between blanks. -/
def wordCount (cs : List Char) : Nat :=
  ((Text.splitOn ' ' (cs.map fun c => if Arithmetic.isSpace c then ' ' else c)).filter
    (!·.isEmpty)).length

/-- Count lines, words and characters. -/
def wc (ws : List String) : Act Nat :=
  let long := [("lines", 'l'), ("words", 'w'), ("bytes", 'c'), ("chars", 'm'),
    ("max-line-length", 'L')]
  withOptions "wc" long ['l', 'w', 'c', 'm', 'L'] [] ws fun options ws => do
    let asked := options.map Prod.fst
    let wants (c : Char) := asked.isEmpty || asked.contains c ||
      (c = 'c' && asked.contains 'm')
    let row (text : String) : List Nat :=
      (if wants 'l' then [(text.toList.filter (· = '\n')).length] else []) ++
        (if wants 'w' then [wordCount text.toList] else []) ++
        (if wants 'c' then [text.length] else []) ++
        if asked.contains 'L' then [((bareLines text).map List.length).foldl max 0] else []
    let m ← get
    let piped := match (m.streams.lookup 0).bind fun i => m.channels[i]? with
      | some (.file _ _ _ _ _) => false
      | _ => true
    let results ← (if ws.isEmpty then ["-"] else ws).mapM fun w => do
      let isFolder := match m.place w with
        | .ok (.folder _) => true
        | _ => false
      pure (w, isFolder, ← input w)
    let texts := results.filterMap fun (_, _, r) => r.toOption
    let total := (texts.map String.length).foldl (· + ·) 0
    let isIrregular := results.any fun (w, isFolder, _) => isFolder || (w = "-" && piped)
    let width :=
      if results.length = 1 && (row "").length = 1 then 0
      else max (if isIrregular then 7 else 1) (toString total).length
    let show_ (numbers : List Nat) : String :=
      " ".intercalate (numbers.map fun n => aligned width (toString n))
    let line (w : String) (numbers : List Nat) : Act Unit :=
      put (show_ numbers ++ (if ws.isEmpty then "" else " " ++ w) ++ "\n")
    let status ← results.foldlM (fun status (w, isFolder, r) => do
      match r with
      | .ok text =>
        line w (row text)
        pure status
      | .error e =>
        let status ←
          if w.isEmpty then complain "wc" "invalid zero-length file name"
          else complain "wc" s!"{shown w}: {reason e}"
        if isFolder then line w (row "")
        pure status) 0
    if 1 < results.length then
      let sums := texts.foldl (fun sums text => sums.zipWith (· + ·) (row text)) (row "")
      put (show_ sums ++ " total\n")
    pure status

/-- Put out the input, and write it to files. -/
def tee (ws : List String) : Act Nat :=
  withOptions "tee" [("append", 'a')] ['a', 'i'] [] ws fun options ws => do
    let text ← readAll 0
    put text
    each ws fun w => do
      match ← output w text (options.any fun o => o.1 = 'a') with
      | .ok _ => pure 0
      | .error e => complain "tee" s!"{shown w}: {reason e}"

/-- A number with a point in it, as the integer without the point and how many digits are behind it. -/
def fixedPoint? (s : String) : Option (Int × Nat) :=
  let (isNegative, cs) := match s.toList with
    | '-' :: rest => (true, rest)
    | '+' :: rest => (false, rest)
    | cs => (false, cs)
  let (whole, places) := (Text.cut? '.' cs).getD (cs, [])
  (Decimal.digitsValue? 10 (whole ++ places)).map fun n =>
    (if isNegative then -(n : Int) else n, places.length)

/-- The text of a number with so many digits behind its point. -/
def fixedText (places : Nat) (n : Int) : String :=
  let digits := toString n.natAbs
  let digits := "".pushn '0' (places + 1 - digits.length) ++ digits
  let (whole, rest) := (digits.toList.take (digits.length - places),
    digits.toList.drop (digits.length - places))
  (if n < 0 then "-" else "") ++ String.ofList whole ++
    (if places = 0 then "" else "." ++ String.ofList rest)

/-- Put out numbers in their order. -/
def seq (ws : List String) : Act Nat :=
  let long := [("separator", 's'), ("equal-width", 'w')]
  -- a negative number is no option
  let isNumber (w : String) : Bool := (fixedPoint? w).isSome
  let front := ws.takeWhile fun w => !isNumber w
  let ws := if front.contains "--" then ws else front ++ "--" :: ws.drop front.length
  withOptions "seq" long ['w'] ['s'] ws fun options ws => do
    match ws.find? fun w => !isNumber w, ws[3]? with
    | _, some extra => misuse "seq" ("extra operand " ++ quoted extra)
    | some w, none => misuse "seq" s!"invalid floating point argument: {quoted w}"
    | none, none =>
      let numbers := ws.filterMap fixedPoint?
      let run (first step last : Int × Nat) : Act Nat := do
        let places := max first.2 step.2
        let digits := max places last.2
        let scaled (n : Int × Nat) : Int := n.1 * Int.pow 10 (digits - n.2)
        let (a, d, b) := (scaled first, scaled step, scaled last)
        let zero := ws.getD 1 ""
        if d = 0 then
          misuse "seq" s!"invalid Zero increment value: {quoted zero}"
        else
          let texts := (List.range (((b - a) / d + 1).toNat)).map fun (i : Nat) =>
            fixedText places ((a + d * i) / Int.pow 10 (digits - places))
          let width := if options.any fun o => o.1 = 'w' then (texts.map String.length).foldl max 0 else 0
          let padded (s : String) : String :=
            match s.toList with
            | '-' :: cs => "-" ++ "".pushn '0' (width - s.length) ++ String.ofList cs
            | _ => "".pushn '0' (width - s.length) ++ s
          let joint := (options.reverse.lookup 's').getD "\n"
          if !texts.isEmpty then put (joint.intercalate (texts.map padded) ++ "\n")
          pure 0
      match numbers with
      | [last] => run (1, 0) (1, 0) last
      | [first, last] => run first (1, 0) last
      | [first, step, last] => run first step last
      | _ => misuse "seq" "missing operand"

end Utility

end Shell

end Detour
