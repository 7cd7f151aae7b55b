import Detour.Shell.Regex
import Detour.Shell.Utility
/-!
# Shell: searching lines

`grep` selects the lines of its files in which one of its patterns has a match, and puts them out, or what
matches in them, or how many they are. Its status says whether a line has been selected, or whether
something has failed.
-/

namespace Detour

namespace Shell

namespace Utility

open Act

/-- A search in lines. -/
structure Search where
  pattern : Regex
  /-- Which matches count, by their starts and ends. -/
  suits : Cursor → Cursor → Bool
  /-- Whether the lines without a match are selected. -/
  inverted : Bool
  /-- The most lines to select. -/
  most : Option Nat

/-- A line that has been searched. -/
structure SearchedLine where
  number : Nat
  /-- How many characters precede it. -/
  offset : Nat
  text : List Char
  isSelected : Bool

namespace Search

/-- The first match in a text, behind the characters that have been passed over. -/
def matchFrom (s : Search) (passed text : List Char) : Option Regex.Match :=
  s.pattern.searchFrom s.suits passed text

/-- Whether a line is selected. -/
def selects (s : Search) (line : List Char) : Bool :=
  (s.matchFrom [] line).isSome != s.inverted

/-- All that matches in a line, without empty matches; the number bounds the matches. -/
def allMatches (s : Search) : Nat → List Char → List Char → List Regex.Match
  | 0, _, _ => []
  | fuel + 1, passed, text =>
    match s.matchFrom passed text with
    | none => []
    | some m =>
      match m.text, m.after with
      | [], [] => []
      | [], c :: rest => s.allMatches fuel (c :: m.before.reverse) rest
      | found, rest => m :: s.allMatches fuel (found.reverse ++ m.before.reverse) rest

/-- Mark lines, from one with a number on that so many selected lines and characters precede. -/
def mark (s : Search) (number selected offset : Nat) : List (List Char) → List SearchedLine
  | [] => []
  | l :: rest =>
    let isSelected := s.selects l && s.most.all (selected < ·)
    { number := number, offset := offset, text := l, isSelected := isSelected } ::
      s.mark (number + 1) (if isSelected then selected + 1 else selected) (offset + l.length + 1) rest

end Search

/-- The long options of `grep`, with their letters. -/
def searchOptions : List (String × Char) :=
  [("extended-regexp", 'E'), ("fixed-strings", 'F'), ("basic-regexp", 'G'), ("regexp", 'e'),
    ("file", 'f'), ("ignore-case", 'i'), ("invert-match", 'v'), ("word-regexp", 'w'),
    ("line-regexp", 'x'), ("count", 'c'), ("files-with-matches", 'l'), ("files-without-match", 'L'),
    ("max-count", 'm'), ("only-matching", 'o'), ("quiet", 'q'), ("silent", 'q'),
    ("no-messages", 's'), ("line-number", 'n'), ("with-filename", 'H'), ("no-filename", 'h'),
    ("after-context", 'A'), ("before-context", 'B'), ("context", 'C'), ("text", 'a'),
    ("byte-offset", 'b'), ("recursive", 'r'), ("color", 'a'), ("colour", 'a'), ("include", 'a'),
    ("exclude", 'a')]

/-- Complain about a search, and give the status of its failure. -/
def searchFault (message : String) : Act Nat := do
  let _ ← complain "grep" message
  pure 2

/-- Say how `grep` is called. -/
def searchUsage : String :=
  "Usage: grep [OPTION]... PATTERNS [FILE]...\nTry \x27grep --help\x27 for more information."

/-- The selected lines, and their neighbours so far in front or behind. -/
def withNeighbours (before after : Nat) (ls : List SearchedLine) : List SearchedLine :=
  let chosen := (ls.filter fun l => l.isSelected).map fun l => l.number
  ls.filter fun l => chosen.any fun n => n ≤ l.number + before && l.number ≤ n + after

/-- Put out the lines that a search finds in a text under a name; whether it has selected any. -/
def showFound (s : Search) (has : Char → Bool) (before after : Nat) (name : Option String)
    (text : String) : Act Bool := do
  let ls := s.mark 1 0 0 ((lines text).map fun l => Text.dropEnd (· = '\n') l.toList)
  let found := ls.filter fun l => l.isSelected
  let label (mark : String) (number offset : Nat) : String :=
    (name.map (· ++ mark)).getD "" ++ (if has 'n' then toString number ++ mark else "") ++
      (if has 'b' then toString offset ++ mark else "")
  let nameLine := name.getD "" ++ "\n"
  if has 'q' then pure ()
  else if has 'l' then if found.isEmpty then pure () else put nameLine
  else if has 'L' then if found.isEmpty then put nameLine else pure ()
  else if has 'c' then put ((name.map (· ++ ":")).getD "" ++ toString found.length ++ "\n")
  else if has 'o' then
    for l in found do
      for m in (if s.inverted then [] else s.allMatches (l.text.length + 1) [] l.text) do
        put (label ":" l.number (l.offset + m.before.length) ++ String.ofList m.text ++ "\n")
  else
    let mut last := 0
    for l in withNeighbours before after ls do
      if 0 < before + after && last ≠ 0 && last + 1 < l.number then put "--\n"
      put (label (if l.isSelected then ":" else "-") l.number l.offset ++
        String.ofList l.text ++ "\n")
      last := l.number
  pure (!found.isEmpty)

/-- The paths of the files in the folders among some paths, which stand for themselves otherwise. -/
def withFilesBelow (ws : List String) : Act (List String) := do
  let m ← get
  pure <| ws.flatMap fun w =>
    match m.place (if w.isEmpty then "." else w) with
    | .ok (.folder l) =>
      let below := m.files.texts.filterMap fun e =>
        if l.isPrefixOf e.1 then some ("/".intercalate ((e.1.drop l.length).map Utf8.encode))
        else none
      (below.mergeSort fun a b => a ≤ b).map fun s => if w.isEmpty then s else Path.join w s
    | _ => [w]

/-- Find lines in files, by patterns of a kind unless an option says otherwise. -/
def grep (kind : Char) (ws : List String) : Act Nat := do
  let valued := ['e', 'f', 'm', 'A', 'B', 'C']
  let (options, operands) := split valued (ws.map (spelt searchOptions valued))
  let has (c : Char) : Bool := options.any fun o => o.1 = c
  let value? (c : Char) : Option String := options.reverse.lookup c
  let known := "EFGPivywxclLoqsnbHhrRaUZ".toList ++ valued
  match options.find? fun o => !known.contains o.1 with
  | some ('-', _) =>
    let w := (ws.find? fun w => spelt searchOptions valued w = w && "--".toList.isPrefixOf w.toList)
    let name := quoted (w.getD "")
    searchFault s!"unrecognized option {name}\n{searchUsage}"
  | some (c, _) => searchFault s!"invalid option -- \x27{c}\x27\n{searchUsage}"
  | none =>
    let (given, files) :=
      if has 'e' || has 'f' then ([], operands) else (operands.take 1, operands.drop 1)
    if given.isEmpty && !(has 'e' || has 'f') then
      let _ ← write 2 (searchUsage ++ "\n")
      return 2
    let mut patterns := given
    for (c, v) in options do
      if c = 'e' then patterns := patterns ++ [v]
      if c = 'f' then
        match ← input v with
        | .ok text =>
          let text := Text.beforeSuffix? ['\n'] text.toList |>.getD text.toList
          if !text.isEmpty then patterns := patterns ++ [String.ofList text]
        | .error e => return (← searchFault s!"{v}: {reason e}")
    let texts := patterns.flatMap fun p => Text.splitOn '\n' p.toList
    let kind := ((options.map Prod.fst).filter "EFGP".toList.contains).getLast?.getD kind
    let x : Regex.Syntax := { extended := kind ≠ 'G', foldsCase := has 'i' || has 'y' }
    let read (cs : List Char) : Except RegexError Regex :=
      if kind = 'F' then .ok (.literal x cs) else Regex.ofText x cs
    let number? (c : Char) : Option Nat := (value? c).bind fun v => Decimal.digitsValue? 10 v.toList
    let isNumber (c : Char) : Bool := (value? c).isNone || (number? c).isSome
    match texts.mapM read, ['A', 'B', 'C'].find? fun c => !isNumber c with
    | .error e, _ => searchFault e.message
    | _, some c => searchFault ((value? c).getD "" ++ ": invalid context length argument")
    | .ok rs, none =>
      if !isNumber 'm' then searchFault "invalid max count"
      else
        let suits (s t : Cursor) : Bool :=
          if has 'x' then s.before.isNone && t.rest.isEmpty
          else !has 'w' || (!s.wordBefore && !t.wordAfter)
        let search : Search :=
          { pattern := rs.foldr .either (.one fun _ => false), suits := suits, inverted := has 'v'
            most := number? 'm' }
        let around := (number? 'C').getD 0
        let isDeep := has 'r' || has 'R'
        let given := if files.isEmpty then [if isDeep then "" else "-"] else files
        let names ← if isDeep then withFilesBelow given else pure given
        let isNamed := has 'H' || ((1 < names.length || names ≠ given) && !has 'h')
        let mut isFound := false
        let mut status := 1
        for w in names do
          if isFound && has 'q' then break
          let label := if w = "-" then "(standard input)" else w
          match ← input w with
          | .ok text =>
            let asked := isNamed || has 'l' || has 'L'
            let found ← showFound search has ((number? 'B').getD around) ((number? 'A').getD around)
              (if asked then some label else none) text
            isFound := isFound || found
          | .error e =>
            status := 2
            if e = .isFolder && has 'c' then
              let _ ← showFound search has 0 0 (if isNamed then some label else none) ""
            if !has 's' then
              let _ ← complain "grep" s!"{w}: {reason e}"
        pure (if isFound && (has 'q' || status = 1) then 0 else status)

end Utility

end Shell

end Detour
