import Detour.Shell.Utility
/-!
# Shell: parts of lines

`cut` puts out the parts of lines at some places, which are characters or the fields between delimiters.
`paste` puts the lines of files side by side, with delimiters between them.
-/

namespace Detour

namespace Shell

namespace Utility

open Act

/-- The places from one to another, counted from one; up to the end if there is no last one. -/
structure Span where
  first : Nat
  last : Option Nat
deriving DecidableEq, Repr

/-- Whether a place is in a span. -/
def Span.holds (s : Span) (n : Nat) : Bool :=
  s.first ≤ n && s.last.all (n ≤ ·)

/-- The causes for which a text spells no span. -/
inductive SpanError where
  | zero
  | decreasing
  | endless
  | manyDashes
  | badPlace (text : String)
deriving DecidableEq, Repr

/-- The message of an error, about fields or about characters. -/
def SpanError.message (byField : Bool) : SpanError → String
  | zero =>
    (if byField then "fields" else "byte/character positions") ++ " are numbered from 1"
  | decreasing => "invalid decreasing range"
  | endless => "invalid range with no endpoint: -"
  | manyDashes => if byField then "invalid field range" else "invalid byte or character range"
  | badPlace text =>
    (if byField then "invalid field value " else "invalid byte/character position ") ++ quoted text

/-- The span that a text spells; `rest` is what follows it in its list. -/
def Span.ofText (text rest : List Char) : Except SpanError Span :=
  let place (cs : List Char) : Except SpanError Nat :=
    match Decimal.digitsValue? 10 cs with
    | some n => .ok n
    | none => .error (.badPlace (String.ofList (cs.dropWhile Char.isDigit ++ rest)))
  match Text.splitOn '-' text with
  | [[]] => .error .zero
  | [[], []] => .error .endless
  | [a] => do
    let n ← place a
    if n = 0 then .error .zero else .ok ⟨n, some n⟩
  | [a, b] => do
    let first ← if a.isEmpty then pure 1 else place a
    let last ← if b.isEmpty then pure none else some <$> place b
    if first = 0 then .error .zero
    else if last.any (· < first) then .error .decreasing
    else .ok ⟨first, last⟩
  | _ => .error .manyDashes

/-- The spans that a list spells. -/
def spansOf : Nat → List Char → Except SpanError (List Span)
  | 0, _ => .ok []
  | fuel + 1, cs =>
    let isEnd (c : Char) : Bool := c = ',' || c = ' ' || c = '\t'
    let piece := cs.takeWhile fun c => !isEnd c
    let rest := cs.drop piece.length
    do
      let s ← Span.ofText piece rest
      match rest with
      | [] => return [s]
      | _ :: rest => return s :: (← spansOf fuel rest)

/-- What is cut out of lines. -/
structure Cut where
  spans : List Span
  /-- Whether all other places are meant. -/
  inverted : Bool
  /-- What parts the fields of a line, if it is fields that are cut out. -/
  delimiter : Option Char
  /-- What is put between the parts. -/
  joint : Option (List Char)
  /-- Whether lines without a delimiter are left out. -/
  isStrict : Bool

namespace Cut

/-- Whether a place is cut out. -/
def selects (c : Cut) (n : Nat) : Bool :=
  c.spans.any (·.holds n) != c.inverted

/-- Whether a place belongs to the same part as the one in front of it. -/
def continues (c : Cut) (n : Nat) : Bool :=
  if c.inverted then c.selects (n - 1) else c.spans.any fun s => s.holds (n - 1) && s.holds n

/-- The characters of a line that are cut out. -/
def characters (c : Cut) (line : List Char) : List Char :=
  let chosen := (line.zipIdx 1).filter fun (_, n) => c.selects n
  match c.joint with
  | none => chosen.map Prod.fst
  | some joint =>
    (chosen.zipIdx.map fun ((d, n), i) =>
      if 0 < i && !c.continues n then joint ++ [d] else [d]).flatten

/-- What is put out for a line, if anything is. -/
def kept? (c : Cut) (line : List Char) : Option (List Char) :=
  match c.delimiter with
  | none => some (c.characters line)
  | some d =>
    match Text.splitOn d line with
    | [_] => if c.isStrict then none else some line
    | fields =>
      let chosen := (fields.zipIdx 1).filter fun (_, n) => c.selects n
      some (List.intercalate (c.joint.getD [d]) (chosen.map Prod.fst))

end Cut

/-- Put out what is cut out of the lines of files. -/
def cut (ws : List String) : Act Nat :=
  let long := [("fields", 'f'), ("bytes", 'b'), ("characters", 'c'), ("delimiter", 'd'),
    ("output-delimiter", 'O'), ("only-delimited", 's'), ("complement", 'C')]
  let valued := ['f', 'b', 'c', 'd', 'O']
  withOptions "cut" long ['s', 'n', 'C'] valued ws fun options ws => do
    let has (c : Char) : Bool := options.any fun o => o.1 = c
    let lists := options.filter fun o => ['f', 'b', 'c'].contains o.1
    let delimiter? := options.reverse.lookup 'd'
    if delimiter?.any fun d => 1 < d.length then
      return (← misuse "cut" "the delimiter must be a single character")
    match lists with
    | [] => misuse "cut" "you must specify a list of bytes, characters, or fields"
    | _ :: _ :: _ => misuse "cut" "only one list may be specified"
    | [(kind, list)] =>
      let byField := kind = 'f'
      if !byField && delimiter?.isSome then
        misuse "cut" "an input delimiter may be specified only when operating on fields"
      else if !byField && has 's' then
        misuse "cut"
          "suppressing non-delimited lines makes sense\n\tonly when operating on fields"
      else
        match spansOf (list.length + 1) list.toList with
        | .error e => misuse "cut" (e.message byField)
        | .ok spans =>
          let delimiter := ((delimiter?.getD "\t").toList.head?).getD '\x00'
          let c : Cut :=
            { spans := spans, inverted := has 'C', isStrict := has 's'
              delimiter := if byField then some delimiter else none
              joint := (options.reverse.lookup 'O').map String.toList }
          each (if ws.isEmpty then ["-"] else ws) fun w => do
            match ← input w with
            | .ok text =>
              for l in (bareLines text).filterMap c.kept? do
                put (String.ofList l ++ "\n")
              pure 0
            | .error e => complain "cut" s!"{shown w}: {reason e}"

/-- The delimiters that a list spells, each of at most one character. -/
def delimitersOf : List Char → List (List Char)
  | [] => []
  | '\\' :: c :: cs =>
    let d := match c with
      | 'n' => ['\n']
      | 't' => ['\t']
      | '0' => []
      | c => [c]
    d :: delimitersOf cs
  | c :: cs => [c] :: delimitersOf cs

/-- Texts with delimiters between them, which are taken in turn. -/
def joined (delimiters : List (List Char)) (texts : List (List Char)) : List Char :=
  (texts.zipIdx.map fun (text, i) =>
    if i = 0 then text
    else (delimiters[(i - 1) % max delimiters.length 1]?).getD [] ++ text).flatten

/-- The rows of columns that are side by side. The columns are named by numbers, and a column that is
there twice is taken from by turns. The first number bounds the rows. -/
def rows : Nat → List Nat → List (Nat × List (List Char)) → List (List (List Char))
  | 0, _, _ => []
  | fuel + 1, columns, texts =>
    let (row, left) := columns.foldl (fun (row, texts) n =>
      match texts.lookup n with
      | some (l :: rest) => (row ++ [some l], (n, rest) :: texts)
      | _ => (row ++ [none], texts)) (([] : List (Option (List Char))), texts)
    if row.all Option.isNone then []
    else row.map (·.getD []) :: rows fuel columns left

/-- Put out the lines of files side by side, or the lines of each file on one line. -/
def paste (ws : List String) : Act Nat :=
  withOptions "paste" [("delimiters", 'd'), ("serial", 's')] ['s'] ['d'] ws fun options ws => do
    let delimiters := delimitersOf ((options.reverse.lookup 'd').getD "\t").toList
    let ws := if ws.isEmpty then ["-"] else ws
    let show_ (texts : List (List Char)) : Act Unit :=
      put (String.ofList (joined delimiters texts) ++ "\n")
    if options.any fun o => o.1 = 's' then
      each ws fun w => do
        match ← input w with
        | .ok text =>
          show_ (bareLines text)
          pure 0
        | .error e => complain "paste" s!"{shown w}: {reason e}"
    else
      let mut texts : List (Nat × List (List Char)) := []
      let mut columns : List Nat := []
      for (w, i) in ws.zipIdx do
        let n := if w = "-" then 0 else i + 1
        columns := columns ++ [n]
        if (texts.lookup n).isNone then
          match ← input w with
          | .ok text => texts := (n, bareLines text) :: texts
          | .error e => return (← complain "paste" s!"{shown w}: {reason e}")
      let size := (texts.map fun t => t.2.length).foldl max 0
      for row in rows (size + 1) columns texts do
        show_ row
      pure 0

end Utility

end Shell

end Detour
