import Detour.Shell.Arithmetic
import Detour.Shell.Utility.Columns
/-!
# Shell: lines in order

`sort` puts lines in order, by parts of them if there are keys; lines that are alike by their keys are
ordered by all of their text. `uniq` puts out only one of the lines that are alike and follow each other.
-/

namespace Detour

namespace Shell

namespace Utility

open Act

/-- How parts of lines are compared. -/
structure LineOrder where
  isNumeric : Bool := false
  isReversed : Bool := false
  foldsCase : Bool := false
  /-- Whether blanks in front are passed over. -/
  skipsBlanks : Bool := false
deriving DecidableEq, Repr

/-- A place in a line, as the number of a field and that of a character in it. -/
structure KeyPlace where
  field : Nat
  character : Nat
  skipsBlanks : Bool
deriving DecidableEq, Repr

/-- A part of lines that they are ordered by. -/
structure SortKey where
  first : KeyPlace
  last : Option KeyPlace
  order : LineOrder
deriving DecidableEq, Repr

/-- Add what letters say to a way to compare; none if a letter says nothing. -/
def LineOrder.withLetters? (o : LineOrder) : List Char → Option LineOrder
  | [] => some o
  | 'n' :: cs => withLetters? { o with isNumeric := true } cs
  | 'r' :: cs => withLetters? { o with isReversed := true } cs
  | 'f' :: cs => withLetters? { o with foldsCase := true } cs
  | 'b' :: cs => withLetters? { o with skipsBlanks := true } cs
  | _ => none

/-- The number that a text starts with, as its digits and how many of them are behind the point. -/
def decimalOf (cs : List Char) : Int × Nat :=
  let cs := cs.dropWhile Arithmetic.isSpace
  let (isNegative, cs) := match cs with
    | '-' :: rest => (true, rest)
    | cs => (false, cs)
  let whole := cs.takeWhile Char.isDigit
  let places := match cs.drop whole.length with
    | '.' :: rest => rest.takeWhile Char.isDigit
    | _ => []
  let n : Int := ((Decimal.digitsValue? 10 (whole ++ places)).getD 0 : Nat)
  (if isNegative then -n else n, places.length)

/-- Whether a part is in front of another one. -/
def LineOrder.isBelow (o : LineOrder) (a b : List Char) : Bool :=
  let (a, b) := if o.isReversed then (b, a) else (a, b)
  if o.isNumeric then
    let ((m, i), (n, j)) := (decimalOf a, decimalOf b)
    m * Int.pow 10 j < n * Int.pow 10 i
  else
    let plain (cs : List Char) : List Char :=
      let cs := if o.skipsBlanks then cs.dropWhile Arithmetic.isSpace else cs
      if o.foldsCase then cs.map Char.toUpper else cs
    plain a < plain b

namespace KeyPlace

/-- What follows so many fields of a text. Without a delimiter, fields start with blanks. -/
def dropFields (delimiter : Option Char) : Nat → List Char → List Char
  | 0, cs => cs
  | n + 1, cs =>
    match delimiter with
    | some d => dropFields delimiter n ((cs.dropWhile (· ≠ d)).drop 1)
    | none =>
      dropFields delimiter n
        ((cs.dropWhile Arithmetic.isSpace).dropWhile fun c => !Arithmetic.isSpace c)

/-- What a text holds from a place on. -/
def restFrom (p : KeyPlace) (delimiter : Option Char) (cs : List Char) : List Char :=
  let rest := dropFields delimiter (p.field - 1) cs
  (if p.skipsBlanks then rest.dropWhile Arithmetic.isSpace else rest).drop (p.character - 1)

/-- What a text holds behind a place; the place of no character is the end of its field. -/
def behind (p : KeyPlace) (delimiter : Option Char) (cs : List Char) : List Char :=
  if p.character = 0 then
    let rest := dropFields delimiter (p.field - 1) cs
    match delimiter with
    | some d => rest.dropWhile (· ≠ d)
    | none => dropFields none 1 rest
  else p.restFrom delimiter cs |>.drop 1

end KeyPlace

/-- The part of a line that a key means. -/
def SortKey.part (k : SortKey) (delimiter : Option Char) (line : List Char) : List Char :=
  let rest := k.first.restFrom delimiter line
  match k.last with
  | none => rest
  | some p => rest.take (rest.length - (p.behind delimiter line).length)

/-- The place in a line that a text spells, and the letters behind it. -/
def KeyPlace.ofText? (isEnd : Bool) (cs : List Char) : Option (KeyPlace × List Char) := do
  let ds := cs.takeWhile Char.isDigit
  let field ← Decimal.digitsValue? 10 ds
  let (character, letters) ← match cs.drop ds.length with
    | '.' :: rest => do
      let es := rest.takeWhile Char.isDigit
      pure (← Decimal.digitsValue? 10 es, rest.drop es.length)
    | rest => pure (if isEnd then 0 else 1, rest)
  if field = 0 || (!isEnd && character = 0) then none
  else pure (⟨field, character, letters.contains 'b'⟩, letters)

/-- The key that a text spells; without letters of its own, lines are compared by `order`. -/
def SortKey.ofText? (order : LineOrder) (cs : List Char) : Option SortKey := do
  let (front, back) := match Text.cut? ',' cs with
    | some (front, back) => (front, some back)
    | none => (cs, none)
  let (first, letters) ← KeyPlace.ofText? false front
  let last ← match back with
    | none => pure none
    | some back => some <$> KeyPlace.ofText? true back
  let all := letters ++ (last.map Prod.snd).getD []
  let own ← LineOrder.withLetters? {} all
  if all.isEmpty then
    pure ⟨{ first with skipsBlanks := order.skipsBlanks },
      last.map fun p => { p.1 with skipsBlanks := order.skipsBlanks }, order⟩
  else pure ⟨first, last.map Prod.fst, { own with skipsBlanks := false }⟩

/-- Whether a line is in front of another one by some keys, the first that tells them apart. -/
def isBelowBy (delimiter : Option Char) (a b : List Char) : List SortKey → Bool
  | [] => false
  | k :: rest =>
    let (p, q) := (k.part delimiter a, k.part delimiter b)
    if k.order.isBelow p q then true
    else if k.order.isBelow q p then false
    else isBelowBy delimiter a b rest

/-- The first of each run of elements that are alike. -/
def firstOfRuns {α : Type} (alike : α → α → Bool) : Option α → List α → List α
  | _, [] => []
  | last, a :: rest =>
    if last.any fun b => alike b a then firstOfRuns alike last rest
    else a :: firstOfRuns alike (some a) rest

/-- The long options of `sort`, with their letters. -/
def sortOptions : List (String × Char) :=
  [("numeric-sort", 'n'), ("reverse", 'r'), ("unique", 'u'), ("ignore-case", 'f'),
    ("ignore-leading-blanks", 'b'), ("stable", 's'), ("key", 'k'), ("field-separator", 't'),
    ("output", 'o'), ("check", 'c')]

/-- Put out lines in order. -/
def sort (ws : List String) : Act Nat :=
  let valued := ['k', 't', 'o']
  withOptions "sort" sortOptions "nrufbsc".toList valued ws fun options ws => do
    let has (c : Char) : Bool := options.any fun o => o.1 = c
    let fault (message : String) : Act Nat := do
      let _ ← complain "sort" message
      pure 2
    let order : LineOrder :=
      { isNumeric := has 'n', isReversed := has 'r', foldsCase := has 'f', skipsBlanks := has 'b' }
    let delimiter? := options.reverse.lookup 't'
    if delimiter? = some "" then return (← fault "empty tab")
    if let some t := delimiter? then
      if 1 < t.length && t ≠ "\\0" then return (← fault s!"multi-character tab {quoted t}")
    let delimiter := delimiter?.bind fun t => if t = "\\0" then some '\x00' else t.toList.head?
    let mut keys : List SortKey := []
    for (c, v) in options do
      if c = 'k' then
        match SortKey.ofText? order v.toList with
        | some k => keys := keys ++ [k]
        | none => return (← fault s!"invalid field specification {quoted v}")
    let results ← (if ws.isEmpty then ["-"] else ws).mapM fun w => do pure (w, ← input w)
    for (w, r) in results do
      match r with
      | .error .isFolder | .ok _ => pure ()
      | .error e => return (← fault s!"cannot read: {shown w}: {reason e}")
    let mut all : List (List Char) := []
    for (w, r) in results do
      match r with
      | .ok text => all := all ++ bareLines text
      | .error e => return (← fault s!"read failed: {shown w}: {reason e}")
    if keys.isEmpty then keys := [⟨⟨1, 1, has 'b'⟩, none, order⟩]
    let chosen := keys
    let byKeys (a b : List Char) : Bool := isBelowBy delimiter a b chosen
    let isPlain := has 's' || has 'u'
    let below (a b : List Char) : Bool :=
      byKeys a b || (!byKeys b a && !isPlain && if has 'r' then b < a else a < b)
    let alike (a b : List Char) : Bool := !byKeys a b && !byKeys b a
    if has 'c' then
      let pairs := (all.zip (all.drop 1)).zipIdx 2
      match pairs.find? fun ((a, b), _) => below b a || (has 'u' && alike a b) with
      | none => pure 0
      | some ((_, l), n) =>
        let name := (ws.head?).getD "-"
        let text := String.ofList l
        complain "sort" s!"{name}:{n}: disorder: {text}"
    else
      let ordered := all.mergeSort fun a b => !below b a
      let ordered := if has 'u' then firstOfRuns alike none ordered else ordered
      let text := String.join (ordered.map fun l => String.ofList l ++ "\n")
      match options.reverse.lookup 'o' with
      | none => do
        put text
        pure 0
      | some w =>
        match ← output w text false with
        | .ok _ => pure 0
        | .error e => fault s!"open failed: {shown w}: {reason e}"

/-- The long options of `uniq`, with their letters. -/
def uniqOptions : List (String × Char) :=
  [("count", 'c'), ("repeated", 'd'), ("unique", 'u'), ("ignore-case", 'i')]

/-- The runs of elements that are alike. -/
def runs {α : Type} (alike : α → α → Bool) : List α → List (α × Nat)
  | [] => []
  | a :: rest =>
    match runs alike rest with
    | (b, n) :: more => if alike a b then (a, n + 1) :: more else (a, 1) :: (b, n) :: more
    | [] => [(a, 1)]

/-- Put out lines, but one that is like the line before it only once. -/
def uniq (ws : List String) : Act Nat :=
  withOptions "uniq" uniqOptions ['c', 'd', 'u', 'i'] [] ws fun options ws => do
    let has (c : Char) : Bool := options.any fun o => o.1 = c
    if let some extra := ws[2]? then return (← misuse "uniq" s!"extra operand {quoted extra}")
    let w := ws.headD "-"
    match ← input w with
    | .ok text =>
      let alike (a b : List Char) : Bool :=
        if has 'i' then a.map Char.toLower = b.map Char.toLower else a = b
      let chosen := (runs alike (bareLines text)).filter fun r =>
        (!has 'd' || 1 < r.2) && (!has 'u' || r.2 = 1)
      let count (n : Nat) : String := aligned 7 (toString n) ++ " "
      let new := String.join (chosen.map fun (l, n) =>
        (if has 'c' then count n else "") ++ String.ofList l ++ "\n")
      match ws[1]? with
      | some v =>
        if v = "-" then put new else
          if let .error e := (← output v new false) then
            return (← complain "uniq" s!"{shown v}: {reason e}")
      | none => put new
      pure 0
    | .error .isFolder => complain "uniq" s!"error reading {quoted w}: Is a directory"
    | .error e => complain "uniq" s!"{shown w}: {reason e}"

end Utility

end Shell

end Detour
