import Detour.Shell.Arithmetic
/-!
# Shell: printing

How texts are printed with their escapes, and how words are printed by a format. A format is used again
as long as words are left; a word that is missing counts as empty, or as zero.
-/

namespace Detour

namespace Shell

namespace Format

/-! ## Escapes -/

/-- Whether a character is an octal digit. -/
def isOctal (c : Char) : Bool :=
  '0' ≤ c && c ≤ '7'

/-- The character that a backslash and the text behind it stand for, and what remains of the text. -/
def escape (cs : List Char) : Char × List Char :=
  match cs with
  | [] => ('\\', [])
  | c :: rest =>
    if isOctal c then
      let ds := (cs.take 3).takeWhile isOctal
      (Char.ofNat ((Decimal.appendDigits? 8 0 ds).getD 0 % 256), cs.drop ds.length)
    else
      match c with
      | 'a' => (Char.ofNat 7, rest)
      | 'b' => (Char.ofNat 8, rest)
      | 'e' => (Char.ofNat 27, rest)
      | 'f' => (Char.ofNat 12, rest)
      | 'n' => ('\n', rest)
      | 'r' => ('\r', rest)
      | 't' => ('\t', rest)
      | 'v' => (Char.ofNat 11, rest)
      | '\\' => ('\\', rest)
      | _ => ('\\', cs)

/-- A text with its escapes put in, and whether it goes on: `\c` ends all printing. An octal number may
have a zero in front of its three digits. -/
def unescape : Nat → List Char → List Char × Bool
  | 0, _ => ([], true)
  | _ + 1, [] => ([], true)
  | fuel + 1, '\\' :: cs =>
    match cs with
    | 'c' :: _ => ([], false)
    | '0' :: d :: rest =>
      let (c, rest) := escape (if isOctal d then d :: rest else cs)
      let (more, goesOn) := unescape fuel rest
      (c :: more, goesOn)
    | cs =>
      let (c, rest) := escape cs
      let (more, goesOn) := unescape fuel rest
      (c :: more, goesOn)
  | fuel + 1, c :: cs =>
    let (more, goesOn) := unescape fuel cs
    (c :: more, goesOn)

/-- A text with its escapes put in. -/
def unescapeAll (s : String) : List Char × Bool :=
  unescape (s.length + 1) s.toList

/-- Words with blanks between them, up to one that ends all printing. -/
def echoWords (lineEnd : Bool) : List String → List Char
  | [] => if lineEnd then ['\n'] else []
  | [w] =>
    let (cs, goesOn) := unescapeAll w
    if goesOn && lineEnd then cs ++ ['\n'] else cs
  | w :: rest =>
    let (cs, goesOn) := unescapeAll w
    if goesOn then cs ++ ' ' :: echoWords lineEnd rest else cs

/-- What `echo` prints. -/
def echo : List String → String
  | "-n" :: words => String.ofList (echoWords false words)
  | words => String.ofList (echoWords true words)

/-! ## Formats -/

/-- How a word is printed. -/
structure Layout where
  flags : List Char := []
  width : Nat := 0
  /-- The least number of digits, or the greatest number of characters. -/
  precision : Option Nat := none

/-- Fill a text up to the width. -/
def Layout.fill (l : Layout) (cs : List Char) : List Char :=
  let blanks := List.replicate (l.width - cs.length) ' '
  if l.flags.contains '-' then cs ++ blanks else blanks ++ cs

/-- Lay out a text. -/
def Layout.text (l : Layout) (cs : List Char) : List Char :=
  l.fill (match l.precision with
    | some n => cs.take n
    | none => cs)

/-- Lay out a number, by what stands in front of its digits. -/
def Layout.number (l : Layout) (sign digits : List Char) : List Char :=
  match l.precision with
  | some n =>
    let digits := if n = 0 && digits = ['0'] then [] else digits
    l.fill (sign ++ List.replicate (n - digits.length) '0' ++ digits)
  | none =>
    if l.flags.contains '0' && !l.flags.contains '-' then
      sign ++ List.replicate (l.width - sign.length - digits.length) '0' ++ digits
    else l.fill (sign ++ digits)

/-- Lay out an integer with its sign. -/
def Layout.signed (l : Layout) (n : Int) : List Char :=
  let sign :=
    if n < 0 then ['-']
    else if l.flags.contains '+' then ['+']
    else if l.flags.contains ' ' then [' ']
    else []
  l.number sign (Nat.toDigits 10 n.natAbs)

/-- Lay out a natural number by a radix. -/
def Layout.unsigned (l : Layout) (radix : Nat) (upper : Bool) (n : Nat) : List Char :=
  let digits := Nat.toDigits radix n
  let digits := if upper then digits.map Char.toUpper else digits
  let marked := l.flags.contains '#' && n ≠ 0
  if radix = 16 then l.number (if marked then (if upper then ['0', 'X'] else ['0', 'x']) else []) digits
  else if radix = 8 && marked then l.number [] ('0' :: digits)
  else l.number [] digits

/-- Printing under way. -/
structure Printing where
  /-- The words that are left. -/
  words : List String
  output : List Char := []
  /-- What is wrong with words that should be numbers. -/
  complaints : List String := []
  /-- Whether all is printed. -/
  isDone : Bool := false
  /-- What is wrong with the format. -/
  failure : Option String := none

namespace Printing

/-- Print characters. -/
def put (p : Printing) (cs : List Char) : Printing :=
  { p with output := p.output ++ cs }

/-- Take the next word. -/
def next (p : Printing) : String × Printing :=
  (p.words.headD "", { p with words := p.words.tail })

/-- Take the next word as a number within bounds. -/
def integer (low high : Int) (p : Printing) : Int × Printing :=
  let (w, p) := p.next
  let complain (p : Printing) (what : String) : Printing :=
    { p with complaints := p.complaints ++ [s!"{w}: {what}"] }
  match w.toList with
  | '"' :: rest | '\'' :: rest => ((rest.head?.map fun c => (c.toNat : Int)).getD 0, p)
  | cs =>
    match Arithmetic.signed? cs with
    | none => (0, if w.isEmpty then p else complain p "expected numeric value")
    | some (n, rest) =>
      let bounded := max low (min high n)
      if !rest.isEmpty then (bounded, complain p "not completely converted")
      else if bounded ≠ n then (bounded, complain p "Numerical result out of range")
      else (n, p)

/-- Take the next word as an integer with a sign. -/
def signed (p : Printing) : Int × Printing :=
  integer Int64.minValue.toInt Int64.maxValue.toInt p

/-- Take the next word as a natural number of 64 bits; a negative one wraps. -/
def unsigned (p : Printing) : Nat × Printing :=
  let (n, p) := integer (-18446744073709551615) 18446744073709551615 p
  ((n % 18446744073709551616).toNat, p)

/-- Take a star for a number from the words. -/
def starred (cs : List Char) (p : Printing) : Option Int × List Char × Printing :=
  match cs with
  | '*' :: rest =>
    let (n, p) := p.signed
    (some n, rest, p)
  | cs =>
    let ds := cs.takeWhile Char.isDigit
    ((Decimal.digitsValue? 10 ds).map Int.ofNat, cs.drop ds.length, p)

/-- Print a word in the place of a directive, and give what remains of the format. -/
def directive (start cs : List Char) (p : Printing) : Printing × List Char :=
  let isFlag (c : Char) := ['#', '-', '+', ' ', '0'].contains c
  let flags := cs.takeWhile isFlag
  let (width, cs, p) := starred (cs.dropWhile isFlag) p
  let (precision, cs, p) : Option Nat × List Char × Printing := match cs with
    | '.' :: cs =>
      let (n, cs, p) := starred cs p
      (some (n.getD 0).toNat, cs, p)
    | cs => (none, cs, p)
  let l : Layout :=
    { flags := if width.any (· < 0) then '-' :: flags else flags
      width := (width.getD 0).natAbs
      precision := precision }
  match cs with
  | [] => ({ p with failure := some "missing format character" }, [])
  | c :: rest =>
    match c with
    | 's' =>
      let (w, p) := p.next
      (p.put (l.text w.toList), rest)
    | 'b' =>
      let (w, p) := p.next
      let (cs, goesOn) := unescapeAll w
      ({ p.put (l.text cs) with isDone := !goesOn }, rest)
    | 'c' =>
      let (w, p) := p.next
      (p.put (l.fill [w.toList.headD (Char.ofNat 0)]), rest)
    | 'd' | 'i' =>
      let (n, p) := p.signed
      (p.put (l.signed n), rest)
    | 'u' =>
      let (n, p) := p.unsigned
      (p.put (l.unsigned 10 false n), rest)
    | 'o' =>
      let (n, p) := p.unsigned
      (p.put (l.unsigned 8 false n), rest)
    | 'x' =>
      let (n, p) := p.unsigned
      (p.put (l.unsigned 16 false n), rest)
    | 'X' =>
      let (n, p) := p.unsigned
      (p.put (l.unsigned 16 true n), rest)
    | _ =>
      let spelt := start.take (start.length - rest.length)
      ({ p with failure := some s!"{String.ofList spelt}: invalid directive" }, [])

/-- Print by a format once. -/
def once : Nat → List Char → Printing → Printing
  | 0, _, p => p
  | _ + 1, [], p => p
  | fuel + 1, '%' :: '%' :: cs, p => once fuel cs (p.put ['%'])
  | fuel + 1, '%' :: cs, p =>
    let (p, rest) := directive ('%' :: cs) cs p
    if p.isDone || p.failure.isSome then p else once fuel rest p
  | fuel + 1, '\\' :: cs, p =>
    let (c, rest) := escape cs
    once fuel rest (p.put [c])
  | fuel + 1, c :: cs, p => once fuel cs (p.put [c])

/-- Print by a format as long as it takes words and words are left. -/
def all (cs : List Char) : Nat → Printing → Printing
  | 0, p => p
  | fuel + 1, p =>
    let q := once (cs.length + 1) cs p
    if q.isDone || q.failure.isSome || q.words.isEmpty || q.words.length = p.words.length then q
    else all cs fuel q

end Printing

/-- Print words by a format. -/
def print (format : String) (words : List String) : Printing :=
  Printing.all format.toList (words.length + 1) { words := words }

end Format

end Shell

end Detour
