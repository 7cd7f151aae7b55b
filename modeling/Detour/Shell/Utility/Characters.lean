import Detour.Shell.Format
import Detour.Shell.Utility
import Detour.Shell.Pattern
/-!
# Shell: replacing characters

`tr` puts out its input with characters replaced, left out, or only once where they follow each other.
-/

namespace Detour

namespace Shell

namespace Utility

open Act

/-- The causes for which a text spells no characters. -/
inductive CharactersError where
  | badClass (name : String)
  | reversed (first last : Char)
deriving DecidableEq, Repr

/-- The message of an error. -/
def CharactersError.message : CharactersError → String
  | badClass name => s!"invalid character class {quoted name}"
  | reversed first last =>
    let range := first.toString ++ "-" ++ last.toString
    s!"range-endpoints of {quoted range} are in reverse collating sequence order"

/-- The character that a list for `tr` starts with, perhaps behind a backslash, and the rest. -/
def listedCharacter : List Char → Option (Char × List Char)
  | [] => none
  | ['\\'] => some ('\\', [])
  | '\\' :: c :: cs =>
    let ds := (c :: cs).takeWhile Format.isOctal |>.take 3
    match Decimal.digitsValue? 8 ds with
    | some n => some (Char.ofNat (n % 256), (c :: cs).drop ds.length)
    | none =>
      let d := match c with
        | 'a' => '\x07'
        | 'b' => '\x08'
        | 'f' => '\x0c'
        | 'n' => '\n'
        | 'r' => '\x0d'
        | 't' => '\t'
        | 'v' => '\x0b'
        | c => c
      some (d, cs)
  | c :: cs => some (c, cs)

/-- All characters. -/
def allCharacters : List Char :=
  (List.range 256).map Char.ofNat

/-- The characters that a list for `tr` spells. -/
def characterList : Nat → List Char → Except CharactersError (List Char)
  | 0, _ => .ok []
  | fuel + 1, cs =>
    let className? : Option (String × List Char) := match cs with
      | '[' :: ':' :: rest =>
        let name := rest.takeWhile (· ≠ ':')
        match rest.drop name.length with
        | ':' :: ']' :: rest => some (String.ofList name, rest)
        | _ => none
      | _ => none
    match className? with
    | some (name, rest) =>
      match Pattern.classes.lookup name with
      | some holds => do return allCharacters.filter holds ++ (← characterList fuel rest)
      | none => .error (.badClass name)
    | none =>
      match cs with
      | '[' :: '=' :: c :: '=' :: ']' :: rest => do return c :: (← characterList fuel rest)
      | cs =>
        match listedCharacter cs with
        | none => .ok []
        | some (c, rest) =>
          let last? : Option (Char × List Char) := match rest with
            | '-' :: behind => listedCharacter behind
            | _ => none
          match last? with
          | none => do return c :: (← characterList fuel rest)
          | some (d, behind) =>
            if d < c then .error (.reversed c d)
            else do
              let range := (List.range (d.toNat + 1 - c.toNat)).map fun i => Char.ofNat (c.toNat + i)
              return range ++ (← characterList fuel behind)

/-- A text in which characters of a list that follow each other are there once. -/
def squeeze (listed : List Char) : Option Char → List Char → List Char
  | _, [] => []
  | last, c :: rest =>
    if last = some c && listed.contains c then squeeze listed last rest
    else c :: squeeze listed (some c) rest

/-- The character that stands for another one: that at its place in a second list, whose last character
stands for those without a place in it. -/
def replacement (listed new : List Char) (c : Char) : Char :=
  match (listed.reverse).idxOf? c with
  | some i => ((new[listed.length - 1 - i]?).orElse fun _ => new.getLast?).getD c
  | none => c

/-- Put out the input with characters replaced or left out. -/
def tr (ws : List String) : Act Nat :=
  let long := [("delete", 'd'), ("squeeze-repeats", 's'), ("complement", 'c'), ("truncate-set1", 't')]
  withOptions "tr" long ['d', 's', 'c', 'C', 't'] [] ws fun options ws => do
    let has (c : Char) : Bool := options.any fun o => o.1 = c
    let isShort := has 'd' != has 's'
    let most := if has 'd' && !has 's' then 1 else 2
    let least := if isShort then 1 else 2
    if ws.isEmpty then return (← misuse "tr" "missing operand")
    if ws.length < least then
      let reason :=
        if has 'd' then "Two strings must be given when both deleting and squeezing repeats."
        else "Two strings must be given when translating."
      let last := quoted (ws.headD "")
      return (← misuse "tr" s!"missing operand after {last}\n{reason}")
    if let some extra := ws[most]? then
      let reason :=
        if most = 1 then "\nOnly one string may be given when deleting without squeezing repeats."
        else ""
      return (← misuse "tr" s!"extra operand {quoted extra}{reason}")
    match ws.mapM fun w => characterList (w.length + 1) w.toList with
    | .error e => complain "tr" e.message
    | .ok lists =>
      let listed := lists.headD []
      let listed :=
        if has 'c' || has 'C' then allCharacters.filter fun c => !listed.contains c else listed
      match lists[1]? with
      | none =>
        let text := (← readAll 0).toList
        put (String.ofList
          (if has 'd' then text.filter fun c => !listed.contains c else squeeze listed none text))
        pure 0
      | some new =>
        if has 'd' then
          let text := (← readAll 0).toList.filter fun c => !listed.contains c
          put (String.ofList (squeeze new none text))
          pure 0
        else if new.isEmpty && !has 't' then
          complain "tr" "when not truncating set1, string2 must be non-empty"
        else
          let listed := if has 't' then listed.take new.length else listed
          let text := (← readAll 0).toList.map (replacement listed new)
          put (String.ofList (if has 's' then squeeze new none text else text))
          pure 0

end Utility

end Shell

end Detour
