import Detour.Json.Literal
/-!
# JSON: reading a text

`Json.read?` reads a whole text strictly by the grammar of RFC 8259. Arrays and objects that lie
inside more than 126 others are flawed. The work is bounded by the length of the text, since every two
steps of the reader consume a character.
-/

namespace Detour

namespace Json

/-- Drop the blanks between tokens. -/
def skipBlank (cs : List Char) : List Char :=
  cs.dropWhile fun c => c == ' ' || c == '\n' || c == '\t' || c == '\r'

/-- The greatest depth of nested arrays and objects. -/
def maxDepth : Nat := 127

mutual
/-- Read a value. -/
def value? : Nat → List Char → Option (Node × List Char)
  | 0, _ => none
  | fuel + 1, cs =>
    match skipBlank cs with
    | '"' :: rest => string? rest
    | '[' :: rest =>
      match skipBlank rest with
      | ']' :: rest => some (.list [], rest)
      | rest => (items? fuel rest).map fun (ns, rest) => (.list ns, rest)
    | '\x7b' :: rest =>
      match skipBlank rest with
      | '\x7d' :: rest => some (.object [], rest)
      | rest => (entries? fuel rest).map fun (kvs, rest) => (.object kvs, rest)
    | 'n' :: 'u' :: 'l' :: 'l' :: rest => some (.null, rest)
    | 't' :: 'r' :: 'u' :: 'e' :: rest => some (.bool true, rest)
    | 'f' :: 'a' :: 'l' :: 's' :: 'e' :: rest => some (.bool false, rest)
    | '-' :: rest => number? true rest
    | rest => number? false rest
/-- Read the values of an array up to its closing bracket. -/
def items? : Nat → List Char → Option (List Node × List Char)
  | 0, _ => none
  | fuel + 1, cs =>
    match value? fuel cs with
    | none => none
    | some (n, rest) =>
      match skipBlank rest with
      | ',' :: rest => (items? fuel rest).map fun (ns, rest) => (n :: ns, rest)
      | ']' :: rest => some ([n], rest)
      | _ => none
/-- Read the entries of an object up to its closing brace. -/
def entries? : Nat → List Char → Option (List (Node × Node) × List Char)
  | 0, _ => none
  | fuel + 1, cs =>
    match skipBlank cs with
    | '"' :: rest =>
      match string? rest with
      | none => none
      | some (key, rest) =>
        match skipBlank rest with
        | ':' :: rest =>
          match value? fuel rest with
          | none => none
          | some (n, rest) =>
            match skipBlank rest with
            | ',' :: rest => (entries? fuel rest).map fun (kvs, rest) => ((key, n) :: kvs, rest)
            | '\x7d' :: rest => some ([(key, n)], rest)
            | _ => none
        | _ => none
    | _ => none
end

/-- The document that a text spells. -/
def read? (text : String) : Option Node :=
  let cs := text.toList
  match value? (2 * cs.length + 2) cs with
  | some (n, rest) => if (skipBlank rest).isEmpty then some (n.limit maxDepth) else none
  | none => none

/-- The free-form value that a text spells. -/
def tree? (text : String) : Option Tree :=
  (read? text).bind Node.toTree?

end Json

end Detour
