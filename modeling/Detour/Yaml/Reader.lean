import Detour.Node
import Detour.Yaml.Token
/-!
# YAML: reading a text

`Yaml.read?` reads a text of at most one document. Lists and maps that lie inside more than 127 others
are flawed. A place where a value is missing holds an empty unquoted scalar, and so does a text without
a document. The work is bounded by the number of tokens, since every three steps of the reader consume
one.
-/

namespace Detour

namespace Yaml

/-- The greatest depth of nested lists and maps. -/
def maxDepth : Nat := 128

/-- What stands where a value is missing. -/
def missing : Node := .plain ""

/-- Whether a value is missing before this token of a block map. -/
def endsBlockValue : List Token → Bool
  | .key :: _ | .value :: _ | .blockEnd :: _ => true
  | _ => false

/-- Whether an element is missing before this token. -/
def endsElement : List Token → Bool
  | .blockEntry :: _ | .blockEnd :: _ => true
  | _ => false

/-- Whether a value is missing before this token inside brackets. -/
def endsFlowValue : List Token → Bool
  | .flowEntry :: _ | .flowListEnd :: _ | .flowMapEnd :: _ => true
  | _ => false

/-- What stands before an element inside brackets: nothing before the first, else a comma. -/
def nextInFlow? (first : Bool) (ts : List Token) : Option (List Token) :=
  if first then some ts
  else
    match ts with
    | .flowEntry :: rest => some rest
    | _ => none

mutual
/-- Read a value. `block` admits block collections, and `bare` a list at the column of its key. -/
def node? : Nat → Bool → Bool → List Token → Option (Node × List Token)
  | 0, _, _, _ => none
  | _ + 1, _, _, .scalar unquoted text :: rest =>
    some (if unquoted then .plain text else .text text, rest)
  | fuel + 1, _, _, .flowListStart :: rest =>
    (flowItems? fuel true rest).map fun (ns, rest) => (.sequence ns, rest)
  | fuel + 1, _, _, .flowMapStart :: rest =>
    (flowEntries? fuel true rest).map fun (es, rest) => (.object es, rest)
  | fuel + 1, true, _, .listStart :: rest =>
    (items? fuel rest).map fun (ns, rest) => (.sequence ns, rest)
  | fuel + 1, true, _, .mapStart :: rest =>
    (entries? fuel rest).map fun (es, rest) => (.object es, rest)
  | fuel + 1, _, true, .blockEntry :: rest =>
    (bareItems? fuel (.blockEntry :: rest)).map fun (ns, rest) => (.sequence ns, rest)
  | _, _, _, _ => none
/-- Read the elements of a block list. -/
def items? : Nat → List Token → Option (List Node × List Token)
  | fuel + 1, .blockEntry :: rest =>
    let element := if endsElement rest then some (missing, rest) else node? fuel true false rest
    match element with
    | none => none
    | some (n, rest) => (items? fuel rest).map fun (ns, rest) => (n :: ns, rest)
  | _ + 1, .blockEnd :: rest => some ([], rest)
  | _, _ => none
/-- Read the elements of a list at the column of its key. -/
def bareItems? : Nat → List Token → Option (List Node × List Token)
  | fuel + 1, .blockEntry :: rest =>
    let element := if endsElement rest || endsBlockValue rest then some (missing, rest)
      else node? fuel true false rest
    match element with
    | none => none
    | some (n, rest) => (bareItems? fuel rest).map fun (ns, rest) => (n :: ns, rest)
  | _ + 1, rest => some ([], rest)
  | _, _ => none
/-- Read the entries of a block map. -/
def entries? : Nat → List Token → Option (List (Node × Node) × List Token)
  | fuel + 1, .key :: rest =>
    let key := if endsBlockValue rest then some (missing, rest) else node? fuel true true rest
    match key with
    | none => none
    | some (k, rest) =>
      match blockValue? fuel rest with
      | some (v, rest) => (entries? fuel rest).map fun (es, rest) => ((k, v) :: es, rest)
      | none => none
  | _ + 1, .blockEnd :: rest => some ([], rest)
  | _, _ => none
/-- Read the value behind a key of a block map. -/
def blockValue? : Nat → List Token → Option (Node × List Token)
  | fuel + 1, .value :: rest =>
    if endsBlockValue rest then some (missing, rest) else node? fuel true true rest
  | _ + 1, rest => some (missing, rest)
  | 0, _ => none
/-- Read the elements of a list in brackets; an entry by itself is a map of one. Its key may be
missing, and then the token behind it is passed over. -/
def flowItems? : Nat → Bool → List Token → Option (List Node × List Token)
  | 0, _, _ => none
  | _ + 1, _, .flowListEnd :: rest => some ([], rest)
  | fuel + 1, first, ts =>
    match nextInFlow? first ts with
    | some (.flowListEnd :: rest) => some ([], rest)
    | some (.key :: rest) =>
      let key := match rest with
        | .value :: rest | .flowEntry :: rest | .flowListEnd :: rest => some (missing, rest)
        | _ => node? fuel false false rest
      match key with
      | none => none
      | some (k, rest) =>
        match flowValue? fuel rest with
        | some (v, rest) =>
          (flowItems? fuel false rest).map fun (ns, rest) => (.object [(k, v)] :: ns, rest)
        | none => none
    | some rest =>
      match node? fuel false false rest with
      | none => none
      | some (n, rest) => (flowItems? fuel false rest).map fun (ns, rest) => (n :: ns, rest)
    | none => none
/-- Read the entries of a map in braces; a key by itself has a missing value. -/
def flowEntries? : Nat → Bool → List Token → Option (List (Node × Node) × List Token)
  | 0, _, _ => none
  | _ + 1, _, .flowMapEnd :: rest => some ([], rest)
  | fuel + 1, first, ts =>
    match nextInFlow? first ts with
    | some (.flowMapEnd :: rest) => some ([], rest)
    | some (.key :: rest) =>
      let key := match rest with
        | .value :: _ => some (missing, rest)
        | _ => if endsFlowValue rest then some (missing, rest) else node? fuel false false rest
      match key with
      | none => none
      | some (k, rest) =>
        match flowValue? fuel rest with
        | some (v, rest) =>
          (flowEntries? fuel false rest).map fun (es, rest) => ((k, v) :: es, rest)
        | none => none
    | some rest =>
      match node? fuel false false rest with
      | none => none
      | some (k, rest) =>
        (flowEntries? fuel false rest).map fun (es, rest) => ((k, missing) :: es, rest)
    | none => none
/-- Read the value behind a key inside brackets. -/
def flowValue? : Nat → List Token → Option (Node × List Token)
  | fuel + 1, .value :: rest =>
    if endsFlowValue rest then some (missing, rest) else node? fuel false false rest
  | _ + 1, rest => some (missing, rest)
  | 0, _ => none
end

/-- Read the content of a document. -/
def content? (ts : List Token) : Option (Node × List Token) :=
  match ts with
  | [] | .documentStart :: _ | .documentEnd :: _ => some (missing, ts)
  | _ => node? (3 * ts.length + 3) true false ts

/-- The document that a text spells. -/
def read? (text : String) : Option Node :=
  match tokens? text with
  | none => none
  | some [] => some missing
  | some (.documentEnd :: _) => none
  | some ts =>
    let body := match ts with
      | .documentStart :: rest => rest
      | _ => ts
    match content? body with
    | some (n, rest) => if rest.all (· == .documentEnd) then some (n.limit maxDepth) else none
    | none => none

end Yaml

end Detour
