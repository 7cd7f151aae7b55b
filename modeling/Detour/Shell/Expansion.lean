import Detour.Shell.Machine
/-!
# Shell: expanding words

The pieces of a word are replaced by what they stand for; what comes from unquoted replacements is cut
into fields at the separators, and an unquoted pattern is replaced by the paths that it matches. Quotes
have vanished by then, but a character remembers that it was quoted.
-/

namespace Detour

namespace Shell

/-- A character of a word that is being expanded, or a mark between characters. -/
inductive Glyph where
  /-- A character: whether it is quoted, and whether fields may be cut at it. -/
  | char (c : Char) (quoted cuts : Bool)
  /-- A field is here, even if nothing else is. -/
  | presence
  /-- A field ends here; where there are no fields, the text stands here. -/
  | boundary (joint : List Char)
deriving DecidableEq, Repr

namespace Glyph

/-- The glyphs of a text that a piece stands for. -/
def ofText (s : String) (quoted : Bool) : List Glyph :=
  s.toList.map fun c => .char c quoted (!quoted)

/-- The text of glyphs that are not cut into fields. -/
def text (gs : List Glyph) : String :=
  String.ofList <| gs.flatMap fun
    | .char c _ _ => [c]
    | .presence => []
    | .boundary joint => joint

/-- The pattern of glyphs that are not cut into fields. -/
def pattern (gs : List Glyph) : Pattern :=
  gs.flatMap fun
    | .char c quoted _ => [(c, quoted)]
    | .presence => []
    | .boundary joint => Pattern.ofText joint

/-- Cut glyphs into fields, of which the current one has begun if it is given. The flag says whether
a field has just ended at a blank, so that one more separator does not end another one. -/
def fields (separators : List Char) : Option Pattern → Bool → List Glyph → List Pattern
  | current, _, [] => current.toList
  | current, _, .presence :: rest => fields separators (some (current.getD [])) false rest
  | current, _, .boundary _ :: rest => current.toList ++ fields separators none false rest
  | current, atBlank, .char c quoted cuts :: rest =>
    if cuts && separators.contains c then
      if c = ' ' || c = '\t' || c = '\n' then
        match current with
        | some f => f :: fields separators none true rest
        | none => fields separators none atBlank rest
      else
        match current with
        | some f => f :: fields separators none false rest
        | none =>
          if atBlank then fields separators none false rest
          else [] :: fields separators none false rest
    else fields separators (some (current.getD [] ++ [(c, quoted)])) false rest

end Glyph

/-! ## Paths -/

/-- Cut a pattern at its slashes. -/
def Pattern.parts : Pattern → List Pattern
  | [] => [[]]
  | (c, quoted) :: rest =>
    if c = '/' then [] :: parts rest
    else
      match parts rest with
      | [] => [[(c, quoted)]]
      | p :: ps => ((c, quoted) :: p) :: ps

/-- The text of a pattern. -/
def Pattern.text (p : Pattern) : String :=
  String.ofList (p.map Prod.fst)

/-- The paths that patterns between slashes match, behind a path that leads to a folder. -/
def matchingPaths (m : Machine) (base : String) : List Pattern → List String
  | [] => []
  | p :: ps =>
    let names : List String :=
      if p.isActive then
        match (if base.isEmpty then .ok (.folder m.folder) else m.place base) with
        | .ok (.folder l) =>
          (m.files.names l).map Utf8.encode |>.filter fun name =>
            p.accepts name.toList &&
              (name.toList.head? ≠ some '.' || (p.head?.map Prod.fst) = some '.')
        | _ => []
      else [p.text]
    names.flatMap fun name =>
      let path := base ++ name
      if ps.isEmpty then
        if path.isEmpty || (m.place? path).isSome then [path] else []
      else matchingPaths m (path ++ "/") ps

/-- The paths that a field matches; the field itself if there is none. -/
def expandPath (m : Machine) (field : Pattern) : List String :=
  if field.isActive && !m.has 'f' then
    match matchingPaths m "" field.parts with
    | [] => [field.text]
    | paths => paths
  else [field.text]

/-! ## Words -/

namespace Act

/-- The value of a parameter: none, a text, or the arguments of the shell. -/
inductive Held where
  | unset
  | text (s : String)
  | arguments (words : List String)

/-- The characters at which fields are cut. -/
def separators : Act (List Char) := do
  pure (((← value? "IFS").getD " \t\n").toList)

/-- The value of a parameter. -/
def parameter (name : String) : Act Held := do
  let m ← get
  match name with
  | "@" | "*" => pure (.arguments m.arguments)
  | "#" => pure (.text (toString m.arguments.length))
  | "?" => pure (.text (toString m.status))
  | "$" => pure (.text (toString processNumber))
  | "!" => pure .unset
  | "-" => pure (.text (String.ofList m.options))
  | "0" => pure (.text m.name)
  | "LINENO" => pure (.text (toString m.line))
  | _ =>
    match Decimal.digitsValue? 10 (name.toList.takeWhile Char.isDigit) with
    | some n =>
      match m.arguments[n - 1]? with
      | some s => pure (.text s)
      | none => pure .unset
    | none =>
      match ← value? name with
      | some s => pure (.text s)
      | none => pure .unset

/-- Whether a value counts as missing. -/
def Held.isMissing (emptyToo : Bool) : Held → Bool
  | .unset => true
  | .text s => emptyToo && s.isEmpty
  | .arguments words => words.isEmpty || (emptyToo && words.all String.isEmpty)

/-- The glyphs of a value. -/
def Held.glyphs (name : String) (quoted : Bool) (separators : List Char) : Held → List Glyph
  | .unset => []
  | .text s => Glyph.ofText s quoted
  | .arguments words =>
    if quoted && name = "*" then
      Glyph.ofText (String.intercalate (String.ofList (separators.take 1)) words) true
    else
      [Glyph.boundary (if name = "*" then separators.take 1 else [' '])].intercalate <| words.map fun w =>
        (if quoted then [.presence] else []) ++ Glyph.ofText w quoted

/-- Change the texts of a value. -/
def Held.map (f : List Char → List Char) : Held → Held
  | .unset => .unset
  | .text s => .text (String.ofList (f s.toList))
  | .arguments words => .arguments (words.map fun w => String.ofList (f w.toList))

/-- A parameter that may not be unset. -/
def required (name : String) (v : Held) : Act Held := do
  match v with
  | .unset => if (← get).has 'u' then fail s!"{name}: parameter not set" else pure v
  | v => pure v

/-- Glyphs of a word in an unquoted replacement may be cut like the replacement. -/
def loosen (quoted : Bool) (gs : List Glyph) : List Glyph :=
  if quoted then gs
  else
    gs.map fun
      | .char c false _ => .char c false true
      | g => g

/-- The value of an arithmetic expression; what it assigns is done. -/
def arithmetic (s : String) : Act String := do
  let m ← get
  match Arithmetic.evaluate (fun x => (m.bindings.lookup x).bind Variable.value) s with
  | .ok (n, assigned) =>
    assigned.reverse.forM fun (x, v) => setValue x (toString v.toInt)
    pure (toString n.toInt)
  | .error e => fail (e.message s)

mutual

/-- The glyphs of a piece of a word; `run` gives the output of a command. -/
def glyphs (run : Command → Act String) : Piece → Act (List Glyph)
  | .char c quoted => pure [.char c quoted false]
  | .quotes => pure [.presence]
  | .output c quoted => do pure (Glyph.ofText (← run c) quoted)
  | .arithmetic expression quoted => do
    let s := Glyph.text (← glyphsOf run expression)
    pure (Glyph.ofText (← arithmetic s) quoted)
  | .parameter name use word quoted => do
    let seps ← separators
    let v ← parameter name
    let shown (v : Held) : Act (List Glyph) := pure (v.glyphs name quoted seps)
    match use with
    | .invalid => fail "Bad substitution"
    | .value => shown (← required name v)
    | .length =>
      match ← required name v with
      | .unset => shown (.text "0")
      | .text s => shown (.text (toString s.length))
      | .arguments words => shown (.text (toString words.length))
    | .default emptyToo =>
      if v.isMissing emptyToo then pure (loosen quoted (← glyphsOf run word)) else shown v
    | .replace emptyToo =>
      if v.isMissing emptyToo then pure [] else pure (loosen quoted (← glyphsOf run word))
    | .assign emptyToo =>
      if v.isMissing emptyToo then
        let s := Glyph.text (← glyphsOf run word)
        if isName name.toList then setValue name s else fail s!"{name}: bad variable name"
        shown (.text s)
      else shown v
    | .demand emptyToo =>
      if v.isMissing emptyToo then
        if word.isEmpty then
          let also := if emptyToo then " or null" else ""
          fail s!"{name}: parameter not set{also}"
        else fail s!"{name}: {Glyph.text (← glyphsOf run word)}"
      else shown v
    | .withoutStart longest =>
      let v ← required name v
      let p := Glyph.pattern (← glyphsOf run word)
      shown (v.map (p.dropStart longest))
    | .withoutEnd longest =>
      let v ← required name v
      let p := Glyph.pattern (← glyphsOf run word)
      shown (v.map (p.dropEnd longest))

/-- The glyphs of a word. -/
def glyphsOf (run : Command → Act String) : List Piece → Act (List Glyph)
  | [] => pure []
  | p :: rest => do
    let a ← glyphs run p
    let b ← glyphsOf run rest
    pure (a ++ b)

end

/-- The text of a word that is not cut into fields. -/
def text (run : Command → Act String) (w : Word) : Act String := do
  pure (Glyph.text (← glyphsOf run w))

/-- The pattern of a word. -/
def pattern (run : Command → Act String) (w : Word) : Act Pattern := do
  pure (Glyph.pattern (← glyphsOf run w))

/-- The fields of a word. -/
def fields (run : Command → Act String) (w : Word) : Act (List String) := do
  let gs ← glyphsOf run w
  let m ← get
  pure ((Glyph.fields (← separators) none false gs).flatMap (expandPath m))

end Act

end Shell

end Detour
