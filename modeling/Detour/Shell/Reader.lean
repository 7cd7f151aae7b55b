import Detour.Shell.Token
/-!
# Shell: reading scripts

A script is read line by line: a line is a list of commands that ends where the line does, outside of
quotes and of commands of several lines. Words and commands are read by one recursion, since a word
may hold commands. The text of a redirection `<<` is taken out of the lines that follow.
-/

namespace Detour

namespace Shell

/-- What ends a piece of a script that belongs to a word. -/
inductive Closing where
  /-- A blank or an operator. -/
  | blank
  | quote
  | brace
  | parentheses
  /-- The end of a text. -/
  | finish
deriving DecidableEq, Repr

/-- Where in a word a character stands. -/
structure Spot where
  quoted : Bool := false
  closing : Closing := .blank

/-- What ends a list of commands. -/
inductive Extent where
  /-- The end of the line. -/
  | line
  /-- A token that ends lists; there has to be a command. -/
  | required
  /-- A token that ends lists. -/
  | optional
deriving DecidableEq, Repr

namespace Reader

/-- Whether a word ends in front of a character. -/
def endsWord (c : Char) : Bool :=
  [' ', '\t', '\n', ';', '&', '|', '<', '>', '(', ')'].contains c

/-- Fail at the end of a script. -/
def failAtEnd (p : Spot) : Reader Word :=
  match p.closing with
  | .blank | .finish => pure []
  | .quote => fail .openQuote
  | .brace => fail (if p.quoted then .openQuote else .openBrace)
  | .parentheses => fail .openArithmetic

/-- The characters up to a single quote, each of them quoted. -/
def singleQuoted : Nat → Reader Word
  | 0 => fail .openQuote
  | fuel + 1 => do
    match ← take? with
    | none => fail .openQuote
    | some '\'' => pure []
    | some c => pure (.char c true :: (← singleQuoted fuel))

/-- What a backslash and the character behind it stand for. -/
def escaped (p : Spot) : Reader Word := do
  match ← take? with
  | none => pure [.char '\\' true]
  | some c =>
    let gone := !p.quoted || c = '\\' || c = '\x60' || c = '$' ||
      (c = '"' && p.closing ≠ .finish) || (c = '\x7d' && p.closing = .brace)
    pure (if gone then [.char c true] else [.char '\\' true, .char c true])

/-- The script between backquotes: a backslash is dropped in front of some characters. -/
def backquoted (quoted : Bool) : Nat → Reader (List Char)
  | 0 => fail .openSubstitution
  | fuel + 1 => do
    match ← take? with
    | none => fail .openSubstitution
    | some '\x60' => pure []
    | some '\\' =>
      match ← take? with
      | none => fail .openSubstitution
      | some c =>
        let gone := c = '\\' || c = '\x60' || c = '$' || (quoted && c = '"') || c = '\n'
        let rest ← backquoted quoted fuel
        pure (if c = '\n' then rest else if gone then c :: rest else '\\' :: c :: rest)
    | some c => pure (c :: (← backquoted quoted fuel))

/-- The parameter between braces, and what its value becomes, up to the word that belongs to it. The
result says, too, whether the closing brace has been read, and whether the word is a pattern. -/
def parameter (fuel : Nat) : Reader (String × Use × Bool × Bool) := do
  let name (p : Char → Bool) : Reader String := do
    pure (String.ofList (← takeWhile p fuel))
  let bad : String × Use × Bool × Bool := ("", .invalid, false, false)
  let anyName? : Reader (Option String) := do
    match ← peek? with
    | none => pure none
    | some c =>
      if isNameStart c then pure (some (← name isNameChar))
      else if c.isDigit then pure (some (← name Char.isDigit))
      else if isSpecial c then
        advance
        pure (some c.toString)
      else pure none
  if (← peek?) = some '#' then
    advance
    match (← get).rest with
    | d :: e :: _ =>
      if isNameChar d || (isSpecial d && d ≠ '\x7d' && e = '\x7d') then
        let n := (← anyName?).getD ""
        if ← accept '\x7d' then return (n, .length, true, false) else return bad
      else pure ()
    | _ => pure ()
    return (← use "#" )
  else
    match ← anyName? with
    | none =>
      if (← peek?) ≠ some '\x7d' then modify fun s => { s with rest := s.rest.drop 1 }
      return bad
    | some n => return (← use n)
where
  /-- What the value of a parameter becomes, by what follows its name. -/
  use (n : String) : Reader (String × Use × Bool × Bool) := do
    match ← peek? with
    | some '\x7d' =>
      advance
      pure (n, .value, true, false)
    | some ':' =>
      advance
      let c ← peek?
      advance
      match c with
      | some '-' => pure (n, .default true, false, false)
      | some '=' => pure (n, .assign true, false, false)
      | some '?' => pure (n, .demand true, false, false)
      | some '+' => pure (n, .replace true, false, false)
      | _ => pure (n, .invalid, false, false)
    | some '-' => advance; pure (n, .default false, false, false)
    | some '=' => advance; pure (n, .assign false, false, false)
    | some '?' => advance; pure (n, .demand false, false, false)
    | some '+' => advance; pure (n, .replace false, false, false)
    | some '#' => advance; pure (n, .withoutStart (← accept '#'), false, true)
    | some '%' => advance; pure (n, .withoutEnd (← accept '%'), false, true)
    | some _ => advance; pure (n, .invalid, false, false)
    | none => pure (n, .invalid, false, false)

/-! ## Texts in a script -/

/-- The lines of a text up to one that is `mark`, and what follows that one. -/
def linesUntil (mark : List Char) (indented : Bool) :
    List (List Char) → List (List Char) × List (List Char)
  | [] => ([], [])
  | l :: rest =>
    let l := if indented then l.dropWhile (· = '\t') else l
    if l = mark then ([], rest)
    else
      let (a, b) := linesUntil mark indented rest
      (l :: a, b)

/-- Take the text of a redirection out of the lines behind the current one. -/
def hereText (mark : List Char) (indented : Bool) : Reader (List Char) := do
  let s ← get
  match Text.cut? '\n' s.rest with
  | none => pure []
  | some (line, after) =>
    let all := Text.splitOn '\n' after
    let (text, remaining) := linesUntil mark indented all
    let open_ := text.length = all.length
    let body := ['\n'].intercalate text ++
      if text.isEmpty || open_ then [] else ['\n']
    set { s with
      rest := line ++ (if remaining.isEmpty then ['\n'] else '\n' :: ['\n'].intercalate remaining)
      taken := s.taken + (all.length - remaining.length) }
    pure body

/-- The text that a word stands for when its quotes are dropped. -/
def markText (w : Word) : List Char :=
  w.filterMap fun
    | .char c _ => some c
    | _ => none

/-! ## Words and commands -/

/-- A command in front of its redirections. -/
def withRedirects (line : Nat) (c : Command) (redirects : List Redirect) : Command :=
  match c with
  | .subshell line c _ => .subshell line c redirects
  | c => if redirects.isEmpty then c else .redirected line c redirects

/-- The name in front of the equals sign of an assignment, and its value. -/
def assignment? (w : Word) : Option (String × Word) :=
  let rec go (name : List Char) : Word → Option (String × Word)
    | .char c false :: rest =>
      if c = '=' then
        if isName name.reverse then some (String.ofList name.reverse, rest) else none
      else go (c :: name) rest
    | _ => none
  go [] w

/-- Pass over blanks, and over a comment. -/
def skipBlanks : Nat → Reader Unit
  | 0 => pure ()
  | fuel + 1 => do
    match ← peek? with
    | some ' ' | some '\t' => advance; skipBlanks fuel
    | some '#' => modify fun s => { s with rest := s.rest.dropWhile (· ≠ '\n') }
    | _ => pure ()

/-- A redirection whose first character has been read. -/
def redirection (stream : Option Nat) (c : Char) : Reader Token := do
  if c = '>' then
    let fd := stream.getD 1
    if ← accept '>' then pure (.redirect fd .append false)
    else if ← accept '|' then pure (.redirect fd .force false)
    else if ← accept '&' then pure (.redirect fd .duplicate false)
    else pure (.redirect fd .output false)
  else
    let fd := stream.getD 0
    if ← accept '<' then pure (.redirect fd .here (← accept '-'))
    else if ← accept '&' then pure (.redirect fd .duplicate false)
    else if ← accept '>' then pure (.redirect fd .update false)
    else pure (.redirect fd .input false)

/-- The number of a stream that a word spells right in front of a redirection. -/
def streamNumber? : Word → Option (Option Nat)
  | [] => some none
  | [.char c false] => if c.isDigit then some (some (c.toNat - '0'.toNat)) else none
  | _ => none

mutual

/-- The pieces of a word up to what ends it; the second number counts open parentheses. -/
def pieces : Nat → Spot → Nat → Reader Word
  | 0, p, _ => failAtEnd p
  | fuel + 1, p, depth => do
    match ← peek? with
    | none => failAtEnd p
    | some c =>
      if p.closing = .blank && endsWord c then pure []
      else
        advance
        if c = '\\' then pure ((← escaped p) ++ (← pieces fuel p depth))
        else if c = '\'' && !p.quoted then
          pure (.quotes :: (← singleQuoted fuel) ++ (← pieces fuel p depth))
        else if c = '"' && p.closing = .quote then pure []
        else if c = '"' && p.closing ≠ .finish && p.closing ≠ .parentheses then
          let inner ← pieces fuel { quoted := true, closing := .quote } 0
          let inner : Word := match inner with
            | [.parameter "@" .value _ _] => inner
            | _ => .quotes :: inner
          pure (inner ++ (← pieces fuel p depth))
        else if c = '$' then pure ((← dollar fuel p.quoted) ++ (← pieces fuel p depth))
        else if c = '\x60' then
          let text ← backquoted p.quoted fuel
          let s ← get
          set { rest := text : Source }
          let command ← commands fuel .optional
          let t ← token fuel false false
          unless t matches .finish do unexpected t none
          set s
          pure (.output command p.quoted :: (← pieces fuel p depth))
        else if c = '\x7d' && p.closing = .brace then pure []
        else if p.closing = .parentheses && c = '(' then
          pure (.char c true :: (← pieces fuel p (depth + 1)))
        else if p.closing = .parentheses && c = ')' then
          if depth = 0 then
            if ← accept ')' then pure []
            else pure (.char c true :: (← pieces fuel p 0))
          else pure (.char c true :: (← pieces fuel p (depth - 1)))
        else pure (.char c p.quoted :: (← pieces fuel p depth))

/-- What a dollar sign and the characters behind it stand for. -/
def dollar : Nat → Bool → Reader Word
  | 0, quoted => pure [.char '$' quoted]
  | fuel + 1, quoted => do
    match ← peek? with
    | some '(' =>
      advance
      if ← accept '(' then
        pure [.arithmetic (← pieces fuel { quoted := true, closing := .parentheses } 0) quoted]
      else
        let command ← commands fuel .optional
        let t ← token fuel false false
        unless t.isText ")" do unexpected t (some "\")\"")
        pure [.output command quoted]
    | some '\x7b' =>
      advance
      let (name, use, closed, isPattern) ← parameter fuel
      if closed then pure [.parameter name use [] quoted]
      else
        let p : Spot := { quoted := quoted && !isPattern, closing := .brace }
        pure [.parameter name use (← pieces fuel p 0) quoted]
    | some c =>
      if isNameStart c then
        pure [.parameter (String.ofList (← takeWhile isNameChar fuel)) .value [] quoted]
      else if isSpecial c then
        advance
        pure [.parameter c.toString .value [] quoted]
      else pure [.char '$' quoted]
    | none => pure [.char '$' quoted]

/-- The next token. Line ends are passed over, and reserved words are told from others, if asked for. -/
def token : Nat → Bool → Bool → Reader Token
  | 0, _, _ => pure .finish
  | fuel + 1, lines, reserve => do
    let t ← match (← get).pushed with
      | some t =>
        modify fun s => { s with pushed := none }
        pure t
      | none => rawToken fuel
    match t with
    | .newline => if lines then token fuel lines reserve else pure t
    | t => pure (if reserve then t.reserve else t)

/-- The token at the start of what remains. -/
def rawToken : Nat → Reader Token
  | 0 => pure .finish
  | fuel + 1 => do
    skipBlanks fuel
    match ← peek? with
    | none => pure .finish
    | some '\n' => advance; pure .newline
    | some '&' =>
      advance
      pure (.operator (if ← accept '&' then "&&" else "&"))
    | some '|' =>
      advance
      pure (.operator (if ← accept '|' then "||" else "|"))
    | some ';' =>
      advance
      pure (.operator (if ← accept ';' then ";;" else ";"))
    | some '(' => advance; pure (.operator "(")
    | some ')' => advance; pure (.operator ")")
    | some _ =>
      let w ← pieces fuel {} 0
      match ← peek?, streamNumber? w with
      | some '<', some stream => advance; redirection stream '<'
      | some '>', some stream => advance; redirection stream '>'
      | _, _ => pure (.word w)

/-- The redirection that a token starts: its target is the next word. -/
def redirect : Nat → Nat → RedirectKind → Bool → Reader Redirect
  | 0, stream, kind, _ => pure (.mk stream kind [])
  | fuel + 1, stream, kind, indented => do
    match ← token fuel false false with
    | .word w =>
      if kind = .here then
        let text ← hereText (markText w) indented
        if w.any Piece.isQuoted then pure (.mk stream kind (Word.ofText (String.ofList text) true))
        else
          let s ← get
          set { rest := text : Source }
          let body ← pieces fuel { quoted := true, closing := .finish } 0
          set s
          pure (.mk stream kind body)
      else pure (.mk stream kind w)
    | t => unexpected t none

/-- Redirections, as long as there are some. -/
def redirects : Nat → Reader (List Redirect)
  | 0 => pure []
  | fuel + 1 => do
    match ← token fuel false true with
    | .redirect stream kind indented =>
      let r ← redirect fuel stream kind indented
      pure (r :: (← redirects fuel))
    | t => putBack t; pure []

/-- A list of commands, of which `before` has been read. -/
def commandsFrom : Nat → Extent → Bool → Command → Reader Command
  | 0, _, _, before => pure before
  | fuel + 1, extent, mayEnd, before => do
    match ← token fuel (extent ≠ .line) true with
    | .newline => pure before
    | .finish =>
      putBack .finish
      pure before
    | t =>
      putBack t
      if mayEnd && t.endsList then pure before
      else
        let c ← andOr fuel
        let t ← token fuel false false
        let c := if t.isText "&" then .background c else c
        let all := match before with
          | .nothing => c
          | before => .sequence before c
        match t with
        | .finish => putBack t; pure all
        | .newline => putBack t; commandsFrom fuel extent (extent ≠ .line) all
        | t =>
          if t.isText "&" || t.isText ";" then commandsFrom fuel extent (extent ≠ .line) all
          else if extent = .line then unexpected t none
          else
            putBack t
            pure all

/-- A list of commands. -/
def commands : Nat → Extent → Reader Command
  | 0, _ => pure .nothing
  | fuel + 1, extent => commandsFrom fuel extent (extent = .optional) .nothing

/-- Pipelines that depend on the success of those before them. -/
def andOr : Nat → Reader Command
  | 0 => pure .nothing
  | fuel + 1 => do
    let c ← pipeline fuel
    andOrFrom fuel c

/-- What follows a pipeline. -/
def andOrFrom : Nat → Command → Reader Command
  | 0, c => pure c
  | fuel + 1, c => do
    let t ← token fuel false false
    if t.isText "&&" || t.isText "||" then
      let next ← token fuel true true
      putBack next
      let d ← pipeline fuel
      andOrFrom fuel (if t.isText "&&" then .both c d else .either c d)
    else
      putBack t
      pure c

/-- Commands with pipes between them; an exclamation mark negates their success. -/
def pipeline : Nat → Reader Command
  | 0 => pure .nothing
  | fuel + 1 => do
    let t ← token fuel false true
    if t.isText "!" then
      let next ← token fuel false true
      putBack next
      pure (.not (← piped fuel))
    else
      putBack t
      piped fuel

/-- Commands with pipes between them. -/
def piped : Nat → Reader Command
  | 0 => pure .nothing
  | fuel + 1 => do
    let c ← command fuel
    match ← pipedFrom fuel with
    | [] => pure c
    | rest => pure (.pipeline (c :: rest))

/-- The commands behind pipes. -/
def pipedFrom : Nat → Reader (List Command)
  | 0 => pure []
  | fuel + 1 => do
    let t ← token fuel false false
    if t.isText "|" then
      let next ← token fuel true true
      putBack next
      let c ← command fuel
      pure (c :: (← pipedFrom fuel))
    else
      putBack t
      pure []

/-- A command. -/
def command : Nat → Reader Command
  | 0 => pure .nothing
  | fuel + 1 => do
    let t ← token fuel false true
    let line := (← get).line
    match t with
    | .word _ | .redirect _ _ _ =>
      putBack t
      simple fuel line true [] [] []
    | .reserved "if" =>
      let c ← branch fuel
      pure (withRedirects line c (← redirects fuel))
    | .reserved "while" | .reserved "until" =>
      let condition ← commands fuel .required
      expect fuel "do"
      let body ← commands fuel .required
      expect fuel "done"
      pure (withRedirects line (.loop (t.isText "while") condition body) (← redirects fuel))
    | .reserved "for" =>
      let c ← forEach fuel line
      pure (withRedirects line c (← redirects fuel))
    | .reserved "case" =>
      match ← token fuel false false with
      | .word subject =>
        let t ← token fuel true true
        unless t.isText "in" do unexpected t (some "\"in\"")
        let cs ← cases fuel
        pure (withRedirects line (.choice line subject cs) (← redirects fuel))
      | t => unexpected t (some "word")
    | .operator "(" =>
      let c ← commands fuel .required
      expect fuel ")"
      pure (withRedirects line (.subshell line c []) (← redirects fuel))
    | .reserved "\x7b" =>
      let c ← commands fuel .required
      expect fuel "\x7d"
      pure (withRedirects line c (← redirects fuel))
    | t => unexpected t none

/-- Pass over a token. -/
def expect : Nat → String → Reader Unit
  | 0, _ => pure ()
  | fuel + 1, text => do
    let t ← token fuel false true
    unless t.isText text do unexpected t (some ("\"" ++ text ++ "\""))

/-- The conditions and commands behind `if`. -/
def branch : Nat → Reader Command
  | 0 => pure .nothing
  | fuel + 1 => do
    let condition ← commands fuel .required
    expect fuel "then"
    let yes ← commands fuel .required
    let t ← token fuel false true
    if t.isText "elif" then pure (.branch condition yes (← branch fuel))
    else if t.isText "else" then
      let no ← commands fuel .required
      expect fuel "fi"
      pure (.branch condition yes no)
    else if t.isText "fi" then pure (.branch condition yes .nothing)
    else unexpected t (some "\"fi\"")

/-- What is behind `for`. -/
def forEach : Nat → Nat → Reader Command
  | 0, _ => pure .nothing
  | fuel + 1, line => do
    match ← token fuel false false with
    | .word w =>
      match w.plain? with
      | some name =>
        unless isName name do fail .loopVariable
        let t ← token fuel true true
        let words ← if t.isText "in" then do
            let (words, t) ← wordList fuel
            unless t.isText ";" || t matches .newline do unexpected t none
            pure words
          else do
            unless t.isText ";" do putBack t
            pure [[.parameter "@" .value [] true]]
        let t ← token fuel true true
        unless t.isText "do" do unexpected t (some "\"do\"")
        let body ← commands fuel .required
        expect fuel "done"
        pure (.each line (String.ofList name) words body)
      | none => fail .loopVariable
    | _ => fail .loopVariable

/-- Words, and the token behind them. -/
def wordList : Nat → Reader (List Word × Token)
  | 0 => pure ([], .finish)
  | fuel + 1 => do
    match ← token fuel false false with
    | .word w =>
      let (words, t) ← wordList fuel
      pure (w :: words, t)
    | t => pure ([], t)

/-- The cases of a choice. -/
def cases : Nat → Reader (List (List Word × Command))
  | 0 => pure []
  | fuel + 1 => do
    let t ← token fuel true true
    if t.isText "esac" then pure []
    else
      let t ← if t.isText "(" then token fuel false false else pure t
      let (patterns, t) ← patternList fuel t
      unless t.isText ")" do unexpected t (some "\")\"")
      let body ← commands fuel .optional
      let t ← token fuel true true
      if t.isText "esac" then pure [(patterns, body)]
      else
        unless t.isText ";;" do unexpected t (some "\";;\"")
        pure ((patterns, body) :: (← cases fuel))

/-- The patterns of a case, the first of which is a token that has been read, and the token behind
them. -/
def patternList : Nat → Token → Reader (List Word × Token)
  | 0, t => pure ([], t)
  | fuel + 1, first => do
    let w : Word := match first with
      | .word w => w
      | .reserved text => Word.ofText text false
      | _ => []
    let t ← token fuel false false
    if t.isText "|" then
      let (rest, t) ← patternList fuel (← token fuel false false)
      pure (w :: rest, t)
    else pure ([w], t)

/-- A simple command, or the definition of a function. -/
def simple : Nat → Nat → Bool → List (String × Word) → List Word → List Redirect → Reader Command
  | 0, _, _, _, _, _ => pure .nothing
  | fuel + 1, line, mayAssign, assignments, words, redirects => do
    match ← token fuel false false with
    | .word w =>
      match if mayAssign then assignment? w else none with
      | some a => simple fuel line true (assignments ++ [a]) words redirects
      | none => simple fuel line false assignments (words ++ [w]) redirects
    | .redirect stream kind indented =>
      let r ← redirect fuel stream kind indented
      simple fuel line mayAssign assignments words (redirects ++ [r])
    | t =>
      if t.isText "(" && assignments.isEmpty && redirects.isEmpty then
        match words with
        | [w] =>
          let t ← token fuel false false
          unless t.isText ")" do unexpected t (some "\")\"")
          match w.plain? with
          | some name =>
            unless isName name && !specialCommands.contains (String.ofList name) do
              fail .functionName
            let next ← token fuel true true
            putBack next
            pure (.define (String.ofList name) (← command fuel))
          | none => fail .functionName
        | _ =>
          putBack t
          pure (.simple line assignments words redirects)
      else
        putBack t
        pure (.simple line assignments words redirects)

end

end Reader

/-- Read the next line of a script: its commands, and what remains. -/
def Source.readLine (s : Source) : Except (Nat × SyntaxError) (Command × Source) := do
  let fuel := 16 * (s.rest.length + 4)
  (Reader.commands fuel .line).run { s with pushed := none }

end Shell

end Detour
