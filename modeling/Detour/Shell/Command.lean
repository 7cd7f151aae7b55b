/-!
# Shell: commands

What a script is made of. A word is a list of pieces, each of which knows whether it stands between
quotes; pieces may hold commands, whose output they stand for, and commands are made of words.
-/

namespace Detour

namespace Shell

/-- What the value of a parameter becomes. -/
inductive Use where
  | value
  | length
  /-- `-`: the word in place of an unset value; of an empty one too, if asked for. -/
  | default (emptyToo : Bool)
  /-- `=`: the same, and the parameter is set to the word. -/
  | assign (emptyToo : Bool)
  /-- `?`: an unset value is an error, whose message is the word. -/
  | demand (emptyToo : Bool)
  /-- `+`: the word in place of a set value. -/
  | replace (emptyToo : Bool)
  /-- `#`: the value without what a pattern matches at its start. -/
  | withoutStart (longest : Bool)
  /-- `%`: the value without what a pattern matches at its end. -/
  | withoutEnd (longest : Bool)
  /-- What follows the name makes no sense. -/
  | invalid
deriving DecidableEq, Repr

/-- What a redirection does. -/
inductive RedirectKind where
  /-- `<` -/
  | input
  /-- `>` -/
  | output
  /-- `>|`: the same, whatever is in the way. -/
  | force
  /-- `>>` -/
  | append
  /-- `<>` -/
  | update
  /-- `<&` and `>&`: to where another stream leads. -/
  | duplicate
  /-- `<<`: from a text in the script. -/
  | here
deriving DecidableEq, Repr

mutual

/-- A piece of a word. -/
inductive Piece where
  | char (c : Char) (quoted : Bool)
  /-- Quotes, which make a field of a word even if nothing is between them. -/
  | quotes
  | parameter (name : String) (use : Use) (word : List Piece) (quoted : Bool)
  /-- The output of a command. -/
  | output (c : Command) (quoted : Bool)
  /-- The value of an arithmetic expression. -/
  | arithmetic (expression : List Piece) (quoted : Bool)

/-- A redirection of a stream. -/
inductive Redirect where
  | mk (stream : Nat) (kind : RedirectKind) (target : List Piece)

/-- A command; a line number says where it starts. -/
inductive Command where
  | nothing
  | simple (line : Nat) (assignments : List (String × List Piece)) (words : List (List Piece))
      (redirects : List Redirect)
  /-- Commands of which each reads what the one before it writes. -/
  | pipeline (commands : List Command)
  | not (c : Command)
  | both (a b : Command)
  | either (a b : Command)
  | sequence (a b : Command)
  | background (c : Command)
  | subshell (line : Nat) (c : Command) (redirects : List Redirect)
  | redirected (line : Nat) (c : Command) (redirects : List Redirect)
  | branch (condition yes no : Command)
  /-- Repeat `body` as long as the success of `condition` is `goal`. -/
  | loop (goal : Bool) (condition body : Command)
  | each (line : Nat) (name : String) (words : List (List Piece)) (body : Command)
  | choice (line : Nat) (subject : List Piece) (cases : List (List (List Piece) × Command))
  | define (name : String) (body : Command)

end

/-- The text of a word before its expansion. -/
abbrev Word := List Piece

instance : Inhabited Command := ⟨.nothing⟩

/-- A word of plain characters. -/
def Word.ofText (s : String) (quoted : Bool) : Word :=
  s.toList.map fun c => .char c quoted

/-- Whether a part of a word is quoted. -/
def Piece.isQuoted : Piece → Bool
  | .char _ quoted | .parameter _ _ _ quoted | .output _ quoted | .arithmetic _ quoted => quoted
  | .quotes => true

/-- The text of a word that is made of unquoted characters only. -/
def Word.plain? : Word → Option (List Char)
  | [] => some []
  | .char c false :: rest => (plain? rest).map (c :: ·)
  | _ => none

end Shell

end Detour
