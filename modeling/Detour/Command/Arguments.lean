import Detour.Text.Search
/-!
# Arguments of commands

Arguments are options, their values, and positionals. An option is spelt `--name` or by a dash and one
letter; its value follows as the next argument, behind an equals sign, or right behind the letter. An
argument that starts with a dash is no value, unless the option takes such values; behind `--` every
argument is a positional. An option is refused when it is unknown, lacks its value or has one too many,
or is given twice without being repeatable.
-/

namespace Detour

/-- How many values an option takes. -/
inductive Arity where
  | none
  | one
  /-- At least one. -/
  | several
deriving DecidableEq, Repr

/-- An option that a command knows. -/
structure CommandOption where
  name : String
  letter : Option Char := none
  arity : Arity := .one
  repeatable : Bool := false
  /-- Whether its values may start with a dash. -/
  dashed : Bool := false
deriving DecidableEq, Repr

/-- What an argument looks like. -/
inductive Argument where
  /-- Two dashes alone. -/
  | separator
  | named (name : String) (value : Option String)
  | lettered (letter : Char) (value : Option String)
  | bare
deriving DecidableEq, Repr

/-- What an argument looks like by its first characters. -/
def Argument.ofText (s : String) : Argument :=
  match s.toList with
  | ['-', '-'] => .separator
  | '-' :: '-' :: cs =>
    match Text.cut? '=' cs with
    | some (name, value) => .named (String.ofList name) (some (String.ofList value))
    | none => .named (String.ofList cs) none
  | ['-', c] => .lettered c none
  | '-' :: c :: '=' :: value => .lettered c (some (String.ofList value))
  | '-' :: c :: value => .lettered c (some (String.ofList value))
  | _ => .bare

/-- The arguments of a command, sorted. -/
structure Arguments where
  /-- Each use of an option, with its values. -/
  options : List (CommandOption × List String) := []
  positionals : List String := []
deriving DecidableEq, Repr

namespace Arguments

/-- Note the use of an option. -/
def addUse (o : CommandOption) (values : List String) (a : Arguments) : Arguments :=
  { a with options := a.options ++ [(o, values)] }

/-- Note one more value of the last use of an option. -/
def addValue (value : String) (a : Arguments) : Arguments :=
  match a.options.getLast? with
  | some (o, values) => { a with options := a.options.dropLast ++ [(o, values ++ [value])] }
  | none => a

/-- Note a positional. -/
def addPositional (value : String) (a : Arguments) : Arguments :=
  { a with positionals := a.positionals ++ [value] }

/-- Note the use of an option with the value attached to it, and say which option waits for values
after that. -/
def useWith (o : CommandOption) (value : Option String) (a : Arguments) :
    Option (Option CommandOption × Arguments) :=
  match o.arity, value with
  | .none, none => some (none, a.addUse o [])
  | .none, some _ => none
  | _, some v => some (none, a.addUse o [v])
  | _, none => some (some o, a.addUse o [])

/-- Which option waits for values when one of them has been noted. -/
def stillAwaiting (o : CommandOption) : Option CommandOption :=
  if o.arity = .several then some o else none

/-- Whether an argument counts as a value of the option that waits. -/
def isValue (awaiting : Option CommandOption) (s : String) : Bool :=
  match awaiting with
  | some o => o.dashed || Argument.ofText s == .bare
  | none => false

/-- Take in one argument, and say which option waits for values after it. -/
def take (known : List CommandOption) (awaiting : Option CommandOption) (s : String)
    (a : Arguments) : Option (Option CommandOption × Arguments) :=
  if isValue awaiting s then some (awaiting.bind stillAwaiting, a.addValue s)
  else
    match Argument.ofText s with
    | .bare => some (none, a.addPositional s)
    | .named name value => (known.find? fun o => o.name == name).bind fun o => a.useWith o value
    | .lettered letter value =>
      (known.find? fun o => o.letter == some letter).bind fun o => a.useWith o value
    | .separator => none

/-- Sort arguments, while an option may wait for values. -/
def sort (known : List CommandOption) :
    Option CommandOption → Arguments → List String → Option Arguments
  | _, a, [] => some a
  | awaiting, a, s :: rest =>
    if !isValue awaiting s && Argument.ofText s == .separator then
      some { a with positionals := a.positionals ++ rest }
    else
      match a.take known awaiting s with
      | some (awaiting, a) => sort known awaiting a rest
      | none => none

/-- Whether every option has the values that it needs, and is given as often as it may be. -/
def isComplete (a : Arguments) : Bool :=
  a.options.all fun (o, values) =>
    (o.arity == .none || !values.isEmpty) &&
      (o.repeatable || (a.options.filter fun e => e.1 == o).length == 1)

/-- Sort the arguments of a command that knows some options. -/
def ofList? (known : List CommandOption) (args : List String) : Option Arguments :=
  (sort known none {} args).filter isComplete

/-! ## Looking values up -/

/-- All values of an option. -/
def values (name : String) (a : Arguments) : List String :=
  (a.options.filter fun e => e.1.name == name).flatMap fun e => e.2

/-- Whether an option is given. -/
def has (name : String) (a : Arguments) : Bool :=
  a.options.any fun e => e.1.name == name

/-- The value of an option, read; none only if it cannot be read. -/
def value? {α : Type} (name : String) (read : String → Option α) (a : Arguments) :
    Option (Option α) :=
  match (a.values name).head? with
  | some s => (read s).map some
  | none => some none

end Arguments

end Detour
