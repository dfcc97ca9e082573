/-
Module: CrashMarker.CommandLine.Arguments
Purpose: The spelling of the command line: which words ask for what.
Main exports: Command.ofName?, Choice, readOptions, Invocation.ofArguments
-/
import CrashMarker.CommandLine.Invocation

namespace CrashMarker.CommandLine

/-!
A command line is one command, with options before and after it.  The path and the verbosity may be
given on either side of the command; where the path is given on both, the one after the command
counts.  On one side an option may be given only once.

An option that takes a value takes it from the rest of its own word, with or without an equals sign
(`-pm`, `-p=m`, `--path=m`), or from the next word, unless that word looks like an option itself.
One-letter options may share a word.  A double dash ends the options, and nothing may follow it.
-/

def defaultFormat : String := "text"

def Command.all : List Command :=
  [.inspect defaultFormat, .transition .dirty true, .transition .dirty false,
    .transition .rebuild true, .transition .rebuild false, .reset, .version]

def Command.ofName? (name : String) : Option Command :=
  Command.all.find? fun command => command.name == name

/-- The options. -/
inductive Choice where
  | path
  | verbose
  | format
  | version
  | help
deriving Repr, DecidableEq, Inhabited

namespace Choice

def takesValue : Choice → Bool
  | .path => true
  | .format => true
  | .verbose => false
  | .version => false
  | .help => false

/-- The long spelling of an option, without its dashes. -/
def long : Choice → String
  | .path => "path"
  | .verbose => "verbose"
  | .format => "format"
  | .version => "version"
  | .help => "help"

/-- The one-letter spelling of an option. -/
def letter : Choice → Char
  | .path => 'p'
  | .verbose => 'v'
  | .format => 'f'
  | .version => 'V'
  | .help => 'h'

/-- The options that may stand before the command. -/
def leading : List Choice := [.path, .verbose, .version, .help]

/-- The options that may stand after a command. -/
def following : Command → List Choice
  | .inspect _ => [.path, .verbose, .format, .help]
  | _ => [.path, .verbose, .help]

end Choice

/-- The options given on one side of the command. -/
structure Given where
  path : Option Path := none
  verbose : Bool := false
  format : Option String := none
deriving Repr, DecidableEq, Inhabited

/-- Note an option that takes a value.  A path may not be empty. -/
def Given.withValue (given : Given) (choice : Choice) (value : String) : Except Ending Given :=
  match choice with
  | .path =>
    if given.path.isSome || value.isEmpty then .error .misuse
    else .ok { given with path := some ⟨value⟩ }
  | .format =>
    if given.format.isSome then .error .misuse else .ok { given with format := some value }
  | _ => .error .misuse

/-- Note an option without a value. -/
def Given.withFlag (given : Given) : Choice → Except Ending Given
  | .verbose => if given.verbose then .error .misuse else .ok { given with verbose := true }
  | .version => .error .version
  | .help => .error .help
  | _ => .error .misuse

/-- The options noted so far, and the option that still waits for its value. -/
structure Noted where
  given : Given
  awaiting : Option Choice := none
deriving Repr, DecidableEq, Inhabited

/-- Read the letters of a word of one-letter options. -/
def readLetters (admitted : List Choice) (given : Given) : List Char → Except Ending Noted
  | [] => .ok { given }
  | letter :: rest =>
    match admitted.find? fun choice => choice.letter = letter with
    | none => .error .misuse
    | some choice =>
      if choice.takesValue then
        match rest with
        | [] => .ok { given, awaiting := some choice }
        | '=' :: value => do
          let given ← given.withValue choice (String.ofList value)
          return { given }
        | value => do
          let given ← given.withValue choice (String.ofList value)
          return { given }
      else do
        let given ← given.withFlag choice
        readLetters admitted given rest

/-- Read a word of one long option, without its dashes. -/
def readLong (admitted : List Choice) (given : Given) (word : List Char) : Except Ending Noted :=
  let name := String.ofList (word.takeWhile (· != '='))
  match admitted.find? fun choice => choice.long == name, word.dropWhile (· != '=') with
  | none, _ => .error .misuse
  | some choice, [] =>
    if choice.takesValue then .ok { given, awaiting := some choice }
    else do
      let given ← given.withFlag choice
      return { given }
  | some choice, _ :: value =>
    if choice.takesValue then do
      let given ← given.withValue choice (String.ofList value)
      return { given }
    else .error .misuse

/-- What kind of word stands on the command line. -/
inductive Word where
  /-- A double dash. -/
  | endOfOptions
  | long (rest : List Char)
  | letters (rest : List Char)
  /-- Anything else, such as a command or a value; a single dash is a value. -/
  | plain
deriving Repr, DecidableEq, Inhabited

def Word.of (word : String) : Word :=
  match word.toList with
  | ['-', '-'] => .endOfOptions
  | '-' :: '-' :: rest => .long rest
  | ['-'] => .plain
  | '-' :: rest => .letters rest
  | _ => .plain

/-- Read options until the first plain word or the end. -/
def readOptions (admitted : List Choice) :
    Noted → List String → Except Ending (Given × List String)
  | ⟨given, none⟩, [] => .ok (given, [])
  | ⟨_, some _⟩, [] => .error .misuse
  | ⟨given, some choice⟩, word :: rest =>
    match Word.of word with
    | .plain => do
      let given ← given.withValue choice word
      readOptions admitted { given } rest
    | _ => .error .misuse
  | ⟨given, none⟩, word :: rest =>
    match Word.of word with
    | .endOfOptions => if rest.isEmpty then .ok (given, []) else .error .misuse
    | .long letters => do
      let noted ← readLong admitted given letters
      readOptions admitted noted rest
    | .letters letters => do
      let noted ← readLetters admitted given letters
      readOptions admitted noted rest
    | .plain => .ok (given, word :: rest)

def helpWord : String := "help"

/-- What the words after the help word ask for. -/
def readHelp : List String → Ending
  | [] => .help
  | [name] => if name == helpWord || (Command.ofName? name).isSome then .help else .misuse
  | _ => .misuse

def Command.withFormat (command : Command) (format : Option String) : Command :=
  match command with
  | .inspect standard => .inspect (format.getD standard)
  | command => command

def Invocation.ofArguments (arguments : List String) : Except Ending Invocation := do
  let (before, words) ← readOptions Choice.leading { given := {} } arguments
  match words with
  | [] => .error .misuse
  | name :: rest =>
    if name == helpWord then .error (readHelp rest)
    else
      match Command.ofName? name with
      | none => .error .misuse
      | some command =>
        let (after, words) ← readOptions (Choice.following command) { given := {} } rest
        match words with
        | _ :: _ => .error .misuse
        | [] =>
          return {
            command := command.withFormat after.format
            path := after.path <|> before.path
            verbose := before.verbose || after.verbose }

end CrashMarker.CommandLine
