import TerrainChess.Notation.Coordinates

/-!
# Command line arguments

The command line names a command and its options. Arguments are read from left
to right, and the first one that is refused, or that asks for help, decides.
-/

set_option autoImplicit false

namespace TerrainChess.Command

inductive Request where
  /-- The summary of the setup of a configuration. -/
  | check (config : String)
  /-- The report on a match of a configuration after some moves. -/
  | moves (config : String) (plays : List (Square × Square)) (json : Bool)
deriving DecidableEq

inductive Parsed where
  | request (request : Request)
  | information
  | refused
deriving DecidableEq

inductive CommandName where
  | check
  | moves
deriving DecidableEq

def CommandName.ofWord? (word : String) : Option CommandName :=
  if word = "check" then some check
  else if word = "moves" then some moves
  else none

structure Options where
  config : Option String
  plays : List (Square × Square)
  json : Bool
  verbose : Bool
deriving DecidableEq

namespace Options

def initial : Options := ⟨none, [], false, false⟩

def finish (options : Options) (command : CommandName) : Parsed :=
  match options.config with
  | none => .refused
  | some config =>
    match command with
    | .check => .request (.check config)
    | .moves => .request (.moves config options.plays options.json)

/-- Adds the configuration, which is named once and is not empty. -/
def withConfig (options : Options) (value : String) : Option Options :=
  if value.isEmpty || options.config.isSome then none
  else some { options with config := some value }

def withPlay (options : Options) (value : String) : Option Options :=
  match Notation.readMove value.toList with
  | .ok play => some { options with plays := options.plays ++ [play] }
  | .error _ => none

def withJson (options : Options) : Option Options :=
  if options.json then none else some { options with json := true }

def withVerbose (options : Options) : Option Options :=
  if options.verbose then none else some { options with verbose := true }

end Options

inductive Argument where
  /-- A word that is no option. -/
  | word (text : String)
  /-- The end of the options. -/
  | separator
  /-- A long option with the value behind its equals sign. -/
  | long (name : String) (value : Option String)
  /-- One-letter options in one argument. -/
  | short (letters : List Char)
deriving DecidableEq

def Argument.ofString (argument : String) : Argument :=
  match argument.toList with
  | ['-', '-'] => separator
  | '-' :: '-' :: rest =>
    match Text.splitOnce '=' rest with
    | some (name, value) => long (String.ofList name) (some (String.ofList value))
    | none => long (String.ofList rest) none
  | '-' :: first :: rest => short (first :: rest)
  | _ => word argument

/-- Says whether an argument can be the value of an option before it. -/
def isValue (argument : String) : Bool :=
  match Argument.ofString argument with
  | .word _ => true
  | _ => false

inductive Progress where
  | next (options : Options)
  /-- The next argument is the value of an option. -/
  | needsValue (accept : String → Option Options)
  | information
  | refused

def Progress.ofOption : Option Options → Progress
  | some options => next options
  | none => refused

/-- Reads one-letter options in one argument; a letter with a value takes the rest of it. -/
def readLetters (options : Options) : List Char → Progress
  | [] => .next options
  | letter :: rest =>
    if letter = 'h' then .information
    else if letter = 'v' then
      match options.withVerbose with
      | some next => readLetters next rest
      | none => .refused
    else if letter = 'c' then
      match rest with
      | [] => .needsValue options.withConfig
      | '=' :: value => Progress.ofOption (options.withConfig (String.ofList value))
      | value => Progress.ofOption (options.withConfig (String.ofList value))
    else .refused

def readLong (command : CommandName) (options : Options) (name : String)
    (value : Option String) : Progress :=
  if name = "config" then
    match value with
    | some given => Progress.ofOption (options.withConfig given)
    | none => .needsValue options.withConfig
  else if name = "play" ∧ command = .moves then
    match value with
    | some given => Progress.ofOption (options.withPlay given)
    | none => .needsValue options.withPlay
  else if value.isSome then .refused
  else if name = "json" ∧ command = .moves then Progress.ofOption options.withJson
  else if name = "verbose" then Progress.ofOption options.withVerbose
  else if name = "help" then .information
  else .refused

def readOptions (command : CommandName) : Options → List String → Parsed
  | options, [] => options.finish command
  | options, argument :: rest =>
    let progress : Progress :=
      match Argument.ofString argument with
      | .word _ => .refused
      | .separator => if rest.isEmpty then .next options else .refused
      | .long name value => readLong command options name value
      | .short letters => readLetters options letters
    match progress with
    | .refused => .refused
    | .information => .information
    | .next next => readOptions command next rest
    | .needsValue accept =>
      match rest with
      | [] => .refused
      | value :: more =>
        if isValue value then
          match accept value with
          | some next => readOptions command next more
          | none => .refused
        else .refused

def readHelp : List String → Parsed
  | [] => .information
  | [topic] =>
    if topic = "help" ∨ (CommandName.ofWord? topic).isSome then .information else .refused
  | _ => .refused

def readTopLetters (verbose : Bool) : List Char → Except Parsed Bool
  | [] => .ok verbose
  | letter :: rest =>
    if letter = 'h' ∨ letter = 'V' then .error .information
    else if letter = 'v' ∧ verbose = false then readTopLetters true rest
    else .error .refused

/-- Reads a command line; the word for more messages may stand before the command. -/
def readArguments (verbose : Bool) : List String → Parsed
  | [] => .refused
  | argument :: rest =>
    match Argument.ofString argument with
    | .word text =>
      if text = "help" then readHelp rest
      else
        match CommandName.ofWord? text with
        | some command => readOptions command Options.initial rest
        | none => .refused
    | .separator => .refused
    | .long name value =>
      if value.isSome then .refused
      else if name = "help" ∨ name = "version" then .information
      else if name = "verbose" ∧ verbose = false then readArguments true rest
      else .refused
    | .short letters =>
      match readTopLetters verbose letters with
      | .ok next => readArguments next rest
      | .error result => result

def parse (arguments : List String) : Parsed := readArguments false arguments

end TerrainChess.Command
