import Screening.Log.Config

/-!
# Flags and arguments

An argument is a command, a flag, a cluster of flags of one letter, the value of
a flag, or a word. The command decides which flags may follow it. Two dashes on
their own end the flags: what comes after them are words, however they start.
-/

set_option autoImplicit false

namespace Screening.CommandLine

inductive Command where
  | filter
  | normalize
  | indexKey
  deriving DecidableEq, Repr

namespace Command

def word : Command → String
  | filter => "filter"
  | normalize => "normalize"
  | indexKey => "index-key"

def ofWord? (s : String) : Option Command :=
  [filter, normalize, indexKey].find? fun c => c.word == s

end Command

inductive Flag where
  | verbose
  | quiet
  | color
  | logLevel
  | logFormat
  | logFile
  | help
  | version
  | output
  | pretty
  | summary
  deriving DecidableEq, Repr

namespace Flag

def long : Flag → String
  | verbose => "verbose"
  | quiet => "quiet"
  | color => "color"
  | logLevel => "log-level"
  | logFormat => "log-format"
  | logFile => "log-file"
  | help => "help"
  | version => "version"
  | output => "output"
  | pretty => "pretty"
  | summary => "summary"

def letter? : Flag → Option Char
  | verbose => some 'v'
  | quiet => some 'q'
  | help => some 'h'
  | version => some 'V'
  | output => some 'o'
  | _ => none

def takesValue : Flag → Bool
  | color => true
  | logLevel => true
  | logFormat => true
  | logFile => true
  | output => true
  | _ => false

def everywhere : List Flag := [verbose, quiet, color, logLevel, logFormat, logFile, help]

def allowed : Option Command → List Flag
  | none => everywhere ++ [version]
  | some .filter => everywhere ++ [output, pretty, summary]
  | some _ => everywhere

def ofLong? (scope : Option Command) (name : String) : Option Flag :=
  (allowed scope).find? fun f => f.long == name

def ofLetter? (scope : Option Command) (c : Char) : Option Flag :=
  (allowed scope).find? fun f => f.letter? == some c

end Flag

inductive UsageFault where
  | missingCommand
  | unknownCommand (word : String)
  | unknownFlag (text : String)
  | missingValue (flag : Flag)
  | unexpectedValue (flag : Flag)
  | badValue (flag : Flag) (value : String)
  | repeated (flag : Flag)
  | verboseAndQuiet
  | missingWord (command : Command)
  | emptyWord
  | unexpectedWord (word : String)
  deriving DecidableEq, Repr

def UsageFault.message : UsageFault → String
  | missingCommand => "a command is needed"
  | unknownCommand word => "unknown command '" ++ word ++ "'"
  | unknownFlag text => "unknown flag '" ++ text ++ "'"
  | missingValue flag => "a value is needed for '--" ++ flag.long ++ "'"
  | unexpectedValue flag => "no value may be given for '--" ++ flag.long ++ "'"
  | badValue flag value => "bad value '" ++ value ++ "' for '--" ++ flag.long ++ "'"
  | repeated flag => "'--" ++ flag.long ++ "' may be given only once"
  | verboseAndQuiet => "'--verbose' and '--quiet' exclude each other"
  | missingWord command => "'" ++ command.word ++ "' needs an argument"
  | emptyWord => "the argument may not be empty"
  | unexpectedWord word => "unexpected argument '" ++ word ++ "'"

inductive Token where
  | command (command : Command)
  | flag (flag : Flag) (value : String)
  | word (text : String)
  | fault (fault : UsageFault)
  deriving DecidableEq, Repr

namespace Token

def isDashed (arg : String) : Bool := arg ≠ "-" && arg.startsWith "-"

abbrev Given := List Token × Option Flag

def ofLong (scope : Option Command) (cs : List Char) : Given :=
  let name := String.ofList (cs.takeWhile (· ≠ '='))
  match Flag.ofLong? scope name, cs.dropWhile (· ≠ '=') with
  | none, _ => ([fault (.unknownFlag ("--" ++ name))], none)
  | some f, [] => if f.takesValue then ([], some f) else ([flag f ""], none)
  | some f, _ :: value =>
    if f.takesValue then ([flag f (String.ofList value)], none)
    else ([fault (.unexpectedValue f)], none)

def ofCluster (scope : Option Command) : List Char → Given
  -- The rest of a cluster is the value of the first flag in it that takes one.
  | [] => ([], none)
  | c :: rest => match Flag.ofLetter? scope c with
    | none => ([fault (.unknownFlag (String.ofList ['-', c]))], none)
    | some f =>
      if f.takesValue then
        match rest with
        | [] => ([], some f)
        | '=' :: value => ([flag f (String.ofList value)], none)
        | value => ([flag f (String.ofList value)], none)
      else
        let (tokens, flag?) := ofCluster scope rest
        (flag f "" :: tokens, flag?)

def ofDashed (scope : Option Command) (arg : String) : Given :=
  match arg.toList.drop 1 with
  | '-' :: name => ofLong scope name
  | cluster => ofCluster scope cluster

def ofArguments : Option Command → List String → List Token
  | _, [] => []
  | scope, arg :: rest =>
    if arg = "--" then rest.map word
    else if isDashed arg then
      match ofDashed scope arg with
      | (tokens, none) => tokens ++ ofArguments scope rest
      | (tokens, some f) => match rest with
        | [] => tokens ++ [fault (.missingValue f)]
        | value :: rest =>
          if isDashed value then tokens ++ [fault (.missingValue f)]
          else tokens ++ flag f value :: ofArguments scope rest
    else match scope with
      | some _ => word arg :: ofArguments scope rest
      | none => match Command.ofWord? arg with
        | some c => command c :: ofArguments (some c) rest
        | none =>
          if arg = Flag.help.long then [flag .help ""] else [fault (.unknownCommand arg)]

end Token

end Screening.CommandLine
