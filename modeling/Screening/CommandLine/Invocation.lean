import Screening.CommandLine.Flag

/-!
# Invocations

What the arguments ask for: a task and a configuration of the log. A flag of the
log may stand before the command or after it; where it is given in both places,
the later one counts. The arguments are read from the left, and the first that
asks for help, for the version, or that is at fault ends the reading.
-/

set_option autoImplicit false

namespace Screening.CommandLine

open Log (Level Format Threshold Config)

inductive ColorChoice where
  | auto
  | always
  | never
  deriving DecidableEq, Repr

namespace ColorChoice

def word : ColorChoice → String
  | auto => "auto"
  | always => "always"
  | never => "never"

def ofWord? (s : String) : Option ColorChoice := [auto, always, never].find? fun c => c.word == s

end ColorChoice

structure Settings where
  verbose : Nat
  quiet : Nat
  color : Option ColorChoice
  level : Option Level
  format : Option Format
  logFile : Option String
  output : Option String
  pretty : Bool
  summary : Bool
  deriving DecidableEq, Repr

namespace Settings

def empty : Settings := ⟨0, 0, none, none, none, none, none, false, false⟩

def countOnce (n : Nat) : Nat := min 255 (n + 1)

def value {α : Type} (f : Flag) (known : Option α) (read : String → Option α) (text : String) :
    Except UsageFault (Option α) :=
  match known, read text with
  | some _, _ => .error (.repeated f)
  | none, none => .error (.badValue f text)
  | none, a => .ok a

def switch (f : Flag) (known : Bool) : Except UsageFault Bool :=
  if known then .error (.repeated f) else .ok true

def path? (text : String) : Option String := if text = "" then none else some text

def level? (text : String) : Option Level := Level.all.find? fun l => l.word == text

def format? (text : String) : Option Format := Format.all.find? fun f => f.word == text

def give (s : Settings) (f : Flag) (text : String) : Except UsageFault Settings :=
  match f with
  | .verbose => .ok { s with verbose := countOnce s.verbose }
  | .quiet => .ok { s with quiet := countOnce s.quiet }
  | .color => do return { s with color := ← value f s.color ColorChoice.ofWord? text }
  | .logLevel => do return { s with level := ← value f s.level level? text }
  | .logFormat => do return { s with format := ← value f s.format format? text }
  | .logFile => do return { s with logFile := ← value f s.logFile path? text }
  | .output => do return { s with output := ← value f s.output path? text }
  | .pretty => do return { s with pretty := ← switch f s.pretty }
  | .summary => do return { s with summary := ← switch f s.summary }
  | .help => .ok s
  | .version => .ok s

def isConsistent (s : Settings) : Bool := s.verbose = 0 || s.quiet = 0

def laterCount (first second : Nat) : Nat := if second = 0 then first else second

def followedBy (s t : Settings) : Settings :=
  { t with
    verbose := laterCount s.verbose t.verbose
    quiet := laterCount s.quiet t.quiet
    color := t.color.or s.color
    level := t.level.or s.level
    format := t.format.or s.format
    logFile := t.logFile.or s.logFile }

def counted (s : Settings) : Threshold :=
  (Threshold.ofRank? (min Level.trace.rank (Level.warn.rank + s.verbose - s.quiet))).getD none

def threshold (s : Settings) : Threshold :=
  match s.level with
  | some level => some level
  | none => s.counted

def colored (s : Settings) (terminal : Bool) : Bool :=
  match s.color with
  | some .always => true
  | some .never => false
  | _ => s.logFile.isNone && terminal

def log (s : Settings) (terminal : Bool) : Config :=
  { Config.standard with
    threshold := s.threshold
    useEnvironment := s.verbose = 0 && s.quiet = 0 && s.level.isNone
    color := s.colored terminal
    format := s.format.getD Config.standard.format
    file := s.logFile }

end Settings

inductive Task where
  | filter (request : String) (output : Option String) (pretty summary : Bool)
  | normalize (values : List String)
  | indexKey (names : List String)
  deriving DecidableEq, Repr

structure Invocation where
  settings : Settings
  task : Task
  deriving Repr

inductive Stop where
  | help
  | version
  | fault (fault : UsageFault)
  deriving DecidableEq, Repr

namespace Stop

def ofFault {α : Type} : Except UsageFault α → Except Stop α
  | .ok a => .ok a
  | .error e => .error (fault e)

end Stop

namespace Invocation

structure Draft where
  before : Settings
  command : Option Command
  after : Settings
  words : List String

namespace Draft

def empty : Draft := ⟨.empty, none, .empty, []⟩

def give (d : Draft) (f : Flag) (text : String) : Except UsageFault Draft :=
  match d.command with
  | none => do return { d with before := ← d.before.give f text }
  | some _ => do return { d with after := ← d.after.give f text }

def say (d : Draft) (word : String) : Except UsageFault Draft :=
  match d.command with
  | none => .error (.unknownCommand word)
  | some .filter =>
    if !d.words.isEmpty then .error (.unexpectedWord word)
    else if word = "" then .error .emptyWord
    else .ok { d with words := [word] }
  | some _ => .ok { d with words := d.words ++ [word] }

def take (d : Draft) : Token → Except Stop Draft
  | .command c => .ok { d with command := some c }
  | .flag .help _ => .error .help
  | .flag .version _ => .error .version
  | .flag f text => Stop.ofFault (d.give f text)
  | .word text => Stop.ofFault (d.say text)
  | .fault e => .error (.fault e)

def task (d : Draft) (c : Command) : Except UsageFault Task :=
  match c, d.words with
  | _, [] => .error (.missingWord c)
  | .filter, request :: _ => .ok (.filter request d.after.output d.after.pretty d.after.summary)
  | .normalize, values => .ok (.normalize values)
  | .indexKey, names => .ok (.indexKey names)

def complete (d : Draft) : Except UsageFault Invocation :=
  match d.command with
  | none => .error .missingCommand
  | some c => do
    let task ← d.task c
    if d.before.isConsistent && d.after.isConsistent then
      return ⟨d.before.followedBy d.after, task⟩
    else throw .verboseAndQuiet

end Draft

def ofArguments (args : List String) : Except Stop Invocation := do
  let d ← (Token.ofArguments none args).foldlM Draft.take Draft.empty
  Stop.ofFault d.complete

end Invocation

end Screening.CommandLine
