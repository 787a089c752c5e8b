import Screening.CommandLine.Disk
import Screening.CommandLine.Invocation
import Screening.Log.Line
import Screening.Log.Report
import Screening.Table

/-!
# Runs

A run of the program: from its arguments and what it can read to what it prints,
what it leaves on the disk and the code it ends with. A request that is answered
by an error has still been answered; only a file that cannot be read or written
makes a run fail.
-/

set_option autoImplicit false

namespace Screening.CommandLine

structure Environment where
  disk : Disk
  stdin : ByteArray
  /-- The filter of the log that the environment sets. -/
  logFilter : Option String
  /-- Whether messages go to a terminal. -/
  terminal : Bool
  /-- The time a filter pass takes, in milliseconds. -/
  elapsed : String

structure Effects where
  disk : Disk
  stdout : String
  stderr : String

structure Ending where
  code : Nat
  effects : Effects

namespace Effects

def print (text : String) (e : Effects) : Effects := { e with stdout := e.stdout ++ text }

def complain (text : String) (e : Effects) : Effects := { e with stderr := e.stderr ++ text }

end Effects

abbrev Step := ExceptT String (StateM Effects)

namespace Step

def print (text : String) : Step Unit := modify (Effects.print text)

def complain (text : String) : Step Unit := modify (Effects.complain text)

def onDisk {α : Type} (place : String) (use : Disk → Except FileFault α) : Step α := do
  match use (← get).disk with
  | .ok a => return a
  | .error e => throw (place ++ ": " ++ e.message)

def setDisk (d : Disk) : Step Unit := modify fun e => { e with disk := d }

end Step

def version : String := "screener 0.1.0\n"

def help : String :=
  "Usage: screener [OPTIONS] filter REQUEST [-o PATH] [--pretty] [--summary]\n" ++
  "       screener [OPTIONS] normalize VALUE...\n" ++
  "       screener [OPTIONS] index-key NAME...\n\n" ++
  "Options: -v, -q, --color auto|always|never, --log-level error|warn|info|debug|trace,\n" ++
  "         --log-format pretty|compact|json, --log-file PATH\n"

def openFault : String := "failed to initialize logging"

def openLog (config : Log.Config) : Step Unit :=
  -- The log file is there from the beginning, even if nothing is written to it.
  match config.file with
  | none => return ()
  | some path => do Step.setDisk (← Step.onDisk openFault fun d => d.append path "")

def report (env : Environment) (config : Log.Config) (events : List Log.Event) : Step Unit := do
  let text := config.render (config.filter env.logFilter) events
  match config.file with
  | none => Step.complain text
  | some path => Step.setDisk (← Step.onDisk openFault fun d => d.append path text)

def readRequest (env : Environment) (path : String) : Step String :=
  if path = "-" then Step.onDisk "read request from stdin" fun _ => readText env.stdin
  else Step.onDisk ("read request " ++ path) fun d => d.read path

def writtenEvent (path : String) : Log.Event :=
  Log.fromCommands .info "response written" [("path", path)]

def writeResponse (env : Environment) (config : Log.Config) (text : String) :
    Option String → Step Unit
  | none => Step.print (text ++ "\n")
  | some path => do
    Step.setDisk (← Step.onDisk ("write response " ++ path) fun d => d.replace path (text ++ "\n"))
    report env config [writtenEvent path]

def statsTable (stats : List RuleStats) : Table where
  columns := [⟨"Rule", .left⟩, ⟨"Condition", .left⟩, ⟨"Rejected", .right⟩, ⟨"Faults", .right⟩]
  rows := stats.map fun s => [s.rule, s.condition.word, toString s.rejected, toString s.faults]

def summary (o : Outcome) : String :=
  match o.response with
  | .success _ originalCount filteredCount =>
    "Records: " ++ toString originalCount ++ " in, " ++ toString filteredCount ++ " kept\n" ++
      if o.stats.isEmpty then "" else (statsTable o.stats).render ++ "\n"
  | .error records message =>
    "Filter failed (" ++ message ++ "); " ++ toString records.length ++
      " records returned unfiltered\n"

def filterTask (env : Environment) (config : Log.Config) (request : String)
    (output : Option String) (pretty withSummary : Bool) : Step Unit := do
  let text ← readRequest env request
  report env config (documentEvents env.elapsed text)
  let outcome := filterDocument text
  writeResponse env config (outcome.response.text pretty) output
  if withSummary then Step.complain (summary outcome)

def pairTable (left right : String) (rows : List (String × String)) : Table where
  columns := [⟨left, .left⟩, ⟨right, .left⟩]
  rows := rows.map fun row => [row.1, row.2]

def task (env : Environment) (config : Log.Config) : Task → Step Unit
  | .filter request output pretty withSummary =>
    filterTask env config request output pretty withSummary
  | .normalize values => do
    report env config (values.flatMap textEvents)
    let rows := values.map fun v => (v, (normalizeText v).quoted)
    Step.print ((pairTable "Input" "Normalized" rows).render ++ "\n")
  | .indexKey names => do
    let rows := names.map fun n => (n, indexKey n)
    Step.print ((pairTable "Name" "Key" rows).render ++ "\n")

def ending (step : Step Unit) (d : Disk) : Ending :=
  match step.run ⟨d, "", ""⟩ with
  | (.ok _, effects) => ⟨0, effects⟩
  | (.error message, effects) => ⟨1, effects.complain ("error: " ++ message ++ "\n")⟩

def run (env : Environment) (args : List String) : Ending :=
  match Invocation.ofArguments args with
  | .ok invocation =>
    let config := invocation.settings.log env.terminal
    ending (do openLog config; task env config invocation.task) env.disk
  | .error .help => ⟨0, ⟨env.disk, help, ""⟩⟩
  | .error .version => ⟨0, ⟨env.disk, version, ""⟩⟩
  | .error (.fault e) => ⟨2, ⟨env.disk, "", "error: " ++ e.message ++ "\n"⟩⟩

end Screening.CommandLine
