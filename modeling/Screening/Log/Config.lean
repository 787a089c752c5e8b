import Screening.Log.Filter

/-!
# Configuration of the log

Unless the environment sets a filter, the program's own parts report from a
configured level up and everything else from warnings up.
-/

set_option autoImplicit false

namespace Screening.Log

inductive Format where
  | pretty
  | compact
  | json
  deriving DecidableEq, Repr

def Format.word : Format → String
  | pretty => "pretty"
  | compact => "compact"
  | json => "json"

def Format.all : List Format := [pretty, compact, json]

structure Config where
  threshold : Threshold
  useEnvironment : Bool
  timestamps : Bool
  target : Bool
  color : Bool
  format : Format
  file : Option String
  deriving DecidableEq, Repr

namespace Config

def standard : Config := ⟨some .warn, true, false, false, true, .pretty, none⟩

def ownTargets : List String :=
  ["screener", "screener_cli", "screener_filter", "screener_model", "screener_normalization"]

def directives (t : Threshold) : String :=
  ",".intercalate ("warn" :: ownTargets.map fun target => target ++ "=" ++ Threshold.word t)

def ownFilter (c : Config) : Filter := (Filter.ofText? (directives c.threshold)).getD []

def filter (c : Config) (environment : Option String) : Filter :=
  -- A filter that cannot be read counts as none.
  if c.useEnvironment then (environment.bind Filter.ofText?).getD c.ownFilter else c.ownFilter

end Config

end Screening.Log
