import Screening.Log.Level

/-!
# Events

An event reports something that happened, at a level, from one part of the
program, with some fields whose values are already written out. It happens
inside the spans that were open at the time, the outermost first.
-/

set_option autoImplicit false

namespace Screening.Log

inductive Source where
  | commands
  | boundary
  | engine
  | compile
  | normalization
  deriving DecidableEq, Repr

def Source.path : Source → String
  | commands => "screener_cli::commands"
  | boundary => "screener_filter::boundary"
  | engine => "screener_filter::engine"
  | compile => "screener_filter::compile"
  | normalization => "screener_normalization::value"

abbrev Fields := List (String × String)

structure Span where
  source : Source
  name : String
  fields : Fields
  deriving Repr

def Span.level : Level := .info

structure Event where
  level : Level
  source : Source
  message : String
  fields : Fields
  spans : List Span := []
  deriving Repr

def Event.within (span : Span) (e : Event) : Event := { e with spans := span :: e.spans }

end Screening.Log
