import Screening.Log.Config

/-!
# Log lines

A line has the level, the spans around the event, its message and its fields.
In the full format the fields of a span stand in braces after its name; in the
compact format they follow the event's own. Colours are terminal escapes
around the level, the names and the signs.
-/

set_option autoImplicit false

namespace Screening.Log

def paint (color : Bool) (style text : String) : String :=
  if color then "\x1b[" ++ style ++ "m" ++ text ++ "\x1b[0m" else text

def Level.style : Level → String
  | error => "31"
  | warn => "33"
  | info => "32"
  | debug => "34"
  | trace => "35"

def bold (color : Bool) : String → String := paint color "1"

def dim (color : Bool) : String → String := paint color "2"

def italic (color : Bool) : String → String := paint color "3"

def fieldText (color : Bool) (f : String × String) : String :=
  italic color f.1 ++ dim color "=" ++ f.2

def fieldsText (color : Bool) (fields : Fields) : String :=
  " ".intercalate (fields.map (fieldText color))

def eventText (color : Bool) (e : Event) : String :=
  " ".intercalate (e.message :: e.fields.map (fieldText color))

def fullSpan (color : Bool) (s : Span) : String :=
  bold color s.name ++ bold color "\x7b" ++ fieldsText color s.fields ++ bold color "\x7d" ++
    dim color ":"

def fullSpans (color : Bool) (spans : List Span) : String :=
  if spans.isEmpty then "" else String.join (spans.map (fullSpan color)) ++ " "

def compactSpans (color : Bool) (spans : List Span) : String :=
  if spans.isEmpty then "" else String.join (spans.map fun s => bold color s.name ++ ":") ++ " "

def spanFields (color : Bool) (spans : List Span) : String :=
  String.join (spans.map fun s => " " ++ dim color (fieldsText color s.fields))

def lineText (format : Format) (color : Bool) (spans : List Span) (e : Event) : String :=
  -- Lines of data bear the time of day, which this program does not know; none are written.
  let label := paint color e.level.style e.level.label ++ " "
  match format with
  | .pretty => label ++ fullSpans color spans ++ eventText color e ++ "\n"
  | .compact =>
    label ++ compactSpans color spans ++ eventText color e ++ spanFields color spans ++ "\n"
  | .json => ""

def Config.render (c : Config) (f : Filter) (events : List Event) : String :=
  String.join ((events.filter f.allows).map fun e =>
    lineText c.format c.color (f.surroundings e).shown e)

end Screening.Log
