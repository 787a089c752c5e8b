import Screening.Request
import Screening.Response

/-!
# The service

Every text that is sent in gets a response. One that is no request is answered
by an error that says what is wrong with it and carries the records it holds, so
that the sender can go on showing them.
-/

set_option autoImplicit false

namespace Screening

inductive Failure where
  | io (message : String)
  | malformed (cause : Json.ReadError)
  | workerStopped
  | message (text : String)
  deriving Repr

def Failure.text : Failure → String
  | io cause => "io error: " ++ cause
  | malformed cause => "malformed request: " ++ cause.message
  | workerStopped => "filter worker has stopped"
  | message said => said

def handle (r : Request) : Response := r.run.response

def lastMember? (members : List (String × Json)) (key : String) : Option Json :=
  members.reverse.lookup key

/-- The records in a text that is no request, as far as it is an object that lists them. -/
def salvage (text : String) : List Record :=
  match Json.ofText text with
  | .ok (.object members) => match lastMember? members "records" with
    | some (.array items) => items.map Record.ofJson
    | _ => []
  | _ => []

def parseRequest (text : String) : Except Response Request :=
  match Request.ofText text with
  | .ok request => .ok request
  | .error cause => .error (.error (salvage text) (Failure.malformed cause).text)

def handleText (text : String) : Response :=
  match parseRequest text with
  | .ok request => handle request
  | .error response => response

structure Outcome where
  response : Response
  stats : List RuleStats

def filterDocument (text : String) : Outcome :=
  match parseRequest text with
  | .ok request => ⟨request.run.response, request.run.stats⟩
  | .error response => ⟨response, []⟩

end Screening
