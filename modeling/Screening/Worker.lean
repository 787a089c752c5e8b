import Screening.Service

/-!
# The worker

A worker answers requests one at a time, in the order in which they came, and
each answer bears the ticket of its request. Requests and replies wait in
queues; the worker takes a request and sends its reply in two separate steps, at
any time between the steps of its caller. A caller that waits sees the reply it
would get if the worker ran until there was one.
-/

set_option autoImplicit false

namespace Screening

structure Job where
  ticket : Nat
  request : Request

structure Reply where
  ticket : Nat
  response : Response

def Job.reply (j : Job) : Reply := ⟨j.ticket, handle j.request⟩

structure Worker where
  /-- Submitted and not yet taken, the oldest first. -/
  queued : List Job
  /-- Taken and not yet answered. -/
  current : Option Job
  /-- Answered and not yet received, the oldest first. -/
  replies : List Reply

namespace Worker

def idle : Worker := ⟨[], none, []⟩

def submit (w : Worker) (ticket : Nat) (request : Request) : Worker :=
  { w with queued := w.queued ++ [⟨ticket, request⟩] }

def takeJob (w : Worker) : Option Worker :=
  match w.current, w.queued with
  | none, job :: rest => some { w with queued := rest, current := some job }
  | _, _ => none

def sendReply (w : Worker) : Option Worker :=
  w.current.map fun job => { w with current := none, replies := w.replies ++ [job.reply] }

def pending (w : Worker) : List Reply :=
  w.replies ++ (w.current.toList ++ w.queued).map Job.reply

def finish (w : Worker) : Worker := ⟨[], none, w.pending⟩

def tryReceive (w : Worker) : Option (Reply × Worker) :=
  match w.replies with
  | reply :: rest => some (reply, { w with replies := rest })
  | [] => none

def receive (w : Worker) : Option (Reply × Worker) :=
  match w.tryReceive with
  | some result => some result
  | none => w.finish.tryReceive

def dropUntil (ticket : Nat) : List Reply → Option (Response × List Reply)
  | [] => none
  | reply :: rest =>
    if reply.ticket = ticket then some (reply.response, rest) else dropUntil ticket rest

def receiveTicket (w : Worker) (ticket : Nat) : Option (Response × Worker) :=
  (dropUntil ticket w.pending).map fun (response, rest) => (response, ⟨[], none, rest⟩)

end Worker

end Screening
