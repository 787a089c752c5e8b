import Screening.Worker
import Mathlib

/-!
# The worker and its caller, step by step

The caller submits requests and takes replies, and a call that waits takes them
one at a time. Between any two of its steps the worker may take a job or send a
reply. Whatever the order of the steps, the replies taken, those on their way and
those still to be computed are the replies to the requests, in their order.
-/

set_option autoImplicit false

namespace Screening.Worker

inductive Caller where
  | free
  /-- It waits for the next reply. -/
  | waiting
  /-- It waits for a reply with a ticket and drops the others. -/
  | waitingFor (ticket : ℕ)

inductive Event where
  | submitted (job : Job)
  | returned (reply : Reply)
  | dropped (reply : Reply)

inductive Action where
  | submit (ticket : ℕ) (request : Request)
  /-- The call that does not wait. -/
  | tryReceive
  /-- The beginning of a call that waits. -/
  | receive
  | receiveTicket (ticket : ℕ)
  /-- A call that waits takes a reply that was sent. -/
  | take
  | takeJob
  | sendReply

structure System where
  worker : Worker
  caller : Caller

namespace System

def start : System := ⟨idle, .free⟩

def take (s : System) : Option (List Event × System) :=
  match s.caller, s.worker.tryReceive with
  | .waiting, some (reply, w) => some ([.returned reply], ⟨w, .free⟩)
  | .waitingFor ticket, some (reply, w) =>
    if reply.ticket = ticket then some ([.returned reply], ⟨w, .free⟩)
    else some ([.dropped reply], ⟨w, .waitingFor ticket⟩)
  | _, _ => none

/-- What a step shows and where it leads, if it is possible. The caller makes no other
call while one waits; the worker goes on in any case. -/
def step (s : System) : Action → Option (List Event × System)
  | .submit ticket request => match s.caller with
    | .free => some ([.submitted ⟨ticket, request⟩], ⟨s.worker.submit ticket request, .free⟩)
    | _ => none
  | .tryReceive => match s.caller, s.worker.tryReceive with
    | .free, some (reply, w) => some ([.returned reply], ⟨w, .free⟩)
    | .free, none => some ([], s)
    | _, _ => none
  | .receive => match s.caller with
    | .free => some ([], { s with caller := .waiting })
    | _ => none
  | .receiveTicket ticket => match s.caller with
    | .free => some ([], { s with caller := .waitingFor ticket })
    | _ => none
  | .take => s.take
  | .takeJob => s.worker.takeJob.map fun w => ([], { s with worker := w })
  | .sendReply => s.worker.sendReply.map fun w => ([], { s with worker := w })

def run : System → List Action → Option (List Event × System)
  | s, [] => some ([], s)
  | s, a :: actions => do
    let (events, s) ← s.step a
    let (later, s) ← s.run actions
    return (events ++ later, s)

end System

def Event.job? : Event → Option Job
  | submitted job => some job
  | _ => none

def Event.reply? : Event → Option Reply
  | returned reply | dropped reply => some reply
  | _ => none

def jobs (events : List Event) : List Job := events.filterMap Event.job?

def taken (events : List Event) : List Reply := events.filterMap Event.reply?

@[simp] theorem jobs_nil : jobs [] = [] := rfl

@[simp] theorem taken_nil : taken [] = [] := rfl

@[simp] theorem jobs_append (events later : List Event) :
    jobs (events ++ later) = jobs events ++ jobs later :=
  List.filterMap_append

@[simp] theorem taken_append (events later : List Event) :
    taken (events ++ later) = taken events ++ taken later :=
  List.filterMap_append

@[simp] theorem taken_returned (reply : Reply) : taken [.returned reply] = [reply] := rfl

@[simp] theorem jobs_returned (reply : Reply) : jobs [.returned reply] = [] := rfl

theorem pending_submit (w : Worker) (ticket : ℕ) (request : Request) :
    (w.submit ticket request).pending = w.pending ++ [Job.reply ⟨ticket, request⟩] := by
  simp [submit, pending]

theorem pending_takeJob (w w' : Worker) (h : w.takeJob = some w') : w'.pending = w.pending := by
  unfold takeJob at h
  split at h
  · next job rest hcurrent hqueued =>
    cases h
    simp [pending, hcurrent, hqueued]
  · cases h

theorem pending_sendReply (w w' : Worker) (h : w.sendReply = some w') : w'.pending = w.pending := by
  obtain ⟨job, hcurrent, rfl⟩ := Option.map_eq_some_iff.mp h
  simp [pending, hcurrent]

theorem pending_tryReceive (w w' : Worker) (reply : Reply)
    (h : w.tryReceive = some (reply, w')) : reply :: w'.pending = w.pending := by
  unfold tryReceive at h
  split at h
  · next rest hreplies =>
    cases h
    simp [pending, hreplies]
  · cases h

namespace System

theorem pending_take (s s' : System) (events : List Event) (h : s.take = some (events, s')) :
    jobs events = [] ∧ taken events ++ s'.worker.pending = s.worker.pending := by
  unfold take at h
  split at h
  · next reply w hcaller hw =>
    cases h
    exact ⟨rfl, pending_tryReceive s.worker w reply hw⟩
  · next ticket reply w hcaller hw =>
    have hpending := pending_tryReceive s.worker w reply hw
    split at h
    · cases h
      exact ⟨rfl, hpending⟩
    · cases h
      exact ⟨rfl, hpending⟩
  · cases h

/-- A step takes replies off the front and appends those to the jobs it submits. -/
theorem pending_step (s s' : System) (a : Action) (events : List Event)
    (h : s.step a = some (events, s')) :
    taken events ++ s'.worker.pending = s.worker.pending ++ (jobs events).map Job.reply := by
  cases a with
  | submit ticket request =>
    simp only [step] at h
    split at h
    · cases h
      exact pending_submit s.worker ticket request
    · cases h
  | tryReceive =>
    simp only [step] at h
    split at h
    · next reply w hcaller hw =>
      cases h
      simpa using pending_tryReceive s.worker w reply hw
    · cases h
      simp
    · cases h
  | receive =>
    simp only [step] at h
    split at h
    · cases h
      simp
    · cases h
  | receiveTicket ticket =>
    simp only [step] at h
    split at h
    · cases h
      simp
    · cases h
  | take =>
    obtain ⟨hjobs, hpending⟩ := pending_take s s' events h
    simp [hjobs, hpending]
  | takeJob =>
    obtain ⟨w, hw, hs⟩ := Option.map_eq_some_iff.mp h
    cases hs
    simp [pending_takeJob s.worker w hw]
  | sendReply =>
    obtain ⟨w, hw, hs⟩ := Option.map_eq_some_iff.mp h
    cases hs
    simp [pending_sendReply s.worker w hw]

theorem run_cons_eq_some_iff (s s' : System) (a : Action) (actions : List Action)
    (events : List Event) :
    s.run (a :: actions) = some (events, s') ↔
      ∃ first later t, s.step a = some (first, t) ∧ t.run actions = some (later, s') ∧
        events = first ++ later := by
  simp only [run]
  cases s.step a with
  | none => simp
  | some result =>
    obtain ⟨first, t⟩ := result
    cases ht : t.run actions with
    | none => simp [ht]
    | some result =>
      obtain ⟨later, u⟩ := result
      simp [ht, and_comm, eq_comm]

theorem run_append (s t u : System) (actions more : List Action) (events later : List Event)
    (h : s.run actions = some (events, t)) (hmore : t.run more = some (later, u)) :
    s.run (actions ++ more) = some (events ++ later, u) := by
  induction actions generalizing s events with
  | nil =>
    cases h
    exact hmore
  | cons a actions ih =>
    obtain ⟨first, rest, r, hfirst, hrest, rfl⟩ := (run_cons_eq_some_iff s t a _ _).mp h
    exact (run_cons_eq_some_iff s u a _ _).mpr
      ⟨first, rest ++ later, r, hfirst, ih r rest hrest, List.append_assoc _ _ _⟩

theorem pending_run (s s' : System) (actions : List Action) (events : List Event)
    (h : s.run actions = some (events, s')) :
    taken events ++ s'.worker.pending = s.worker.pending ++ (jobs events).map Job.reply := by
  induction actions generalizing s events with
  | nil =>
    cases h
    simp
  | cons a actions ih =>
    obtain ⟨first, later, t, hfirst, hlater, rfl⟩ := (run_cons_eq_some_iff s s' a _ _).mp h
    have hstep := pending_step s t a first hfirst
    have hrest := ih t later hlater
    calc taken (first ++ later) ++ s'.worker.pending
        = taken first ++ (taken later ++ s'.worker.pending) := by simp
      _ = (taken first ++ t.worker.pending) ++ (jobs later).map Job.reply := by simp [hrest]
      _ = s.worker.pending ++ (jobs (first ++ later)).map Job.reply := by simp [hstep]

end System

def remaining (w : Worker) : List Action :=
  (w.current.toList.map fun _ => .sendReply) ++ w.queued.flatMap fun _ => [.takeJob, .sendReply]

namespace System

theorem run_queued (queued : List Job) (replies : List Reply) (c : Caller) :
    run ⟨⟨queued, none, replies⟩, c⟩ (remaining ⟨queued, none, replies⟩) =
      some ([], ⟨⟨[], none, replies ++ queued.map Job.reply⟩, c⟩) := by
  induction queued generalizing replies with
  | nil => simp [remaining, run]
  | cons job queued ih =>
    have hrest := ih (replies ++ [job.reply])
    simp only [remaining, Option.toList_none, List.map_nil, List.nil_append] at hrest
    simp [remaining, run, step, takeJob, sendReply, hrest]

/-- Left alone, the worker sends a reply to every job. -/
theorem run_remaining (w : Worker) (c : Caller) :
    run ⟨w, c⟩ w.remaining = some ([], ⟨w.finish, c⟩) := by
  obtain ⟨queued, current, replies⟩ := w
  cases current with
  | none => simpa [finish, pending] using run_queued queued replies c
  | some job =>
    have hsend : run ⟨⟨queued, some job, replies⟩, c⟩ [.sendReply] =
        some ([], ⟨⟨queued, none, replies ++ [job.reply]⟩, c⟩) := rfl
    have hrest := run_append _ _ _ _ _ _ _ hsend (run_queued queued (replies ++ [job.reply]) c)
    simpa [remaining, finish, pending] using hrest

theorem run_dropUntil (ticket : ℕ) (replies rest : List Reply) (response : Response)
    (h : dropUntil ticket replies = some (response, rest)) :
    ∃ (actions : List Action) (dropped : List Reply),
      run ⟨⟨[], none, replies⟩, .waitingFor ticket⟩ actions =
        some (dropped.map .dropped ++ [.returned ⟨ticket, response⟩],
          ⟨⟨[], none, rest⟩, .free⟩) := by
  induction replies with
  | nil => cases h
  | cons reply replies ih =>
    rw [dropUntil] at h
    by_cases hticket : reply.ticket = ticket
    · rw [if_pos hticket] at h
      cases h
      subst hticket
      exact ⟨[.take], [], by simp [run, step, take, tryReceive]⟩
    · rw [if_neg hticket] at h
      obtain ⟨actions, dropped, hrun⟩ := ih h
      exact ⟨.take :: actions, reply :: dropped,
        by simp [run, step, take, tryReceive, hticket, hrun]⟩

/-- A wait for a reply with a ticket, on a worker that is left alone, comes to what is received. -/
theorem run_receiveTicket (w w' : Worker) (ticket : ℕ) (response : Response)
    (h : w.receiveTicket ticket = some (response, w')) :
    ∃ (actions : List Action) (dropped : List Reply), run ⟨w, .waitingFor ticket⟩ actions =
      some (dropped.map .dropped ++ [.returned ⟨ticket, response⟩], ⟨w', .free⟩) := by
  obtain ⟨⟨found, rest⟩, hdrop, hfound⟩ := Option.map_eq_some_iff.mp h
  cases hfound
  obtain ⟨actions, dropped, hrun⟩ := run_dropUntil ticket w.pending rest response hdrop
  have hwait := run_append _ _ _ _ _ _ _ (run_remaining w (.waitingFor ticket)) hrun
  rw [List.nil_append] at hwait
  exact ⟨w.remaining ++ actions, dropped, hwait⟩

end System

/-- At any time the replies taken so far, those sent, and those to the job in hand and the
jobs in the queue are the replies to all jobs in the order in which they were submitted.
So a caller sees the first of these replies, each of them once. -/
theorem taken_append_unanswered (actions : List Action) (events : List Event) (s : System)
    (h : System.start.run actions = some (events, s)) :
    taken events ++ s.worker.replies ++ (s.worker.current.toList ++ s.worker.queued).map Job.reply =
        (jobs events).map (fun job => ⟨job.ticket, handle job.request⟩) ∧
      taken events <+: (jobs events).map Job.reply := by
  have hpending := System.pending_run .start s actions events h
  rw [show System.start.worker.pending = [] from rfl, List.nil_append] at hpending
  refine ⟨?_, s.worker.pending, hpending⟩
  rw [List.append_assoc]
  exact hpending

/-- Two jobs with one ticket. While the caller waits for another ticket it drops the first
reply, and the worker has the second job in hand. -/
theorem taken_append_unanswered_waiting :
    let q : Request := ⟨[.empty], [], none, none⟩
    let actions : List Action := [.submit 7 q, .takeJob, .submit 7 .empty, .receiveTicket 9,
      .sendReply, .takeJob, .take]
    let events : List Event := [.submitted ⟨7, q⟩, .submitted ⟨7, .empty⟩, .dropped ⟨7, handle q⟩]
    let s : System := ⟨⟨[], some ⟨7, .empty⟩, []⟩, .waitingFor 9⟩
    System.start.run actions = some (events, s) ∧
      taken events ++ s.worker.replies ++
        (s.worker.current.toList ++ s.worker.queued).map Job.reply =
        (jobs events).map (fun job => ⟨job.ticket, handle job.request⟩) := by
  intro q actions events s
  have hrun : System.start.run actions = some (events, s) := rfl
  exact ⟨hrun, (taken_append_unanswered actions events s hrun).1⟩

end Screening.Worker
