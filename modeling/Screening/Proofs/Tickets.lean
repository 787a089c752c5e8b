import Screening.Proofs.Schedules

/-!
# The oldest reply with a ticket

A caller that waits for a ticket takes the replies one after another, while the
worker goes on. Whenever the wait ends it has dropped the replies to the jobs before
the oldest one with that ticket, which are not for it, and returned the reply to
that job. What was submitted later is still on its way, in its order.
-/

set_option autoImplicit false

namespace Screening.Worker

/-- The jobs whose replies were not taken, the oldest first. -/
def untaken (history : List Event) : List Job := (jobs history).drop (taken history).length

def Action.isWaiting : Action → Bool
  | .take | .takeJob | .sendReply => true
  | _ => false

theorem pending_eq_untaken (before : List Action) (history : List Event) (s : System)
    (h : System.start.run before = some (history, s)) :
    s.worker.pending = (untaken history).map Job.reply := by
  have hpending := System.pending_run .start s before history h
  rw [show System.start.worker.pending = [] from rfl, List.nil_append] at hpending
  rw [untaken, List.map_drop, ← hpending, List.drop_left]

theorem exists_oldest (submitted : List Job) (ticket : ℕ)
    (h : ∃ job ∈ submitted, job.ticket = ticket) :
    ∃ older job later, submitted = older ++ job :: later ∧ job.ticket = ticket ∧
      ∀ j ∈ older, j.ticket ≠ ticket := by
  obtain ⟨wanted, hmem, hwanted⟩ := h
  have hsome : (submitted.find? fun j => j.ticket == ticket).isSome = true :=
    List.find?_isSome.mpr ⟨wanted, hmem, by simp [hwanted]⟩
  obtain ⟨job, hfind⟩ := Option.isSome_iff_exists.mp hsome
  obtain ⟨hjob, older, later, hsplit, holder⟩ := List.find?_eq_some_iff_append.mp hfind
  exact ⟨older, job, later, hsplit, by simpa using hjob, fun j hj => by simpa using holder j hj⟩

theorem dropUntil_oldest (ticket : ℕ) (older later : List Job) (job : Job)
    (hjob : job.ticket = ticket) (holder : ∀ j ∈ older, j.ticket ≠ ticket) :
    dropUntil ticket ((older ++ job :: later).map Job.reply) =
      some (handle job.request, later.map Job.reply) := by
  induction older with
  | nil => exact if_pos hjob
  | cons j older ih =>
    have hj : j.reply.ticket ≠ ticket := holder j List.mem_cons_self
    rw [List.cons_append, List.map_cons, dropUntil, if_neg hj]
    exact ih fun k hk => holder k (List.mem_cons_of_mem j hk)

theorem receiveTicket_of_pending (w : Worker) (ticket : ℕ) (older later : List Job) (job : Job)
    (hjob : job.ticket = ticket) (holder : ∀ j ∈ older, j.ticket ≠ ticket)
    (hpending : w.pending = (older ++ job :: later).map Job.reply) :
    w.receiveTicket ticket = some (handle job.request, ⟨[], none, later.map Job.reply⟩) := by
  rw [receiveTicket, hpending, dropUntil_oldest ticket older later job hjob holder]
  rfl

namespace System

/-- The worker sees nothing of the call. -/
theorem step_worker (s s' : System) (a : Action) (ha : a = .takeJob ∨ a = .sendReply)
    (events : List Event) (h : s.step a = some (events, s')) :
    events = [] ∧ s'.caller = s.caller ∧ s'.worker.pending = s.worker.pending := by
  rcases ha with rfl | rfl
  · obtain ⟨w, hw, hs⟩ := Option.map_eq_some_iff.mp h
    cases hs
    exact ⟨rfl, rfl, pending_takeJob s.worker w hw⟩
  · obtain ⟨w, hw, hs⟩ := Option.map_eq_some_iff.mp h
    cases hs
    exact ⟨rfl, rfl, pending_sendReply s.worker w hw⟩

theorem isWaiting_cases (a : Action) (ha : a.isWaiting = true) :
    a = .take ∨ a = .takeJob ∨ a = .sendReply := by
  cases a with
  | take => exact .inl rfl
  | takeJob => exact .inr (.inl rfl)
  | sendReply => exact .inr (.inr rfl)
  | _ => cases ha

theorem take_waitingFor (w : Worker) (ticket : ℕ) (events : List Event) (s' : System)
    (h : take ⟨w, .waitingFor ticket⟩ = some (events, s')) :
    ∃ reply, w.pending = reply :: s'.worker.pending ∧
      ((reply.ticket = ticket ∧ events = [.returned reply] ∧ s'.caller = .free) ∨
        (reply.ticket ≠ ticket ∧ events = [.dropped reply] ∧ s'.caller = .waitingFor ticket)) := by
  simp only [take] at h
  split at h
  · next hcaller _ => cases hcaller
  · next t reply w' hcaller hw =>
    cases hcaller
    refine ⟨reply, ?_⟩
    have hpending := pending_tryReceive w w' reply hw
    by_cases hticket : reply.ticket = ticket
    · rw [if_pos hticket] at h
      cases h
      exact ⟨hpending.symm, .inl ⟨hticket, rfl, rfl⟩⟩
    · rw [if_neg hticket] at h
      cases h
      exact ⟨hpending.symm, .inr ⟨hticket, rfl, rfl⟩⟩
  · cases h

/-- After the call has returned only the worker goes on. -/
theorem step_free (w : Worker) (a : Action) (ha : a.isWaiting = true) (events : List Event)
    (s' : System) (h : step ⟨w, .free⟩ a = some (events, s')) :
    events = [] ∧ s'.caller = .free ∧ s'.worker.pending = w.pending := by
  rcases isWaiting_cases a ha with rfl | ha
  · cases h
  · exact step_worker _ s' a ha events h

theorem run_free (w : Worker) (schedule : List Action)
    (hschedule : ∀ a ∈ schedule, a.isWaiting = true) (events : List Event) (s' : System)
    (h : run ⟨w, .free⟩ schedule = some (events, s')) :
    events = [] ∧ s'.caller = .free ∧ s'.worker.pending = w.pending := by
  induction schedule generalizing w events with
  | nil =>
    cases h
    exact ⟨rfl, rfl, rfl⟩
  | cons a schedule ih =>
    obtain ⟨first, later, ⟨w', c⟩, hfirst, hlater, rfl⟩ := (run_cons_eq_some_iff _ s' a _ _).mp h
    obtain ⟨rfl, hcaller, hpending⟩ :=
      step_free w a (hschedule a List.mem_cons_self) first _ hfirst
    cases hcaller
    obtain ⟨rfl, hfree, hrest⟩ :=
      ih w' (fun b hb => hschedule b (List.mem_cons_of_mem a hb)) later hlater
    exact ⟨rfl, hfree, hrest.trans hpending⟩

/-- The call drops the replies before the one it waits for, one after another, and ends
with that one. -/
theorem run_waitingFor (w : Worker) (ticket : ℕ) (older later : List Job) (job : Job)
    (hjob : job.ticket = ticket) (holder : ∀ j ∈ older, j.ticket ≠ ticket)
    (hpending : w.pending = (older ++ job :: later).map Job.reply) (schedule : List Action)
    (hschedule : ∀ a ∈ schedule, a.isWaiting = true) (events : List Event) (s' : System)
    (h : run ⟨w, .waitingFor ticket⟩ schedule = some (events, s')) :
    (s'.caller = .free ∧
        events = older.map (fun j => .dropped j.reply) ++ [.returned job.reply] ∧
        s'.worker.pending = later.map Job.reply) ∨
      ∃ dropped rest, older = dropped ++ rest ∧ s'.caller = .waitingFor ticket ∧
        events = dropped.map (fun j => .dropped j.reply) ∧
        s'.worker.pending = (rest ++ job :: later).map Job.reply := by
  induction schedule generalizing w older events with
  | nil =>
    cases h
    exact .inr ⟨[], older, rfl, rfl, rfl, hpending⟩
  | cons a schedule ih =>
    obtain ⟨first, after, ⟨w', c⟩, hfirst, hafter, rfl⟩ := (run_cons_eq_some_iff _ s' a _ _).mp h
    have hrest := fun b hb => hschedule b (List.mem_cons_of_mem a hb)
    rcases isWaiting_cases a (hschedule a List.mem_cons_self) with rfl | ha
    · obtain ⟨reply, htaken, hreply⟩ := take_waitingFor w ticket first _ hfirst
      rw [hpending] at htaken
      cases older with
      | nil =>
        obtain ⟨hreplied, hlater⟩ := List.cons.inj htaken
        subst hreplied
        rcases hreply with ⟨-, rfl, hcaller⟩ | ⟨hticket, -, -⟩
        · cases hcaller
          obtain ⟨rfl, hfree, hleft⟩ := run_free w' schedule hrest after s' hafter
          exact .inl ⟨hfree, rfl, hleft.trans hlater.symm⟩
        · exact absurd hjob hticket
      | cons j older =>
        obtain ⟨hreplied, hleft⟩ := List.cons.inj htaken
        subst hreplied
        rcases hreply with ⟨hticket, -, -⟩ | ⟨-, rfl, hcaller⟩
        · exact absurd hticket (holder j List.mem_cons_self)
        · cases hcaller
          have holder' := fun k hk => holder k (List.mem_cons_of_mem j hk)
          rcases ih w' older holder' hleft.symm hrest after hafter with
            ⟨hfree, rfl, hlater⟩ | ⟨dropped, rest, rfl, hcaller, rfl, hlater⟩
          · exact .inl ⟨hfree, rfl, hlater⟩
          · exact .inr ⟨j :: dropped, rest, rfl, hcaller, rfl, hlater⟩
    · obtain ⟨rfl, hcaller, hsame⟩ := step_worker _ _ a ha first hfirst
      cases hcaller
      exact ih w' older holder (hsame.trans hpending) hrest after hafter

end System

/-- A call that waits for a ticket, in any reachable state where a reply with it is still
to come, ends only with the reply to the oldest such job. By then it has dropped exactly the
replies to the untaken jobs before it, none of which has the ticket, and those to the jobs
after it are taken later, in their order. Until then it can always go on to its end. -/
theorem receiveTicket_oldest (before : List Action) (history : List Event) (s : System)
    (ticket : ℕ) (hreach : System.start.run before = some (history, s))
    (hfree : s.caller = .free) (hwanted : ∃ job ∈ untaken history, job.ticket = ticket) :
    ∃ older job later, untaken history = older ++ job :: later ∧ job.ticket = ticket ∧
      (∀ j ∈ older, j.ticket ≠ ticket) ∧
      s.worker.receiveTicket ticket =
        some (handle job.request, ⟨[], none, later.map Job.reply⟩) ∧
      ∀ schedule events s', (∀ a ∈ schedule, a.isWaiting = true) →
        s.run (.receiveTicket ticket :: schedule) = some (events, s') →
        (s'.caller = .free →
          events = older.map (fun j => .dropped ⟨j.ticket, handle j.request⟩) ++
              [.returned ⟨ticket, handle job.request⟩] ∧
            s'.worker.pending = later.map Job.reply ∧
            ∀ more after s'', s'.run more = some (after, s'') →
              taken after ++ s''.worker.pending = (later ++ jobs after).map Job.reply) ∧
        ∃ more after s'', s'.run more = some (after, s'') ∧ s''.caller = .free := by
  obtain ⟨older, job, later, huntaken, hjob, holder⟩ := exists_oldest _ ticket hwanted
  have hpending := pending_eq_untaken before history s hreach
  rw [huntaken] at hpending
  refine ⟨older, job, later, huntaken, hjob, holder,
    receiveTicket_of_pending s.worker ticket older later job hjob holder hpending,
    fun schedule events s' hschedule hrun => ?_⟩
  obtain ⟨first, rest, t, hcall, hwait, rfl⟩ :=
    (System.run_cons_eq_some_iff s s' _ _ _).mp hrun
  simp only [System.step, hfree, Option.some.injEq, Prod.mk.injEq] at hcall
  obtain ⟨rfl, rfl⟩ := hcall
  rcases System.run_waitingFor s.worker ticket older later job hjob holder hpending schedule
      hschedule rest s' hwait with
    ⟨hreturned, hevents, hlater⟩ | ⟨dropped, left, rfl, hcaller, -, hleft⟩
  · refine ⟨fun _ => ⟨?_, hlater, fun more after s'' hmore => ?_⟩, [], [], s', rfl, hreturned⟩
    · rw [List.nil_append, hevents, ← hjob]
      rfl
    · rw [System.pending_run s' s'' more after hmore, hlater, List.map_append]
  · refine ⟨fun hreturned => ?_, ?_⟩
    · rw [hcaller] at hreturned
      cases hreturned
    · have hfinish := receiveTicket_of_pending s'.worker ticket left later job hjob
        (fun j hj => holder j (List.mem_append_right dropped hj)) hleft
      obtain ⟨more, replies, hmore⟩ := System.run_receiveTicket _ _ ticket _ hfinish
      rw [← hcaller] at hmore
      exact ⟨more, _, _, hmore, rfl⟩

/-- An older job with another ticket, a second one with the ticket, and a reply that was
taken before. The worker is busy when the call begins and goes on when it has ended. -/
theorem receiveTicket_oldest_repeated :
    let q : Request := ⟨[.empty], [], none, none⟩
    let before : List Action := [.submit 2 q, .submit 1 .empty, .submit 2 .empty, .submit 2 q,
      .takeJob, .sendReply, .tryReceive, .takeJob]
    let history : List Event := [.submitted ⟨2, q⟩, .submitted ⟨1, .empty⟩,
      .submitted ⟨2, .empty⟩, .submitted ⟨2, q⟩, .returned ⟨2, handle q⟩]
    let s : System := ⟨⟨[⟨2, .empty⟩, ⟨2, q⟩], some ⟨1, .empty⟩, []⟩, .free⟩
    let schedule : List Action := [.sendReply, .take, .takeJob, .sendReply, .take, .takeJob]
    let events : List Event := [.dropped ⟨1, handle .empty⟩, .returned ⟨2, handle .empty⟩]
    let s' : System := ⟨⟨[], some ⟨2, q⟩, []⟩, .free⟩
    System.start.run before = some (history, s) ∧ s.caller = .free ∧
      (∃ job ∈ untaken history, job.ticket = 2) ∧
      (∀ a ∈ schedule, a.isWaiting = true) ∧
      s.run (.receiveTicket 2 :: schedule) = some (events, s') ∧ s'.caller = .free ∧
      ∃ older job later, untaken history = older ++ job :: later ∧ job.ticket = 2 ∧
        (∀ j ∈ older, j.ticket ≠ 2) ∧
        events = older.map (fun j => .dropped ⟨j.ticket, handle j.request⟩) ++
          [.returned ⟨2, handle job.request⟩] ∧
        s'.worker.pending = later.map Job.reply := by
  intro q before history s schedule events s'
  have hreach : System.start.run before = some (history, s) := rfl
  have huntaken : untaken history = [⟨1, .empty⟩, ⟨2, .empty⟩, ⟨2, q⟩] := rfl
  have hwanted : ∃ job ∈ untaken history, job.ticket = 2 := by simp [huntaken]
  have hschedule : ∀ a ∈ schedule, a.isWaiting = true := by simp [schedule, Action.isWaiting]
  have hrun : s.run (.receiveTicket 2 :: schedule) = some (events, s') := rfl
  obtain ⟨older, job, later, hsplit, hjob, holder, -, hcall⟩ :=
    receiveTicket_oldest before history s 2 hreach rfl hwanted
  obtain ⟨hevents, hlater, -⟩ := (hcall schedule events s' hschedule hrun).1 rfl
  exact ⟨hreach, rfl, hwanted, hschedule, hrun, rfl, older, job, later, hsplit, hjob, holder,
    hevents, hlater⟩

end Screening.Worker
