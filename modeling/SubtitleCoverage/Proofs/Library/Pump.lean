import SubtitleCoverage.Library.Session
import SubtitleCoverage.Proofs.Jobs.Channel
import SubtitleCoverage.Proofs.Jobs.Settled

/-!
# The pump

While a pump carries events from the bus to the board, others publish events, dispatch jobs and
dismiss them, and the pump itself takes jobs off the board that are due.  All of this may happen in
any order and at any times.  As long as the pump is never more than 256 events behind, the board is
given the events that were published since the pump has subscribed, in order and each once, and every
job that comes to its end on the board is announced right then.

## Main definitions

* `Session.PumpMove`, `Session.afterMove` — what can happen while a pump is running, and what comes of
  it.
* `Session.Pumps` — the moves of a run, each with the session that it met.
* `published`, `taken`, `history`, `signals` — what a run has published, taken off the bus, asked of
  the board and announced.
* `PumpState` — how the session at the end of a run stands to the one at its beginning.

## Main results

* `PumpState.move` — one move keeps the account straight.
* `Pumps.exists_pumpState` — so does a whole run.
* `phase_of_signal?` — a job that is announced is finished on the board.
* `pump_loses_and_repeats_nothing` — **the pump loses and repeats nothing.**
-/

namespace SubtitleCoverage

open Board (History Request Reply)

namespace Session

variable {s s' s₀ : Session} {receiver : Nat}

/-! ### Moves -/

/-- What can happen while a pump is running. -/
inductive PumpMove where
  | publish (e : JobEvent)
  /-- The pump takes the next event off the bus. -/
  | receive (now : Int)
  /-- The pump takes the jobs that are due off the board. -/
  | tick (now : Int) (order : List JobId)
  | dispatch (job : JobId) (total : UInt64)
  | dismiss (job : JobId)

/-- The session after a move. -/
def afterMove (s : Session) (receiver : Nat) : PumpMove → Session
  | .publish e => { s with bus := s.bus.publish e }
  | .receive now => s.pumpReceive receiver now
  | .tick _ order => { s with board := order.foldl Board.retire s.board }
  | .dispatch job total => { s with board := s.board.dispatch job total }
  | .dismiss job => { s with board := (s.board.dismiss job).2 }

/-- The moves that can happen: the jobs that are due leave in some order, every one of them. -/
def Allows (s : Session) : PumpMove → Prop
  | .tick now order => order.Perm (s.board.expired now s.dismissAfter)
  | _ => True

/-- The pump takes the jobs off as they are listed, if nothing else is said. -/
theorem afterMove_tick (s : Session) (receiver : Nat) (now : Int) :
    s.afterMove receiver (.tick now (s.board.expired now s.dismissAfter)) = s.pumpTick now := rfl

/-- Moves, each with the session that it met, the first one first. -/
abbrev PumpLog : Type := List (Session × PumpMove)

/-- Some moves happen one after the other, and the pump is never more than 256 events behind. -/
inductive Pumps (receiver : Nat) (s : Session) : PumpLog → Session → Prop where
  | nil : Pumps receiver s [] s
  | snoc {log : PumpLog} {s' : Session} {m : PumpMove} (h : Pumps receiver s log s')
    (hallows : s'.Allows m) (hbehind : (s'.afterMove receiver m).bus.channel.behind receiver ≤ 256) :
    Pumps receiver s (log ++ [(s', m)]) (s'.afterMove receiver m)

/-- A pump is started: it subscribes to the bus. -/
def startPump (s : Session) : Nat × Session :=
  let (receiver, bus) := s.bus.subscribe
  (receiver, { s with bus })

/-! ### What a run does -/

/-- The event that a move publishes. -/
def published? (d : Session × PumpMove) : Option JobEvent :=
  match d.2 with
  | .publish e => some e
  | _ => none

/-- The event that a move takes off the bus, and when. -/
def taken? (receiver : Nat) (d : Session × PumpMove) : Option (JobEvent × Int) :=
  match d.2 with
  | .receive now =>
    match (d.1.bus.receive receiver).1 with
    | .message e => some (e, now)
    | _ => none
  | _ => none

/-- What a move asks of the board, with the reply. -/
def request? (receiver : Nat) (d : Session × PumpMove) : Option (Request × Reply) :=
  match d.2 with
  | .publish _ => none
  | .receive _ =>
    (taken? receiver d).map fun (e, now) => (.event e now, .outcome (d.1.board.apply e now).1)
  | .tick now order => some (.dismissExpired now d.1.dismissAfter, .due order)
  | .dispatch job total =>
    some (.dispatch job total, .shown ((d.1.board.dispatch job total).get? job))
  | .dismiss job => some (.dismiss job, .found (d.1.board.dismiss job).1)

/-- The job whose end a move announces: the event taken is its final account, and the job is not
remembered as taken off. -/
def signal? (receiver : Nat) (d : Session × PumpMove) : Option JobId :=
  match taken? receiver d with
  | some (.finished r, _) => if r.job ∈ d.1.board.retired then none else some r.job
  | _ => none

/-- The events that were published in a run. -/
def published (log : PumpLog) : List JobEvent := log.filterMap published?

/-- The events that were taken off the bus in a run, and when. -/
def taken (receiver : Nat) (log : PumpLog) : List (JobEvent × Int) := log.filterMap (taken? receiver)

/-- What was asked of the board in a run. -/
def history (receiver : Nat) (log : PumpLog) : History := log.filterMap (request? receiver)

/-- The jobs whose end was announced in a run. -/
def signals (receiver : Nat) (log : PumpLog) : List JobId := log.filterMap (signal? receiver)

/-- The board was given the events that were taken off the bus. -/
theorem eventsIn_history (receiver : Nat) (log : PumpLog) :
    Board.eventsIn (history receiver log) = taken receiver log := by
  rw [Board.eventsIn, history, taken, List.filterMap_filterMap]
  congr 1
  funext d
  obtain ⟨s, m⟩ := d
  cases m with
  | receive now =>
    show (((taken? receiver (s, .receive now)).map _).bind _) = _
    cases taken? receiver (s, .receive now) <;> rfl
  | publish _ | tick _ _ | dispatch _ _ | dismiss _ => rfl

/-! ### One move -/

/-- An event that is taken off the bus is given to the board, and its job is announced if this was its
end. -/
theorem afterMove_of_taken? {m : PumpMove} {e : JobEvent} {now : Int}
    (h : taken? receiver (s, m) = some (e, now)) :
    s.afterMove receiver m = { s with bus := (s.bus.receive receiver).2 }.applyEvent e now := by
  cases m with
  | receive now' =>
    rw [afterMove, pumpReceive]
    unfold taken? at h
    simp only at h
    split at h
    · next e' hreceived =>
      obtain ⟨rfl, rfl⟩ := Prod.mk.inj (Option.some.inj h)
      split
      · next e'' bus heq =>
        rw [heq] at hreceived ⊢
        cases hreceived
        rfl
      · next received bus hnot heq =>
        rw [heq] at hreceived
        exact absurd hreceived (hnot e')
    · cases h
  | publish _ | tick _ _ | dispatch _ _ | dismiss _ => cases h

/-- A move that takes no event off the bus announces nothing. -/
theorem finished_of_taken?_eq_none {m : PumpMove} (h : taken? receiver (s, m) = none) :
    (s.afterMove receiver m).finished = s.finished := by
  cases m with
  | receive now =>
    rw [afterMove, pumpReceive]
    split
    · next e bus heq =>
      unfold taken? at h
      simp only [heq] at h
      cases h
    · rfl
  | publish _ | tick _ _ | dispatch _ _ | dismiss _ => rfl

/-- **What one move announces.** -/
theorem finished_afterMove (s : Session) (receiver : Nat) (m : PumpMove) :
    (s.afterMove receiver m).finished =
      (signal? receiver (s, m)).toList.foldl Broadcast.send s.finished := by
  cases htaken : taken? receiver (s, m) with
  | none =>
    rw [finished_of_taken?_eq_none htaken, signal?, htaken]
    rfl
  | some d =>
    obtain ⟨e, now⟩ := d
    have hfinished := s.board.apply_eq_finished_iff e now
    rw [afterMove_of_taken? htaken, signal?, htaken]
    show (if (s.board.apply e now).1 = .finished then s.finished.send e.job else s.finished) = _
    cases e with
    | progress r =>
      rw [if_neg fun h => Bool.false_ne_true (hfinished.1 h).1]
      rfl
    | finished r =>
      by_cases hret : r.job ∈ s.board.retired
      · rw [if_neg fun h => (hfinished.1 h).2 hret]
        simp only [if_pos hret]
        rfl
      · rw [if_pos (hfinished.2 ⟨rfl, hret⟩)]
        simp only [if_neg hret]
        rfl

/-- **A job that is announced is finished on the board.** -/
theorem phase_of_signal? {m : PumpMove} {job : JobId} (h : signal? receiver (s, m) = some job) :
    (s.afterMove receiver m).board.phase job = .terminal := by
  unfold signal? at h
  split at h
  · next r now htaken =>
    rw [afterMove_of_taken? htaken]
    split at h
    · cases h
    · next hret =>
      obtain rfl := Option.some.inj h
      exact Board.phase_apply_finished hret now
  · cases h

/-- What one move asks of the board. -/
theorem runs_request? {b : Board} {t : History} {m : PumpMove} (h : b.Runs t s.board)
    (hallows : s.Allows m) :
    b.Runs (t ++ (request? receiver (s, m)).toList) (s.afterMove receiver m).board := by
  cases m with
  | publish e =>
    rw [show request? receiver (s, .publish e) = none from rfl, Option.toList_none, List.append_nil]
    exact h
  | receive now =>
    rw [request?]
    cases htaken : taken? receiver (s, .receive now) with
    | none =>
      have hboard : (s.afterMove receiver (.receive now)).board = s.board := by
        rw [afterMove, pumpReceive]
        split
        · next e bus heq =>
          unfold taken? at htaken
          simp only [heq] at htaken
          cases htaken
        · rfl
      rw [hboard, Option.map_none, Option.toList_none, List.append_nil]
      exact h
    | some d =>
      rw [afterMove_of_taken? htaken]
      exact h.snoc (.event d.1 d.2)
  | tick now order => exact h.snoc (.dismissExpired now s.dismissAfter hallows)
  | dispatch job total => exact h.snoc (.dispatch job total)
  | dismiss job => exact h.snoc (.dismiss job)

/-- **The next event awaited is the one that is taken off the bus.** -/
theorem taken?_of_awaits {e : JobEvent} {unread : List JobEvent} (now : Int)
    (h : s.bus.channel.Awaits receiver (e :: unread)) :
    taken? receiver (s, .receive now) = some (e, now) ∧
      (s.afterMove receiver (.receive now)).bus.channel.Awaits receiver unread ∧
      (s.afterMove receiver (.receive now)).bus.channel.capacity = s.bus.channel.capacity := by
  obtain ⟨hmessage, hawaits, hcapacity⟩ := h.receive
  have hreceived : (s.bus.receive receiver).1 = .message e := hmessage
  have htaken : taken? receiver (s, .receive now) = some (e, now) := by
    unfold taken?
    simp only [hreceived]
  refine ⟨htaken, ?_⟩
  rw [afterMove_of_taken? htaken]
  exact ⟨hawaits, hcapacity⟩

/-- If no event is awaited, none is taken off. -/
theorem taken?_of_awaits_nil (now : Int) (h : s.bus.channel.Awaits receiver []) :
    taken? receiver (s, .receive now) = none ∧ s.afterMove receiver (.receive now) = s := by
  have hreceived : s.bus.receive receiver = (.empty, s.bus) := by
    rw [Bus.receive, h.receive_nil]
  constructor
  · unfold taken?
    simp only [hreceived]
  · rw [afterMove, pumpReceive, hreceived]

/-! ### Whole runs -/

/-- How a session stands to one some moves ago, with the events that the pump has still to take: the
events published are those taken and then those, the board has answered what it was asked, and the
announcements have been sent. -/
structure PumpState (receiver : Nat) (s₀ : Session) (log : PumpLog) (s : Session)
    (unread : List JobEvent) : Prop where
  awaits : s.bus.channel.Awaits receiver unread
  capacity : 256 ≤ s.bus.channel.capacity
  events : published log = (taken receiver log).map (·.1) ++ unread
  board : s₀.board.Runs (history receiver log) s.board
  finished : s.finished = (signals receiver log).foldl Broadcast.send s₀.finished

theorem pumpState_startPump (hcapacity : 256 ≤ s.bus.channel.capacity) :
    PumpState s.startPump.1 s [] s.startPump.2 [] where
  awaits := s.bus.channel.awaits_subscribe
  capacity := hcapacity
  events := rfl
  board := .nil
  finished := rfl

/-- An event can be published if the pump is not too far behind then. -/
theorem awaits_publish {unread : List JobEvent} {e : JobEvent}
    (h : s.bus.channel.Awaits receiver unread) (hcapacity : 256 ≤ s.bus.channel.capacity)
    (hbehind : (s.bus.publish e).channel.behind receiver ≤ 256) :
    (s.bus.publish e).channel.Awaits receiver (unread ++ [e]) := by
  refine h.send ?_ e
  have hcount : (s.bus.channel.send e).behind receiver = s.bus.channel.behind receiver + 1 := by
    obtain ⟨hcount, hsent, -, -⟩ := h
    have hsame : (s.bus.channel.send e).receivers.get? receiver =
      some (s.bus.channel.sent - unread.length) := hcount
    rw [Broadcast.behind, Broadcast.behind, hsame, hcount]
    show s.bus.channel.sent + 1 - _ = _ - _ + 1
    omega
  have hafter : s.bus.channel.behind receiver + 1 ≤ 256 := hcount ▸ hbehind
  rw [h.behind_eq] at hafter
  exact Nat.lt_of_lt_of_le hafter hcapacity

/-- What one more move adds to a list kept of the moves. -/
theorem filterMap_concat {α β : Type} (f : α → Option β) (l : List α) (a : α) :
    (l ++ [a]).filterMap f = l.filterMap f ++ (f a).toList := by
  rw [List.filterMap_append]
  cases hf : f a <;> simp [hf]

/-- **One move keeps the account straight.** -/
theorem PumpState.move {log : PumpLog} {unread : List JobEvent} {m : PumpMove}
    (h : PumpState receiver s₀ log s unread) (hallows : s.Allows m)
    (hbehind : (s.afterMove receiver m).bus.channel.behind receiver ≤ 256) :
    ∃ unread', PumpState receiver s₀ (log ++ [(s, m)]) (s.afterMove receiver m) unread' := by
  have hboard : s₀.board.Runs (history receiver (log ++ [(s, m)])) (s.afterMove receiver m).board := by
    have hrequest : s₀.board.Runs (history receiver log ++ (request? receiver (s, m)).toList)
        (s.afterMove receiver m).board := runs_request? h.board hallows
    rwa [history, filterMap_concat]
  have hfinished : (s.afterMove receiver m).finished =
      (signals receiver (log ++ [(s, m)])).foldl Broadcast.send s₀.finished := by
    rw [finished_afterMove, h.finished, signals, signals, filterMap_concat, List.foldl_append]
  have hpublished : published (log ++ [(s, m)]) =
      (taken receiver log).map (·.1) ++ (unread ++ (published? (s, m)).toList) := by
    rw [published, filterMap_concat, ← published, h.events, List.append_assoc]
  have htaken : taken receiver (log ++ [(s, m)]) =
      taken receiver log ++ (taken? receiver (s, m)).toList := filterMap_concat _ _ _
  -- it is left to say what the pump awaits after the move
  suffices hnext : ∃ unread', (s.afterMove receiver m).bus.channel.Awaits receiver unread' ∧
      (s.afterMove receiver m).bus.channel.capacity = s.bus.channel.capacity ∧
      unread ++ (published? (s, m)).toList =
        (taken? receiver (s, m)).toList.map (·.1) ++ unread' by
    obtain ⟨unread', hawaits, hcapacity, hevents⟩ := hnext
    refine ⟨unread', hawaits, hcapacity ▸ h.capacity, ?_, hboard, hfinished⟩
    rw [hpublished, hevents, htaken, List.map_append, List.append_assoc]
  cases m with
  | publish e => exact ⟨unread ++ [e], awaits_publish h.awaits h.capacity hbehind, rfl, rfl⟩
  | receive now =>
    cases unread with
    | nil =>
      obtain ⟨hnone, hsame⟩ := taken?_of_awaits_nil now h.awaits
      rw [hsame, hnone]
      exact ⟨[], h.awaits, rfl, rfl⟩
    | cons e unread =>
      obtain ⟨hsome, hawaits, hcapacity⟩ := taken?_of_awaits now h.awaits
      rw [hsome]
      exact ⟨unread, hawaits, hcapacity, List.append_nil _⟩
  | tick _ _ | dispatch _ _ | dismiss _ => exact ⟨unread, h.awaits, rfl, List.append_nil _⟩

/-- **A whole run keeps the account straight.** -/
theorem Pumps.exists_pumpState {log : PumpLog} (hcapacity : 256 ≤ s.bus.channel.capacity)
    (h : Pumps s.startPump.1 s.startPump.2 log s') :
    ∃ unread, PumpState s.startPump.1 s log s' unread := by
  induction h with
  | nil => exact ⟨[], pumpState_startPump hcapacity⟩
  | snoc h hallows hbehind ih =>
    obtain ⟨unread, hstate⟩ := ih
    exact hstate.move hallows hbehind

/-- Whenever the pump looks for an event and is behind, it takes one. -/
theorem Pumps.isSome_taken? {log : PumpLog} (hcapacity : 256 ≤ s.bus.channel.capacity)
    (h : Pumps s.startPump.1 s.startPump.2 log s') :
    ∀ d ∈ log, ∀ now, d.2 = .receive now → d.1.bus.channel.behind s.startPump.1 ≠ 0 →
      (taken? s.startPump.1 d).isSome := by
  induction h with
  | nil => exact fun d hd => nomatch hd
  | @snoc log s' m h hallows hbehind ih =>
    intro d hd now hreceive hbehind
    rcases List.mem_append.1 hd with hd | hd
    · exact ih d hd now hreceive hbehind
    · obtain rfl := List.mem_singleton.1 hd
      obtain rfl : m = .receive now := hreceive
      obtain ⟨unread, hstate⟩ := h.exists_pumpState hcapacity
      rw [hstate.awaits.behind_eq] at hbehind
      obtain ⟨e, unread, rfl⟩ := List.exists_cons_of_length_pos (Nat.pos_of_ne_zero hbehind)
      rw [(taken?_of_awaits now hstate.awaits).1]
      rfl

/-- **The pump loses and repeats nothing.**  The events that it has taken off the bus are the first of
those published since it has subscribed, in order and each once; those that it is behind are the
others, and it takes one of them whenever it looks for one.  They are what the board has been given.
The announcements that were sent are those of the final accounts of jobs that were not remembered as
taken off at that time, in order; the board showed such a job as finished already, and nothing else
is announced.  Once the pump is not behind, a job whose final account was published is finished or
not shown, if at most 256 jobs were remembered or taken off and it was not dispatched after that. -/
theorem pump_loses_and_repeats_nothing {log : PumpLog}
    (hcapacity : 256 ≤ s.bus.channel.capacity) (hboard : s.board.Reachable)
    (h : Pumps s.startPump.1 s.startPump.2 log s') :
    let receiver := s.startPump.1
    (∃ unread, published log = (taken receiver log).map (·.1) ++ unread ∧
      unread.length = s'.bus.channel.behind receiver) ∧
    (∀ d ∈ log, ∀ now, d.2 = .receive now → d.1.bus.channel.behind receiver ≠ 0 →
      (taken? receiver d).isSome) ∧
    s.board.Runs (history receiver log) s'.board ∧
    Board.eventsIn (history receiver log) = taken receiver log ∧
    s'.finished = (signals receiver log).foldl Broadcast.send s.finished ∧
    (∀ d ∈ log, (d.1.afterMove receiver d.2).finished =
      (signal? receiver d).toList.foldl Broadcast.send d.1.finished) ∧
    (∀ d ∈ log, ∀ job, signal? receiver d = some job →
      (d.1.afterMove receiver d.2).board.phase job = .terminal) ∧
    (∀ d ∈ log, ∀ r now, taken? receiver d = some (.progress r, now) → signal? receiver d = none) ∧
    (s'.bus.channel.behind receiver = 0 →
      (s.board.retired ++ Board.takenOff (history receiver log)).toFinset.card ≤ 256 →
      ∀ r, .finished r ∈ published log →
        (∀ before total reply after,
          history receiver log = before ++ (.dispatch r.job total, reply) :: after →
          r.job ∉ s.board.retired ++ Board.takenOff before) →
        s'.board.phase r.job = .terminal ∨ s'.board.phase r.job = .idle) := by
  intro receiver
  obtain ⟨unread, hstate⟩ := h.exists_pumpState hcapacity
  refine ⟨⟨unread, hstate.events, hstate.awaits.behind_eq.symm⟩, h.isSome_taken? hcapacity,
    hstate.board, eventsIn_history receiver log, hstate.finished,
    fun d _ => finished_afterMove d.1 receiver d.2, fun d _ job => phase_of_signal?, ?_, ?_⟩
  · intro d _ r now htaken
    rw [signal?, htaken]
  · intro hdrained hfew r hr hdispatch
    have hnone : unread = [] := List.length_eq_zero_iff.1 (hstate.awaits.behind_eq ▸ hdrained)
    have hevents := hstate.events
    rw [hnone, List.append_nil] at hevents
    rw [hevents] at hr
    obtain ⟨⟨e, now⟩, htaken, rfl⟩ := List.mem_map.1 hr
    have hsettled := hstate.board.settled hboard
      ⟨now, by rw [eventsIn_history]; exact htaken⟩ hdispatch hfew
    exact hsettled.phase_eq (hstate.board.reachable hboard).consistent

/-- A job is dispatched, and the pump takes both its events off the bus. -/
theorem pump_finishes_job :
    let s : Session := {}
    let job := JobId.ofNat 1
    let report : JobEvent := .progress { job, current := 1, total := 2 }
    let account : JobEvent := .finished { job, succeeded := 2 }
    ∃ log s', Pumps s.startPump.1 s.startPump.2 log s' ∧
      log.map (·.2) =
        [.publish report, .dispatch job 2, .receive 0, .publish account, .receive 5] ∧
      taken s.startPump.1 log = [(report, 0), (account, 5)] ∧
      signals s.startPump.1 log = [job] ∧ s'.finished = s.finished.send job ∧
      (s'.board.phase job = .terminal ∨ s'.board.phase job = .idle) := by
  intro s job report account
  have hstart : Pumps s.startPump.1 s.startPump.2 [] s.startPump.2 := .nil
  have h := hstart
    |>.snoc (m := .publish report) trivial (by decide)
    |>.snoc (m := .dispatch job 2) trivial (by decide)
    |>.snoc (m := .receive 0) trivial (by decide)
    |>.snoc (m := .publish account) trivial (by decide)
    |>.snoc (m := .receive 5) trivial (by decide)
  obtain ⟨-, -, -, -, hfinished, -, -, -, hsettled⟩ :=
    pump_loses_and_repeats_nothing (by decide) .empty h
  have hsent (jobs : List JobId) (hjobs : jobs = [job]) :
      jobs.foldl Broadcast.send s.finished = s.finished.send job := by
    rw [hjobs]
    rfl
  refine ⟨_, _, h, rfl, by decide, by decide, hfinished.trans (hsent _ (by decide)), ?_⟩
  refine hsettled (by decide) (by decide) { job, succeeded := 2 } (by decide) ?_
  intro before total reply after hsplit hmem
  -- no job was taken off at all
  have hnone : Board.takenOff (before ++ (.dispatch job total, reply) :: after) = [] := by
    rw [← hsplit]
    decide
  rw [Board.takenOff, List.flatMap_append, List.append_eq_nil_iff] at hnone
  exact List.ne_nil_of_mem hmem hnone.1

end Session

end SubtitleCoverage
