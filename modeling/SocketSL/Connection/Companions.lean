import SocketSL.Connection.Latency

/-!
# Endpoints that keep each other

Over a link of bounded latency a ping is answered within two delays.  When the
heartbeat of either endpoint is longer than that, and its idle timeout longer
than both together, neither closes the connection, however long the users are
silent.
-/

namespace SocketSL.Conversation

open SocketSL.Lib
open SocketSL.Session (PendingRead)
open SocketSL.Timers

/-- Two delays fit into the heartbeat, and both together into the idle timeout. -/
structure Patient (delay : Nat) (timeouts : Timeouts) : Prop where
  heartbeat : 2 * delay < timeouts.heartbeat
  idle : timeouts.idle = 0 ∨ timeouts.heartbeat + 2 * delay < timeouts.idle

/-- No ping is outstanding: the heartbeat timer waits until one heartbeat after
the last read, or its handler is about to run. -/
structure Quiet (socket : TimedSocket) (read : Nat) : Prop where
  unsent : socket.heartbeatSent = false
  within : socket.now ≤ read + socket.timeouts.heartbeat
  waiting : ∀ wait, socket.heartbeatTimer.waiting = some wait →
    wait.deadline = read + socket.timeouts.heartbeat ∧
      (socket.heartbeatTimer.queued ≠ 0 → socket.now = read)
  handler : socket.heartbeatTimer.waiting = none → socket.heartbeatTimer.queued ≠ 0
  single : socket.heartbeatTimer.queued.card ≤ 1

/-- The last ping has not been answered, and was sent at most two delays ago. -/
structure Pinging (delay : Nat) (socket : TimedSocket) (read : Nat) (posted : List Post)
    (frames : List (UInt8 × Bool)) : Prop where
  settled : socket.heartbeatTimer.queued = 0
  unanswered : frames.count (SystemId.hbPong.toId, true) <
    (posted.map Post.message).countP Message.isPing
  pinged : ∃ pinged wait, socket.heartbeatTimer.waiting = some wait ∧
    wait.deadline = pinged + socket.timeouts.heartbeat ∧
    pinged ≤ read + socket.timeouts.heartbeat ∧ socket.now ≤ pinged + 2 * delay ∧
    (posted.map Post.message).countP Message.isPing ≤ postedUntil Message.isPing pinged posted

/-- An endpoint that has not closed the connection and is not about to. -/
structure Vigilant (delay : Nat) (socket : TimedSocket) (posted : List Post)
    (frames : List (UInt8 × Bool)) : Prop where
  patient : Patient delay socket.timeouts
  handshake : socket.handshakeTimer = {}
  idleSettled : socket.idleTimer.queued = 0
  unclosed : ∀ timer since time, .closed timer since time ∉ socket.log
  attended : ∃ read,
    (∀ wait, socket.idleTimer.waiting = some wait →
      socket.timeouts.idle ≠ 0 ∧ wait.deadline = read + socket.timeouts.idle) ∧
    (Quiet socket read ∨ Pinging delay socket read posted frames)

section Vigilant

variable {schema : Schema} {delay : Nat} {socket : TimedSocket} {posted more : List Post}
  {frames : List (UInt8 × Bool)}

theorem Vigilant.restart (patient : Patient delay socket.timeouts)
    (handshake : socket.handshakeTimer = {}) (idleSettled : socket.idleTimer.queued = 0)
    (idleOff : socket.timeouts.idle = 0 → socket.idleTimer.waiting = none)
    (single : socket.heartbeatTimer.queued.card ≤ 1)
    (unclosed : ∀ timer since time, .closed timer since time ∉ socket.log) :
    Vigilant delay socket.resetIdleTimer.resetHeartbeatTimer posted frames := by
  have enabled : socket.timeouts.heartbeat ≠ 0 := by
    have longer := patient.heartbeat
    omega
  have heartbeat : ∀ other : TimedSocket, other.timeouts = socket.timeouts →
      other.now = socket.now → other.heartbeatTimer = socket.heartbeatTimer →
      Quiet other.resetHeartbeatTimer socket.now := by
    intro other timeouts now timer
    rw [TimedSocket.resetHeartbeatTimer_eq (timeouts ▸ enabled)]
    refine ⟨rfl, ?_, ?_, ?_, ?_⟩
    · exact now.le.trans (Nat.le_add_right _ _)
    · intro wait waiting
      cases waiting
      exact ⟨congrArg (· + _) now, fun _ => now⟩
    · intro waiting
      cases waiting
    · refine (Multiset.card_le_card ?_).trans (timer ▸ single)
      simp only [TimedSocket.armHeartbeat, SteadyTimer.arm]
      split
      · exact Multiset.zero_le _
      · exact le_refl _
  by_cases off : socket.timeouts.idle = 0
  · have same : socket.resetIdleTimer = socket := if_pos off
    have quiet := heartbeat socket rfl rfl rfl
    rw [same]
    rw [TimedSocket.resetHeartbeatTimer_eq enabled] at quiet ⊢
    refine ⟨patient, handshake, idleSettled, unclosed, socket.now, ?_, .inl quiet⟩
    intro wait waiting
    cases (idleOff off).symm.trans waiting
  · have armed : socket.resetIdleTimer = { socket with
        idleTimer := socket.idleTimer.arm socket.recalls (socket.wait socket.timeouts.idle) } :=
      if_neg off
    have quiet := heartbeat socket.resetIdleTimer (by rw [armed]) (by rw [armed]) (by rw [armed])
    rw [armed] at quiet ⊢
    rw [TimedSocket.resetHeartbeatTimer_eq (by exact enabled)] at quiet ⊢
    refine ⟨patient, handshake, ?_, unclosed, socket.now, ?_, .inl quiet⟩
    · simp only [TimedSocket.armHeartbeat, SteadyTimer.arm, idleSettled, ite_self]
    · intro wait waiting
      cases waiting
      exact ⟨off, rfl⟩

theorem Vigilant.frame (vigilant : Vigilant delay socket posted frames) {next : TimedSocket}
    (timers : next = { socket with writes := next.writes, reads := next.reads })
    (silent : ∀ post ∈ more, post.message.isPing = false) :
    Vigilant delay next (posted ++ more) frames := by
  obtain ⟨read, idle, attended⟩ := vigilant.attended
  rw [timers]
  refine ⟨vigilant.patient, vigilant.handshake, vigilant.idleSettled, vigilant.unclosed, read,
    idle, ?_⟩
  rcases attended with quiet | pinging
  · exact .inl ⟨quiet.unsent, quiet.within, quiet.waiting, quiet.handler, quiet.single⟩
  · have same : ((posted ++ more).map Post.message).countP Message.isPing =
        (posted.map Post.message).countP Message.isPing := by
      rw [List.map_append, List.countP_append, Nat.add_eq_left]
      apply List.countP_eq_zero.mpr
      intro message member
      obtain ⟨post, posted, rfl⟩ := List.mem_map.mp member
      simp [silent post posted]
    obtain ⟨pinged, wait, waiting, deadline, sent, soon, all⟩ := pinging.pinged
    refine .inr ⟨pinging.settled, ?_, pinged, wait, waiting, deadline, sent, soon, ?_⟩
    · rw [same]
      exact pinging.unanswered
    · rw [same]
      refine all.trans ?_
      rw [postedUntil, postedUntil, List.countP_append]
      exact Nat.le_add_right _ _

theorem Vigilant.single (vigilant : Vigilant delay socket posted frames) :
    socket.heartbeatTimer.queued.card ≤ 1 := by
  obtain ⟨read, -, quiet | pinging⟩ := vigilant.attended
  · exact quiet.single
  · rw [pinging.settled]
    exact Nat.zero_le 1

theorem Vigilant.onRead (vigilant : Vigilant delay socket posted frames) (reads later : Nat)
    (posted : List Post) (frames : List (UInt8 × Bool)) :
    Vigilant delay { TimedSocket.onRead { socket with reads := reads } true with reads := later }
      posted frames := by
  have restarted : Vigilant delay (TimedSocket.onRead { socket with reads := reads } true)
      posted frames := by
    refine @Vigilant.restart _ (TimedSocket.record { socket with reads := reads } .readCompleted)
      _ _ vigilant.patient vigilant.handshake vigilant.idleSettled ?_ vigilant.single ?_
    · intro off
      obtain ⟨read, idle, -⟩ := vigilant.attended
      apply Option.eq_none_iff_forall_ne_some.mpr
      intro wait waiting
      exact (idle wait waiting).1 off
    · intro timer since time member
      rcases List.mem_append.mp member with earlier | latest
      · exact vigilant.unclosed timer since time earlier
      · cases List.mem_singleton.mp latest
  have kept := @Vigilant.frame _ _ posted [] _ restarted
    { TimedSocket.onRead { socket with reads := reads } true with reads := later } rfl (by simp)
  rw [List.append_nil] at kept
  exact kept

theorem Vigilant.idle_lt (vigilant : Vigilant delay socket posted frames) {wait : Wait Nat}
    (waiting : socket.idleTimer.waiting = some wait) : socket.now < wait.deadline := by
  obtain ⟨read, idle, attended⟩ := vigilant.attended
  obtain ⟨enabled, deadline⟩ := idle wait waiting
  have patient := vigilant.patient.idle.resolve_left enabled
  rcases attended with quiet | pinging
  · have within := quiet.within
    omega
  · obtain ⟨pinged, -, -, -, sent, soon, -⟩ := pinging.pinged
    omega

theorem Vigilant.elapse (vigilant : Vigilant delay socket posted frames) {duration : Nat}
    (urgent : Urgent socket (.elapse duration))
    (soon : ∀ pinged, frames.count (SystemId.hbPong.toId, true) <
        postedUntil Message.isPing pinged posted →
      socket.now + duration ≤ pinged + 2 * delay) :
    Vigilant delay { socket with now := socket.now + duration } posted frames := by
  obtain ⟨read, idle, attended⟩ := vigilant.attended
  refine ⟨vigilant.patient, vigilant.handshake, vigilant.idleSettled, vigilant.unclosed, read,
    idle, ?_⟩
  obtain ⟨settled, before⟩ := urgent .heartbeat
  rcases attended with quiet | pinging
  · cases waiting : socket.heartbeatTimer.waiting with
    | none => exact absurd settled (quiet.handler waiting)
    | some wait =>
        obtain ⟨deadline, -⟩ := quiet.waiting wait waiting
        have within := before wait waiting
        refine .inl ⟨quiet.unsent, ?_, ?_, quiet.handler, quiet.single⟩
        · exact deadline ▸ within
        · intro other otherWaiting
          refine ⟨(quiet.waiting other otherWaiting).1, ?_⟩
          intro queued
          exact absurd settled queued
  · obtain ⟨pinged, wait, waiting, deadline, sent, -, all⟩ := pinging.pinged
    have still := soon pinged (pinging.unanswered.trans_le all)
    exact .inr ⟨pinging.settled, pinging.unanswered, pinged, wait, waiting, deadline, sent, still,
      all⟩

theorem Vigilant.expire (vigilant : Vigilant delay socket posted frames) {timer : Timer}
    {next : TimedSocket} (expired : Timers.step schema socket (.expire timer) = some next) :
    Vigilant delay next posted frames := by
  cases Timers.step_cases expired with
  | expireIdle steady expires =>
      obtain ⟨wait, waiting, reached, -⟩ := SteadyTimer.expire_eq_some expires
      exact absurd reached (Nat.not_le.mpr (vigilant.idle_lt waiting))
  | expireHandshake steady expires =>
      rw [vigilant.handshake] at expires
      cases expires
  | expireHeartbeat steady expires =>
      obtain ⟨wait, waiting, reached, rfl⟩ := SteadyTimer.expire_eq_some expires
      obtain ⟨read, idle, attended⟩ := vigilant.attended
      have patient := vigilant.patient.heartbeat
      refine ⟨vigilant.patient, vigilant.handshake, vigilant.idleSettled, vigilant.unclosed, read,
        idle, ?_⟩
      rcases attended with quiet | pinging
      · obtain ⟨deadline, stale⟩ := quiet.waiting wait waiting
        have settled : socket.heartbeatTimer.queued = 0 := by
          by_contra queued
          have now := stale queued
          omega
        refine .inl ⟨quiet.unsent, quiet.within, ?_, ?_, ?_⟩
        · intro other none
          cases none
        · intro _
          exact Multiset.cons_ne_zero
        · rw [settled]
          exact Nat.le_refl 1
      · obtain ⟨pinged, other, otherWaiting, deadline, -, soon, -⟩ := pinging.pinged
        cases waiting.symm.trans otherWaiting
        omega

theorem Vigilant.run (vigilant : Vigilant delay socket posted frames) {timer : Timer}
    {wait : Wait Nat} {next : TimedSocket}
    (handled : Timers.step schema socket (.run timer wait) = some next)
    (stamped : ∀ post ∈ posted, post.time ≤ socket.now)
    (answered : frames.count (SystemId.hbPong.toId, true) ≤
      (posted.map Post.message).countP Message.isPing) (side : Side) :
    timer = .heartbeat ∧ socket.heartbeatSent = false ∧
      Vigilant delay next (posted ++ [⟨side, socket.now, ping schema⟩]) frames := by
  cases Timers.step_cases handled with
  | runIdle wait steady removed =>
      have queued := (SteadyTimer.take_eq_some removed).1
      rw [vigilant.idleSettled] at queued
      exact absurd queued (Multiset.notMem_zero _)
  | runHandshake wait steady removed =>
      have queued := (SteadyTimer.take_eq_some removed).1
      rw [vigilant.handshake] at queued
      exact absurd queued (Multiset.notMem_zero _)
  | runHeartbeat wait steady removed =>
      obtain ⟨queued, rfl⟩ := SteadyTimer.take_eq_some removed
      obtain ⟨read, idle, attended⟩ := vigilant.attended
      rcases attended with quiet | pinging
      · refine ⟨rfl, quiet.unsent, ?_⟩
        have last : socket.heartbeatTimer.queued.erase wait = 0 := by
          have fewer := Multiset.card_erase_add_one queued
          have single := quiet.single
          exact Multiset.card_eq_zero.mp (by omega)
        unfold TimedSocket.onHeartbeat
        rw [if_neg (by simp [quiet.unsent])]
        refine ⟨vigilant.patient, vigilant.handshake, vigilant.idleSettled, ?_, read, idle, .inr ?_⟩
        · intro timer since time member
          rcases List.mem_append.mp member with earlier | latest
          · exact vigilant.unclosed timer since time earlier
          · cases List.mem_singleton.mp latest
        · have all : ∀ post ∈ posted ++ [⟨side, socket.now, ping schema⟩],
              post.time ≤ socket.now := by
            intro post member
            rcases List.mem_append.mp member with earlier | latest
            · exact stamped post earlier
            · cases List.mem_singleton.mp latest
              exact Nat.le_refl _
          have isPing : (ping schema).isPing = true := rfl
          refine ⟨?_, ?_, socket.now, _, rfl, rfl, quiet.within, Nat.le_add_right _ _, ?_⟩
          · simp only [TimedSocket.armHeartbeat, SteadyTimer.arm, TimedSocket.record, last,
              ite_self]
          · rw [List.map_append, List.map_singleton, countP_concat, isPing]
            exact Nat.lt_succ_of_le answered
          · exact (postedUntil_eq_of_stamped all).ge
      · rw [pinging.settled] at queued
        exact absurd queued (Multiset.notMem_zero _)

end Vigilant

/-- The answer to a ping has been read within two delays. -/
def Replied (delay : Nat) (peers : Peers) (past : List Post) : Prop :=
  ∀ side time, time + 2 * delay < (peers side).socket.now →
    postedUntil Message.isPing time (postedBy side past) ≤
      (peers side).frames.count (SystemId.hbPong.toId, true)

/-- Both endpoints, the streams between them and the record. -/
structure Companions (schema : Schema) (delay : Nat) (peers : Peers) (past : List Post) : Prop where
  balanced : Balanced schema peers
  healthy : Healthy schema peers
  recorded : Posted peers past
  answered : Answered delay peers past
  replied : Replied delay peers past
  vigilant : ∀ side, Vigilant delay (peers side).socket (postedBy side past) (peers side).frames

section Companions

variable {schema : Schema} {delay : Nat} {peers next : Peers} {past : List Post} {ticked : Tick}

theorem step_of_tick {action : Action}
    (taken : Conversation.tick schema peers (.act action) = some next) :
    Conversation.step schema peers action = some next := by
  cases action with
  | elapse side duration => cases taken
  | _ => exact taken

theorem Balanced.tick (lawful : schema.Lawful) (balanced : Balanced schema peers)
    (taken : Conversation.tick schema peers ticked = some next) : Balanced schema next := by
  cases ticked with
  | elapse duration =>
      exact run_invariant_of_step (Balanced schema)
        (fun _ _ _ balanced taken => balanced.step lawful taken) balanced taken
  | act action => exact balanced.step lawful (step_of_tick taken)

/-- The pongs an endpoint has read answer its pings. -/
theorem Balanced.answers_le (balanced : Balanced schema peers) (side : Side) :
    (peers side).frames.count (SystemId.hbPong.toId, true) ≤
      (peers side).offered.countP Message.isPing := by
  have incoming := (balanced.incoming side).count_le SystemId.hbPong.toId
  have outgoing := (balanced.linked side).count_le SystemId.hbPing.toId
  calc (peers side).frames.count (SystemId.hbPong.toId, true)
      ≤ (peers side.other).offered.countP Message.isPong := incoming.1.trans incoming.2
    _ = (peers side.other).frames.count (SystemId.hbPing.toId, true) :=
        (balanced.measured side.other).pongs
    _ ≤ (peers side).offered.countP Message.isPing := outgoing.1.trans outgoing.2

theorem Occurs.frames_isPrefix {side : Side} {endpoint : Endpoint} {posted : List Message}
    (occurs : Occurs schema peers side ticked endpoint posted) :
    (peers side).frames <+: endpoint.frames := by
  cases occurs with
  | calm ticked next still timers cap accepted frames limit unfailed =>
      rw [frames]
  | read reading bytes =>
      rw [onRead_eq]
      split
      · exact List.prefix_append _ reading.frame
      · exact List.prefix_append _ reading.frame
  | _ => exact List.prefix_rfl

/-- A ping that is not answered yet was sent at most two delays ago. -/
theorem Answered.soon (answered : Answered delay peers past) (balanced : Balanced schema peers)
    (healthy : Healthy schema peers) (recorded : Posted peers past) {duration : Nat}
    (passes : Passes schema delay peers past duration) (side : Side) (pinged : Nat)
    (unanswered : (peers side).frames.count (SystemId.hbPong.toId, true) <
      postedUntil Message.isPing pinged (postedBy side past)) :
    (peers side).socket.now + duration ≤ pinged + 2 * delay := by
  by_contra late
  have clock := recorded.clocks side
  have there : pinged + delay < (peers side).socket.now + duration := by omega
  have back : pinged + delay + delay < (peers side.other).socket.now + duration := by omega
  have posted := answered.passes balanced healthy recorded passes side there
  have read := passes.read balanced healthy recorded side.other SystemId.hbPong.toId back
  rw [side.other_other] at read
  exact absurd (posted.trans read) (Nat.not_le.mpr unanswered)

theorem Replied.tick (replied : Replied delay peers past) (answered : Answered delay peers past)
    (balanced : Balanced schema peers) (healthy : Healthy schema peers)
    (recorded : Posted peers past) (swift : Swift schema delay (peers, past) ticked)
    (taken : Conversation.tick schema peers ticked = some next) :
    Replied delay next (past ++ posts peers ticked next) := by
  intro side time late
  obtain ⟨posted, offered, occurs⟩ := tick_occurs taken side
  rw [postedBy_append offered]
  rw [occurs.now] at late
  refine Nat.le_trans ?_ (occurs.frames_isPrefix.sublist.count_le _)
  cases ticked with
  | act action =>
      rw [Tick.duration] at late
      rw [postedUntil_append_late (posted_late posted (by omega))]
      exact replied side time late
  | elapse duration =>
      rw [occurs.silent, List.map_nil, List.append_nil]
      by_contra unanswered
      have soon := answered.soon balanced healthy recorded swift side time
        (Nat.not_le.mp unanswered)
      exact absurd late (Nat.not_lt.mpr soon)

theorem Companions.tick (lawful : schema.Lawful) (companions : Companions schema delay peers past)
    (swift : Swift schema delay (peers, past) ticked)
    (taken : Conversation.tick schema peers ticked = some next) :
    Companions schema delay next (past ++ posts peers ticked next) := by
  obtain ⟨balanced, healthy, recorded, answered, replied, vigilant⟩ := companions
  refine ⟨balanced.tick lawful taken, healthy.tick lawful balanced swift taken,
    recorded.tick taken, answered.tick balanced healthy recorded swift taken,
    replied.tick answered balanced healthy recorded swift taken, ?_⟩
  intro side
  obtain ⟨posted, offered, occurs⟩ := tick_occurs taken side
  rw [postedBy_append offered]
  generalize next side = endpoint at offered occurs
  have own := vigilant side
  cases occurs with
  | calm ticked endpoint still timers cap accepted frames limit unfailed =>
      rw [frames]
      exact own.frame timers (by simp)
  | send message hasHandler application =>
      exact own.frame rfl (by simp [Message.isPing, application])
  | read reading bytes =>
      have completed : ∀ posted frames, Vigilant delay
          ((peers side).completeRead schema reading bytes).socket posted frames :=
        own.onRead ((peers side).socket.reads - 1) _
      rw [onRead_eq]
      split
      · refine (completed _ _).frame rfl ?_
        intro post member
        cases List.mem_singleton.mp member
        rfl
      · exact completed _ _
  | elapse duration =>
      rw [List.map_nil, List.append_nil]
      exact own.elapse (swift.urgent side) (answered.soon balanced healthy recorded swift side)
  | expire timer socket expired =>
      rw [List.map_nil, List.append_nil]
      exact own.expire expired
  | run timer wait socket handled =>
      have answers := balanced.answers_le side
      rw [← recorded.offered side] at answers
      obtain ⟨heartbeat, quiet, watching⟩ :=
        own.run handled (recorded.stamped side) answers side
      rw [if_pos ⟨heartbeat, quiet⟩]
      exact watching

/-- The socket of an endpoint before the handshake handler starts its timers. -/
def handshaken (settings : Settings) : TimedSocket where
  timeouts := settings.timeouts
  recalls := settings.recalls
  writes := { maxPendingWrites := settings.maxPendingWrites }
  phase := .established
  heartbeatTimer := settings.heartbeatTimer
  handshakeTimer := SteadyTimer.cancel {} settings.recalls
  log := [.handshakeCompleted true]

theorem started_restarts (settings : Settings) : (started settings).socket =
    { (handshaken settings).resetIdleTimer.resetHeartbeatTimer with reads := 1 } :=
  rfl

theorem Vigilant.started {settings : Settings} (settled : settings.heartbeatTimer.queued = 0)
    (patient : Patient delay settings.timeouts) :
    Vigilant delay (started settings).socket [] [] := by
  have restarted : Vigilant delay (handshaken settings).resetIdleTimer.resetHeartbeatTimer
      [] [] := by
    refine @Vigilant.restart _ (handshaken settings) _ _ patient
      (SteadyTimer.cancel_of_settled rfl) rfl (fun _ => rfl) ?_ ?_
    · simp [handshaken, settled]
    · simp [handshaken]
  rw [started_restarts]
  exact @Vigilant.frame _ _ [] [] _ restarted _ rfl (by simp)

theorem started_now (settings : Settings) : (started settings).socket.now = 0 := by
  obtain ⟨_, _, _, equal⟩ := TimedSocket.restart_frame (handshaken settings)
  rw [started_restarts, equal]
  rfl

theorem Companions.started (settings : Side → Settings)
    (unlimited : ∀ side, (settings side).maxPendingWrites = 0)
    (settled : ∀ side, (settings side).heartbeatTimer.queued = 0)
    (patient : ∀ side, Patient delay (settings side).timeouts)
    (small : ∀ side, (ping schema).Fits schema (settings side).maxMessageSize ∧
      (pong schema).Fits schema (settings side).maxMessageSize) :
    Companions schema delay (fun side => started (settings side)) [] := by
  refine ⟨Balanced.initial settings, ?_, ?_, ?_, ?_, ?_⟩
  · refine ⟨?_, by simp [Conversation.started], fun side => (small side).1,
      fun side => (small side).2, fun _ => rfl⟩
    intro side
    have writes := (started_socket (settings side)).1
    refine ⟨?_, ?_⟩
    · rw [writes]
      exact unlimited side
    · rw [Endpoint.accepted, writes]
      rfl
  · refine ⟨?_, fun _ => rfl, by simp [postedBy]⟩
    intro side
    rw [started_now, started_now]
  · intro side time early
    rw [started_now] at early
    exact absurd early (Nat.not_lt_zero _)
  · intro side time late
    rw [started_now] at late
    exact absurd late (Nat.not_lt_zero _)
  · exact fun side => Vigilant.started (settled side) (patient side)

end Companions

end SocketSL.Conversation
