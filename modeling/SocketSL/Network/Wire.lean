import SocketSL.Network.Handlers
import SocketSL.Message.Frame

/-!
# Frames on the wire

The queue keeps asynchronous frames apart, but a synchronous send reaches the
stream by two `write` calls of its own.  The wire stays a sequence of whole
frames exactly as long as no step writes a byte while another frame is partly
written.
-/

namespace SocketSL.Network

open SocketSL.Lib

/-- Part of the frame is on the wire and part of it is not. -/
def Flight.Partial (flight : Flight) : Prop :=
  0 < flight.transferred ∧ flight.transferred < flight.call.frame.length

instance (flight : Flight) : Decidable flight.Partial :=
  inferInstanceAs (Decidable (0 < flight.transferred ∧
    flight.transferred < flight.call.frame.length))

/-- The flight by itself if it is partly on the wire. -/
def Flight.part (flight : Flight) : Multiset Flight :=
  if flight.Partial then {flight} else 0

theorem Flight.filter_singleton (flight : Flight) :
    ({flight} : Multiset Flight).filter Flight.Partial = flight.part :=
  Multiset.filter_singleton _

theorem Flight.part_of_not {flight : Flight} (whole : ¬ flight.Partial) : flight.part = 0 :=
  if_neg whole

@[simp]
theorem Call.length_tagged (call : Call) : call.tagged.length = call.frame.length :=
  List.length_map _

theorem Call.id_of_mem_tagged {call : Call} {byte : Nat × UInt8} (member : byte ∈ call.tagged) :
    byte.1 = call.id := by
  obtain ⟨value, -, rfl⟩ := List.mem_map.mp member
  rfl

theorem Call.tagged_eq (call : Call) :
    call.tagged = (call.head.map fun byte => (call.id, byte)) ++
      call.body.map fun byte => (call.id, byte) := by
  simp [Call.tagged, Call.frame]

namespace BoostTcpSocket

/-- A synchronous send between its two writes, seen as a composed write. -/
def headerWritten (call : Call) : Flight := ⟨call, call.head.length⟩

/-- The writes that have been handed to the stream and are not finished. -/
def active (socket : BoostTcpSocket) : Multiset Flight :=
  socket.flights + socket.bodiesDue.map headerWritten

/-- The frames of which only a part is on the wire. -/
def inProgress (socket : BoostTcpSocket) : Multiset Flight :=
  socket.active.filter Flight.Partial

/-- The calls whose bytes may reach the wire. -/
def senders (socket : BoostTcpSocket) : List Call := socket.accepted ++ socket.synchronous

/-- Complete frames followed by at most one frame in progress. -/
def Framed (socket : BoostTcpSocket) : Prop :=
  ∃ (frames : List Call) (progress : List (Nat × UInt8)),
    (∀ call ∈ frames, call ∈ socket.senders) ∧
    socket.wire = frames.flatMap Call.tagged ++ progress ∧
    (progress = [] ∨ ∃ call ∈ socket.senders, progress <+: call.tagged)

/-- Whenever the step writes a byte, no frame but its own is in progress. -/
def Exclusive (socket : BoostTcpSocket) : Action → Prop
  | .transfer flight count => count = 0 ∨ socket.inProgress.erase flight = 0
  | .writeHeader header _ => header = [] ∨ socket.inProgress = 0
  | .writeBody call => socket.inProgress.erase (headerWritten call) = 0
  | _ => True

/-- The wire holds complete frames and the frame in progress, if there is one. -/
def Layout (socket : BoostTcpSocket) : Prop :=
  ∃ frames : List Call, (∀ call ∈ frames, call ∈ socket.senders) ∧
    ((socket.inProgress = 0 ∧ socket.wire = frames.flatMap Call.tagged) ∨
      ∃ flight, socket.inProgress = {flight} ∧ flight.call ∈ socket.senders ∧
        socket.wire = frames.flatMap Call.tagged ++
          flight.call.tagged.take flight.transferred)

theorem Layout.framed {socket : BoostTcpSocket} (layout : socket.Layout) : socket.Framed := by
  obtain ⟨frames, sent, ⟨-, whole⟩ | ⟨flight, -, sender, part⟩⟩ := layout
  · exact ⟨frames, [], sent, by simpa using whole, Or.inl rfl⟩
  · exact ⟨frames, _, sent, part, Or.inr ⟨flight.call, sender, List.take_prefix _ _⟩⟩

section Torn

variable {socket : BoostTcpSocket}

theorem issued_of_sends {call : Call} (sends : call ∈ socket.senders) :
    call ∈ socket.issued := by
  rcases List.mem_append.mp sends with accepted | synchronous
  · simp [issued, accepted]
  · simp [issued, synchronous]

theorem senders_writeHeader {header body : List UInt8} {call : Call}
    (sends : call ∈ socket.senders) : call ∈ (socket.writeHeader header body).senders := by
  simp only [senders, BoostTcpSocket.writeHeader, ← List.append_assoc]
  exact List.mem_append_left _ sends

theorem Accounts.sender_unique (accounts : socket.Accounts) {first second : Call}
    (firstSends : first ∈ socket.senders) (secondSends : second ∈ socket.senders)
    (same : first.id = second.id) : first = second :=
  List.inj_on_of_nodup_map accounts.nodup (issued_of_sends firstSends)
    (issued_of_sends secondSends) same

theorem Accounts.countP_frames (accounts : socket.Accounts) {call : Call}
    (sends : call ∈ socket.senders) {frames : List Call}
    (sent : ∀ frame ∈ frames, frame ∈ socket.senders) :
    (frames.flatMap Call.tagged).countP (fun byte => byte.1 = call.id) =
      frames.count call * call.frame.length := by
  induction frames with
  | nil => simp
  | cons frame frames inductionHypothesis =>
      have later := inductionHypothesis fun other member => sent other (by simp [member])
      rw [List.flatMap_cons, List.countP_append, later]
      by_cases own : frame = call
      · subst own
        have all : frame.tagged.countP (fun byte => byte.1 = frame.id) = frame.frame.length := by
          rw [← frame.length_tagged, List.countP_eq_length]
          intro byte member
          exact decide_eq_true (Call.id_of_mem_tagged member)
        rw [all, List.count_cons_self, Nat.add_mul, Nat.one_mul, Nat.add_comm]
      · have none : frame.tagged.countP (fun byte => byte.1 = call.id) = 0 := by
          rw [List.countP_eq_zero]
          intro byte member same
          rw [Call.id_of_mem_tagged member] at same
          exact own (accounts.sender_unique (sent frame (by simp)) sends (by simpa using same))
        rw [none, List.count_cons_of_ne own, Nat.zero_add]

theorem Accounts.not_framed (accounts : socket.Accounts) {frames : List Call} {flight : Flight}
    {later : List (Nat × UInt8)} (sent : ∀ call ∈ frames, call ∈ socket.senders)
    (sends : flight.call ∈ socket.senders) (part : flight.Partial) (nonempty : later ≠ [])
    (other : ∀ byte ∈ later, byte.1 ≠ flight.call.id)
    (wire : socket.wire = frames.flatMap Call.tagged ++
      flight.call.tagged.take flight.transferred ++ later) : ¬ socket.Framed := by
  rintro ⟨frames', progress, sent', wire', inFrame⟩
  have own : socket.wire.countP (fun byte => byte.1 = flight.call.id) =
      frames.count flight.call * flight.call.frame.length + flight.transferred := by
    have present : (flight.call.tagged.take flight.transferred).countP
        (fun byte => byte.1 = flight.call.id) = flight.transferred := by
      refine (List.countP_eq_length.mpr ?_).trans (by simp [Nat.le_of_lt part.2])
      intro byte member
      exact decide_eq_true (Call.id_of_mem_tagged (List.mem_of_mem_take member))
    have absent : later.countP (fun byte => byte.1 = flight.call.id) = 0 := by
      apply List.countP_eq_zero.mpr
      intro byte member same
      exact other byte member (of_decide_eq_true same)
    rw [wire, List.countP_append, List.countP_append, accounts.countP_frames sends sent, present,
      absent, Nat.add_zero]
  have foreign : progress.countP (fun byte => byte.1 = flight.call.id) = 0 := by
    rcases inFrame with rfl | ⟨call, -, inCall⟩
    · rfl
    by_cases empty : progress = []
    · rw [empty]
      rfl
    have lastEq : progress.getLast? = later.getLast? := by
      rw [← List.getLast?_append_of_ne_nil (frames'.flatMap Call.tagged) empty, ← wire', wire,
        List.getLast?_append_of_ne_nil _ nonempty]
    have last := lastEq.trans (List.getLast?_eq_some_getLast nonempty)
    have sameCall := Call.id_of_mem_tagged (inCall.subset (List.mem_of_getLast? last))
    apply List.countP_eq_zero.mpr
    intro byte member same
    apply other _ (List.getLast_mem nonempty)
    rw [sameCall, ← Call.id_of_mem_tagged (inCall.subset member)]
    exact of_decide_eq_true same
  rw [wire', List.countP_append, accounts.countP_frames sends sent', foreign, Nat.add_zero] at own
  have remainder := congrArg (· % flight.call.frame.length) own
  simp only [Nat.mul_mod_left, Nat.mul_add_mod_self_right, Nat.mod_eq_of_lt part.2] at remainder
  exact absurd part.1 (by omega)

end Torn

section Layout

variable {socket next : BoostTcpSocket}

theorem Layout.of_unchanged (layout : socket.Layout)
    (progress : next.inProgress = socket.inProgress) (wire : next.wire = socket.wire)
    (senders : ∀ call ∈ socket.senders, call ∈ next.senders) : next.Layout := by
  obtain ⟨frames, sent, position⟩ := layout
  refine ⟨frames, fun call member => senders call (sent call member), ?_⟩
  rw [progress, wire]
  rcases position with whole | ⟨flight, single, sender, part⟩
  · exact Or.inl whole
  · exact Or.inr ⟨flight, single, senders _ sender, part⟩

theorem Layout.wire_of_only (layout : socket.Layout) {flight : Flight}
    (only : socket.inProgress = flight.part) :
    ∃ frames : List Call, (∀ call ∈ frames, call ∈ socket.senders) ∧
      socket.wire = frames.flatMap Call.tagged ++
        if flight.Partial then flight.call.tagged.take flight.transferred else [] := by
  obtain ⟨frames, sent, ⟨empty, whole⟩ | ⟨current, single, sender, part⟩⟩ := layout
  · refine ⟨frames, sent, ?_⟩
    rw [empty, Flight.part] at only
    split at only
    next => exact absurd only.symm (Multiset.singleton_ne_zero flight)
    next whole' => simp [whole, whole']
  · refine ⟨frames, sent, ?_⟩
    rw [single, Flight.part] at only
    split at only
    next partly =>
      cases Multiset.singleton_inj.mp only
      simp [part, partly]
    next => exact absurd only (Multiset.singleton_ne_zero current)

/-- A step after which only `moved` can be in progress, with all of it that is
written at the end of the wire. -/
theorem Layout.of_only {frames : List Call} {moved : Flight}
    (sent : ∀ call ∈ frames, call ∈ next.senders) (sender : moved.call ∈ next.senders)
    (only : next.inProgress = moved.part)
    (begun : 0 < moved.transferred)
    (wire : next.wire = frames.flatMap Call.tagged ++ moved.call.tagged.take moved.transferred) :
    next.Layout := by
  rw [Flight.part] at only
  split at only
  next => exact ⟨frames, sent, Or.inr ⟨moved, only, sender, wire⟩⟩
  next finished =>
    refine ⟨frames ++ [moved.call], ?_, Or.inl ⟨only, ?_⟩⟩
    · intro call member
      rcases List.mem_append.mp member with earlier | last
      · exact sent call earlier
      · cases List.mem_singleton.mp last
        exact sender
    · have all : moved.call.frame.length ≤ moved.transferred :=
        Nat.not_lt.mp fun shorter => finished ⟨begun, shorter⟩
      rw [wire, List.take_of_length_le (by simpa using all)]
      simp

theorem only_of_erase {flight : Flight} (member : flight ∈ socket.active)
    (others : socket.inProgress.erase flight = 0) :
    socket.inProgress = flight.part := by
  rw [Flight.part]
  split
  next partly =>
    have present : flight ∈ socket.inProgress := Multiset.mem_filter.mpr ⟨member, partly⟩
    rw [← Multiset.cons_erase present, others]
    rfl
  next finished =>
    have absent : flight ∉ socket.inProgress := fun inside =>
      finished (Multiset.mem_filter.mp inside).2
    rw [← Multiset.erase_of_notMem absent, others]

theorem Layout.transfer (layout : socket.Layout) (writers : socket.Writers) {flight : Flight}
    {count : Nat} (inFlight : flight ∈ socket.flights)
    (remains : flight.transferred + count ≤ flight.call.frame.length)
    (exclusive : socket.Exclusive (.transfer flight count)) :
    (socket.transfer flight count).Layout := by
  obtain ⟨single, -, behind, queue⟩ := writers.of_flight inFlight
  have sender : flight.call ∈ socket.senders := by simp [senders, writers.order, queue]
  rcases Nat.eq_zero_or_pos count with rfl | positive
  · refine layout.of_unchanged ?_ ?_ fun call member => member
    · simp [inProgress, active, BoostTcpSocket.transfer, single]
    · simp [BoostTcpSocket.transfer]
  have only := only_of_erase (Multiset.mem_add.mpr (Or.inl inFlight))
    (exclusive.resolve_left (Nat.ne_of_gt positive))
  have noBody : (socket.bodiesDue.map headerWritten).filter Flight.Partial = 0 := by
    rw [inProgress, active, single, Multiset.filter_add, Flight.filter_singleton] at only
    exact add_eq_left.mp only
  obtain ⟨frames, sent, wire⟩ := layout.wire_of_only only
  have before : socket.wire =
      frames.flatMap Call.tagged ++ flight.call.tagged.take flight.transferred := by
    rw [wire]
    split
    next => rfl
    next finished =>
      have unbegun : flight.transferred = 0 := by
        simp only [Flight.Partial] at finished
        omega
      rw [unbegun, List.take_zero]
  have nowOnly : (socket.transfer flight count).inProgress =
      Flight.part ⟨flight.call, flight.transferred + count⟩ := by
    rw [inProgress, active, BoostTcpSocket.transfer, single, Multiset.erase_singleton,
      Multiset.filter_add, noBody, add_zero, ← Flight.filter_singleton]
    rfl
  refine @Layout.of_only (socket.transfer flight count) frames
    ⟨flight.call, flight.transferred + count⟩ sent sender nowOnly
    (Nat.add_pos_right _ positive) ?_
  simp only [BoostTcpSocket.transfer, before, List.append_assoc, List.take_add]

theorem Layout.writeHeader (layout : socket.Layout) {header body : List UInt8}
    (exclusive : socket.Exclusive (.writeHeader header body)) :
    (socket.writeHeader header body).Layout := by
  have kept : ∀ call ∈ socket.senders, call ∈ (socket.writeHeader header body).senders :=
    fun call => senders_writeHeader
  have progress : (socket.writeHeader header body).inProgress = socket.inProgress +
      (headerWritten ⟨socket.calls, header, body, false⟩).part := by
    by_cases empty : body = []
    · rw [Flight.part_of_not (by simp [headerWritten, Flight.Partial, Call.frame, empty])]
      simp [inProgress, active, BoostTcpSocket.writeHeader, empty]
    · have more : (socket.writeHeader header body).active =
          {headerWritten ⟨socket.calls, header, body, false⟩} + socket.active := by
        simp [active, BoostTcpSocket.writeHeader, empty]
      rw [inProgress, more, Multiset.filter_add, Flight.filter_singleton, add_comm]
      rfl
  by_cases silent : header = []
  · refine layout.of_unchanged ?_ ?_ kept
    · rw [progress]
      simp [Flight.part, headerWritten, Flight.Partial, silent]
    · simp [BoostTcpSocket.writeHeader, silent]
  · have free := exclusive.resolve_left silent
    obtain ⟨frames, sent, wire⟩ := @Layout.wire_of_only _ layout
      ⟨⟨socket.calls, header, body, false⟩, 0⟩ (by simp [free, Flight.part, Flight.Partial])
    rw [free, zero_add] at progress
    refine @Layout.of_only (socket.writeHeader header body) frames _
      (fun call member => kept call (sent call member)) ?_ progress
      (List.length_pos_iff.mpr silent) ?_
    · simp [senders, BoostTcpSocket.writeHeader, headerWritten]
    · simp [BoostTcpSocket.writeHeader, wire, Flight.Partial, headerWritten, Call.tagged_eq]

theorem Layout.writeBody (layout : socket.Layout) {call : Call} (due : call ∈ socket.bodiesDue)
    (nonempty : call.body ≠ []) (sender : call ∈ socket.senders)
    (exclusive : socket.Exclusive (.writeBody call)) : (socket.writeBody call).Layout := by
  obtain ⟨rest, bodies⟩ := Multiset.exists_cons_of_mem due
  have member : headerWritten call ∈ socket.active := by simp [active, bodies]
  have only := only_of_erase member exclusive
  obtain ⟨frames, sent, wire⟩ := layout.wire_of_only only
  have progress : (socket.writeBody call).inProgress = 0 := by
    rw [inProgress, active, bodies, Multiset.map_cons, ← Multiset.singleton_add,
      add_left_comm, Multiset.filter_add, Flight.filter_singleton] at only
    rw [inProgress, active, BoostTcpSocket.writeBody, bodies, Multiset.erase_cons_head]
    exact add_eq_left.mp only
  apply @Layout.of_only (socket.writeBody call) frames ⟨call, call.frame.length⟩ sent sender
  · rw [progress, Flight.part_of_not (by simp [Flight.Partial])]
  · have bodyLength := List.length_pos_iff.mpr nonempty
    simp only [Call.frame, List.length_append]
    omega
  · have written : (if (headerWritten call).Partial
        then (headerWritten call).call.tagged.take (headerWritten call).transferred else []) =
          call.head.map fun byte => (call.id, byte) := by
      by_cases silent : call.head = []
      · simp [headerWritten, Flight.Partial, silent]
      · have partly : (headerWritten call).Partial :=
          ⟨List.length_pos_iff.mpr silent, by
            simpa [headerWritten, Call.frame] using List.length_pos_iff.mpr nonempty⟩
        rw [if_pos partly]
        simp [headerWritten, Call.tagged_eq]
    have all : call.tagged.take call.frame.length = call.tagged :=
      List.take_of_length_le (Nat.le_of_eq call.length_tagged)
    rw [all, call.tagged_eq]
    simp only [BoostTcpSocket.writeBody, wire, written, List.append_assoc]

end Layout

/-- What a run keeps as long as its steps are exclusive. -/
structure Sequenced (socket : BoostTcpSocket) : Prop where
  writers : socket.Writers
  accounts : socket.Accounts
  bodies : ∀ call ∈ socket.bodiesDue, call.body ≠ []
  layout : socket.Layout

theorem Sequenced.initial (maxPendingWrites : Nat) :
    Sequenced { maxPendingWrites := maxPendingWrites } where
  writers := Writers.initial maxPendingWrites
  accounts := Accounts.initial maxPendingWrites
  bodies := by simp
  layout := ⟨[], by simp, Or.inl (by simp [inProgress, active])⟩

/-- asio reports every write as a success. -/
def Succeeds : Action → Prop
  | .complete _ isValid => isValid = true
  | _ => True

section Sequenced

variable {socket next : BoostTcpSocket}

theorem step_bodies (bodies : ∀ call ∈ socket.bodiesDue, call.body ≠ []) {action : Action}
    (taken : Network.step socket action = some next) :
    ∀ call ∈ next.bodiesDue, call.body ≠ [] := by
  cases step_cases taken with
  | asyncWrite head body hasHandler =>
      unfold BoostTcpSocket.asyncWrite
      dsimp only
      split <;> exact bodies
  | runTask task rest pending =>
      cases task with
      | writeNext => cases queue : socket.writeQueue <;> simpa [runTask] using bodies
      | _ => exact bodies
  | transfer flight count inFlight remains => exact bodies
  | complete flight isValid inFlight finished =>
      cases queue : socket.writeQueue <;> simpa [complete, queue] using bodies
  | writeHeader header body =>
      intro call due
      simp only [BoostTcpSocket.writeHeader] at due
      split at due
      next => exact bodies call due
      next nonempty =>
        rcases Multiset.mem_cons.mp due with rfl | earlier
        · simpa using nonempty
        · exact bodies call earlier
  | writeBody call due =>
      exact fun other dueStill => bodies other (Multiset.mem_of_mem_erase dueStill)

theorem Sequenced.step_layout (sequenced : socket.Sequenced) {action : Action}
    (succeeds : Succeeds action) (exclusive : socket.Exclusive action)
    (taken : Network.step socket action = some next) : next.Layout := by
  have writers := sequenced.writers
  have layout := sequenced.layout
  cases step_cases taken with
  | asyncWrite head body hasHandler =>
      unfold BoostTcpSocket.asyncWrite
      dsimp only
      split
      next => exact layout.of_unchanged rfl rfl fun call member => member
      next =>
        refine layout.of_unchanged rfl rfl ?_
        intro call member
        rcases List.mem_append.mp member with accepted | synchronous
        · simp [senders, accepted]
        · simp [senders, synchronous]
  | runTask task rest pending =>
      cases task with
      | reject call => exact layout.of_unchanged rfl rfl fun call member => member
      | writeNext =>
          cases queue : socket.writeQueue <;>
            exact layout.of_unchanged rfl rfl fun call member => member
      | initiate call =>
          refine layout.of_unchanged ?_ rfl fun call member => member
          simp [inProgress, active, runTask, Flight.Partial]
      | finish call isValid more => exact layout.of_unchanged rfl rfl fun call member => member
  | transfer flight count inFlight remains =>
      exact layout.transfer writers inFlight remains exclusive
  | complete flight isValid inFlight finished =>
      obtain ⟨single, -, behind, queue⟩ := writers.of_flight inFlight
      rw [complete_of_cons queue]
      refine layout.of_unchanged ?_ rfl fun call member => member
      simp [inProgress, active, single, Flight.Partial, finished succeeds]
  | writeHeader header body => exact layout.writeHeader exclusive
  | writeBody call due =>
      have sender := List.mem_append_right socket.accepted (sequenced.accounts.bodies call due)
      exact layout.writeBody due (sequenced.bodies call due) sender exclusive

theorem Sequenced.step (sequenced : socket.Sequenced) {action : Action}
    (succeeds : Succeeds action) (exclusive : socket.Exclusive action)
    (taken : Network.step socket action = some next) : next.Sequenced where
  writers := sequenced.writers.step action taken
  accounts := sequenced.accounts.step sequenced.writers action taken
  bodies := step_bodies sequenced.bodies taken
  layout := sequenced.step_layout succeeds exclusive taken

theorem Sequenced.active_sends (sequenced : socket.Sequenced) {flight : Flight}
    (member : flight ∈ socket.active) : flight.call ∈ socket.senders := by
  rcases Multiset.mem_add.mp member with inFlight | due
  · obtain ⟨-, -, behind, queue⟩ := sequenced.writers.of_flight inFlight
    simp [senders, sequenced.writers.order, queue]
  · obtain ⟨call, isDue, rfl⟩ := Multiset.mem_map.mp due
    exact List.mem_append_right _ (sequenced.accounts.bodies call isDue)

theorem Sequenced.active_distinct (sequenced : socket.Sequenced) {first second : Flight}
    (firstActive : first ∈ socket.active) (secondActive : second ∈ socket.active)
    (different : first ≠ second) : first.call.id ≠ second.call.id := by
  intro same
  have sameCall := sequenced.accounts.sender_unique (sequenced.active_sends firstActive)
    (sequenced.active_sends secondActive) same
  have apart : ∀ flight ∈ socket.flights, flight.call ∉ socket.synchronous := by
    intro flight inFlight synchronous
    obtain ⟨-, -, behind, queue⟩ := sequenced.writers.of_flight inFlight
    have accepted : flight.call ∈ socket.accepted := by simp [sequenced.writers.order, queue]
    exact List.disjoint_of_nodup_append sequenced.accounts.nodup.of_map accepted
      (List.mem_append_right _ synchronous)
  rcases Multiset.mem_add.mp firstActive with inFlight | due
  · rcases Multiset.mem_add.mp secondActive with inFlight' | due'
    · obtain ⟨single, -⟩ := sequenced.writers.of_flight inFlight
      rw [single] at inFlight'
      exact different (Multiset.mem_singleton.mp inFlight').symm
    · obtain ⟨call, isDue, rfl⟩ := Multiset.mem_map.mp due'
      apply apart first inFlight
      rw [sameCall]
      exact sequenced.accounts.bodies call isDue
  · obtain ⟨call, isDue, rfl⟩ := Multiset.mem_map.mp due
    rcases Multiset.mem_add.mp secondActive with inFlight' | due'
    · apply apart second inFlight'
      rw [← sameCall]
      exact sequenced.accounts.bodies call isDue
    · obtain ⟨call', -, rfl⟩ := Multiset.mem_map.mp due'
      exact different (congrArg headerWritten sameCall)

theorem active_of_single {current : Flight} (single : socket.inProgress = {current}) :
    current ∈ socket.active ∧ current.Partial := by
  have member : current ∈ socket.inProgress := by
    rw [single]
    exact Multiset.mem_singleton_self current
  exact Multiset.mem_filter.mp member

theorem Sequenced.exists_other (sequenced : socket.Sequenced) {flight : Flight}
    (others : socket.inProgress.erase flight ≠ 0) :
    ∃ current, socket.inProgress = {current} ∧ current ≠ flight := by
  obtain ⟨-, -, ⟨empty, -⟩ | ⟨current, single, -⟩⟩ := sequenced.layout
  · rw [empty] at others
    exact absurd (Multiset.erase_zero flight) others
  · refine ⟨current, single, ?_⟩
    rintro rfl
    rw [single] at others
    exact others (Multiset.erase_singleton current)

theorem Sequenced.torn (sequenced : socket.Sequenced) (accounts : next.Accounts)
    {current : Flight} (single : socket.inProgress = {current}) {later : List (Nat × UInt8)}
    (wire : next.wire = socket.wire ++ later) (nonempty : later ≠ [])
    (other : ∀ byte ∈ later, byte.1 ≠ current.call.id)
    (kept : ∀ call ∈ socket.senders, call ∈ next.senders) : ¬ next.Framed := by
  obtain ⟨frames, sent, ⟨empty, -⟩ | ⟨flight, single', sender, part⟩⟩ := sequenced.layout
  · rw [single] at empty
    exact absurd empty (Multiset.singleton_ne_zero current)
  · cases Multiset.singleton_inj.mp (single.symm.trans single')
    exact accounts.not_framed (fun call member => kept call (sent call member))
      (kept _ sender) (active_of_single single).2 nonempty other (by rw [wire, part])

/-- A step that is not exclusive leaves a torn frame behind. -/
theorem Sequenced.exclusive_of_framed (sequenced : socket.Sequenced) {action : Action}
    (taken : Network.step socket action = some next) (framed : next.Framed) :
    socket.Exclusive action := by
  have accounts := sequenced.accounts.step sequenced.writers action taken
  by_contra overlapping
  cases step_cases taken with
  | asyncWrite head body hasHandler => exact overlapping trivial
  | runTask task rest pending => exact overlapping trivial
  | complete flight isValid inFlight finished => exact overlapping trivial
  | transfer flight count inFlight remains =>
      obtain ⟨moves, others⟩ := not_or.mp overlapping
      obtain ⟨current, single, different⟩ := sequenced.exists_other others
      refine sequenced.torn accounts single rfl ?_ ?_ (fun call member => member) framed
      · apply List.ne_nil_of_length_pos
        simp only [List.length_take, List.length_drop, Call.length_tagged]
        omega
      · intro byte member
        rw [Call.id_of_mem_tagged (List.mem_of_mem_drop (List.mem_of_mem_take member))]
        exact sequenced.active_distinct (Multiset.mem_add.mpr (Or.inl inFlight))
          (active_of_single single).1 different.symm
  | writeHeader header body =>
      obtain ⟨writes, others⟩ := not_or.mp overlapping
      obtain ⟨-, -, ⟨empty, -⟩ | ⟨current, single, sender, -⟩⟩ := sequenced.layout
      · exact others empty
      refine sequenced.torn accounts single rfl (by simpa using writes) ?_ ?_ framed
      · intro byte member
        obtain ⟨value, -, rfl⟩ := List.mem_map.mp member
        have numbered := sequenced.accounts.numbered.subset
          (List.mem_map_of_mem (issued_of_sends sender))
        exact Nat.ne_of_gt (List.mem_range.mp numbered)
      · exact fun call => senders_writeHeader
  | writeBody call due =>
      obtain ⟨current, single, different⟩ := sequenced.exists_other overlapping
      refine sequenced.torn accounts single rfl (by simpa using sequenced.bodies call due) ?_
        (fun call member => member) framed
      intro byte member
      obtain ⟨value, -, rfl⟩ := List.mem_map.mp member
      apply sequenced.active_distinct ?_ (active_of_single single).1 different.symm
      exact Multiset.mem_add.mpr (Or.inr (Multiset.mem_map_of_mem headerWritten due))

end Sequenced

/-- In a run in which every write succeeds, the wire is a sequence of whole
frames in every state if and only if every step of the run is exclusive. -/
theorem wire_framed_iff_exclusive {maxPendingWrites : Nat} {actions : List Action}
    {socket : BoostTcpSocket}
    (executed : run Network.step { maxPendingWrites := maxPendingWrites } actions = some socket)
    (succeed : ∀ action ∈ actions, Succeeds action) :
    Always Network.step Framed { maxPendingWrites := maxPendingWrites } actions ↔
      Throughout Network.step Exclusive { maxPendingWrites := maxPendingWrites } actions := by
  apply always_iff_throughout Sequenced Framed (fun state sequenced => sequenced.layout.framed)
    ?_ ?_ (Sequenced.initial maxPendingWrites) succeed executed
  · intro state action next sequenced succeeds exclusive taken
    exact sequenced.step succeeds exclusive taken
  · intro state action next sequenced succeeds taken framed
    exact sequenced.exclusive_of_framed taken framed

/-- A synchronous send, then an asynchronous one. -/
theorem wire_framed_one_by_one :
    let first : Call := ⟨0, [1], [2], false⟩
    let second : Call := ⟨1, [3], [4], true⟩
    let actions : List Action := [.writeHeader [1] [2], .writeBody first,
      .asyncWrite [3] [4] true, .runTask .writeNext, .runTask (.initiate second),
      .transfer ⟨second, 0⟩ 1, .transfer ⟨second, 1⟩ 1]
    Always Network.step Framed { maxPendingWrites := 0 } actions := by
  intro first second actions
  apply (@wire_framed_iff_exclusive 0 actions _ rfl (by simp [actions, Succeeds])).mpr
  refine (throughout_cons rfl).mpr ⟨Or.inr rfl, (throughout_cons rfl).mpr ⟨?_, ?_⟩⟩
  · exact Multiset.erase_singleton _
  refine (throughout_cons rfl).mpr ⟨trivial, (throughout_cons rfl).mpr ⟨trivial, ?_⟩⟩
  refine (throughout_cons rfl).mpr ⟨trivial, (throughout_cons rfl).mpr ⟨Or.inr rfl, ?_⟩⟩
  exact (throughout_cons rfl).mpr ⟨Or.inr (by decide), trivial⟩

/-- Two threads send a message each: both headers go out before either body. -/
theorem wire_torn_by_two_sends :
    let first := make flatbuffers 42 ⟨[1], by decide⟩ false
    let second := make flatbuffers 7 ⟨[2], by decide⟩ false
    let actions : List Action := [.writeHeader first.header first.body,
      .writeHeader second.header second.body]
    (∀ action ∈ actions, Succeeds action) ∧
      ∃ socket, run Network.step { maxPendingWrites := 0 } actions = some socket ∧
        ¬ socket.Framed := by
  intro first second actions
  refine ⟨by simp [actions, Succeeds], _, rfl, ?_⟩
  intro framed
  have headers : ∀ message : MessageT, message = first ∨ message = second →
      message.header ≠ [] := by
    rintro message (rfl | rfl) empty
    · exact absurd (congrArg List.length empty) (by simp [first, make, makeFrameHeader])
    · exact absurd (congrArg List.length empty) (by simp [second, make, makeFrameHeader])
  have sequenced := @Sequenced.step _ _ (Sequenced.initial 0)
    (.writeHeader first.header first.body) trivial (Or.inr rfl) rfl
  have exclusive := @Sequenced.exclusive_of_framed _ _ sequenced
    (.writeHeader second.header second.body) rfl framed
  rcases exclusive with silent | free
  · exact headers second (Or.inr rfl) silent
  · have present : headerWritten ⟨0, first.header, first.body, false⟩ ∈
        (0 : Multiset Flight) := by
      rw [← free]
      refine Multiset.mem_filter.mpr ⟨?_, ?_⟩
      · simp [active, BoostTcpSocket.writeHeader, first, make]
      · refine ⟨List.length_pos_iff.mpr (headers first (Or.inl rfl)), ?_⟩
        simp [headerWritten, Call.frame, first, make]
    exact Multiset.notMem_zero _ present

end BoostTcpSocket

end SocketSL.Network
