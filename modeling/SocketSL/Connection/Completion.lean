import SocketSL.Connection.Answering
import SocketSL.Connection.Latency

/-!
# The blocking client completes

A program that waits only for responses it has asked for gets through: the
dialogue cannot come to rest before the program has ended, and it comes to rest
after a bounded number of steps unless the server pings.
-/

namespace SocketSL.Blocking

open SocketSL.Endian SocketSL.Lib
open SocketSL.Network (BoostTcpSocket)
open SocketSL.Session (PendingRead Pipe Position application asyncSend)
open SocketSL.Conversation (ping pong)
open SocketSL.Exchange

variable {schema : Schema} {settings : Settings} {calls : List Call} {dialogue next : Dialogue}
  {history : History}

section Rest

variable (sound : Sound schema settings calls dialogue history)
  (resting : ∀ action : Action, action.isOwn = true →
    Blocking.step schema settings dialogue action = none)
include sound resting

theorem Sound.all_posted : dialogue.server.posted = dialogue.server.served.sent.length := by
  refine Nat.le_antisymm sound.posted ?_
  have stuck := resting .post rfl
  simp only [Blocking.step] at stuck
  split at stuck
  next none => exact List.getElem?_eq_none_iff.mp none
  next message due => cases stuck

theorem Sound.all_read
    (accepts : ∀ message ∈ history.sent, message.Fits schema settings.serverLimit) :
    deliveries dialogue.server.events = application history.sent := by
  have arrived : dialogue.client.outgoing.length ≤ dialogue.server.arrived := by
    have stuck := resting (.arriveServer 1) rfl
    simp only [Blocking.step, ite_eq_right_iff, reduceCtorEq, imp_false] at stuck
    omega
  have unread : ∀ reading ∈ dialogue.server.reading,
      dialogue.server.arrived < dialogue.server.consumed + reading.size := by
    intro reading outstanding
    have stuck := resting .read rfl
    simp only [Blocking.step, Option.mem_def.mp outstanding, ite_eq_right_iff, reduceCtorEq,
      imp_false, not_and, Nat.not_le] at stuck
    exact stuck (sound.all_posted resting)
  obtain ⟨done, rest, split, -, delivered, position⟩ := sound.uplink.reader
  rw [uplink_accepted] at split
  have same : deliveries dialogue.server.events = application done := delivered
  cases rest with
  | nil => rw [same, split, List.append_nil]
  | cons message rest =>
      have incomplete := Conversation.arrived_lt_of_position position
        (accepts message (by simp [split])) unread
      rw [sound.outgoing, split, ← List.singleton_append, ← List.append_assoc,
        List.flatMap_append, List.length_append] at arrived
      omega

theorem Sound.all_written : dialogue.server.socket.bytes =
    (dialogue.downlink schema history.heard).accepted.flatMap (Message.frame schema) := by
  have own : ∀ move, lasting move = true → Network.step dialogue.server.socket move = none := by
    intro move last
    have stuck := resting (.write move) rfl
    simpa [Blocking.step, last] using stuck
  have rest : ∀ move : Network.Action, move.isOwn = true →
      Network.step dialogue.server.socket move = none := by
    intro move isOwn
    cases move with
    | complete flight isValid =>
        -- a write in flight goes on or completes
        have further := own (.transfer flight 1) rfl
        have completes := own (.complete flight true) rfl
        apply if_neg
        rintro ⟨inFlight, -⟩
        have fits := sound.draining.fits flight inFlight
        simp only [Network.step, inFlight, true_and, ite_eq_right_iff, reduceCtorEq, imp_false,
          forall_const] at further completes
        omega
    | _ => exact own _ isOwn
  obtain ⟨-, landed, empty⟩ := sound.draining.resting rest
  have order := sound.draining.order
  rw [empty, List.append_nil] at order
  have completed := sound.downlink.transmits.between sound.unbroken landed
  rw [List.flatMap_def, ← sound.downlink.map_frame, ← List.flatMap_def]
  refine completed.trans ?_
  change _ = dialogue.server.socket.accepted.flatMap _
  rw [order, List.flatMap_map]
  rfl

theorem Sound.all_heard (lawful : schema.Lawful) {rest : List Call}
    (due : dialogue.calls = .recv :: rest) :
    (dialogue.downlink schema history.heard).accepted = history.heard := by
  have handed : dialogue.server.socket.bytes.length ≤ dialogue.handed := by
    have stuck := resting (.arriveClient 1) rfl
    simp only [Blocking.step, ite_eq_right_iff, reduceCtorEq, imp_false] at stuck
    omega
  have waiting : ¬ Ready schema dialogue.client dialogue.buffer := by
    have stuck := resting .call rfl
    simpa [Blocking.step, due] using stuck
  obtain ⟨unheard, split⟩ := sound.heard
  cases unheard with
  | nil => rw [← split, List.append_nil]
  | cons message unheard =>
      have fits := sound.fits_accepted message (by simp [← split])
      have incoming : dialogue.client.incoming =
          message.frame schema ++ unheard.flatMap (Message.frame schema) := by
        rw [sound.incoming, List.take_of_length_le handed, sound.all_written resting, ← split,
          List.flatMap_append, List.drop_left, List.flatMap_cons]
      obtain ⟨events, passed⟩ :=
        recvIteration_of_message lawful message fits sound.limit incoming dialogue.buffer
      refine absurd (ready_of_success ?_) waiting
      rw [passed]
      split
      · rfl
      · split <;> rfl

/-- The program does not wait for ever. -/
theorem Sound.finished (lawful : schema.Lawful) (unlimited : settings.maxPendingWrites = 0)
    (accepts : ∀ message ∈ pong schema :: calls.filterMap Call.message,
      message.Fits schema settings.serverLimit)
    (polite : Polite settings.tables calls) : dialogue.calls = [] := by
  cases due : dialogue.calls with
  | nil => rfl
  | cons call rest =>
      exfalso
      cases call with
      | send message =>
          have stuck := resting .call rfl
          simp only [Blocking.step, due, reduceCtorEq] at stuck
      | recv =>
          have fits : ∀ message ∈ history.sent, message.Fits schema settings.serverLimit := by
            intro message member
            apply accepts
            rw [sound.script, List.filterMap_append]
            rcases sound.known message member with rfl | performed
            · exact List.mem_cons_self
            · exact List.mem_cons_of_mem _ (List.mem_append_left _ performed)
          obtain ⟨count, -, offered, whole⟩ := sound.responses
          have posted := whole (sound.all_posted resting)
          have heard : history.heard = dialogue.server.offered :=
            (sound.all_heard resting lawful due).symm.trans (sound.downlink.whole unlimited)
          have answered : history.performed.countP Call.isRecv = count := by
            rw [← sound.answered, heard, offered, List.length_replicate]
          have logged : dialogue.server.served.app =
              requested settings.tables history.performed := by
            rw [sound.logged.1, sound.all_read resting fits, sound.requested_performed]
          have asked := polite history.performed rest (by rw [sound.script, due])
          rw [answered, posted, logged] at asked
          exact Nat.lt_irrefl _ asked

end Rest

section Work

variable (schema settings)

/-- The steps it takes to post an answer, to write it and to read it. -/
def answerWork : Nat :=
  2 * (((response settings.tables).frame schema).length + ((pong schema).frame schema).length) + 6

/-- The steps that a message of the client's gives rise to. -/
def messageWork (message : Message) : Nat :=
  (message.frame schema).length + 3 + answerWork schema settings

/-- The steps that a message of the server's still takes when it is accepted. -/
def passWork (message : Message) : Nat :=
  if message.isPing then 1 + messageWork schema settings (pong schema) else 1

def Call.work : Call → Nat
  | .send message => 1 + messageWork schema settings message
  | .recv => 1

/-- The steps of the session for the messages it has not read, and the answers
to them. -/
def readWork : Option PendingRead → Nat → Nat
  | none, _ => 0
  | some .frameSize, unread => (3 + answerWork schema settings) * unread
  | some (.header _), unread => (3 + answerWork schema settings) * unread - 1
  | some (.body _ _ _), unread => (3 + answerWork schema settings) * unread - 2

/-- A bound on the steps of the dialogue while the server does not ping. -/
def Dialogue.work (dialogue : Dialogue) (history : History) (unread : Nat)
    (unheard : List Message) : Nat :=
  (dialogue.calls.map (Call.work schema settings)).sum +
    ((history.sent.flatMap (Message.frame schema)).length - dialogue.server.arrived) +
    readWork schema settings dialogue.server.reading unread +
    (dialogue.server.served.sent.length - dialogue.server.posted) * answerWork schema settings +
    dialogue.server.socket.work +
    (((history.heard ++ unheard).flatMap (Message.frame schema)).length - dialogue.handed) +
    (unheard.map (passWork schema settings)).sum

/-- A dialogue with a bound on what is left of it. -/
def Working (calls : List Call) (dialogue : Dialogue) (rank : Nat) : Prop :=
  ∃ history done unread unheard, Sound schema settings calls dialogue history ∧
    history.sent = done ++ unread ∧
    Position schema settings.serverLimit done unread dialogue.server.consumed
      dialogue.server.reading false ∧
    (dialogue.downlink schema history.heard).accepted = history.heard ++ unheard ∧
    dialogue.work schema settings history unread.length unheard = rank

end Work

section Working

variable {rank : Nat}

theorem readWork_succ (reading : Option PendingRead) (unread : Nat) :
    readWork schema settings reading (unread + 1) ≤
      readWork schema settings reading unread + (3 + answerWork schema settings) := by
  cases reading with
  | none => exact Nat.zero_le _
  | some reading =>
      cases reading <;> simp only [readWork, Nat.mul_succ] <;> omega

theorem length_pos_of_position {maxMessageSize consumed : Nat} {done rest : List Message}
    {reading : Option PendingRead}
    (position : Position schema maxMessageSize done rest consumed reading false)
    (within : reading ≠ some .frameSize) : 0 < rest.length := by
  cases position with
  | frameSize rest => exact absurd rfl within
  | header message rest within => exact Nat.succ_pos _
  | body message rest fits => exact Nat.succ_pos _
  | stopped message rest consumed exceeds => exact Nat.succ_pos _

/-- A read brings the session closer to the end of what it has not read, also
with the answer it may give rise to. -/
theorem readWork_lt {done more left : List Message} {consumed : Nat} {reading : PendingRead}
    {bytes : List UInt8}
    (position : Position schema settings.serverLimit (done ++ more) left consumed
      (Session.onRead schema settings.serverLimit reading (some bytes)).reading false)
    (finished : more.map Message.kind = reading.frame) :
    readWork schema settings
        (Session.onRead schema settings.serverLimit reading (some bytes)).reading left.length +
          reading.frame.length * answerWork schema settings <
      readWork schema settings (some reading) (more ++ left).length := by
  have finishedLength := congrArg List.length finished
  rw [List.length_map] at finishedLength
  rw [List.length_append, finishedLength]
  have room : (Session.onRead schema settings.serverLimit reading (some bytes)).reading ≠
      some .frameSize → 3 ≤ (3 + answerWork schema settings) * left.length := by
    intro within
    have positive := length_pos_of_position position within
    calc 3 ≤ 3 * left.length := Nat.le_mul_of_pos_right 3 positive
      _ ≤ (3 + answerWork schema settings) * left.length :=
          Nat.mul_le_mul_right _ (Nat.le_add_right _ _)
  cases reading with
  | frameSize =>
      have enough : 3 ≤ (3 + answerWork schema settings) * left.length := by
        apply room
        simp only [Session.onRead, Session.readHeader, Session.onError]
        split <;> simp
      simp only [Session.onRead, Session.readHeader, Session.PendingRead.frame, List.length_nil,
        Nat.zero_mul, Nat.zero_add, Nat.add_zero]
      split <;> simp only [Session.onError, readWork] <;> omega
  | header size =>
      have enough : 3 ≤ (3 + answerWork schema settings) * left.length := by
        apply room
        simp only [Session.onRead, Session.readBody, Session.onError]
        split
        · simp
        · split <;> simp
      simp only [Session.onRead, Session.readBody, Session.PendingRead.frame, List.length_nil,
        Nat.zero_mul, Nat.zero_add, Nat.add_zero]
      split
      · simp only [Session.onError, readWork]
        omega
      · split <;> simp only [Session.onError, readWork] <;> omega
  | body type size isSystem =>
      simp only [Session.onRead, Session.readFrameSize, readWork, Session.PendingRead.frame,
        List.length_singleton, Nat.mul_add]
      omega

theorem sent_length_le (served : Served (List UInt64)) (maxMessageSize : Nat)
    (reading : PendingRead) (bytes : List UInt8) :
    ((Session.onRead schema maxMessageSize reading (some bytes)).events.foldl
        (Served.react schema (requestRouter settings.tables)) served).sent.length ≤
      served.sent.length + reading.frame.length := by
  cases reading with
  | frameSize =>
      simp only [Session.onRead, Session.readHeader]
      split <;> exact Nat.le_refl _
  | header size =>
      simp only [Session.onRead, Session.readBody]
      split
      · exact Nat.le_refl _
      · split <;> exact Nat.le_refl _
  | body type size isSystem =>
      cases isSystem with
      | true =>
          simp only [Session.onRead, Session.handleSysMessage, if_true]
          split
          · simp [Session.readFrameSize, Served.react, Session.PendingRead.frame]
          · exact Nat.le_add_right _ _
      | false =>
          obtain ⟨-, sent⟩ := handleMessage_requestRouter settings.tables served type bytes
          have logged : (keys settings.tables.testRequest requestIdTest [(type, bytes)]).length ≤
              1 := List.length_filterMap_le _ _
          simp only [Session.onRead, Session.readFrameSize, Bool.false_eq_true, if_false,
            List.singleton_append, List.foldl_cons, List.foldl_nil, Served.react, sent,
            List.length_append, List.length_map, Session.PendingRead.frame,
            List.length_singleton]
          omega

theorem call_frame (taken : step schema settings dialogue .call = some next) :
    next.server = dialogue.server ∧ next.handed = dialogue.handed := by
  simp only [step] at taken
  split at taken
  next => cases taken
  next => cases taken; exact ⟨rfl, rfl⟩
  next =>
    obtain ⟨-, moved⟩ := Option.ite_none_right_eq_some.mp taken
    cases moved
    unfold pass
    split <;> exact ⟨rfl, rfl⟩

theorem passWork_pos (message : Message) : 1 ≤ passWork schema settings message := by
  unfold passWork
  split <;> omega

theorem Working.call (lawful : schema.Lawful) (responses : settings.tables.testResponse.Lawful)
    (working : Working schema settings calls dialogue rank)
    (taken : step schema settings dialogue .call = some next) :
    ∃ lower < rank, Working schema settings calls next lower := by
  obtain ⟨history, done, unread, unheard, sound, split, position, waiting, rfl⟩ := working
  obtain ⟨later, soundNext, proceeds⟩ := sound.call lawful responses taken
  obtain ⟨server, handed⟩ := call_frame taken
  have accepted : ∀ heard, (next.downlink schema heard).accepted =
      history.heard ++ unheard := by
    intro heard
    rw [← waiting, Pipe.accepted, Pipe.accepted, Dialogue.downlink, Dialogue.downlink, server]
  have positionNext := position
  rw [← server] at positionNext
  cases proceeds with
  | sends message rest due left =>
      refine ⟨_, ?_, _, done, unread ++ [message], unheard, soundNext, ?_,
        positionNext.extend [message], accepted _, rfl⟩
      · have reads := @readWork_succ schema settings dialogue.server.reading unread.length
        simp only [Dialogue.work, server, handed, due, left, List.map_cons, List.sum_cons,
          Call.work, messageWork, List.flatMap_append, List.length_append,
          List.flatMap_singleton, List.length_singleton]
        omega
      · rw [split, List.append_assoc]
  | returns message rest calls heard due left =>
      obtain rfl : unheard = message :: rest := List.append_cancel_left (waiting.symm.trans heard)
      refine ⟨_, ?_, _, done, unread, rest, soundNext, split, positionNext, ?_, rfl⟩
      · have positive := @passWork_pos schema settings message
        simp only [Dialogue.work, server, handed, due, left, List.map_cons, List.sum_cons,
          Call.work, List.append_assoc, List.singleton_append]
        omega
      · rw [accepted, List.append_assoc, List.singleton_append]
  | answers message rest heard ping left =>
      obtain rfl : unheard = message :: rest := List.append_cancel_left (waiting.symm.trans heard)
      refine ⟨_, ?_, _, done, unread ++ [pong schema], rest, soundNext, ?_,
        positionNext.extend [pong schema], ?_, rfl⟩
      · have reads := @readWork_succ schema settings dialogue.server.reading unread.length
        simp only [Dialogue.work, server, handed, left, List.map_cons, List.sum_cons,
          passWork, ping, if_true, messageWork, List.flatMap_append, List.length_append,
          List.flatMap_singleton, List.length_singleton, List.append_assoc,
          List.singleton_append]
        omega
      · rw [split, List.append_assoc]
      · rw [accepted, List.append_assoc, List.singleton_append]
  | ignores message rest heard left =>
      obtain rfl : unheard = message :: rest := List.append_cancel_left (waiting.symm.trans heard)
      refine ⟨_, ?_, _, done, unread, rest, soundNext, split, positionNext, ?_, rfl⟩
      · have positive := @passWork_pos schema settings message
        simp only [Dialogue.work, server, handed, left, List.map_cons, List.sum_cons,
          List.append_assoc, List.singleton_append]
        omega
      · rw [accepted, List.append_assoc, List.singleton_append]

theorem Working.read (lawful : schema.Lawful) (admits : settings.Admits schema)
    (working : Working schema settings calls dialogue rank)
    (taken : step schema settings dialogue .read = some next) :
    ∃ lower < rank, Working schema settings calls next lower := by
  obtain ⟨history, done, unread, unheard, sound, split, position, waiting, rfl⟩ := working
  have soundNext := sound.step_of_ne_call lawful admits (by simp) taken
  simp only [step] at taken
  split at taken
  next => cases taken
  next reading outstanding =>
    obtain ⟨⟨posted, enough⟩, moved⟩ := Option.ite_none_right_eq_some.mp taken
    cases moved
    obtain ⟨more, left, rfl, finished, -, -, advanced⟩ := sound.uplink.position_of_read lawful
      ((uplink_accepted _ _).trans split) (outstanding ▸ position) enough rfl
    have bytes : (dialogue.server.uplink schema history.sent).sender.bytes =
        dialogue.client.outgoing := (written_bytes _).trans sound.outgoing.symm
    rw [bytes] at advanced
    refine ⟨_, ?_, history, done ++ more, left, unheard, soundNext, ?_, advanced, waiting, rfl⟩
    · have reads := readWork_lt advanced finished
      have sent := @sent_length_le schema settings dialogue.server.served settings.serverLimit
        reading ((dialogue.client.outgoing.drop dialogue.server.consumed).take reading.size)
      rw [← posted, ← Nat.sub_le_iff_le_add'] at sent
      have owed := Nat.mul_le_mul_right (answerWork schema settings) sent
      simp only [Dialogue.work, Server.hear, Server.uplink, outstanding] at reads ⊢
      omega
    · rw [split, List.append_assoc]

theorem asyncSend_work (socket : BoostTcpSocket) (message : Message) (hasHandler : Bool) :
    (asyncSend schema socket message hasHandler).work ≤
      socket.work + (message.frame schema).length + 4 := by
  have frame : (message.frame schema).length = (message.toMessageT schema).header.length +
      (message.toMessageT schema).body.length := List.length_append
  unfold asyncSend BoostTcpSocket.asyncWrite
  dsimp only
  split
  next =>
    simp only [BoostTcpSocket.work, BoostTcpSocket.capacity, BoostTcpSocket.progress,
      Network.remainingSteps_cons, Network.begunSteps_cons, Network.Task.remaining,
      Network.Task.begun]
    omega
  next =>
    split <;>
      simp only [BoostTcpSocket.work, BoostTcpSocket.capacity, BoostTcpSocket.progress,
        List.map_append, List.sum_append, List.map_singleton, List.sum_singleton,
        Network.remainingSteps_cons, Network.begunSteps_cons, Network.Task.remaining,
        Network.Task.begun, Network.Call.frame, List.length_append] <;>
      omega

theorem answerWork_gt {message : Message}
    (known : message = pong schema ∨ message = response settings.tables) :
    2 * (message.frame schema).length + 5 < answerWork schema settings ∧
      passWork schema settings message = 1 := by
  rcases known with rfl | rfl
  · refine ⟨?_, rfl⟩
    unfold answerWork
    omega
  · refine ⟨?_, rfl⟩
    unfold answerWork
    omega

theorem Working.post (lawful : schema.Lawful) (admits : settings.Admits schema)
    (working : Working schema settings calls dialogue rank)
    (taken : step schema settings dialogue .post = some next) :
    ∃ lower < rank, Working schema settings calls next lower := by
  obtain ⟨history, done, unread, unheard, sound, split, position, waiting, rfl⟩ := working
  have soundNext := sound.step_of_ne_call lawful admits (by simp) taken
  simp only [step] at taken
  split at taken
  next => cases taken
  next message due =>
    cases taken
    have known : message = pong schema ∨ message = response settings.tables := by
      have member := List.mem_of_getElem? due
      rw [sound.served] at member
      rcases sent_known _ _ message member with fresh | known
      · cases fresh
      · exact known
    obtain ⟨enough, single⟩ := answerWork_gt known
    obtain ⟨present, -⟩ := List.getElem?_eq_some_iff.mp due
    have written := @asyncSend_work schema dialogue.server.socket message true
    have owed : (dialogue.server.served.sent.length - dialogue.server.posted) *
        answerWork schema settings =
          (dialogue.server.served.sent.length - (dialogue.server.posted + 1)) *
            answerWork schema settings + answerWork schema settings := by
      rw [← Nat.succ_mul]
      congr 1
      omega
    rcases sound.downlink.accepted_of_send message true with rejected | accepted
    · refine ⟨_, ?_, history, done, unread, unheard, soundNext, split, position,
        rejected.trans waiting, rfl⟩
      simp only [Dialogue.work, Server.offer]
      omega
    · refine ⟨_, ?_, history, done, unread, unheard ++ [message], soundNext, split, position, ?_,
        rfl⟩
      · simp only [Dialogue.work, Server.offer, List.map_append, List.sum_append,
          List.map_singleton, List.sum_singleton, single, ← List.append_assoc,
          List.flatMap_append, List.length_append, List.flatMap_singleton]
        omega
      · exact accepted.trans (by rw [waiting, List.append_assoc])

theorem isOwn_of_lasting {move : Network.Action} (last : lasting move = true) :
    move.isOwn = true := by
  cases move with
  | complete flight isValid => rfl
  | _ => exact last

theorem Working.write (lawful : schema.Lawful) (admits : settings.Admits schema)
    (working : Working schema settings calls dialogue rank) {move : Network.Action}
    (taken : step schema settings dialogue (.write move) = some next) :
    ∃ lower < rank, Working schema settings calls next lower := by
  obtain ⟨history, done, unread, unheard, sound, split, position, waiting, rfl⟩ := working
  have soundNext := sound.step_of_ne_call lawful admits (by simp) taken
  obtain ⟨last, mapped⟩ := Option.ite_none_right_eq_some.mp taken
  obtain ⟨socket, moved, rfl⟩ := Option.map_eq_some_iff.mp mapped
  have own := isOwn_of_lasting last
  have less := sound.draining.work_lt own moved
  refine ⟨_, ?_, history, done, unread, unheard, soundNext, split, position, ?_, rfl⟩
  · simp only [Dialogue.work]
    omega
  · rw [← waiting, Pipe.accepted, Pipe.accepted]
    simp only [Dialogue.downlink, (BoostTcpSocket.own_accepted own moved).1]

theorem Working.arriveClient (lawful : schema.Lawful) (admits : settings.Admits schema)
    (working : Working schema settings calls dialogue rank) {count : Nat} (positive : 0 < count)
    (taken : step schema settings dialogue (.arriveClient count) = some next) :
    ∃ lower < rank, Working schema settings calls next lower := by
  obtain ⟨history, done, unread, unheard, sound, split, position, waiting, rfl⟩ := working
  have soundNext := sound.step_of_ne_call lawful admits (by simp) taken
  obtain ⟨within, moved⟩ := Option.ite_none_right_eq_some.mp taken
  cases moved
  have written : dialogue.server.socket.bytes.length ≤
      ((history.heard ++ unheard).flatMap (Message.frame schema)).length := by
    rw [← waiting, List.flatMap_def, ← sound.downlink.map_frame, ← List.flatMap_def]
    exact sound.downlink.transmits.isPrefix.length_le
  refine ⟨_, ?_, history, done, unread, unheard, soundNext, split, position, waiting, rfl⟩
  simp only [Dialogue.work]
  omega

theorem Working.arriveServer (lawful : schema.Lawful) (admits : settings.Admits schema)
    (working : Working schema settings calls dialogue rank) {count : Nat} (positive : 0 < count)
    (taken : step schema settings dialogue (.arriveServer count) = some next) :
    ∃ lower < rank, Working schema settings calls next lower := by
  obtain ⟨history, done, unread, unheard, sound, split, position, waiting, rfl⟩ := working
  have soundNext := sound.step_of_ne_call lawful admits (by simp) taken
  obtain ⟨within, moved⟩ := Option.ite_none_right_eq_some.mp taken
  cases moved
  rw [sound.outgoing] at within
  refine ⟨_, ?_, history, done, unread, unheard, soundNext, split, position, waiting, rfl⟩
  simp only [Dialogue.work]
  omega

/-- Every step but a ping brings the dialogue closer to its end. -/
theorem Working.step (lawful : schema.Lawful) (responses : settings.tables.testResponse.Lawful)
    (admits : settings.Admits schema) (working : Working schema settings calls dialogue rank)
    {action : Action} (own : action.isOwn = true)
    (taken : Blocking.step schema settings dialogue action = some next) :
    ∃ lower < rank, Working schema settings calls next lower := by
  cases action with
  | call => exact working.call lawful responses taken
  | arriveClient count => exact working.arriveClient lawful admits (of_decide_eq_true own) taken
  | arriveServer count => exact working.arriveServer lawful admits (of_decide_eq_true own) taken
  | read => exact working.read lawful admits taken
  | post => exact working.post lawful admits taken
  | write move => exact working.write lawful admits taken
  | ping => cases own

theorem Sound.working (sound : Sound schema settings calls dialogue history) :
    ∃ rank, Working schema settings calls dialogue rank := by
  obtain ⟨done, unread, split, -, -, position⟩ := sound.uplink.reader
  obtain ⟨unheard, waiting⟩ := sound.heard
  rw [uplink_accepted] at split
  exact ⟨_, history, done, unread, unheard, sound, split, position, waiting.symm, rfl⟩

end Working

/-- As long as the connection lasts, from every reachable state and whatever the
order in which the threads and the network proceed, the program of the client
ends after a bounded number of steps in which the server does not ping, and
every `recv` has returned the server's key, if nothing is too long for either
limit and the server drops nothing. -/
theorem blocking_client_completes (lawful : schema.Lawful)
    (responses : settings.tables.testResponse.Lawful) (admits : settings.Admits schema)
    (unlimited : settings.maxPendingWrites = 0)
    (accepts : ∀ message ∈ pong schema :: calls.filterMap Call.message,
      message.Fits schema settings.serverLimit)
    (polite : Polite settings.tables calls) {actions : List Action}
    (executed : run (step schema settings) (connected settings calls) actions = some dialogue) :
    (∃ bound, ∀ own final, (∀ action ∈ own, action.isOwn = true) →
      run (step schema settings) dialogue own = some final → own.length ≤ bound) ∧
    (∀ own final, (∀ action ∈ own, action.isOwn = true) →
      run (step schema settings) dialogue own = some final →
      (∀ action : Action, action.isOwn = true → step schema settings final action = none) →
        final.calls = [] ∧
          final.received = List.replicate (calls.countP Call.isRecv) (some responseKey)) ∧
    ∃ own final, (∀ action ∈ own, action.isOwn = true) ∧
      run (step schema settings) dialogue own = some final ∧
      ∀ action : Action, action.isOwn = true → step schema settings final action = none := by
  obtain ⟨history, sound, -⟩ := sound_of_run lawful responses admits executed
  obtain ⟨rank, working⟩ := sound.working
  have lowers : ∀ (state : Dialogue) (action : Action) (next : Dialogue) (rank : Nat),
      Working schema settings calls state rank → action.isOwn = true →
      step schema settings state action = some next →
        ∃ lower < rank, Working schema settings calls next lower :=
    fun _ _ _ _ working own taken => working.step lawful responses admits own taken
  refine ⟨⟨rank, ?_⟩, ?_, exists_run_to_rest_of_ranked lowers working⟩
  · intro own final all continued
    obtain ⟨lower, bounded, -⟩ := run_length_le_of_ranked lowers working all continued
    omega
  · intro own final all continued resting
    have reached : run (step schema settings) (connected settings calls) (actions ++ own) =
        some final := by
      rw [run_append, executed]
      exact continued
    obtain ⟨last, soundLast, -⟩ := sound_of_run lawful responses admits reached
    have finished := soundLast.finished resting lawful unlimited accepts polite
    refine ⟨finished, ?_⟩
    rw [soundLast.received, soundLast.script, finished, List.append_nil]

/-- `run_sync_client` ends, also when the server pings first. -/
theorem blocking_client_completes_after_ping :
    let settings : Settings := { tables := ⟨scalarTable, scalarTable⟩ }
    let calls : List Call := [.send ⟨requestIdTest, scalarTable.serialise 0x12345, false⟩, .recv]
    ∃ dialogue own final,
      run (step flatbuffers settings) (connected settings calls) [.ping] = some dialogue ∧
        run (step flatbuffers settings) dialogue own = some final ∧
        final.calls = [] ∧ final.received = [some responseKey] := by
  intro settings calls
  have pinged : run (step flatbuffers settings) (connected settings calls) [.ping] = some _ := rfl
  obtain ⟨-, ends, own, final, all, continued, resting⟩ := blocking_client_completes
    flatbuffers_lawful scalarTable_lawful (fun _ _ => Or.inl rfl) rfl (fun _ _ => Or.inl rfl)
    (by decide +kernel) pinged
  exact ⟨_, own, final, pinged, continued, ends own final all continued resting⟩

end SocketSL.Blocking
