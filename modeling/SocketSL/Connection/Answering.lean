import SocketSL.Connection.Blocking

/-!
# The answers to a blocking client

Either stream of the dialogue is what an asynchronous endpoint would have made
of it: the client's has been sent by a queue that is empty again, and the
server's is read by a session that waits for the next frame.  The invariant ties
both to the program, and what `recv` returns to what the server has answered.
-/

namespace SocketSL.Blocking

open SocketSL.Endian SocketSL.Lib
open SocketSL.Network (BoostTcpSocket)
open SocketSL.Session (PendingRead Pipe Move application asyncSend)
open SocketSL.Conversation (ping pong)
open SocketSL.Exchange

variable (schema : Schema) (settings : Settings)

/-- What has been called, what the client has sent and what it has read. -/
structure History where
  performed : List Call := []
  sent : List Message := []
  heard : List Message := []

/-- The stream to the client, as an asynchronous client would have it between
two messages. -/
def Dialogue.downlink (dialogue : Dialogue) (heard : List Message) : Pipe where
  sender := dialogue.server.socket
  offered := dialogue.server.offered
  arrived := dialogue.handed
  consumed := (heard.flatMap (Message.frame schema)).length
  reading := some .frameSize
  events := (application heard).map fun message => .deliver message.1 message.2

/-- The client and its stream. -/
structure Asks (calls : List Call) (dialogue : Dialogue) (history : History) : Prop where
  script : calls = history.performed ++ dialogue.calls
  outgoing : dialogue.client.outgoing = history.sent.flatMap (Message.frame schema)
  succeeds : dialogue.client.writeSucceeds = fun _ => true
  limit : dialogue.client.maxMessageSize = settings.clientLimit
  asked : application history.sent = application (history.performed.filterMap Call.message)
  known : ∀ message ∈ history.sent,
    message = pong schema ∨ message ∈ history.performed.filterMap Call.message
  uplink : (dialogue.server.uplink schema history.sent).Aligned schema settings.serverLimit

/-- The server and its stream. -/
structure Answers (dialogue : Dialogue) (history : History) : Prop where
  served : dialogue.server.served = dialogue.server.events.foldl
    (Served.react schema (requestRouter settings.tables)) { app := [] }
  posted : dialogue.server.posted ≤ dialogue.server.served.sent.length
  offered : application dialogue.server.offered =
    application (dialogue.server.served.sent.take dialogue.server.posted)
  fits : ∀ message ∈ dialogue.server.offered, message.Fits schema settings.clientLimit
  downlink : Conveys schema settings.clientLimit settings.maxPendingWrites
    (dialogue.downlink schema history.heard)
  heard : history.heard <+: (dialogue.downlink schema history.heard).accepted
  incoming : dialogue.client.incoming =
    (dialogue.server.socket.bytes.take dialogue.handed).drop
      (history.heard.flatMap (Message.frame schema)).length
  unbroken : dialogue.server.socket.Unbroken
  draining : dialogue.server.socket.Draining

/-- Both, and what the client has made of the answers. -/
structure Sound (calls : List Call) (dialogue : Dialogue) (history : History) : Prop
    extends Asks schema settings calls dialogue history,
      Answers schema settings dialogue history where
  received : dialogue.received =
    List.replicate (history.performed.countP Call.isRecv) (some responseKey)
  answered : (application history.heard).length = history.performed.countP Call.isRecv

/-- The client accepts what the server sends. -/
def Settings.Admits : Prop :=
  ∀ message ∈ [response settings.tables, ping schema, pong schema],
    message.Fits schema settings.clientLimit

/-- What the program adds to the history when it goes on: a message it sends, or
one that a pass through the loop of `recv_buffer` takes. -/
inductive Proceeds (dialogue next : Dialogue) (history : History) : History → Prop where
  | sends (message : Message) (rest : List Call) :
      dialogue.calls = .send message :: rest → next.calls = rest →
      Proceeds dialogue next history
        ⟨history.performed ++ [.send message], history.sent ++ [message], history.heard⟩
  | returns (message : Message) (unheard : List Message) (rest : List Call) :
      (dialogue.downlink schema history.heard).accepted = history.heard ++ message :: unheard →
      dialogue.calls = .recv :: rest → next.calls = rest →
      Proceeds dialogue next history
        ⟨history.performed ++ [.recv], history.sent, history.heard ++ [message]⟩
  | answers (message : Message) (unheard : List Message) :
      (dialogue.downlink schema history.heard).accepted = history.heard ++ message :: unheard →
      message.isPing = true → next.calls = dialogue.calls →
      Proceeds dialogue next history
        ⟨history.performed, history.sent ++ [pong schema], history.heard ++ [message]⟩
  | ignores (message : Message) (unheard : List Message) :
      (dialogue.downlink schema history.heard).accepted = history.heard ++ message :: unheard →
      next.calls = dialogue.calls →
      Proceeds dialogue next history
        ⟨history.performed, history.sent, history.heard ++ [message]⟩

section Sound

variable {schema settings} {calls : List Call} {dialogue next : Dialogue} {history : History}

theorem deliveries_heard (heard : List Message) :
    (dialogue.downlink schema heard).delivered = application heard := by
  simp [Pipe.delivered, Dialogue.downlink, deliveries, List.filterMap_map]

theorem Sound.connected (calls : List Call) :
    Sound schema settings calls (connected settings calls) {} where
  script := rfl
  outgoing := rfl
  succeeds := rfl
  limit := rfl
  asked := rfl
  known := by simp
  uplink :=
    { transmits := written_transmits []
      counted := rfl
      carried := fun _ => mem_sending
      arrived := Nat.zero_le _
      consumed := Nat.le_refl _
      reader := ⟨[], [], uplink_accepted _ _, by simp, rfl, .frameSize []⟩ }
  served := rfl
  posted := Nat.le_refl _
  offered := rfl
  fits := by simp [Blocking.connected]
  downlink :=
    { transmits := BoostTcpSocket.Transmits.initial settings.maxPendingWrites
      counted := rfl
      carried := by simp [Dialogue.downlink, Blocking.connected]
      arrived := Nat.zero_le _
      consumed := Nat.le_refl _
      reader := ⟨[], [], rfl, by simp, rfl, .frameSize []⟩
      cap := rfl
      subset := .slnil
      whole := fun _ => rfl }
  heard := List.nil_prefix
  incoming := rfl
  unbroken := by simp [Blocking.connected, BoostTcpSocket.Unbroken]
  draining := BoostTcpSocket.Draining.initial settings.maxPendingWrites
  received := rfl
  answered := rfl

theorem sent_known (served : Served (List UInt64)) (events : List Event) :
    ∀ message ∈ (events.foldl (Served.react schema (requestRouter settings.tables)) served).sent,
      message ∈ served.sent ∨ message = pong schema ∨ message = response settings.tables := by
  induction events generalizing served with
  | nil => exact fun message member => Or.inl member
  | cons event events inductionHypothesis =>
      intro message member
      rcases inductionHypothesis _ message member with sent | known
      · cases event with
        | reply reply =>
            rcases List.mem_append.mp sent with earlier | now
            · exact Or.inl earlier
            · exact Or.inr (Or.inl (List.mem_singleton.mp now))
        | deliver id body =>
            rw [Served.react, (handleMessage_requestRouter settings.tables served id body).2]
              at sent
            rcases List.mem_append.mp sent with earlier | now
            · exact Or.inl earlier
            · obtain ⟨key, -, rfl⟩ := List.mem_map.mp now
              exact Or.inr (Or.inr rfl)
        | allocate size => exact Or.inl sent
        | read size => exact Or.inl sent
        | fail => exact Or.inl sent
      · exact Or.inr known

theorem Asks.send (asks : Asks schema settings calls dialogue history) (message : Message)
    (incoming buffer : List UInt8) {more rest : List Call} (split : dialogue.calls = more ++ rest)
    (known : message = pong schema ∨ message ∈ more.filterMap Call.message)
    (asked : application [message] = application (more.filterMap Call.message)) :
    Asks schema settings calls
      { dialogue with
        client := (SocketSL.send { dialogue.client with incoming := incoming }
          (message.toMessageT schema)).2
        buffer := buffer
        calls := rest }
      { history with
        performed := history.performed ++ more
        sent := history.sent ++ [message] } := by
  obtain ⟨-, outgoing, succeeds⟩ := send_outgoing
    { dialogue.client with incoming := incoming } (by simp [asks.succeeds])
    (message.toMessageT schema)
  refine ⟨?_, ?_, ?_, ?_, ?_, ?_, ?_⟩
  · rw [asks.script, split, List.append_assoc]
  · refine outgoing.trans ?_
    rw [asks.outgoing, List.flatMap_append]
    simp [Message.frame]
  · exact succeeds.trans asks.succeeds
  · exact (send_maxMessageSize _ _).trans asks.limit
  · rw [Session.application_append, asks.asked, asked, List.filterMap_append,
      Session.application_append]
  · intro other member
    rw [List.filterMap_append, List.mem_append]
    rcases List.mem_append.mp member with earlier | now
    · exact (asks.known other earlier).imp_right Or.inl
    · cases List.mem_singleton.mp now
      exact known.imp_right Or.inr
  · exact uplink_send asks.uplink message

theorem Answers.offer (lawful : schema.Lawful) (answers : Answers schema settings dialogue history)
    (message : Message) (hasHandler : Bool) {posted : Nat}
    (fits : message.Fits schema settings.clientLimit)
    (due : posted ≤ dialogue.server.served.sent.length)
    (offered : application (dialogue.server.offered ++ [message]) =
      application (dialogue.server.served.sent.take posted)) :
    Answers schema settings
      { dialogue with
        server := { dialogue.server.offer schema message hasHandler with posted := posted } }
      history := by
  have taken : Session.move schema settings.clientLimit (dialogue.downlink schema history.heard)
      (.send message hasHandler) = some _ := rfl
  have moved : Network.step dialogue.server.socket (.asyncWrite (message.toMessageT schema).header
      (message.toMessageT schema).body hasHandler) =
        some (asyncSend schema dialogue.server.socket message hasHandler) := rfl
  obtain ⟨-, -, wire⟩ := dialogue.server.socket.asyncWrite_accepted
    (message.toMessageT schema).header (message.toMessageT schema).body hasHandler
  have bytes : (asyncSend schema dialogue.server.socket message hasHandler).bytes =
      dialogue.server.socket.bytes := congrArg (List.map Prod.snd) wire
  refine ⟨answers.served, due, offered, ?_, (answers.downlink.send lawful taken).1, ?_, ?_, ?_,
    answers.draining.step moved⟩
  · intro other member
    rcases List.mem_append.mp member with earlier | now
    · exact answers.fits other earlier
    · cases List.mem_singleton.mp now
      exact fits
  · rcases answers.downlink.accepted_of_send message hasHandler with rejected | accepted
    · exact answers.heard.trans (rejected.symm ▸ List.prefix_rfl)
    · exact answers.heard.trans (accepted.symm ▸ List.prefix_append _ _)
  · exact answers.incoming.trans (by rw [← bytes]; rfl)
  · have same : (asyncSend schema dialogue.server.socket message hasHandler).completed =
        dialogue.server.socket.completed := by
      unfold asyncSend BoostTcpSocket.asyncWrite
      dsimp only
      split <;> rfl
    intro entry member
    exact answers.unbroken entry (same ▸ member)

theorem bytes_of_lasting {socket sender : BoostTcpSocket} {move : Network.Action}
    (last : lasting move = true) (moved : Network.step socket move = some sender) :
    socket.bytes <+: sender.bytes := by
  cases Network.step_cases moved with
  | runTask task rest pending =>
      rw [BoostTcpSocket.bytes, BoostTcpSocket.bytes,
        (BoostTcpSocket.runTask_accepted _ task).2.2]
  | transfer flight count inFlight remains =>
      rw [BoostTcpSocket.bytes, BoostTcpSocket.bytes, BoostTcpSocket.transfer, List.map_append]
      exact List.prefix_append _ _
  | complete flight isValid inFlight finished =>
      unfold BoostTcpSocket.complete
      split <;> exact List.prefix_rfl
  | asyncWrite head body hasHandler => cases last
  | writeHeader header body => cases last
  | writeBody call due => cases last

theorem unbroken_of_lasting {socket sender : BoostTcpSocket} {move : Network.Action}
    (unbroken : socket.Unbroken) (last : lasting move = true)
    (moved : Network.step socket move = some sender) : sender.Unbroken := by
  cases Network.step_cases moved with
  | runTask task rest pending =>
      cases task with
      | writeNext =>
          unfold BoostTcpSocket.runTask
          dsimp only
          split <;> exact unbroken
      | _ => exact unbroken
  | transfer flight count inFlight remains => exact unbroken
  | complete flight isValid inFlight finished =>
      unfold BoostTcpSocket.complete
      split
      next empty => exact unbroken
      next front behind queue =>
        intro entry member
        rcases List.mem_append.mp member with earlier | now
        · exact unbroken entry earlier
        · cases List.mem_singleton.mp now
          exact last
  | asyncWrite head body hasHandler => cases last
  | writeHeader header body => cases last
  | writeBody call due => cases last

theorem move_of_lasting (answers : Answers schema settings dialogue history)
    {sender : BoostTcpSocket} {move : Network.Action} (last : lasting move = true)
    (moved : Network.step dialogue.server.socket move = some sender) :
    ∃ own : Move, own.isWrite = true ∧ Session.move schema settings.clientLimit
      (dialogue.downlink schema history.heard) own =
        some { dialogue.downlink schema history.heard with sender := sender } := by
  cases move with
  | runTask task => exact ⟨.runTask task, rfl, Option.map_eq_some_iff.mpr ⟨sender, moved, rfl⟩⟩
  | transfer flight count =>
      refine ⟨.transfer flight count, rfl, ?_⟩
      exact (if_pos answers.unbroken).trans (Option.map_eq_some_iff.mpr ⟨sender, moved, rfl⟩)
  | complete flight isValid =>
      exact ⟨.complete flight isValid, rfl, Option.map_eq_some_iff.mpr ⟨sender, moved, rfl⟩⟩
  | asyncWrite head body hasHandler => cases last
  | writeHeader header body => cases last
  | writeBody call => cases last

theorem Answers.write (lawful : schema.Lawful) (answers : Answers schema settings dialogue history)
    {sender : BoostTcpSocket} {move : Network.Action} (last : lasting move = true)
    (moved : Network.step dialogue.server.socket move = some sender) :
    Answers schema settings
      { dialogue with server := { dialogue.server with socket := sender } } history := by
  obtain ⟨own, writing, taken⟩ := move_of_lasting answers last moved
  obtain ⟨downlink, -, -⟩ := answers.downlink.write lawful writing taken
  obtain ⟨_, same, accepted⟩ := Session.sender_of_write writing taken
  cases same
  refine { answers with
    downlink := downlink
    heard := ?_
    incoming := ?_
    unbroken := unbroken_of_lasting answers.unbroken last moved
    draining := answers.draining.step moved }
  · refine answers.heard.trans ?_
    unfold Pipe.accepted Dialogue.downlink
    rw [accepted]
    exact List.prefix_rfl
  · obtain ⟨more, longer⟩ := bytes_of_lasting last moved
    have arrived : dialogue.handed ≤ dialogue.server.socket.bytes.length :=
      answers.downlink.arrived
    refine answers.incoming.trans ?_
    change _ = (sender.bytes.take dialogue.handed).drop _
    rw [← longer, List.take_append_of_le_length arrived]

theorem Answers.arrive (lawful : schema.Lawful)
    (answers : Answers schema settings dialogue history) {count : Nat}
    (within : dialogue.handed + count ≤ dialogue.server.socket.bytes.length) :
    Answers schema settings
      { dialogue with
        client := { dialogue.client with
          incoming := dialogue.client.incoming ++
            (dialogue.server.socket.bytes.drop dialogue.handed).take count }
        handed := dialogue.handed + count } history := by
  have taken : Session.move schema settings.clientLimit (dialogue.downlink schema history.heard)
      (.arrive count) = some { dialogue.downlink schema history.heard with
        arrived := dialogue.handed + count } := if_pos within
  refine { answers with
    downlink := (answers.downlink.arrive lawful taken).1
    incoming := ?_ }
  have consumed : (history.heard.flatMap (Message.frame schema)).length ≤ dialogue.handed :=
    answers.downlink.consumed
  have arrived : dialogue.handed ≤ dialogue.server.socket.bytes.length :=
    answers.downlink.arrived
  change dialogue.client.incoming ++ _ =
    (dialogue.server.socket.bytes.take (dialogue.handed + count)).drop
      (history.heard.flatMap (Message.frame schema)).length
  rw [answers.incoming, List.take_add, List.drop_append_of_le_length]
  rw [List.length_take]
  omega

theorem Asks.read (lawful : schema.Lawful) (asks : Asks schema settings calls dialogue history)
    {reading : PendingRead} (outstanding : dialogue.server.reading = some reading)
    (enough : dialogue.server.consumed + reading.size ≤ dialogue.server.arrived) :
    Asks schema settings calls
      { dialogue with
        server := dialogue.server.hear schema settings reading
          ((dialogue.client.outgoing.drop dialogue.server.consumed).take reading.size) }
      history := by
  have taken : Session.move schema settings.serverLimit
      (dialogue.server.uplink schema history.sent) .read =
        some ((dialogue.server.hear schema settings reading ((dialogue.client.outgoing.drop
          dialogue.server.consumed).take reading.size)).uplink schema history.sent) := by
    simp only [Session.move, Server.uplink, outstanding, if_pos enough, written_bytes,
      Server.hear, asks.outgoing]
  exact { asks with uplink := asks.uplink.of_move lawful taken }

theorem Answers.read (answers : Answers schema settings dialogue history) (reading : PendingRead)
    (bytes : List UInt8) :
    Answers schema settings
      { dialogue with server := dialogue.server.hear schema settings reading bytes }
      history := by
  obtain ⟨more, longer⟩ := @Served.sent_isPrefix_foldl_react _ schema
    (requestRouter settings.tables) dialogue.server.served
    (Session.onRead schema settings.serverLimit reading (some bytes)).events
  have grown : (dialogue.server.hear schema settings reading bytes).served.sent =
      dialogue.server.served.sent ++ more := longer.symm
  refine { answers with
    served := ?_
    posted := ?_
    offered := ?_ }
  · simp only [Server.hear, List.foldl_append, answers.served]
  · change dialogue.server.posted ≤ _
    rw [grown, List.length_append]
    exact answers.posted.trans (Nat.le_add_right _ _)
  · change application dialogue.server.offered = application (List.take dialogue.server.posted _)
    rw [grown, List.take_append_of_le_length answers.posted]
    exact answers.offered

theorem Answers.agrees (answers : Answers schema settings dialogue history) :
    dialogue.server.served.Agrees
      (Served.serve (requestRouter settings.tables) [] (deliveries dialogue.server.events)) := by
  rw [answers.served]
  exact (Served.Agrees.refl _).foldl_react _

theorem Answers.responses (answers : Answers schema settings dialogue history) :
    ∃ count ≤ dialogue.server.served.app.length,
      application dialogue.server.offered =
        List.replicate count (response settings.tables).delivery ∧
      (dialogue.server.posted = dialogue.server.served.sent.length →
        count = dialogue.server.served.app.length) := by
  rw [answers.offered]
  exact answers.agrees.responses dialogue.server.posted

theorem Answers.unread (answers : Answers schema settings dialogue history) {rest : List Message}
    (split : (dialogue.downlink schema history.heard).accepted = history.heard ++ rest) :
    dialogue.client.incoming <+: rest.flatMap (Message.frame schema) := by
  have sent : dialogue.server.socket.bytes <+:
      history.heard.flatMap (Message.frame schema) ++ rest.flatMap (Message.frame schema) := by
    rw [← List.flatMap_append, ← split, List.flatMap_def, ← answers.downlink.map_frame,
      ← List.flatMap_def]
    exact answers.downlink.transmits.isPrefix
  have dropped := ((List.take_prefix dialogue.handed _).trans sent).drop
    (history.heard.flatMap (Message.frame schema)).length
  rw [List.drop_left] at dropped
  rw [answers.incoming]
  exact dropped

theorem Answers.fits_accepted (answers : Answers schema settings dialogue history) :
    ∀ message ∈ (dialogue.downlink schema history.heard).accepted,
      message.Fits schema settings.clientLimit :=
  fun message member => answers.fits message (answers.downlink.subset.subset member)

theorem Answers.hear (answers : Answers schema settings dialogue history) {message : Message}
    {rest : List Message} {more : List UInt8}
    (split : (dialogue.downlink schema history.heard).accepted = history.heard ++ message :: rest)
    (incoming : dialogue.client.incoming = message.frame schema ++ more) {client : SyncSocket}
    (left : client.incoming = more) (buffer : List UInt8) (calls : List Call)
    (received : List (Option UInt64)) (performed : List Call) (sent : List Message) :
    Answers schema settings
      { dialogue with client := client, buffer := buffer, calls := calls, received := received }
      ⟨performed, sent, history.heard ++ [message]⟩ := by
  have frames : ((history.heard ++ [message]).flatMap (Message.frame schema)).length =
      (history.heard.flatMap (Message.frame schema)).length + (message.frame schema).length := by
    rw [List.flatMap_append, List.length_append, List.flatMap_singleton]
  have waiting := answers.incoming.symm.trans incoming
  have accepted : (dialogue.downlink schema (history.heard ++ [message])).accepted =
      history.heard ++ [message] ++ rest := by
    rw [List.append_assoc]
    exact split
  have consumed : ((history.heard ++ [message]).flatMap (Message.frame schema)).length ≤
      dialogue.handed := by
    have lengths := congrArg List.length waiting
    rw [List.length_drop, List.length_take, List.length_append] at lengths
    have positive := List.length_pos_iff.mpr (message.frame_ne_nil schema)
    omega
  refine { answers with
    downlink := { answers.downlink with
      consumed := consumed
      reader := ⟨history.heard ++ [message], rest, accepted, ?_, deliveries_heard _, .frameSize _⟩ }
    heard := ⟨rest, accepted.symm⟩
    incoming := ?_ }
  · intro other member
    apply answers.fits_accepted
    rw [split, ← List.singleton_append, ← List.append_assoc]
    exact List.mem_append_left _ member
  · refine left.trans ?_
    rw [frames, ← List.drop_drop, waiting, List.drop_left]

theorem Asks.recv (asks : Asks schema settings calls dialogue history) {rest : List Call}
    (due : dialogue.calls = .recv :: rest) (incoming buffer : List UInt8)
    (received : List (Option UInt64)) (heard : List Message) :
    Asks schema settings calls
      { dialogue with
        client := { dialogue.client with incoming := incoming }
        buffer := buffer
        received := received
        calls := rest }
      ⟨history.performed ++ [.recv], history.sent, heard⟩ := by
  have silent : (history.performed ++ [Call.recv]).filterMap Call.message =
      history.performed.filterMap Call.message := by
    rw [List.filterMap_append]
    exact List.append_nil _
  refine { asks with script := ?_, asked := ?_, known := ?_ }
  · rw [asks.script, due]
    simp
  · rw [silent]
    exact asks.asked
  · rw [silent]
    exact asks.known

theorem not_ready_of_empty {client : SyncSocket} {buffer : List UInt8}
    (empty : client.incoming = []) : ¬ Ready schema client buffer := by
  have missing : client.read 8 = none :=
    SyncSocket.read_eq_none_iff.mpr (by simp [empty])
  simp [Ready, recvIteration, missing, asked, empty]

theorem Sound.pass (lawful : schema.Lawful) (responses : settings.tables.testResponse.Lawful)
    (sound : Sound schema settings calls dialogue history) {rest : List Call}
    (due : dialogue.calls = .recv :: rest) (ready : Ready schema dialogue.client dialogue.buffer) :
    ∃ later, Sound schema settings calls (pass schema settings dialogue rest) later ∧
      Proceeds schema dialogue (pass schema settings dialogue rest) history later := by
  obtain ⟨unheard, split⟩ := sound.heard
  have begins := sound.unread split.symm
  cases unheard with
  | nil => exact absurd ready (not_ready_of_empty (List.prefix_nil.mp begins))
  | cons message unheard =>
      have accepted : message ∈ (dialogue.downlink schema history.heard).accepted := by
        simp [← split]
      have fits := sound.fits_accepted message accepted
      obtain ⟨more, incoming⟩ := frame_of_ready lawful (sound.limit ▸ fits) begins ready
      obtain ⟨events, passed⟩ :=
        recvIteration_of_message lawful message fits sound.limit incoming dialogue.buffer
      cases system : message.isSystem with
      | false =>
          rw [if_pos system] at passed
          have returned := recvBuffer_of_return schema passed
          have answer : message.delivery = (response settings.tables).delivery := by
            obtain ⟨count, -, offered, -⟩ := sound.responses
            have member : message.delivery ∈ application dialogue.server.offered :=
              List.mem_map_of_mem (List.mem_filter.mpr
                ⟨sound.downlink.subset.subset accepted, by simp [system]⟩)
            rw [offered] at member
            exact List.eq_of_mem_replicate member
          have ended : recv schema settings.tables.testResponse dialogue.client dialogue.buffer =
              ⟨some responseKey, message.body.bytes,
                { dialogue.client with incoming := more }⟩ := by
            rw [recv_of_message schema (by rw [returned]), returned]
            have body : message.body.bytes = (response settings.tables).body.bytes :=
              congrArg Prod.snd answer
            simp [body, response, responses.decode_serialise]
          simp only [Blocking.pass, passed, ended, Option.isSome_some, if_true]
          refine ⟨_, ?_, .returns message unheard rest split.symm due rfl⟩
          refine ⟨sound.toAsks.recv due _ _ _ _,
            sound.toAnswers.hear split.symm incoming rfl .., ?_, ?_⟩
          · rw [sound.received, List.countP_append, ← List.replicate_append_replicate]
            rfl
          · rw [Session.application_append, List.length_append, sound.answered,
              List.countP_append]
            simp [application, system, Call.isRecv]
      | true =>
          rw [if_neg (by simp [system])] at passed
          have answered : (application (history.heard ++ [message])).length =
              history.performed.countP Call.isRecv := by
            rw [Session.application_append, List.length_append, sound.answered]
            simp [application, system]
          split at passed
          next ping =>
            simp only [Blocking.pass, passed]
            have asks := @Asks.send _ _ _ _ _ sound.toAsks (pong schema) more message.body.bytes []
              dialogue.calls rfl (Or.inl rfl) rfl
            rw [List.append_nil] at asks
            refine ⟨_, ?_, .answers message unheard split.symm ping rfl⟩
            exact ⟨{ asks with }, sound.toAnswers.hear split.symm incoming (by simp) ..,
              sound.received, answered⟩
          next other =>
            simp only [Blocking.pass, passed]
            refine ⟨_, ?_, .ignores message unheard split.symm rfl⟩
            exact ⟨{ sound.toAsks with }, sound.toAnswers.hear split.symm incoming rfl ..,
              sound.received, answered⟩

theorem Sound.call (lawful : schema.Lawful) (responses : settings.tables.testResponse.Lawful)
    (sound : Sound schema settings calls dialogue history)
    (taken : step schema settings dialogue .call = some next) :
    ∃ later, Sound schema settings calls next later ∧
      Proceeds schema dialogue next history later := by
  simp only [Blocking.step] at taken
  split at taken
  next => cases taken
  next message rest due =>
    cases taken
    have asks := @Asks.send _ _ _ _ _ sound.toAsks message dialogue.client.incoming
      dialogue.buffer [.send message] rest due (Or.inr List.mem_cons_self) rfl
    refine ⟨_, ⟨asks, { sound.toAnswers with incoming := ?_ }, ?_, ?_⟩,
      .sends message rest due rfl⟩
    · exact (send_incoming _ _).trans sound.incoming
    · rw [sound.received, List.countP_append]
      rfl
    · rw [sound.answered, List.countP_append]
      rfl
  next rest due =>
    split at taken
    next ready =>
      cases taken
      exact sound.pass lawful responses due ready
    next => cases taken

theorem Sound.step_of_ne_call (lawful : schema.Lawful) (admits : settings.Admits schema)
    (sound : Sound schema settings calls dialogue history) {action : Action}
    (other : action ≠ .call) (taken : step schema settings dialogue action = some next) :
    Sound schema settings calls next history := by
  cases action with
  | call => exact absurd rfl other
  | arriveClient count =>
      obtain ⟨within, moved⟩ := Option.ite_none_right_eq_some.mp taken
      cases moved
      exact ⟨{ sound.toAsks with }, sound.toAnswers.arrive lawful within, sound.received,
        sound.answered⟩
  | arriveServer count =>
      obtain ⟨within, moved⟩ := Option.ite_none_right_eq_some.mp taken
      cases moved
      have arrives : Session.move schema settings.serverLimit
          (dialogue.server.uplink schema history.sent) (.arrive count) =
            some { dialogue.server.uplink schema history.sent with
              arrived := dialogue.server.arrived + count } := by
        refine if_pos ?_
        change dialogue.server.arrived + count ≤ (written schema history.sent).bytes.length
        rw [written_bytes, ← sound.outgoing]
        exact within
      exact ⟨{ sound.toAsks with uplink := sound.uplink.of_move lawful arrives },
        { sound.toAnswers with }, sound.received, sound.answered⟩
  | read =>
      simp only [Blocking.step] at taken
      split at taken
      next => cases taken
      next reading outstanding =>
        obtain ⟨⟨-, enough⟩, moved⟩ := Option.ite_none_right_eq_some.mp taken
        cases moved
        exact ⟨sound.toAsks.read lawful outstanding enough,
          sound.toAnswers.read reading _, sound.received, sound.answered⟩
  | post =>
      simp only [Blocking.step] at taken
      split at taken
      next => cases taken
      next message due =>
        cases taken
        obtain ⟨present, -⟩ := List.getElem?_eq_some_iff.mp due
        have fits : message.Fits schema settings.clientLimit := by
          have member := List.mem_of_getElem? due
          rw [sound.served] at member
          rcases sent_known _ _ message member with fresh | rfl | rfl
          · cases fresh
          · exact admits _ (by simp)
          · exact admits _ (by simp)
        refine ⟨{ sound.toAsks with },
          sound.toAnswers.offer lawful message true fits present ?_, sound.received,
          sound.answered⟩
        rw [Session.application_append, sound.offered, List.take_add_one, due,
          Session.application_append]
        rfl
  | write move =>
      obtain ⟨last, mapped⟩ := Option.ite_none_right_eq_some.mp taken
      obtain ⟨sender, moved, rfl⟩ := Option.map_eq_some_iff.mp mapped
      exact ⟨{ sound.toAsks with }, sound.toAnswers.write lawful last moved,
        sound.received, sound.answered⟩
  | ping =>
      cases taken
      refine ⟨{ sound.toAsks with },
        sound.toAnswers.offer lawful (ping schema) false (admits _ (by simp)) sound.posted ?_,
        sound.received, sound.answered⟩
      rw [Session.application_append, sound.offered]
      exact List.append_nil _

/-- The server has logged requests in the order in which they were made. -/
theorem Sound.logged (sound : Sound schema settings calls dialogue history) :
    dialogue.server.served.app =
        keys settings.tables.testRequest requestIdTest (deliveries dialogue.server.events) ∧
      deliveries dialogue.server.events <+: application history.sent := by
  refine ⟨sound.agrees.app.trans (serve_requestRouter settings.tables _).1, ?_⟩
  obtain ⟨done, rest, split, -, delivered, -⟩ := sound.uplink.reader
  rw [uplink_accepted] at split
  have same : deliveries dialogue.server.events = application done := delivered
  rw [same, split, Session.application_append]
  exact List.prefix_append _ _

theorem Sound.requested_performed (sound : Sound schema settings calls dialogue history) :
    keys settings.tables.testRequest requestIdTest (application history.sent) =
      requested settings.tables history.performed := by
  rw [sound.asked, requested]

theorem Sound.returned_le (sound : Sound schema settings calls dialogue history) :
    history.performed.countP Call.isRecv ≤ dialogue.server.served.app.length ∧
      dialogue.server.served.app <+: requested settings.tables history.performed := by
  constructor
  · obtain ⟨bound, bounded, offered, -⟩ := sound.responses
    have heard : (application history.heard).Sublist (application dialogue.server.offered) :=
      ((sound.heard.sublist.trans sound.downlink.subset).filter _).map _
    calc history.performed.countP Call.isRecv
        = (application history.heard).length := sound.answered.symm
      _ ≤ (application dialogue.server.offered).length := heard.length_le
      _ = bound := by rw [offered, List.length_replicate]
      _ ≤ dialogue.server.served.app.length := bounded
  · obtain ⟨logged, delivered⟩ := sound.logged
    rw [logged, ← sound.requested_performed]
    exact delivered.filterMap _

theorem Sound.polite_of_proceeds {later : History}
    (sound : Sound schema settings calls next later)
    (polite : Polite settings.tables history.performed)
    (proceeds : Proceeds schema dialogue next history later) :
    Polite settings.tables later.performed := by
  cases proceeds with
  | sends message rest due left => exact polite.concat (by simp)
  | returns message unheard rest waiting due left =>
      apply polite.concat
      intro _
      obtain ⟨returned, logged⟩ := sound.returned_le
      have answered := returned.trans logged.length_le
      rw [List.countP_append, requested_append, List.length_append] at answered
      exact answered
  | answers message unheard waiting ping left => exact polite
  | ignores message unheard waiting left => exact polite

theorem sound_of_run (lawful : schema.Lawful) (responses : settings.tables.testResponse.Lawful)
    (admits : settings.Admits schema) {actions : List Action}
    (executed : run (step schema settings) (connected settings calls) actions = some dialogue) :
    ∃ history, Sound schema settings calls dialogue history ∧
      Polite settings.tables history.performed := by
  refine run_invariant_of_step (fun dialogue => ∃ history,
    Sound schema settings calls dialogue history ∧ Polite settings.tables history.performed)
    ?_ ⟨{}, Sound.connected calls, by simp [Polite]⟩ executed
  rintro dialogue action next ⟨history, sound, polite⟩ taken
  by_cases program : action = .call
  · subst program
    obtain ⟨later, soundNext, proceeds⟩ := sound.call lawful responses taken
    exact ⟨later, soundNext, soundNext.polite_of_proceeds polite proceeds⟩
  · exact ⟨history, sound.step_of_ne_call lawful admits program taken, polite⟩

end Sound

/-- As long as the connection lasts, each `recv` that has returned has returned
the server's key, in answer to a request that the server has logged, and the
server has logged the requests in the order in which the program made them.  A
program that waits for a response it has not asked for does not end. -/
theorem blocking_client_answered {schema : Schema} {settings : Settings} (lawful : schema.Lawful)
    (responses : settings.tables.testResponse.Lawful) (admits : settings.Admits schema)
    {calls : List Call} {actions : List Action} {dialogue : Dialogue}
    (executed : run (step schema settings) (connected settings calls) actions = some dialogue) :
    dialogue.received = List.replicate dialogue.received.length (some responseKey) ∧
      dialogue.received.length + dialogue.calls.countP Call.isRecv = calls.countP Call.isRecv ∧
      dialogue.received.length ≤ dialogue.server.served.app.length ∧
      dialogue.server.served.app <+: requested settings.tables calls ∧
      (dialogue.calls = [] → Polite settings.tables calls) := by
  obtain ⟨history, sound, polite⟩ := sound_of_run lawful responses admits executed
  obtain ⟨returned, logged⟩ := sound.returned_le
  have count : dialogue.received.length = history.performed.countP Call.isRecv := by
    rw [sound.received, List.length_replicate]
  refine ⟨?_, ?_, ?_, ?_, ?_⟩
  · rw [count]
    exact sound.received
  · rw [count, sound.script, List.countP_append]
  · rw [count]
    exact returned
  · rw [sound.script, requested_append]
    exact logged.trans (List.prefix_append _ _)
  · intro ended
    rw [sound.script, ended, List.append_nil]
    exact polite

/-- The calls of `run_sync_client`, with a ping that the server sends before its
response. -/
theorem blocking_client_answered_around_ping :
    let settings : Settings := { tables := ⟨scalarTable, scalarTable⟩ }
    let calls : List Call := [.send ⟨requestIdTest, scalarTable.serialise 0x12345, false⟩, .recv]
    let pinged : Network.Call := ⟨0, ((ping flatbuffers).toMessageT flatbuffers).header,
      (ping flatbuffers).body.bytes, false⟩
    let responded : Network.Call := ⟨1, ((response settings.tables).toMessageT flatbuffers).header,
      (response settings.tables).body.bytes, true⟩
    let actions : List Action := [.call, .ping, .arriveServer 56, .read, .read, .read, .post,
      .write (.runTask .writeNext), .write (.runTask (.initiate pinged)),
      .write (.transfer ⟨pinged, 0⟩ 52), .write (.complete ⟨pinged, 52⟩ true),
      .write (.runTask (.finish pinged true true)), .write (.runTask .writeNext),
      .write (.runTask (.initiate responded)), .write (.transfer ⟨responded, 0⟩ 56),
      .arriveClient 108, .call, .call]
    ∃ dialogue, run (step flatbuffers settings) (connected settings calls) actions =
        some dialogue ∧
      dialogue.received = [some responseKey] ∧
      dialogue.server.served.app <+: requested settings.tables calls := by
  intro settings calls pinged responded actions
  have returned : (run (step flatbuffers settings) (connected settings calls) actions).map
      (fun dialogue => dialogue.received) = some [some responseKey] := by decide +kernel
  obtain ⟨dialogue, executed, returned⟩ := Option.map_eq_some_iff.mp returned
  have answered := blocking_client_answered flatbuffers_lawful scalarTable_lawful
    (fun _ _ => Or.inl rfl) executed
  exact ⟨dialogue, executed, returned, answered.2.2.2.1⟩

end SocketSL.Blocking
