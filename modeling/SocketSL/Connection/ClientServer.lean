import SocketSL.Connection.Exchange
import Mathlib.Data.List.Induction

/-!
# The client and the server of the examples

The server's router has one handler, which answers every `TestRequest` that
verifies with one `TestResponse`; the client's router has one handler, which
logs the key of the response.  The client is on the left, and the application's
state of both is the keys its handler has logged.  The client's users may send
anything, but through `async_send`: the synchronous `send` of the example
clients, which writes past the queue, is not part of these runs.  Nobody but the
handler sends application messages at the server.
-/

namespace SocketSL.Exchange

open SocketSL.Lib
open SocketSL.Session (application)
open SocketSL.Conversation (Side)

/-- The generated tables of `request.fbs` and `response.fbs`. -/
structure Tables where
  testRequest : Table UInt64
  testResponse : Table UInt64

/-- `Client::RequestId_Test` -/
def requestIdTest : UInt8 := 0

/-- `Client::ResponseId_Test` -/
def responseIdTest : UInt8 := 0

def responseKey : UInt64 := 0x56789

variable (tables : Tables)

/-- The message that `async_send<Client::CreateTestResponse>` hands over. -/
def response : Message where
  id := responseIdTest
  body := tables.testResponse.serialise responseKey
  isSystem := false

def handleValidTestRequest (_ : Unit) (key : UInt64) (turn : Turn (List UInt64)) :
    Turn (List UInt64) where
  app := turn.app ++ [key]
  sent := turn.sent ++ [response tables]

def handleTestResponse (_ : Unit) (key : UInt64) (turn : Turn (List UInt64)) :
    Turn (List UInt64) :=
  { turn with app := turn.app ++ [key] }

def testRequest : MessageInfo Unit (Turn (List UInt64)) where
  Body := UInt64
  table := tables.testRequest
  id := requestIdTest
  handler := handleValidTestRequest tables

def testResponse : MessageInfo Unit (Turn (List UInt64)) where
  Body := UInt64
  table := tables.testResponse
  id := responseIdTest
  handler := handleTestResponse

def requestRouter : Service (List UInt64) := [testRequest tables]

def responseRouter : Service (List UInt64) := [testResponse tables]

/-- The limits of a socket that matter here. -/
structure Limits where
  maxMessageSize : Nat := 0
  maxPendingWrites : Nat := 0

def clientServer (limits : Side → Limits) : Side → Settings (List UInt64)
  | .left => { limits .left with service := responseRouter tables, app := [] }
  | .right => { limits .right with service := requestRouter tables, app := [] }

/-- The keys of the messages that are meant for a handler and verify. -/
def keys (table : Table UInt64) (id : UInt8) (messages : List (UInt8 × List UInt8)) :
    List UInt64 :=
  messages.filterMap fun message => if message.1 = id then table.decode message.2 else none

theorem keys_append (table : Table UInt64) (id : UInt8) (first second : List (UInt8 × List UInt8)) :
    keys table id (first ++ second) = keys table id first ++ keys table id second :=
  List.filterMap_append

section Serve

variable (served : Served (List UInt64)) (id : UInt8) (body : List UInt8)

theorem handleMessage_requestRouter :
    (served.handleMessage (requestRouter tables) id body).app =
        served.app ++ keys tables.testRequest requestIdTest [(id, body)] ∧
      (served.handleMessage (requestRouter tables) id body).sent =
        served.sent ++ (keys tables.testRequest requestIdTest [(id, body)]).map
          fun _ => response tables := by
  by_cases same : id = requestIdTest
  · cases decoded : tables.testRequest.decode body <;>
      simp [Served.handleMessage, MessageRouter.dispatch_eq_route, MessageRouter.route,
        requestRouter, testRequest, same, keys, MessageInfo.act, decoded, handleValidTestRequest]
  · simp [Served.handleMessage, MessageRouter.dispatch_eq_route, MessageRouter.route,
      requestRouter, testRequest, same, Ne.symm same, keys]

theorem handleMessage_logger (table : Table UInt64) (logged : UInt8) :
    (served.handleMessage [⟨UInt64, table, logged, fun _ key turn =>
        { turn with app := turn.app ++ [key] }⟩] id body).app =
      served.app ++ keys table logged [(id, body)] := by
  by_cases same : id = logged
  · cases decoded : table.decode body <;>
      simp [Served.handleMessage, MessageRouter.dispatch_eq_route, MessageRouter.route,
        same, keys, MessageInfo.act, decoded]
  · simp [Served.handleMessage, MessageRouter.dispatch_eq_route, MessageRouter.route,
      same, Ne.symm same, keys]

end Serve

/-- The server's loop logs every valid request and answers each once. -/
theorem serve_requestRouter (messages : List (UInt8 × List UInt8)) :
    (Served.serve (requestRouter tables) [] messages).app =
        keys tables.testRequest requestIdTest messages ∧
      (Served.serve (requestRouter tables) [] messages).sent =
        List.replicate (keys tables.testRequest requestIdTest messages).length
          (response tables) := by
  induction messages using List.reverseRecOn with
  | nil => exact ⟨rfl, rfl⟩
  | append_singleton messages message inductionHypothesis =>
      obtain ⟨app, sent⟩ := inductionHypothesis
      obtain ⟨appNext, sentNext⟩ := handleMessage_requestRouter tables
        (Served.serve (requestRouter tables) [] messages) message.1 message.2
      refine ⟨?_, ?_⟩
      · rw [Served.serve, List.foldl_append, keys_append, ← app]
        exact appNext
      · rw [Served.serve, List.foldl_append, keys_append, List.length_append,
          ← List.replicate_append_replicate, ← sent]
        refine sentNext.trans ?_
        rw [List.map_const']

theorem serve_logger (table : Table UInt64) (id : UInt8) (messages : List (UInt8 × List UInt8)) :
    (Served.serve [⟨UInt64, table, id, fun _ key turn =>
        { turn with app := turn.app ++ [key] }⟩] [] messages).app = keys table id messages := by
  induction messages using List.reverseRecOn with
  | nil => rfl
  | append_singleton messages message inductionHypothesis =>
      rw [Served.serve, List.foldl_append, keys_append, ← inductionHypothesis]
      exact handleMessage_logger _ message.1 message.2 table id

theorem keys_responses (lawful : tables.testResponse.Lawful) (count : Nat) :
    keys tables.testResponse responseIdTest
      (List.replicate count (response tables).delivery) = List.replicate count responseKey := by
  have one : keys tables.testResponse responseIdTest [(response tables).delivery] =
      [responseKey] := by
    simp [keys, response, Message.delivery, lawful.decode_serialise]
  induction count with
  | zero => rfl
  | succ count inductionHypothesis =>
      rw [List.replicate_succ', keys_append, inductionHypothesis, one, List.replicate_succ']

section Run

variable {tables} {schema : Schema} {limits : Side → Limits} {parties : Parties (List UInt64)}

/-- What a server has posted of its answers are responses, at most one for each
request it has logged, and one for each once they are all posted. -/
theorem Served.Agrees.responses {served : Served (List UInt64)}
    {messages : List (UInt8 × List UInt8)}
    (agrees : served.Agrees (Served.serve (requestRouter tables) [] messages)) (posted : Nat) :
    ∃ count ≤ served.app.length,
      application (served.sent.take posted) = List.replicate count (response tables).delivery ∧
      (posted = served.sent.length → count = served.app.length) := by
  obtain ⟨appEq, sentEq⟩ := serve_requestRouter tables messages
  have logged : served.app = keys tables.testRequest requestIdTest messages :=
    agrees.app.trans appEq
  have replies : served.replies = List.replicate served.app.length (response tables) := by
    rw [agrees.replies, logged, Served.replies]
    refine (congrArg (List.filter _) sentEq).trans ?_
    exact List.filter_replicate_of_pos rfl
  have some : (served.sent.take posted).filter (fun message => !message.isSystem) <+:
      List.replicate served.app.length (response tables) := by
    rw [← replies]
    exact (List.take_prefix _ _).filter _
  obtain ⟨count, bounded, same⟩ := List.sublist_replicate_iff.mp some.sublist
  refine ⟨count, bounded, ?_, ?_⟩
  · rw [application, same, List.map_replicate]
  · intro done
    rw [done, List.take_length] at same
    have lengths := congrArg List.length (replies.symm.trans same)
    simpa using lengths.symm

theorem Coupled.responses (coupled : Coupled schema (clientServer tables limits) parties)
    (quiet : ∀ message ∈ (parties .right).users, message.isSystem = true) :
    ∃ count ≤ (parties .right).served.app.length,
      application (parties .right).pipe.offered =
        List.replicate count (response tables).delivery ∧
      ((parties .right).posted = (parties .right).served.sent.length →
        count = (parties .right).served.app.length) := by
  have users : (parties .right).users.filter (fun message => !message.isSystem) = [] := by
    simpa using quiet
  have offered := ((coupled.woven .right).filter fun message => !message.isSystem).eq_of_nil users
  obtain ⟨count, bounded, same, whole⟩ :=
    (coupled.agrees .right).responses (parties .right).posted
  refine ⟨count, bounded, ?_, whole⟩
  rw [application, offered]
  exact same

/-- In every run in which the client sends by `async_send` and the server sends no
application message but its handler's, the server has logged the valid requests
among a prefix of what the client's queue accepted, and the client has logged at
most one response for each of them, all with the server's key.  Once both
streams have been read to their ends and nothing is left to post, there is
exactly one for each valid request, unless the server's queue is capped. -/
theorem one_response_per_request (lawful : schema.Lawful) (responses : tables.testResponse.Lawful)
    {actions : List Action}
    (executed : Lib.run (step schema (clientServer tables limits))
      (connected (clientServer tables limits)) actions = some parties)
    (quiet : ∀ message ∈ actions.filterMap (Action.sentBy .right), message.isSystem = true) :
    (parties .right).served.app <+:
        keys tables.testRequest requestIdTest (application (parties .left).pipe.accepted) ∧
      (∃ count ≤ (parties .right).served.app.length,
        (parties .left).served.app = List.replicate count responseKey) ∧
      ((limits .right).maxPendingWrites = 0 → Exhausted schema (parties .left).pipe →
        Exhausted schema (parties .right).pipe →
        (parties .right).posted = (parties .right).served.sent.length →
          (parties .left).served.app = List.replicate
            (keys tables.testRequest requestIdTest
              (application (parties .left).pipe.accepted)).length responseKey) := by
  have coupled := coupled_of_run lawful executed
  have logged : (parties .right).served.app =
      keys tables.testRequest requestIdTest (parties .left).pipe.delivered :=
    (coupled.agrees .right).app.trans (serve_requestRouter tables _).1
  have received : (parties .left).served.app =
      keys tables.testResponse responseIdTest (parties .right).pipe.delivered :=
    (coupled.agrees .left).app.trans (serve_logger tables.testResponse responseIdTest _)
  obtain ⟨offered, bounded, same, whole⟩ := coupled.responses (by
    rw [users_of_run executed .right]
    exact quiet)
  refine ⟨?_, ?_, ?_⟩
  · rw [logged]
    exact (coupled.conveys .left).delivered_isPrefix.filterMap _
  · have subset : (parties .right).pipe.delivered.Sublist
        (List.replicate offered (response tables).delivery) := by
      rw [← same]
      exact (coupled.conveys .right).delivered_isPrefix.sublist.trans
        (((coupled.conveys .right).subset.filter _).map _)
    obtain ⟨count, fewer, delivered⟩ := List.sublist_replicate_iff.mp subset
    refine ⟨count, fewer.trans bounded, ?_⟩
    rw [received, delivered, keys_responses tables responses]
  · intro unlimited readLeft readRight posted
    rw [received, (coupled.conveys .right).delivered_of_exhausted readRight,
      (coupled.conveys .right).whole unlimited, same, keys_responses tables responses,
      whole posted, logged, (coupled.conveys .left).delivered_of_exhausted readLeft]

end Run

/-- A request that is sent by `async_send` and the server's answer, each
transferred in one part. -/
theorem one_response_per_request_round_trip :
    let tables : Tables := ⟨scalarTable, scalarTable⟩
    let limits : Side → Limits := fun _ => {}
    let request : Message := ⟨requestIdTest, scalarTable.serialise 0x12345, false⟩
    let requested : Network.Call :=
      ⟨0, (request.toMessageT flatbuffers).header, request.body.bytes, true⟩
    let responded : Network.Call :=
      ⟨0, ((response tables).toMessageT flatbuffers).header, (response tables).body.bytes, true⟩
    let actions : List Action := [.send .left request true, .write .left (.runTask .writeNext),
      .write .left (.runTask (.initiate requested)), .write .left (.transfer ⟨requested, 0⟩ 56),
      .arrive .left 56, .read .right, .read .right, .read .right, .post .right,
      .write .right (.runTask .writeNext), .write .right (.runTask (.initiate responded)),
      .write .right (.transfer ⟨responded, 0⟩ 56), .arrive .right 56,
      .read .left, .read .left, .read .left]
    ∃ parties, Lib.run (step flatbuffers (clientServer tables limits))
        (connected (clientServer tables limits)) actions = some parties ∧
      (parties .left).served.app = [responseKey] ∧
      (parties .right).served.app <+:
        keys scalarTable requestIdTest (application (parties .left).pipe.accepted) := by
  intro tables limits request requested responded actions
  have logged : (Lib.run (step flatbuffers (clientServer tables limits))
      (connected (clientServer tables limits)) actions).map
        (fun parties => (parties .left).served.app) = some [responseKey] := by decide +kernel
  obtain ⟨parties, executed, logged⟩ := Option.map_eq_some_iff.mp logged
  have answered := one_response_per_request flatbuffers_lawful scalarTable_lawful executed
    (by simp [actions, Action.sentBy])
  exact ⟨parties, executed, logged, answered.1⟩

end SocketSL.Exchange
