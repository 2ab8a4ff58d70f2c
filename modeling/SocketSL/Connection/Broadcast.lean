import SocketSL.Connection.ClientServer
import SocketSL.Connection.Limits
import SocketSL.Connection.Registry

/-!
# Broadcasts to the sessions of a manager

The peer of the examples sends a number to every session of its manager.
`for_each_session` holds the lock of `sessions_` from the first session to the
last and calls `async_send` on one socket after the other; the rest of the
manager, other threads that send, the sockets and the network go on in between.
A peer at the other end hears the numbers that were broadcast while its session
was registered, in the order in which they were broadcast.
-/

namespace SocketSL.Peer

open SocketSL.Lib SocketSL.Manager
open SocketSL.Network (BoostTcpSocket)
open SocketSL.Session (Pipe Move application)
open SocketSL.Exchange (Served Service Turn Conveys Exhausted keys keys_append sent)

/-- `Peer::MessageId_Random` -/
def messageIdRandom : UInt8 := 0

variable (schema : Schema) (table : Table UInt64)

def handleRandomNumber (_ : Unit) (value : UInt64) (turn : Turn (List UInt64)) :
    Turn (List UInt64) :=
  { turn with app := turn.app ++ [value] }

def randomNumber : MessageInfo Unit (Turn (List UInt64)) where
  Body := UInt64
  table := table
  id := messageIdRandom
  handler := handleRandomNumber

def peerRouter : Service (List UInt64) := [randomNumber table]

/-- The message that `async_send<Peer::CreateRandomNumber>` hands over. -/
def number (value : UInt64) : Message where
  id := messageIdRandom
  body := table.serialise value
  isSystem := false

/-- The stream a session's socket sends, with the session of the peer and the
limit of its socket at the other end. -/
structure Link where
  pipe : Pipe
  maxMessageSize : Nat

/-- `iterating` is the number `for_each_session` is at work with and how many
sessions it has visited; it holds the lock meanwhile. -/
structure Node where
  manager : SessionManager
  links : Nat → Link
  iterating : Option (UInt64 × Nat) := none

/-- A manager that has been created over an executor and an acceptor. -/
def listening (config : Config) : Node where
  manager := { config }
  links _ := ⟨Session.connected 0, 0⟩

/-- The action asks for the lock of `sessions_`. -/
def locks (manager : SessionManager) : Manager.Action → Bool
  | .addSession _ _ => true
  | .removeSession _ => true
  | .stop => true
  | .accepted _ _ => true
  | .serverHandshake _ isValid => isValid
  | .clientHandshake _ state isValid => isValid && !(state.isSome && manager.reconnectStopped)
  | .sessionFailed _ => true
  | _ => false

/-- The session object that an action makes. -/
def created (manager : SessionManager) (action : Manager.Action) : Option Nat :=
  match handed manager action with
  | none => none
  | some (sess, _) => if manager.Holds sess then none else some sess

/-- A new session has a new socket, connected to some peer. -/
def renew (links : Nat → Link) (limit : Nat) : Option Nat → Nat → Link
  | none => links
  | some sess => Function.update links sess ⟨Session.connected 0, limit⟩

/-- The cap of every queue is the one the manager has set on the socket. -/
def capped (manager : SessionManager) (links : Nat → Link) : Nat → Link := fun sess =>
  { links sess with
    pipe := { (links sess).pipe with
      sender := { (links sess).pipe.sender with
        maxPendingWrites := (manager.options sess).maxPendingWrites } } }

def convey (node : Node) (sess : Nat) (move : Move) : Option Node :=
  let link := node.links sess
  (Session.move schema link.maxMessageSize link.pipe move).map fun pipe =>
    { node with links := Function.update node.links sess { link with pipe } }

/-- `manage` comes with the limit of the peer a new session is connected to;
`move` is anything that happens to a session's stream, other sends included. -/
inductive Action where
  | manage (action : Manager.Action) (limit : Nat)
  | broadcast (value : UInt64)
  | visit
  | move (sess : Nat) (move : Move)

def step (node : Node) : Action → Option Node
  | .manage action limit =>
      if node.iterating.isSome ∧ locks node.manager action then none
      else
        (Manager.step node.manager action).map fun manager =>
          { node with
            manager
            links := capped manager (renew node.links limit (created node.manager action)) }
  | .broadcast value =>
      if node.iterating.isSome then none else some { node with iterating := some (value, 0) }
  | .visit =>
      match node.iterating with
      | none => none
      | some (value, visited) =>
          match node.manager.sessions[visited]? with
          | none => some { node with iterating := none }
          | some sess =>
              (convey schema node sess (.send (number table value) true)).map fun node =>
                { node with iterating := some (value, visited + 1) }
  | .move sess move => convey schema node sess move

/-- What bears on the messages of a session: its creation, a broadcast with the
sessions registered when it began, and a message from anybody else. -/
inductive Note where
  | created (sess : Nat)
  | broadcast (value : UInt64) (audience : List Nat)
  | sent (sess : Nat) (message : Message)

def notes (node : Node) : Action → Node → List Note
  | .manage action _, _ => (created node.manager action).toList.map .created
  | .broadcast value, _ => [.broadcast value node.manager.sessions]
  | .visit, _ => []
  | .move sess move, _ => (sent move).map (.sent sess)

/-- The numbers for a session since it was created, each as often as the
session was registered. -/
def addressed (sess : Nat) (numbers : List UInt64) : Note → List UInt64
  | .created other => if other = sess then [] else numbers
  | .broadcast value audience => numbers ++ List.replicate (audience.count sess) value
  | .sent _ _ => numbers

/-- What else was sent on a session since it was created. -/
def besides (sess : Nat) (messages : List Message) : Note → List Message
  | .created other => if other = sess then [] else messages
  | .broadcast _ _ => messages
  | .sent other message => if other = sess then messages ++ [message] else messages

/-- The numbers that were broadcast. -/
def broadcasts (past : List Note) : List UInt64 :=
  past.filterMap fun note => match note with
    | .broadcast value _ => some value
    | _ => none

/-- What the peer at the other end of a session has logged. -/
def heard (link : Link) : List UInt64 :=
  (Served.serve (peerRouter table) [] link.pipe.delivered).app

section Manage

variable {manager next : SessionManager} {action : Manager.Action}

theorem sessions_of_unlocked (taken : Manager.step manager action = some next)
    (unlocked : locks manager action = false) : next.sessions = manager.sessions := by
  have registered : ∀ {current : SessionManager} {registry : Registry},
      current.registry = registry → current.sessions = registry.sessions :=
    fun same => congrArg Registry.sessions same
  cases step_cases taken with
  | connectSession sess address given handedOver =>
      refine (registered (given.doConnect_registry sess none)).trans ?_
      exact handOver_frame handedOver SessionManager.sessions rfl
  | connect sess unheld => exact registered (SessionManager.doConnect_registry _ sess none)
  | connectWithPolicy sess host service sslContext policy unheld =>
      exact registered (SessionManager.doConnect_registry _ sess _)
  | dialed sess state remote pending =>
      refine (registered (onDial_registry sess state remote)).trans ?_
      cases remote <;> rfl
  | serverHandshake sess isValid pending =>
      cases isValid with
      | false => rfl
      | true => cases unlocked
  | clientHandshake sess state isValid pending =>
      cases isValid with
      | false =>
          rcases onClientHandshake_registry sess state false with same | ⟨valid, -⟩
          · exact registered same
          · cases valid
      | true =>
          have stopped : state.isSome = true ∧ manager.reconnectStopped = true := by
            simpa [locks] using unlocked
          rcases (SessionManager.onClientHandshake_effect _ sess state true).frame with
            ⟨pending, log, same⟩ | ⟨-, running, -⟩
          · rw [same]
          · cases (running stopped.1).symm.trans stopped.2
  | timer state sess unheld pending =>
      rcases onTimer_registry state sess with same | relocated
      · exact registered same
      · exact registered relocated
  | addSession sess address given handedOver => cases unlocked
  | removeSession sess => cases unlocked
  | stop => cases unlocked
  | accepted ip sess unheld pending => cases unlocked
  | sessionFailed sess reading => cases unlocked
  | _ => rfl

theorem unheld_of_created {sess : Nat} (new : created manager action = some sess) :
    ¬ manager.Holds sess := by
  unfold created at new
  split at new
  · cases new
  · obtain ⟨unheld, same⟩ := Option.ite_none_left_eq_some.mp new
    cases same
    exact unheld

theorem cap_of_rosterStep {located : Nat → Bool} {roster after : Roster}
    {handing : Option (Nat × Option ReconnectPolicy)}
    (stepped : RosterStep located roster handing after)
    {sess : Nat} (old : ∀ policy, handing = some (sess, policy) → roster.Holds sess)
    (unlimited : (after.options sess).maxPendingWrites = 0) :
    (roster.options sess).maxPendingWrites = 0 := by
  have before : ∀ {other : Nat} {given : Roster}, roster.Given other given → other ≠ sess →
      given.options sess = roster.options sess := by
    rintro other given (⟨-, rfl⟩ | ⟨-, rfl⟩) different
    · rfl
    · exact roster.create_options_of_ne (Ne.symm different)
  cases stepped with
  | takeOn other state given known =>
      by_cases here : other = sess
      · subst here
        have same : given = roster := by
          rcases known with ⟨-, same⟩ | ⟨unheld, -⟩
          · exact same
          · exact absurd (old _ rfl) unheld
        subst same
        rw [Roster.admitted_options_self] at unlimited
        simp only [Terms.apply] at unlimited
        split at unlimited
        next limited => exact absurd unlimited limited
        next => exact unlimited
      · rw [Roster.admitted_options_of_ne _ _ (Ne.symm here), before known here] at unlimited
        exact unlimited
  | refuse other given known =>
      by_cases here : other = sess
      · subst here
        rcases known with ⟨-, rfl⟩ | ⟨unheld, -⟩
        · exact unlimited
        · exact absurd (old _ rfl) unheld
      · rw [before known here] at unlimited
        exact unlimited
  | _ => exact unlimited

theorem cap_of_step (taken : Manager.step manager action = some next) {sess : Nat}
    (old : created manager action ≠ some sess)
    (unlimited : (next.options sess).maxPendingWrites = 0) :
    (manager.options sess).maxPendingWrites = 0 := by
  refine cap_of_rosterStep (step_roster taken) ?_ unlimited
  intro policy handing
  by_contra unheld
  rw [manager.holds_roster] at unheld
  exact old (by simp [created, handing, unheld])

end Manage

/-- The numbers that a broadcast under way has yet to hand to a session. -/
def Node.outstanding (node : Node) (sess : Nat) : List UInt64 :=
  match node.iterating with
  | none => []
  | some (value, visited) =>
      List.replicate ((node.manager.sessions.drop visited).count sess) value

/-- Every session's stream, and the numbers among what was handed to it. -/
structure Reaches (node : Node) (past : List Note) : Prop where
  conveys : ∀ sess, Conveys schema (node.links sess).maxMessageSize
    (node.manager.options sess).maxPendingWrites (node.links sess).pipe
  woven : ∀ sess, ∃ handed,
    Interleaved (past.foldl (besides sess) []) (handed.map (number table))
      (node.links sess).pipe.offered ∧
    handed ++ node.outstanding sess = past.foldl (addressed sess) []

section Reaches

variable {schema table} {node next : Node} {past : List Note}

theorem Reaches.listening (config : Config) : Reaches schema table (listening config) [] where
  conveys _ := Conveys.connected
  woven _ := ⟨[], .nil, rfl⟩

theorem convey_eq_some {sess : Nat} {move : Move}
    (taken : convey schema node sess move = some next) : ∃ pipe,
      Session.move schema (node.links sess).maxMessageSize (node.links sess).pipe move =
        some pipe ∧
      next = { node with
        links := Function.update node.links sess { node.links sess with pipe } } := by
  obtain ⟨pipe, moved, rfl⟩ := Option.map_eq_some_iff.mp taken
  exact ⟨pipe, moved, rfl⟩

theorem Reaches.of_convey (lawful : schema.Lawful) (reaches : Reaches schema table node past)
    {sess : Nat} {move : Move} (taken : convey schema node sess move = some next) :
    (∀ other, Conveys schema (next.links other).maxMessageSize
      (node.manager.options other).maxPendingWrites (next.links other).pipe) ∧
    (next.links sess).pipe.offered = (node.links sess).pipe.offered ++ sent move ∧
    ∀ other, other ≠ sess → next.links other = node.links other := by
  obtain ⟨pipe, moved, rfl⟩ := convey_eq_some taken
  obtain ⟨kept, offered⟩ := (reaches.conveys sess).of_move lawful moved
  refine ⟨?_, ?_, ?_⟩
  · intro other
    by_cases here : other = sess
    · subst here
      simp only [Function.update_self]
      exact kept
    · simp only [Function.update_of_ne here]
      exact reaches.conveys other
  · simp only [Function.update_self]
    exact offered
  · exact fun other here => Function.update_of_ne here _ _

theorem Reaches.of_move (lawful : schema.Lawful) (reaches : Reaches schema table node past)
    {sess : Nat} {move : Move} (taken : convey schema node sess move = some next) :
    Reaches schema table next (past ++ (sent move).map (.sent sess)) := by
  obtain ⟨conveys, offered, others⟩ := reaches.of_convey lawful taken
  obtain ⟨pipe, -, rfl⟩ := convey_eq_some taken
  have single : sent move = [] ∨ ∃ message, sent move = [message] := by
    cases move <;> simp [sent]
  refine ⟨conveys, ?_⟩
  intro other
  obtain ⟨handed, woven, total⟩ := reaches.woven other
  rcases single with silent | ⟨message, speaks⟩
  · rw [silent] at offered ⊢
    rw [List.map_nil, List.append_nil]
    refine ⟨handed, ?_, total⟩
    by_cases here : other = sess
    · subst here
      rw [offered, List.append_nil]
      exact woven
    · rw [others other here]
      exact woven
  · rw [speaks] at offered ⊢
    refine ⟨handed, ?_, ?_⟩
    · rw [List.map_singleton, List.foldl_append]
      by_cases here : other = sess
      · subst here
        rw [offered]
        simpa [besides] using woven.left message
      · rw [others other here]
        simpa [besides, Ne.symm here] using woven
    · rw [List.map_singleton, List.foldl_append]
      exact total

theorem Reaches.broadcast (reaches : Reaches schema table node past)
    (idle : node.iterating = none) (value : UInt64) :
    Reaches schema table { node with iterating := some (value, 0) }
      (past ++ [.broadcast value node.manager.sessions]) := by
  refine ⟨reaches.conveys, ?_⟩
  intro sess
  obtain ⟨handed, woven, total⟩ := reaches.woven sess
  refine ⟨handed, ?_, ?_⟩
  · rw [List.foldl_append]
    exact woven
  · rw [Node.outstanding, idle, List.append_nil] at total
    rw [List.foldl_append, ← total]
    rfl

theorem Reaches.visit (lawful : schema.Lawful) (reaches : Reaches schema table node past)
    {value : UInt64} {visited sess : Nat} (iterating : node.iterating = some (value, visited))
    (present : node.manager.sessions[visited]? = some sess)
    (taken : convey schema node sess (.send (number table value) true) = some next) :
    Reaches schema table { next with iterating := some (value, visited + 1) } past := by
  obtain ⟨conveys, offered, others⟩ := reaches.of_convey lawful taken
  obtain ⟨pipe, -, rfl⟩ := convey_eq_some taken
  obtain ⟨within, rfl⟩ := List.getElem?_eq_some_iff.mp present
  refine ⟨conveys, ?_⟩
  intro other
  obtain ⟨handed, woven, total⟩ := reaches.woven other
  rw [Node.outstanding, iterating] at total
  simp only [List.drop_eq_getElem_cons within] at total
  by_cases here : other = node.manager.sessions[visited]
  · subst here
    refine ⟨handed ++ [value], ?_, ?_⟩
    · rw [offered, List.map_append]
      exact woven.right (number table value)
    · rw [List.count_cons_self, List.replicate_succ] at total
      rw [← total, List.append_assoc]
      rfl
  · refine ⟨handed, ?_, ?_⟩
    · rw [others other here]
      exact woven
    · rw [List.count_cons_of_ne (Ne.symm here)] at total
      exact total

theorem Reaches.release (reaches : Reaches schema table node past) {value : UInt64}
    {visited : Nat} (iterating : node.iterating = some (value, visited))
    (absent : node.manager.sessions[visited]? = none) :
    Reaches schema table { node with iterating := none } past := by
  refine ⟨reaches.conveys, ?_⟩
  intro sess
  obtain ⟨handed, woven, total⟩ := reaches.woven sess
  refine ⟨handed, woven, ?_⟩
  have done := List.drop_eq_nil_of_le (List.getElem?_eq_none_iff.mp absent)
  rw [Node.outstanding, iterating] at total
  simp only [done] at total
  exact total

theorem renew_of_ne {links : Nat → Link} {limit sess : Nat} {new : Option Nat}
    (old : new ≠ some sess) : renew links limit new sess = links sess := by
  cases new with
  | none => rfl
  | some other =>
      apply Function.update_of_ne
      rintro rfl
      exact old rfl

/-- While a broadcast is under way the manager leaves what it has yet to visit. -/
theorem outstanding_of_manage {manager : SessionManager} {links : Nat → Link}
    {action : Manager.Action} (unlocked : ¬ (node.iterating.isSome ∧ locks node.manager action))
    (taken : Manager.step node.manager action = some manager) (sess : Nat) :
    Node.outstanding { node with manager, links } sess = node.outstanding sess := by
  unfold Node.outstanding
  cases iterating : node.iterating with
  | none => rfl
  | some cursor =>
      have sessions : manager.sessions = node.manager.sessions := by
        apply sessions_of_unlocked taken
        simpa [iterating] using unlocked
      simp only [sessions]

theorem outstanding_of_unheld {sess : Nat} (unheld : ¬ node.manager.Holds sess) :
    node.outstanding sess = [] := by
  unfold Node.outstanding
  split
  · rfl
  · have absent : sess ∉ node.manager.sessions := fun member => unheld (Or.inl member)
    rw [List.count_eq_zero_of_not_mem fun member => absent (List.mem_of_mem_drop member)]
    rfl

theorem Reaches.manage (reaches : Reaches schema table node past) {action : Manager.Action}
    {limit : Nat} (unlocked : ¬ (node.iterating.isSome ∧ locks node.manager action))
    {manager : SessionManager} (taken : Manager.step node.manager action = some manager) :
    Reaches schema table
      { node with
        manager
        links := capped manager (renew node.links limit (created node.manager action)) }
      (past ++ (created node.manager action).toList.map .created) := by
  refine ⟨?_, ?_⟩
  · intro sess
    by_cases new : created node.manager action = some sess
    · simp only [capped, new, renew, Function.update_self]
      exact Conveys.connected.capped fun _ => rfl
    · simp only [capped, renew_of_ne new]
      exact (reaches.conveys sess).capped (cap_of_step taken new)
  · intro sess
    rw [outstanding_of_manage unlocked taken]
    by_cases new : created node.manager action = some sess
    · refine ⟨[], ?_, ?_⟩
      · simp only [capped, new, renew, Function.update_self]
        simp only [Option.toList_some, List.map_singleton, List.foldl_append, List.foldl_cons,
          List.foldl_nil, besides, if_true]
        exact .nil
      · rw [outstanding_of_unheld (unheld_of_created new), new]
        simp [addressed]
    · have others : ∀ {Kept : Type} (keep : Kept → Note → Kept) (first : Kept),
          (∀ kept other, other ≠ sess → keep kept (.created other) = kept) →
          (past ++ (created node.manager action).toList.map Note.created).foldl keep first =
            past.foldl keep first := by
        intro Kept keep first kept
        cases made : created node.manager action with
        | none => simp
        | some other =>
            rw [made] at new
            simp [List.foldl_append, kept _ other fun same => new (congrArg some same)]
      rw [others (besides sess) [] (fun _ _ different => if_neg different),
        others (addressed sess) [] (fun _ _ different => if_neg different)]
      simp only [capped, renew_of_ne new]
      exact reaches.woven sess

theorem Reaches.step (lawful : schema.Lawful) (reaches : Reaches schema table node past)
    {action : Action} (taken : Peer.step schema table node action = some next) :
    Reaches schema table next (past ++ notes node action next) := by
  cases action with
  | manage action limit =>
      obtain ⟨unlocked, mapped⟩ := Option.ite_none_left_eq_some.mp taken
      obtain ⟨manager, moved, rfl⟩ := Option.map_eq_some_iff.mp mapped
      exact reaches.manage unlocked moved
  | broadcast value =>
      obtain ⟨idle, begun⟩ := Option.ite_none_left_eq_some.mp taken
      cases begun
      exact reaches.broadcast (by simpa using idle) value
  | visit =>
      rw [notes, List.append_nil]
      simp only [Peer.step] at taken
      split at taken
      next => cases taken
      next value visited iterating =>
        split at taken
        next absent =>
          cases taken
          exact reaches.release iterating absent
        next sess present =>
          obtain ⟨moved, sending, rfl⟩ := Option.map_eq_some_iff.mp taken
          exact reaches.visit lawful iterating present sending
  | move sess move => exact reaches.of_move lawful taken

theorem reaches_of_run (lawful : schema.Lawful) {config : Config} {actions : List Action}
    (executed : run (recorded (Peer.step schema table) notes) (listening config, []) actions =
      some (node, past)) : Reaches schema table node past :=
  run_invariant_of_step (fun observed => Reaches schema table observed.1 observed.2)
    (by
      rintro ⟨node, past⟩ action ⟨next, longer⟩ reaches taken
      obtain ⟨next, moved, same⟩ := recorded_eq_some.mp taken
      cases same
      exact reaches.step lawful moved)
    (Reaches.listening config) executed

theorem keys_numbers (numbers : table.Lawful) (values : List UInt64) :
    keys table messageIdRandom (values.map fun value => (number table value).delivery) =
      values := by
  induction values with
  | nil => rfl
  | cons value values inductionHypothesis =>
      have first : keys table messageIdRandom [(number table value).delivery] = [value] := by
        simp [keys, number, Message.delivery, numbers.decode_serialise]
      rw [List.map_cons, ← List.singleton_append, keys_append, first, inductionHypothesis]
      rfl

/-- The application messages handed to a session on which nobody else sends any. -/
theorem Reaches.application (reaches : Reaches schema table node past) {sess : Nat}
    (quiet : ∀ message ∈ past.foldl (besides sess) [], message.isSystem = true) :
    ∃ handed, handed ++ node.outstanding sess = past.foldl (addressed sess) [] ∧
      Session.application (node.links sess).pipe.offered =
        handed.map fun value => (number table value).delivery := by
  obtain ⟨handed, woven, total⟩ := reaches.woven sess
  refine ⟨handed, total, ?_⟩
  have silent : (past.foldl (besides sess) []).filter (fun message => !message.isSystem) = [] := by
    simpa using quiet
  have offered := (woven.filter fun message => !message.isSystem).eq_of_nil silent
  have numbersOnly : (handed.map (number table)).filter (fun message => !message.isSystem) =
      handed.map (number table) := by
    apply List.filter_eq_self.mpr
    intro message member
    obtain ⟨value, -, rfl⟩ := List.mem_map.mp member
    rfl
  rw [Session.application, offered, numbersOnly, List.map_map]
  rfl

theorem heard_eq (link : Link) :
    heard table link = keys table messageIdRandom link.pipe.delivered :=
  Exchange.serve_logger table messageIdRandom _

theorem Reaches.heard_sublist (reaches : Reaches schema table node past) (numbers : table.Lawful)
    {sess : Nat} (quiet : ∀ message ∈ past.foldl (besides sess) [], message.isSystem = true) :
    (heard table (node.links sess)).Sublist (past.foldl (addressed sess) []) := by
  have conveys := reaches.conveys sess
  obtain ⟨handed, total, offered⟩ := reaches.application quiet
  rw [heard_eq, ← total]
  refine List.Sublist.trans ?_ (List.sublist_append_left handed _)
  rw [← keys_numbers numbers handed, ← offered]
  apply List.Sublist.filterMap
  exact conveys.delivered_isPrefix.sublist.trans ((conveys.subset.filter _).map _)

end Reaches

/-- In every interleaving of broadcasts, manager, other senders, sockets and
network, a peer whose session carries no other application messages has logged
numbers that were broadcast while its session was registered, in the order of
the broadcasts.  Without a cap none is missing before the last it has logged,
and none at all once no broadcast is under way and its stream is read. -/
theorem broadcasts_heard_in_order {schema : Schema} {table : Table UInt64} (lawful : schema.Lawful)
    (numbers : table.Lawful) {config : Config} {actions : List Action} {node : Node}
    {past : List Note}
    (executed : run (recorded (step schema table) notes) (listening config, []) actions =
      some (node, past))
    {sess : Nat} (quiet : ∀ message ∈ past.foldl (besides sess) [], message.isSystem = true) :
    (heard table (node.links sess)).Sublist (past.foldl (addressed sess) []) ∧
      ((node.manager.options sess).maxPendingWrites = 0 →
        heard table (node.links sess) <+: past.foldl (addressed sess) []) ∧
      ((node.manager.options sess).maxPendingWrites = 0 → node.iterating = none →
        Exhausted schema (node.links sess).pipe →
          heard table (node.links sess) = past.foldl (addressed sess) []) := by
  have reaches := reaches_of_run lawful executed
  have conveys := reaches.conveys sess
  obtain ⟨handed, total, offered⟩ := reaches.application quiet
  have whole : (node.manager.options sess).maxPendingWrites = 0 →
      keys table messageIdRandom (application (node.links sess).pipe.accepted) = handed := by
    intro unlimited
    rw [conveys.whole unlimited, offered, keys_numbers numbers]
  refine ⟨reaches.heard_sublist numbers quiet, ?_, ?_⟩
  · intro unlimited
    rw [heard_eq, ← total]
    refine List.IsPrefix.trans ?_ (List.prefix_append handed _)
    rw [← whole unlimited]
    exact conveys.delivered_isPrefix.filterMap _
  · intro unlimited idle exhausted
    rw [heard_eq, conveys.delivered_of_exhausted exhausted, whole unlimited, ← total,
      Node.outstanding, idle, List.append_nil]

/-- A number for the one peer that is connected. -/
theorem broadcasts_heard_by_one_peer :
    let message := number scalarTable 5
    let call : Network.Call :=
      ⟨0, (message.toMessageT flatbuffers).header, message.body.bytes, true⟩
    let actions : List Action := [.manage .asyncWaitForConnection 0, .manage (.incoming 7) 0,
      .manage (.accepted 7 1) 0, .manage (.serverHandshake 1 true) 0, .broadcast 5, .visit, .visit,
      .move 1 (.runTask .writeNext), .move 1 (.runTask (.initiate call)),
      .move 1 (.transfer ⟨call, 0⟩ 56), .move 1 (.arrive 56), .move 1 .read, .move 1 .read,
      .move 1 .read]
    ∃ node past, run (recorded (step flatbuffers scalarTable) notes) (listening {}, []) actions =
        some (node, past) ∧
      heard scalarTable (node.links 1) = [5] ∧
      (heard scalarTable (node.links 1)).Sublist (past.foldl (addressed 1) []) := by
  intro message call actions
  have outcome : (run (recorded (step flatbuffers scalarTable) notes) (listening {}, [])
      actions).map (fun observed => (heard scalarTable (observed.1.links 1),
        (observed.2.foldl (besides 1) []).length)) = some ([5], 0) := by decide +kernel
  obtain ⟨⟨node, past⟩, executed, outcome⟩ := Option.map_eq_some_iff.mp outcome
  obtain ⟨logged, silent⟩ := Prod.mk.inj outcome
  have quiet : ∀ message ∈ past.foldl (besides 1) [], message.isSystem = true := by
    rw [List.length_eq_zero_iff.mp silent]
    simp
  exact ⟨node, past, executed, logged,
    (broadcasts_heard_in_order flatbuffers_lawful scalarTable_lawful executed quiet).1⟩

/-- No session is registered twice, or once more under way. -/
def Once (roster : Roster) : Prop :=
  (Multiset.ofList roster.sessions + roster.underWay.map Prod.fst).Nodup

theorem once_of_rosterStep {located : Nat → Bool} {roster next : Roster}
    {handing : Option (Nat × Option ReconnectPolicy)} (once : Once roster)
    (fresh : ∀ sess policy, handing = some (sess, policy) → ¬ roster.Holds sess)
    (stepped : RosterStep located roster handing next) : Once next := by
  cases stepped with
  | keep => exact once
  | takeOn sess state given known =>
      have unheld := fresh sess _ rfl
      obtain ⟨held, -⟩ | ⟨-, rfl⟩ := known
      · exact absurd held unheld
      · unfold Once
        rw [Roster.admitted, Multiset.map_cons, Multiset.add_cons, Multiset.nodup_cons]
        refine ⟨?_, once⟩
        intro member
        rcases Multiset.mem_add.mp member with registered | awaited
        · exact unheld (Or.inl registered)
        · obtain ⟨⟨other, carried⟩, entry, rfl⟩ := Multiset.mem_map.mp awaited
          exact unheld (Or.inr (Or.inr ⟨carried, entry⟩))
  | refuse sess given known =>
      obtain ⟨-, rfl⟩ | ⟨-, rfl⟩ := known
      · exact once
      · exact once
  | abandon entry rest awaited =>
      unfold Once at once
      rw [awaited, Multiset.map_cons, Multiset.add_cons] at once
      exact (Multiset.nodup_cons.mp once).2
  | register sess state rest awaited =>
      unfold Once at once
      rw [awaited, Multiset.map_cons, Multiset.add_cons, ← Multiset.cons_add] at once
      have moved : Multiset.ofList (roster.sessions ++ [sess]) =
          sess ::ₘ Multiset.ofList roster.sessions :=
        Multiset.coe_eq_coe.mpr List.perm_append_comm
      rw [← moved] at once
      exact once
  | remove sess =>
      refine Multiset.nodup_of_le (Multiset.add_le_add_right ?_) once
      exact Multiset.coe_le.mpr (List.erase_subperm sess _)
  | fail sess =>
      refine Multiset.nodup_of_le (Multiset.add_le_add_right ?_) once
      exact Multiset.coe_le.mpr (List.erase_subperm sess _)
  | clear => exact Multiset.nodup_of_le (Multiset.add_le_add_right (Multiset.zero_le _)) once

/-- Nobody hands over a session to the manager that is held already. -/
def HandsOverOnce (node : Node) : Action → Prop
  | .manage action _ => HandedOnce node.manager action
  | _ => True

theorem addressed_sublist_broadcasts {past : List Note} (sess : Nat)
    (distinct : ∀ value audience, .broadcast value audience ∈ past → audience.Nodup) :
    (past.foldl (addressed sess) []).Sublist (broadcasts past) := by
  induction past using List.reverseRecOn with
  | nil => exact .slnil
  | append_singleton past note inductionHypothesis =>
      have before := inductionHypothesis fun value audience member =>
        distinct value audience (List.mem_append_left _ member)
      rw [List.foldl_append, broadcasts, List.filterMap_append]
      cases note with
      | created other =>
          rw [List.foldl_cons, List.foldl_nil, addressed]
          split
          · exact List.nil_sublist _
          · exact before.trans (List.sublist_append_left _ _)
      | broadcast value audience =>
          have single := List.nodup_iff_count_le_one.mp
            (distinct value audience (List.mem_append_right _ (List.mem_singleton_self _))) sess
          exact before.append ((List.replicate_sublist_replicate value).mpr single)
      | sent other message => exact before.trans (List.sublist_append_left _ _)

theorem mem_of_mem_besides {past : List Note} {sess : Nat} {message : Message}
    (member : message ∈ past.foldl (besides sess) []) : .sent sess message ∈ past := by
  induction past using List.reverseRecOn with
  | nil => cases member
  | append_singleton past note inductionHypothesis =>
      rw [List.foldl_append, List.foldl_cons, List.foldl_nil] at member
      cases note with
      | created other =>
          simp only [besides] at member
          split at member
          · cases member
          · exact List.mem_append_left _ (inductionHypothesis member)
      | broadcast value audience => exact List.mem_append_left _ (inductionHypothesis member)
      | sent other last =>
          simp only [besides] at member
          split at member
          next same =>
            subst same
            rcases List.mem_append.mp member with earlier | now
            · exact List.mem_append_left _ (inductionHypothesis earlier)
            · cases List.mem_singleton.mp now
              exact List.mem_append_right _ (List.mem_singleton_self _)
          next => exact List.mem_append_left _ (inductionHypothesis member)

section Distinct

variable {schema : Schema} {table : Table UInt64} {node next : Node}

theorem once_of_step (once : Once node.manager.roster) {action : Action}
    (orderly : HandsOverOnce node action) (taken : step schema table node action = some next) :
    Once next.manager.roster := by
  cases action with
  | manage action limit =>
      obtain ⟨-, mapped⟩ := Option.ite_none_left_eq_some.mp taken
      obtain ⟨manager, moved, rfl⟩ := Option.map_eq_some_iff.mp mapped
      refine once_of_rosterStep once ?_ (step_roster moved)
      exact fun _ _ handing => unheld_of_handed moved orderly handing
  | broadcast value =>
      obtain ⟨-, begun⟩ := Option.ite_none_left_eq_some.mp taken
      cases begun
      exact once
  | visit =>
      simp only [step] at taken
      split at taken
      next => cases taken
      next =>
        split at taken
        next =>
          cases taken
          exact once
        next =>
          obtain ⟨moved, sending, rfl⟩ := Option.map_eq_some_iff.mp taken
          obtain ⟨pipe, -, rfl⟩ := convey_eq_some sending
          exact once
  | move sess move =>
      obtain ⟨pipe, -, rfl⟩ := convey_eq_some taken
      exact once

theorem audience_of_note {action : Action} {value : UInt64} {audience : List Nat}
    (noted : .broadcast value audience ∈ notes node action next) :
    audience = node.manager.sessions := by
  cases action with
  | manage action limit =>
      obtain ⟨sess, -, same⟩ := List.mem_map.mp noted
      cases same
  | broadcast other =>
      cases List.mem_singleton.mp noted
      rfl
  | visit => cases noted
  | move sess move =>
      obtain ⟨message, -, same⟩ := List.mem_map.mp noted
      cases same

end Distinct

/-- When no session is handed over twice at a time and no other application
message is sent on any session, all peers hear the numbers in one order, and
none hears a number more often than it was broadcast. -/
theorem broadcasts_in_one_order {schema : Schema} {table : Table UInt64} (lawful : schema.Lawful)
    (numbers : table.Lawful) {config : Config} {actions : List Action} {node : Node}
    {past : List Note}
    (executed : run (recorded (step schema table) notes) (listening config, []) actions =
      some (node, past))
    (orderly : Throughout (recorded (step schema table) notes)
      (fun observed action => HandsOverOnce observed.1 action) (listening config, []) actions)
    (quiet : ∀ sess message, .sent sess message ∈ past → message.isSystem = true) :
    ∀ sess, (heard table (node.links sess)).Sublist (broadcasts past) := by
  have empty : Once (listening config).manager.roster := Multiset.nodup_zero
  obtain ⟨-, distinct⟩ := run_invariant
    (fun observed => Once observed.1.manager.roster ∧
      ∀ value audience, .broadcast value audience ∈ observed.2 → audience.Nodup)
    (by
      rintro ⟨node, past⟩ action ⟨next, longer⟩ ⟨once, distinct⟩ orderly taken
      obtain ⟨next, moved, same⟩ := recorded_eq_some.mp taken
      cases same
      refine ⟨once_of_step once orderly moved, ?_⟩
      intro value audience noted
      rcases List.mem_append.mp noted with earlier | now
      · exact distinct value audience earlier
      · rw [audience_of_note now]
        exact Multiset.coe_nodup.mp (Multiset.nodup_of_le (Multiset.le_add_right _ _) once))
    ⟨empty, by simp⟩ orderly executed
  intro sess
  have reached := (reaches_of_run lawful executed).heard_sublist numbers
    fun message member => quiet sess message (mem_of_mem_besides member)
  exact reached.trans (addressed_sublist_broadcasts sess distinct)

/-- The number the first of two peers has read. -/
theorem broadcasts_in_one_order_two_peers :
    let message := number scalarTable 5
    let call : Network.Call :=
      ⟨0, (message.toMessageT flatbuffers).header, message.body.bytes, true⟩
    let actions : List Action := [.manage .asyncWaitForConnection 0, .manage (.incoming 7) 0,
      .manage (.accepted 7 1) 0, .manage (.serverHandshake 1 true) 0, .manage (.incoming 8) 0,
      .manage (.accepted 8 2) 0, .manage (.serverHandshake 2 true) 0, .broadcast 5, .visit, .visit,
      .move 1 (.runTask .writeNext), .move 1 (.runTask (.initiate call)),
      .move 1 (.transfer ⟨call, 0⟩ 56), .move 1 (.arrive 56), .move 1 .read, .move 1 .read,
      .move 1 .read]
    ∃ node past, run (recorded (step flatbuffers scalarTable) notes) (listening {}, []) actions =
        some (node, past) ∧
      heard scalarTable (node.links 1) = [5] ∧
      ∀ sess, (heard scalarTable (node.links sess)).Sublist (broadcasts past) := by
  intro message call actions
  have outcome : (run (recorded (step flatbuffers scalarTable) notes) (listening {}, [])
      actions).map (fun observed => (heard scalarTable (observed.1.links 1),
        observed.2.all fun note => match note with
          | .sent _ message => message.isSystem
          | _ => true)) = some ([5], true) := by decide +kernel
  obtain ⟨⟨node, past⟩, executed, outcome⟩ := Option.map_eq_some_iff.mp outcome
  obtain ⟨logged, quiet⟩ := Prod.mk.inj outcome
  refine ⟨node, past, executed, logged, ?_⟩
  refine broadcasts_in_one_order flatbuffers_lawful scalarTable_lawful executed
    (throughout_of_always (by simp [actions, HandsOverOnce, HandedOnce])) ?_
  exact fun sess message member => List.all_eq_true.mp quiet _ member

end SocketSL.Peer
