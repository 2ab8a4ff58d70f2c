import SocketSL.Message.Receive

/-!
# The asynchronous session reader

A session has at most one read outstanding.  `PendingRead` is that read
together with what its callback captured, `onRead` runs the callback, and an
`Outcome` is what a member function leaves behind: the read it issued, if any,
and what it did.  `receive` drives the chain over a stream that ends.
-/

namespace SocketSL.Session

open SocketSL.Endian

/-- The outstanding read, named after the function that issued it. -/
inductive PendingRead where
  | frameSize
  | header (size : Nat)
  | body (type : UInt8) (size : Nat) (isSystem : Bool)
  deriving DecidableEq

def PendingRead.size : PendingRead → Nat
  | .frameSize => 8
  | .header size => size
  | .body _ size _ => size

structure Outcome where
  reading : Option PendingRead
  events : List Event
  deriving DecidableEq

variable (schema : Schema)

def onError : Outcome := ⟨none, [.fail]⟩

def readFrameSize : Outcome := ⟨some .frameSize, [.read 8]⟩

def start : Outcome := readFrameSize

def parseHeader (header : List UInt8) : Option (UInt8 × Nat × Bool) :=
  if !schema.isValid header then
    none
  else
    some (schema.type header, (schema.bodySize header).toNat, schema.isSystem header)

def readHeader (maxMessageSize headerSize : Nat) : Outcome :=
  if maxMessageSize ≠ 0 ∧ headerSize > maxMessageSize then
    onError
  else
    ⟨some (.header headerSize), [.allocate headerSize, .read headerSize]⟩

def readBody (maxMessageSize : Nat) (type : UInt8) (bodySize : Nat) (isSystem : Bool) : Outcome :=
  if maxMessageSize ≠ 0 ∧ bodySize > maxMessageSize then
    onError
  else
    ⟨some (.body type bodySize isSystem), [.allocate bodySize, .read bodySize]⟩

def handleSysMessage (id : UInt8) : List Event :=
  if id = SystemId.hbPing.toId then [.reply (hbPong schema)] else []

/-- The callback of the outstanding read, given the bytes it read or `none`
when it failed. -/
def onRead (maxMessageSize : Nat) : PendingRead → Option (List UInt8) → Outcome
  | _, none => onError
  | .frameSize, some frameSize => readHeader maxMessageSize (fromLittle frameSize).toNat
  | .header _, some header =>
      match parseHeader schema header with
      | none => onError
      | some (type, bodySize, isSystem) => readBody maxMessageSize type bodySize isSystem
  | .body type _ isSystem, some body =>
      let handled := if isSystem then handleSysMessage schema type else [.deliver type body]
      { readFrameSize with events := handled ++ readFrameSize.events }

/-- What a session has done when its read chain has ended, and what it has not
read. -/
structure Run where
  events : List Event
  rest : List UInt8

/-- The reads still to come before the next frame starts. -/
def PendingRead.rank : PendingRead → Nat
  | .frameSize => 0
  | .header _ => 2
  | .body _ _ _ => 1

theorem onRead_rank (maxMessageSize : Nat) {reading next : PendingRead} {bytes : List UInt8}
    (issued : (onRead schema maxMessageSize reading (some bytes)).reading = some next) :
    next.rank < reading.rank ∨ reading = .frameSize ∧ next.rank = 2 := by
  cases reading with
  | frameSize =>
      simp only [onRead, readHeader] at issued
      split at issued
      · cases issued
      · cases issued
        exact Or.inr ⟨rfl, rfl⟩
  | header size =>
      simp only [onRead] at issued
      split at issued
      · cases issued
      · simp only [readBody] at issued
        split at issued
        · cases issued
        · cases issued
          exact Or.inl (by simp [PendingRead.rank])
  | body type size isSystem =>
      cases issued
      exact Or.inl (by simp [PendingRead.rank])

/-- Complete the outstanding read from a stream that ends, and every read the
callbacks issue in turn: a read yields exactly its bytes or fails. -/
def receive (maxMessageSize : Nat) (reading : PendingRead) (incoming : List UInt8) : Run :=
  if _enough : reading.size ≤ incoming.length then
    let outcome := onRead schema maxMessageSize reading (some (incoming.take reading.size))
    match _issued : outcome.reading with
    | none => ⟨outcome.events, incoming.drop reading.size⟩
    | some next =>
        let later := receive maxMessageSize next (incoming.drop reading.size)
        { later with events := outcome.events ++ later.events }
  else
    ⟨(onRead schema maxMessageSize reading none).events, incoming⟩
termination_by 3 * incoming.length + reading.rank
decreasing_by
  have shorter : (incoming.drop reading.size).length = incoming.length - reading.size := by simp
  rcases onRead_rank schema maxMessageSize _issued with less | ⟨rfl, rank⟩
  · omega
  · simp only [PendingRead.size, PendingRead.rank] at *
    omega

/-- `start`, and the read chain it sets off. -/
def run (maxMessageSize : Nat) (incoming : List UInt8) : Run :=
  match start.reading with
  | none => ⟨start.events, incoming⟩
  | some reading =>
      let later := receive schema maxMessageSize reading incoming
      { later with events := start.events ++ later.events }

section Receive

variable {maxMessageSize : Nat} {reading : PendingRead} {incoming bytes rest : List UInt8}

theorem receive_of_short (short : incoming.length < reading.size) :
    receive schema maxMessageSize reading incoming = ⟨[.fail], incoming⟩ := by
  rw [receive, dif_neg (Nat.not_le.mpr short)]
  cases reading <;> rfl

theorem receive_of_end (sized : bytes.length = reading.size)
    (ended : (onRead schema maxMessageSize reading (some bytes)).reading = none) :
    receive schema maxMessageSize reading (bytes ++ rest) =
      ⟨(onRead schema maxMessageSize reading (some bytes)).events, rest⟩ := by
  have taken : (bytes ++ rest).take reading.size = bytes := by simp [← sized]
  rw [receive, dif_pos (by simp [← sized])]
  dsimp only
  split
  next => simp [← sized]
  next next issued =>
    rw [taken, ended] at issued
    cases issued

theorem receive_of_next (next : PendingRead) (sized : bytes.length = reading.size)
    (issued : (onRead schema maxMessageSize reading (some bytes)).reading = some next) :
    receive schema maxMessageSize reading (bytes ++ rest) =
      let later := receive schema maxMessageSize next rest
      { later with
        events := (onRead schema maxMessageSize reading (some bytes)).events ++ later.events } := by
  have taken : (bytes ++ rest).take reading.size = bytes := by simp [← sized]
  rw [receive, dif_pos (by simp [← sized])]
  dsimp only
  split
  next ended =>
    rw [taken, issued] at ended
    cases ended
  next other issuedOther =>
    rw [taken, issued] at issuedOther
    cases issuedOther
    simp [← sized]

end Receive

end SocketSL.Session
