import SocketSL.Serialisation
import Mathlib.Data.List.Nodup

/-!
# The message router

A `message_info` pairs a message id with the handler for the table its body is
made of.  `message_router::dispatch` folds `process` over its handlers with
`||`, so the first handler that answers true ends the search.  What a handler
acts on is left open.

`Table` collects what the repository uses of a table that flatc generates.  All
the tables of the example schemas have a single `uint64` field.
-/

namespace SocketSL

open SocketSL.Lib

structure Table (Body : Type) where
  /-- `serialise(lift<CreateBody>(), ...)` -/
  serialise : Body → ByteVector
  /-- `is_valid<Body>` -/
  isValid : List UInt8 → Bool
  /-- `deserialise<Body>`, with all its accessors -/
  deserialise : List UInt8 → Body

/-- A table the builder made verifies and reads back as it was written. -/
structure Table.Lawful {Body : Type} (table : Table Body) : Prop where
  isValid_serialise : ∀ value, table.isValid (table.serialise value).bytes = true
  deserialise_serialise : ∀ value, table.deserialise (table.serialise value).bytes = value

/-- What a reader makes of a body: nothing unless it verifies. -/
def Table.decode {Body : Type} (table : Table Body) (body : List UInt8) : Option Body :=
  if table.isValid body then some (table.deserialise body) else none

@[simp]
theorem Table.Lawful.decode_serialise {Body : Type} {table : Table Body} (lawful : table.Lawful)
    (value : Body) : table.decode (table.serialise value).bytes = some value := by
  simp [Table.decode, lawful.isValid_serialise, lawful.deserialise_serialise]

namespace Flatbuffers

theorem finish_scalar (b₀ b₁ b₂ b₃ b₄ b₅ b₆ b₇ : UInt8) (isDefault : Bool) :
    let buffer := finish [⟨0, [b₀, b₁, b₂, b₃, b₄, b₅, b₆, b₇], isDefault⟩]
    fieldAt buffer 0 8 = some (if isDefault then none
        else some (LittleEndian.ofBytes [b₀, b₁, b₂, b₃, b₄, b₅, b₆, b₇])) ∧
      buffer.length < 2 ^ 64 := by
  cases isDefault <;>
    simp [finish, addFields, vtable, alignTo, LittleEndian.toBytes, List.range_succ,
      List.lookup_cons, List.replicate, fieldAt, rootTable, scalarAt, LittleEndian.ofBytes]

theorem finish_key (key : UInt64) :
    let buffer := finish [⟨0, LittleEndian.toBytes 8 key.toNat, key == 0⟩]
    fieldAt buffer 0 8 = some (if key == 0 then none else some key.toNat) ∧
      buffer.length < 2 ^ 64 := by
  have keyBytes : LittleEndian.ofBytes (LittleEndian.toBytes 8 key.toNat) = key.toNat :=
    LittleEndian.ofBytes_toBytes key.toNat_lt
  have layout := finish_scalar (UInt8.ofNat key.toNat) (UInt8.ofNat (key.toNat / 256))
    (UInt8.ofNat (key.toNat / 256 / 256)) (UInt8.ofNat (key.toNat / 256 / 256 / 256))
    (UInt8.ofNat (key.toNat / 256 / 256 / 256 / 256))
    (UInt8.ofNat (key.toNat / 256 / 256 / 256 / 256 / 256))
    (UInt8.ofNat (key.toNat / 256 / 256 / 256 / 256 / 256 / 256))
    (UInt8.ofNat (key.toNat / 256 / 256 / 256 / 256 / 256 / 256 / 256)) (key == 0)
  simp only [LittleEndian.toBytes] at keyBytes
  rw [keyBytes] at layout
  exact layout

end Flatbuffers

open Flatbuffers in
/-- The tables `TestRequest`, `TestResponse` and `RandomNumber`: one `uint64`. -/
def scalarTable : Table UInt64 where
  serialise key := ⟨finish [⟨0, LittleEndian.toBytes 8 key.toNat, key == 0⟩], (finish_key key).2⟩
  isValid buffer := (fieldAt buffer 0 8).isSome
  deserialise buffer := UInt64.ofNat (scalarField buffer 0 8)

theorem scalarTable_lawful : scalarTable.Lawful where
  isValid_serialise key := by
    have field := (Flatbuffers.finish_key key).1
    simp [scalarTable, field]
  deserialise_serialise key := by
    simp only [scalarTable, Flatbuffers.scalarField, (Flatbuffers.finish_key key).1]
    by_cases isDefault : key = 0
    · simp [isDefault]
    · simp [isDefault]

structure MessageInfo (Session State : Type) where
  Body : Type
  table : Table Body
  id : UInt8
  handler : Session → Body → State → State

variable {Session State : Type}

namespace MessageInfo

def process (info : MessageInfo Session State) (actualId : UInt8) (session : Session)
    (body : List UInt8) (state : State) : Bool × State :=
  if actualId ≠ info.id then
    (false, state)
  else if !info.table.isValid body then
    (true, state)
  else
    (true, info.handler session (info.table.deserialise body) state)

/-- What a message with the handler's id does to the state. -/
def act (info : MessageInfo Session State) (session : Session) (body : List UInt8)
    (state : State) : State :=
  match info.table.decode body with
  | none => state
  | some value => info.handler session value state

theorem process_of_ne {info : MessageInfo Session State} {actualId : UInt8}
    (different : info.id ≠ actualId) (session : Session) (body : List UInt8) (state : State) :
    info.process actualId session body state = (false, state) :=
  if_pos different.symm

theorem process_of_eq {info : MessageInfo Session State} {actualId : UInt8}
    (same : info.id = actualId) (session : Session) (body : List UInt8) (state : State) :
    info.process actualId session body state = (true, info.act session body state) := by
  subst same
  cases valid : info.table.isValid body with
  | true => simp [process, act, Table.decode, valid]
  | false => simp [process, act, Table.decode, valid]

end MessageInfo

namespace MessageRouter

/-- `(Handlers.process(id, session, body) || ...)` -/
def dispatch : List (MessageInfo Session State) → UInt8 → Session → List UInt8 → State →
    Bool × State
  | [], _, _, _, state => (false, state)
  | info :: handlers, id, session, body, state =>
      match info.process id session body state with
      | (true, next) => (true, next)
      | (false, next) => dispatch handlers id session body next

/-- The handler a message with this id is meant for: the first one registered. -/
def route (handlers : List (MessageInfo Session State)) (id : UInt8) :
    Option (MessageInfo Session State) :=
  handlers.find? fun info => info.id == id

variable {handlers : List (MessageInfo Session State)} {id : UInt8}

theorem route_eq_none_iff : route handlers id = none ↔ ∀ info ∈ handlers, info.id ≠ id := by
  simp [route]

theorem route_append {before after : List (MessageInfo Session State)}
    {info : MessageInfo Session State} (first : ∀ other ∈ before, other.id ≠ id)
    (same : info.id = id) : route (before ++ info :: after) id = some info := by
  have none : before.find? (fun info => info.id == id) = none := by simpa using first
  simp [route, List.find?_append, none, same]

theorem mem_of_route {info : MessageInfo Session State} (routed : route handlers id = some info) :
    info ∈ handlers ∧ info.id = id := by
  have found := List.find?_some routed
  exact ⟨List.mem_of_find?_eq_some routed, by simpa using found⟩

/-- Handlers with ids of their own are found in whatever order they stand. -/
theorem route_perm {others : List (MessageInfo Session State)} (reordered : others.Perm handlers)
    (distinct : (handlers.map MessageInfo.id).Nodup) : route others id = route handlers id := by
  have unique : ∀ first ∈ handlers, ∀ second ∈ handlers, first.id = second.id → first = second :=
    List.inj_on_of_nodup_map distinct
  cases routed : route handlers id with
  | none =>
      rw [route_eq_none_iff] at routed ⊢
      intro info member
      exact routed info (reordered.subset member)
  | some info =>
      obtain ⟨member, same⟩ := mem_of_route routed
      cases again : route others id with
      | none => exact absurd same (route_eq_none_iff.mp again info (reordered.symm.subset member))
      | some other =>
          obtain ⟨otherMember, otherSame⟩ := mem_of_route again
          rw [unique other (reordered.subset otherMember) info member (otherSame.trans same.symm)]

/-- Dispatching is one lookup: the first handler with the id decides. -/
theorem dispatch_eq_route (handlers : List (MessageInfo Session State)) (id : UInt8)
    (session : Session) (body : List UInt8) (state : State) :
    dispatch handlers id session body state =
      ((route handlers id).isSome,
        (route handlers id).elim state fun info => info.act session body state) := by
  induction handlers with
  | nil => rfl
  | cons info handlers inductionHypothesis =>
      by_cases same : info.id = id
      · have routed : route (info :: handlers) id = some info := by
          simp [route, same]
        rw [dispatch, MessageInfo.process_of_eq same, routed]
        rfl
      · have routed : route (info :: handlers) id = route handlers id := by
          simp [route, same]
        rw [dispatch, MessageInfo.process_of_ne same, routed]
        exact inductionHypothesis

/-- A message is reported as handled exactly when its id is registered.  Of the
handlers with that id the first decides: it is called if the body verifies, and
otherwise the message is dropped without asking the others.  Handlers with ids
of their own may stand in any order. -/
theorem dispatch_first_registered (handlers : List (MessageInfo Session State)) (id : UInt8)
    (session : Session) (body : List UInt8) (state : State) :
    ((dispatch handlers id session body state).1 = true ↔ ∃ info ∈ handlers, info.id = id) ∧
      ((∀ info ∈ handlers, info.id ≠ id) →
        (dispatch handlers id session body state).2 = state) ∧
      (∀ before info after, handlers = before ++ info :: after →
        (∀ other ∈ before, other.id ≠ id) → info.id = id →
          (dispatch handlers id session body state).2 =
            if info.table.isValid body then
              info.handler session (info.table.deserialise body) state
            else state) ∧
      (∀ others, others.Perm handlers → (handlers.map MessageInfo.id).Nodup →
        dispatch others id session body state = dispatch handlers id session body state) := by
  rw [dispatch_eq_route]
  refine ⟨?_, ?_, ?_, ?_⟩
  · rw [Option.isSome_iff_ne_none, ne_eq, route_eq_none_iff]
    simp
  · intro unregistered
    rw [route_eq_none_iff.mpr unregistered]
    rfl
  · rintro before info after rfl first same
    rw [route_append first same]
    cases valid : info.table.isValid body with
    | true => simp [MessageInfo.act, Table.decode, valid]
    | false => simp [MessageInfo.act, Table.decode, valid]
  · intro others reordered distinct
    rw [dispatch_eq_route, route_perm reordered distinct]

end MessageRouter

end SocketSL
