import SocketSL.Endian
import Mathlib.Data.Nat.Notation

/-!
# Serialised tables

FlatBuffers and the code flatc generates from `message.fbs` and `system.fbs`
are not part of the repository.  `Schema` collects what the repository calls of
them and `Schema.Lawful` what it relies on: a built `MessageHeader` passes the
verifier and its accessors give the fields back.

`flatbuffers` is the wire format of these three tables, laid out by the
builder's rules, with a verifier that checks the offsets and the accessors of
the generated code.
-/

namespace SocketSL

open SocketSL.Lib

/-- A `std::vector<std::uint8_t>`, whose size is a 64-bit `size_t`. -/
structure ByteVector where
  bytes : List UInt8
  bounded : bytes.length < 2 ^ 64
  deriving DecidableEq

/-- `size()` as the code sees it. -/
def ByteVector.size (vector : ByteVector) : UInt64 :=
  UInt64.ofNat vector.bytes.length

@[simp]
theorem ByteVector.toNat_size (vector : ByteVector) :
    vector.size.toNat = vector.bytes.length :=
  UInt64.toNat_ofNat_of_lt' vector.bounded

/-- What the repository uses of the generated code. -/
structure Schema where
  /-- `serialise(lift<CreateMessageHeader>(), id, body_size, is_system)` -/
  createMessageHeader : UInt8 → UInt64 → Bool → ByteVector
  /-- `is_valid<MessageHeader>` -/
  isValid : List UInt8 → Bool
  /-- `MessageHeader::type` -/
  type : List UInt8 → UInt8
  /-- `MessageHeader::body_size` -/
  bodySize : List UInt8 → UInt64
  /-- `MessageHeader::is_system` -/
  isSystem : List UInt8 → Bool
  /-- `serialise(lift<System::CreateHbPingRequest>())` -/
  createHbPingRequest : ByteVector
  /-- `serialise(lift<System::CreateHbPongRequest>())` -/
  createHbPongRequest : ByteVector

/-- A header the builder made verifies and reads back as it was written. -/
structure Schema.Lawful (schema : Schema) : Prop where
  isValid_create : ∀ type bodySize isSystem,
    schema.isValid (schema.createMessageHeader type bodySize isSystem).bytes = true
  type_create : ∀ type bodySize isSystem,
    schema.type (schema.createMessageHeader type bodySize isSystem).bytes = type
  bodySize_create : ∀ type bodySize isSystem,
    schema.bodySize (schema.createMessageHeader type bodySize isSystem).bytes = bodySize
  isSystem_create : ∀ type bodySize isSystem,
    schema.isSystem (schema.createMessageHeader type bodySize isSystem).bytes = isSystem

namespace Flatbuffers

/-- A field of a table under construction: its slot in the vtable and its
scalar, already little-endian; a default value is not stored. -/
structure Field where
  slot : Nat
  scalar : List UInt8
  isDefault : Bool

/-- The builder writes from the end of the buffer towards its front. -/
def alignTo (alignment : Nat) (buffer : List UInt8) : List UInt8 :=
  List.replicate ((alignment - buffer.length % alignment) % alignment) 0 ++ buffer

/-- Store the fields that are not default and record how far from the end each
one starts. -/
def addFields : List Field → List UInt8 → List (Nat × Nat) → List UInt8 × List (Nat × Nat)
  | [], buffer, locations => (buffer, locations)
  | field :: fields, buffer, locations =>
      if field.isDefault then
        addFields fields buffer locations
      else
        let pushed := field.scalar ++ alignTo field.scalar.length buffer
        addFields fields pushed ((field.slot, pushed.length) :: locations)

/-- The vtable: its own size, the table's size, then one offset per slot. -/
def vtable (tableStart : Nat) (locations : List (Nat × Nat)) : List UInt8 :=
  let slots := (locations.map fun location => location.1 + 1).foldl max 0
  LittleEndian.toBytes 2 (4 + 2 * slots) ++ LittleEndian.toBytes 2 tableStart ++
    (List.range slots).flatMap fun slot =>
      LittleEndian.toBytes 2 ((locations.lookup slot).elim 0 (tableStart - ·))

/-- `EndTable` followed by `Finish`: vtable offset, vtable and root offset. -/
def finish (fields : List Field) : List UInt8 :=
  let (stored, locations) := addFields fields [] []
  let body := alignTo 4 stored
  let tableStart := body.length + 4
  let offsets := vtable tableStart locations
  let table := offsets ++ LittleEndian.toBytes 4 offsets.length ++ body
  let alignment := fields.foldl
    (fun widest field => if field.isDefault then widest else max widest field.scalar.length) 4
  let padded := List.replicate
    ((alignment - (table.length + 4) % alignment) % alignment) 0 ++ table
  LittleEndian.toBytes 4 (padded.length + 4 - tableStart) ++ padded

/-- An unsigned scalar of `width` bytes at a position, when it is in bounds. -/
def scalarAt (buffer : List UInt8) (width position : Nat) : Option Nat :=
  if position + width ≤ buffer.length then
    some (LittleEndian.ofBytes ((buffer.drop position).take width))
  else
    none

/-- The position of the root table and of its vtable. -/
def rootTable (buffer : List UInt8) : Option (Nat × Nat) := do
  let table ← scalarAt buffer 4 0
  let back ← scalarAt buffer 4 table
  if table ≠ 0 ∧ table % 4 = 0 ∧ back ≤ table ∧ (table - back) % 2 = 0 then
    some (table, table - back)
  else
    none

/-- The scalar in a slot of the root table: `some none` for a field that is
not stored, `none` for an offset out of bounds. -/
def fieldAt (buffer : List UInt8) (slot width : Nat) : Option (Option Nat) := do
  let (table, offsets) ← rootTable buffer
  let offsetsSize ← scalarAt buffer 2 offsets
  if offsets + offsetsSize ≤ buffer.length ∧ offsetsSize % 2 = 0 then
    if 4 + 2 * slot < offsetsSize then
      let offset ← scalarAt buffer 2 (offsets + 4 + 2 * slot)
      if offset = 0 then
        some none
      else if (table + offset) % width = 0 then
        (scalarAt buffer width (table + offset)).map some
      else
        none
    else
      some none
  else
    none

/-- An accessor: the stored scalar or the default. -/
def scalarField (buffer : List UInt8) (slot width : Nat) : Nat :=
  ((fieldAt buffer slot width).getD none).getD 0

def messageHeaderFields (type : UInt8) (bodySize : UInt64) (isSystem : Bool) : List Field :=
  [⟨1, LittleEndian.toBytes 8 bodySize.toNat, bodySize == 0⟩,
    ⟨2, [if isSystem then 1 else 0], !isSystem⟩,
    ⟨0, [type], type == 0⟩]

theorem finish_header (b₀ b₁ b₂ b₃ b₄ b₅ b₆ b₇ type flag : UInt8)
    (noSize noFlag noType : Bool) :
    let buffer := finish [⟨1, [b₀, b₁, b₂, b₃, b₄, b₅, b₆, b₇], noSize⟩,
      ⟨2, [flag], noFlag⟩, ⟨0, [type], noType⟩]
    fieldAt buffer 0 1 = some (if noType then none else some (LittleEndian.ofBytes [type])) ∧
      fieldAt buffer 1 8 = some (if noSize then none
        else some (LittleEndian.ofBytes [b₀, b₁, b₂, b₃, b₄, b₅, b₆, b₇])) ∧
      fieldAt buffer 2 1 = some (if noFlag then none
        else some (LittleEndian.ofBytes [flag])) ∧
      buffer.length < 2 ^ 64 := by
  cases noSize <;> cases noFlag <;> cases noType <;>
    simp [finish, addFields, vtable, alignTo, LittleEndian.toBytes, List.range_succ,
      List.lookup_cons, List.replicate, fieldAt, rootTable, scalarAt, LittleEndian.ofBytes]

theorem finish_messageHeaderFields (type : UInt8) (bodySize : UInt64) (isSystem : Bool) :
    let buffer := finish (messageHeaderFields type bodySize isSystem)
    fieldAt buffer 0 1 = some (if type == 0 then none else some type.toNat) ∧
      fieldAt buffer 1 8 = some (if bodySize == 0 then none else some bodySize.toNat) ∧
      fieldAt buffer 2 1 = some (if isSystem then some 1 else none) ∧
      buffer.length < 2 ^ 64 := by
  have sizeBytes : LittleEndian.ofBytes (LittleEndian.toBytes 8 bodySize.toNat) =
      bodySize.toNat :=
    LittleEndian.ofBytes_toBytes bodySize.toNat_lt
  have layout := finish_header (UInt8.ofNat bodySize.toNat)
    (UInt8.ofNat (bodySize.toNat / 256)) (UInt8.ofNat (bodySize.toNat / 256 / 256))
    (UInt8.ofNat (bodySize.toNat / 256 / 256 / 256))
    (UInt8.ofNat (bodySize.toNat / 256 / 256 / 256 / 256))
    (UInt8.ofNat (bodySize.toNat / 256 / 256 / 256 / 256 / 256))
    (UInt8.ofNat (bodySize.toNat / 256 / 256 / 256 / 256 / 256 / 256))
    (UInt8.ofNat (bodySize.toNat / 256 / 256 / 256 / 256 / 256 / 256 / 256))
    type (if isSystem then 1 else 0) (bodySize == 0) (!isSystem) (type == 0)
  simp only [LittleEndian.toBytes] at sizeBytes
  rw [sizeBytes] at layout
  obtain ⟨typeField, sizeField, flagField, bounded⟩ := layout
  refine ⟨typeField, sizeField, ?_, bounded⟩
  refine flagField.trans ?_
  cases isSystem <;> rfl

end Flatbuffers

open Flatbuffers in
/-- The FlatBuffers encoding of the tables of `message.fbs` and `system.fbs`. -/
def flatbuffers : Schema where
  createMessageHeader type bodySize isSystem :=
    ⟨finish (messageHeaderFields type bodySize isSystem),
      (finish_messageHeaderFields type bodySize isSystem).2.2.2⟩
  isValid buffer :=
    (fieldAt buffer 0 1).isSome && (fieldAt buffer 1 8).isSome && (fieldAt buffer 2 1).isSome
  type buffer := UInt8.ofNat (scalarField buffer 0 1)
  bodySize buffer := UInt64.ofNat (scalarField buffer 1 8)
  isSystem buffer := scalarField buffer 2 1 != 0
  createHbPingRequest := ⟨finish [], by decide⟩
  createHbPongRequest := ⟨finish [], by decide⟩

theorem flatbuffers_lawful : flatbuffers.Lawful where
  isValid_create type bodySize isSystem := by
    obtain ⟨typeField, sizeField, flagField, -⟩ :=
      Flatbuffers.finish_messageHeaderFields type bodySize isSystem
    simp [flatbuffers, typeField, sizeField, flagField]
  type_create type bodySize isSystem := by
    have typeField := (Flatbuffers.finish_messageHeaderFields type bodySize isSystem).1
    by_cases isDefault : type = 0
    · subst isDefault
      simp [flatbuffers, Flatbuffers.scalarField, typeField]
    · simp [flatbuffers, Flatbuffers.scalarField, typeField, isDefault]
  bodySize_create type bodySize isSystem := by
    have sizeField := (Flatbuffers.finish_messageHeaderFields type bodySize isSystem).2.1
    by_cases isDefault : bodySize = 0
    · subst isDefault
      simp [flatbuffers, Flatbuffers.scalarField, sizeField]
    · simp [flatbuffers, Flatbuffers.scalarField, sizeField, isDefault]
  isSystem_create type bodySize isSystem := by
    have flagField := (Flatbuffers.finish_messageHeaderFields type bodySize isSystem).2.2.1
    cases isSystem <;> simp [flatbuffers, Flatbuffers.scalarField, flagField]

/-- The header of a 4-byte message of type 42, as the builder lays it out. -/
example : (flatbuffers.createMessageHeader 42 4 false).bytes =
    [16, 0, 0, 0, 0, 0, 0, 0, 8, 0, 16, 0, 7, 0, 8, 0, 8, 0, 0, 0, 0, 0, 0, 42,
      4, 0, 0, 0, 0, 0, 0, 0] := by decide

end SocketSL
