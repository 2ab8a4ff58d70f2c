import SocketSL.Lib.LittleEndian

/-!
# Byte order of the frame size

`endian::to_little` and `endian::from_little` convert between a native integer
and one whose bytes in memory are little-endian.  The code only ever copies the
converted integer to or from the wire, so both are modelled on those bytes.
-/

namespace SocketSL.Endian

open SocketSL.Lib

/-- The bytes in memory of `endian::to_little(value)`. -/
def toLittle (value : UInt64) : List UInt8 :=
  LittleEndian.toBytes 8 value.toNat

/-- `endian::from_little` of an integer read into memory byte by byte. -/
def fromLittle (bytes : List UInt8) : UInt64 :=
  UInt64.ofNat (LittleEndian.ofBytes bytes)

@[simp]
theorem length_toLittle (value : UInt64) : (toLittle value).length = 8 := by
  simp [toLittle]

@[simp]
theorem fromLittle_toLittle (value : UInt64) : fromLittle (toLittle value) = value := by
  have bounded : value.toNat < 256 ^ 8 := value.toNat_lt
  rw [fromLittle, toLittle, LittleEndian.ofBytes_toBytes bounded]
  exact UInt64.ofNat_toNat

theorem toLittle_fromLittle {bytes : List UInt8} (sized : bytes.length = 8) :
    toLittle (fromLittle bytes) = bytes := by
  have bounded : LittleEndian.ofBytes bytes < 2 ^ 64 := by
    have := LittleEndian.ofBytes_lt bytes
    rw [sized] at this
    simpa using this
  have value : (UInt64.ofNat (LittleEndian.ofBytes bytes)).toNat =
      LittleEndian.ofBytes bytes :=
    UInt64.toNat_ofNat_of_lt' bounded
  rw [fromLittle, toLittle, value, ← sized]
  exact LittleEndian.toBytes_ofBytes bytes

theorem toLittle_injective {first second : UInt64}
    (equal : toLittle first = toLittle second) : first = second := by
  rw [← fromLittle_toLittle first, equal, fromLittle_toLittle]

end SocketSL.Endian
