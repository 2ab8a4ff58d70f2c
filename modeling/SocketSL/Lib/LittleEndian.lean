import Mathlib.Data.Nat.ModEq
import Mathlib.Tactic.Ring

/-!
# Fixed-width little-endian naturals

`toBytes width value` is the object representation of an unsigned integer of
`width` bytes on a little-endian wire and `ofBytes` reads one back.
-/

namespace SocketSL.Lib.LittleEndian

/-- The `width` low bytes of a natural, least significant first. -/
def toBytes : Nat → Nat → List UInt8
  | 0, _ => []
  | width + 1, value => UInt8.ofNat value :: toBytes width (value / 256)

/-- The natural whose bytes are given least significant first. -/
def ofBytes : List UInt8 → Nat
  | [] => 0
  | byte :: rest => byte.toNat + 256 * ofBytes rest

@[simp]
theorem length_toBytes (width value : Nat) : (toBytes width value).length = width := by
  induction width generalizing value with
  | zero => rfl
  | succ width inductionHypothesis => simp [toBytes, inductionHypothesis]

theorem ofBytes_lt (bytes : List UInt8) : ofBytes bytes < 256 ^ bytes.length := by
  induction bytes with
  | nil => simp [ofBytes]
  | cons byte rest inductionHypothesis =>
      have byteBound : byte.toNat < 256 := byte.toNat_lt
      simp only [ofBytes, List.length_cons, pow_succ]
      omega

theorem ofBytes_toBytes {width value : Nat} (bounded : value < 256 ^ width) :
    ofBytes (toBytes width value) = value := by
  induction width generalizing value with
  | zero =>
      have zero : value = 0 := by simpa using bounded
      simp [toBytes, ofBytes, zero]
  | succ width inductionHypothesis =>
      have quotientBound : value / 256 < 256 ^ width := by
        rw [Nat.div_lt_iff_lt_mul (by decide)]
        simpa [pow_succ] using bounded
      have low : (UInt8.ofNat value).toNat = value % 256 := by
        simp
      rw [toBytes, ofBytes, inductionHypothesis quotientBound, low]
      exact Nat.mod_add_div value 256

theorem toBytes_ofBytes (bytes : List UInt8) :
    toBytes bytes.length (ofBytes bytes) = bytes := by
  induction bytes with
  | nil => rfl
  | cons byte rest inductionHypothesis =>
      have byteBound : byte.toNat < 256 := byte.toNat_lt
      have quotient : (byte.toNat + 256 * ofBytes rest) / 256 = ofBytes rest := by omega
      have low : UInt8.ofNat (byte.toNat + 256 * ofBytes rest) = byte := by
        apply UInt8.toNat_inj.mp
        rw [UInt8.toNat_ofNat']
        omega
      rw [List.length_cons, ofBytes, toBytes, quotient, inductionHypothesis, low]

end SocketSL.Lib.LittleEndian
