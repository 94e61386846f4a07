import Atolla.Lib.Loop
import Mathlib.Data.Nat.Bitwise

/-!
# The machine under the code

- memory is a list of bytes, an address is the bytes from it to the end of its object, and an access past that end is
  a fault (`readByte`, `readBytes`, `writeBytes`);
- every C function is a `Run`: it returns, or stops at a `Fault`. Assertions are compiled in;
- `size_t` is 64 bits wide (`sizeT`);
- what C leaves to the platform is a `Host`: the byte order and the contents of fresh memory.
-/

set_option autoImplicit false

namespace Atolla

abbrev Bytes := List UInt8

/-- What keeps a C function from returning. -/
inductive Fault where
  /-- An `assert` fails. -/
  | assertion
  /-- An access outside of an object. -/
  | outOfBounds
  /-- A division or a remainder by zero. -/
  | divByZero
  /-- A read of a field that was never written. -/
  | uninitialised
  /-- A loop that never ends. -/
  | diverges
  deriving DecidableEq, Repr

/-- A run of a C function. -/
abbrev Run (α : Type) := Except Fault α

/-- The platform the code is compiled for. -/
structure Host where
  /-- The more significant byte of a 16 bit integer has the lower address. -/
  bigEndian : Bool
  /-- The byte at an offset of freshly allocated memory. -/
  junk : Nat → UInt8

/-- A host for examples. -/
def exampleHost : Host := ⟨false, fun _ => 0⟩

/-- `assert` of `test/assert.h`. -/
def assert (p : Prop) [Decidable p] : Run Unit := if p then .ok () else .error .assertion

theorem assert_pos {p : Prop} [Decidable p] (h : p) : assert p = .ok () := if_pos h

theorem assert_neg {p : Prop} [Decidable p] (h : ¬p) : assert p = .error .assertion := if_neg h

/-! ## Sizes -/

/-- A number as a `size_t`. -/
def sizeT (n : Nat) : Nat := n % 2 ^ 64

theorem sizeT_of_lt {n : Nat} (h : n < 2 ^ 64) : sizeT n = n := Nat.mod_eq_of_lt h

/-- `PTRDIFF_MAX`: `malloc` returns no object of more bytes. -/
def ptrdiffMax : Nat := 2 ^ 63 - 1

/-- `a % b` on `size_t`. -/
def sizeMod (a b : Nat) : Run Nat := if b = 0 then .error .divByZero else .ok (a % b)

theorem sizeMod_pos {a b : Nat} (h : 0 < b) : sizeMod a b = .ok (a % b) := if_neg (by omega)

/-! ## Memory -/

/-- The object a `malloc` returns. -/
def malloc (H : Host) (n : Nat) : Bytes := (List.range n).map H.junk

@[simp] theorem length_malloc (H : Host) (n : Nat) : (malloc H n).length = n := by simp [malloc]

/-- `p[i]`. -/
def readByte (p : Bytes) (i : Nat) : Run UInt8 :=
  match p[i]? with
  | some b => .ok b
  | none => .error .outOfBounds

/-- The source of a `memcpy` of `n` bytes. -/
def readBytes (p : Bytes) (n : Nat) : Run Bytes := if n ≤ p.length then .ok (p.take n) else .error .outOfBounds

/-- The target object of a `memcpy` to `p + off`, after it. -/
def writeBytes (p : Bytes) (off : Nat) (x : Bytes) : Run Bytes :=
  if off + x.length ≤ p.length then .ok (p.take off ++ x ++ p.drop (off + x.length)) else .error .outOfBounds

theorem readByte_of_lt {p : Bytes} {i : Nat} (h : i < p.length) : readByte p i = .ok p[i] := by
  simp [readByte, List.getElem?_eq_getElem h]

theorem readByte_of_le {p : Bytes} {i : Nat} (h : p.length ≤ i) : readByte p i = .error .outOfBounds := by
  simp [readByte, List.getElem?_eq_none h]

theorem readBytes_of_le {p : Bytes} {n : Nat} (h : n ≤ p.length) : readBytes p n = .ok (p.take n) := if_pos h

theorem readBytes_of_lt {p : Bytes} {n : Nat} (h : p.length < n) : readBytes p n = .error .outOfBounds :=
  if_neg (by omega)

theorem writeBytes_of_le {p x : Bytes} {off : Nat} (h : off + x.length ≤ p.length) :
    writeBytes p off x = .ok (p.take off ++ x ++ p.drop (off + x.length)) := if_pos h

/-! ## 16 bit integers -/

/-- `mem_uint16_byte_low`. -/
def memUint16ByteLow (n : Nat) : UInt8 := UInt8.ofNat (n % 65536 % 256)

/-- `mem_uint16_byte_high`. -/
def memUint16ByteHigh (n : Nat) : UInt8 := UInt8.ofNat (n % 65536 / 256)

/-- The value of a `uint16_t` whose bytes in memory are `b₀` and `b₁`. -/
def nativeUint16 (H : Host) (b₀ b₁ : UInt8) : UInt16 :=
  if H.bigEndian then UInt16.ofNat (b₀.toNat * 256 + b₁.toNat) else UInt16.ofNat (b₁.toNat * 256 + b₀.toNat)

/-- `IS_BIG_ENDIAN`: a look at the two bytes `00 ff`. -/
def isBigEndian (H : Host) : Bool := nativeUint16 H 0 0xff < 0x100

/-- `mem_uint16le_from`. The preprocessor branches are the two outcomes of the run-time test. -/
def memUint16leFrom (H : Host) (x : UInt16) : UInt16 :=
  if isBigEndian H then UInt16.ofNat (x.toNat <<< 8 ||| (x.toNat &&& 0xFFFF) >>> 8) else x

/-- `memcpy` of two bytes at `p` into a `uint16_t`. -/
def loadUint16 (H : Host) (p : Bytes) : Run UInt16 := do
  let b₀ ← readByte p 0
  let b₁ ← readByte p 1
  return nativeUint16 H b₀ b₁

/-- The value of two bytes in little endian order. -/
def le16 (b₀ b₁ : UInt8) : UInt16 := UInt16.ofNat (b₀.toNat + 256 * b₁.toNat)

theorem isBigEndian_eq (H : Host) : isBigEndian H = H.bigEndian := by
  unfold isBigEndian nativeUint16
  cases H.bigEndian <;> decide

/-- Swapping the two bytes of a 16 bit number. -/
theorem swap_bytes {a b : Nat} (ha : a < 256) (hb : b < 256) :
    ((a * 256 + b) <<< 8 ||| ((a * 256 + b) &&& 0xFFFF) >>> 8) % 65536 = b * 256 + a := by
  have hmask : (a * 256 + b) &&& 0xFFFF = a * 256 + b := by
    rw [show (0xFFFF : Nat) = 2 ^ 16 - 1 from rfl, Nat.and_two_pow_sub_one_eq_mod]
    exact Nat.mod_eq_of_lt (by omega)
  have hshift : (a * 256 + b) >>> 8 = a := by rw [Nat.shiftRight_eq_div_pow]; omega
  rw [hmask, hshift, ← Nat.shiftLeft_add_eq_or_of_lt (by omega), Nat.shiftLeft_eq]
  omega

/-- **Loading is little endian** on hosts of either byte order. -/
theorem memUint16leFrom_native (H : Host) (b₀ b₁ : UInt8) : memUint16leFrom H (nativeUint16 H b₀ b₁) = le16 b₀ b₁ := by
  have h₀ := b₀.toNat_lt
  have h₁ := b₁.toNat_lt
  unfold memUint16leFrom nativeUint16 le16
  rw [isBigEndian_eq]
  cases H.bigEndian with
  | false => simp [Nat.add_comm, Nat.mul_comm]
  | true =>
    apply UInt16.toNat_inj.mp
    have hlt : b₀.toNat * 256 + b₁.toNat < 65536 := by omega
    have := swap_bytes h₀ h₁
    simp only [if_true, UInt16.toNat_ofNat', Nat.mod_eq_of_lt hlt]
    omega

/-- The two bytes of a number are its little endian bytes. -/
theorem le16_bytes (n : Nat) : le16 (memUint16ByteLow n) (memUint16ByteHigh n) = UInt16.ofNat n := by
  apply UInt16.toNat_inj.mp
  simp only [le16, memUint16ByteLow, memUint16ByteHigh, UInt16.toNat_ofNat', UInt8.toNat_ofNat']
  omega

end Atolla
