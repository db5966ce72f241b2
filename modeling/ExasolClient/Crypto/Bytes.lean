-- SUMMARY: Numbers as bytes, the most significant first, and powers modulo a number.

/-!
# Bytes

A list of bytes is a number written in base 256, the most significant byte
first. Main statements: a number that fits its bytes is read back from them
(`ofBytes_toBytes`), and `powMod` is the power modulo a number (`powMod_eq`).
-/

namespace ExasolClient.Crypto

/-- The number that bytes stand for. -/
def ofBytes (bytes : List UInt8) : Nat :=
  bytes.foldl (fun n b => 256 * n + b.toNat) 0

/-- The last `k` bytes of a number, in front of `tail`. -/
def toBytesBefore (tail : List UInt8) : (k n : Nat) → List UInt8
  | 0, _ => tail
  | k + 1, n => toBytesBefore (UInt8.ofNat (n % 256) :: tail) k (n / 256)

/-- The last `k` bytes of a number. -/
def toBytes (k n : Nat) : List UInt8 := toBytesBefore [] k n

/-- How many bytes a number takes. -/
def byteLength (n : Nat) : Nat :=
  if n = 0 then 0 else n.log2 / 8 + 1

theorem length_toBytesBefore (tail : List UInt8) (k n : Nat) :
    (toBytesBefore tail k n).length = k + tail.length := by
  induction k generalizing tail n with
  | zero => simp [toBytesBefore]
  | succ k ih => simp [toBytesBefore, ih]; omega

@[simp]
theorem length_toBytes (k n : Nat) : (toBytes k n).length = k := by
  simp [toBytes, length_toBytesBefore]

theorem foldl_toBytesBefore (tail : List UInt8) (k n : Nat) (h : n < 1 <<< (8 * k)) :
    (toBytesBefore tail k n).foldl (fun n b => 256 * n + b.toNat) 0 =
      tail.foldl (fun n b => 256 * n + b.toNat) n := by
  induction k generalizing tail n with
  | zero =>
    have : n = 0 := by simpa using h
    simp [toBytesBefore, this]
  | succ k ih =>
    have hdiv : n / 256 < 1 <<< (8 * k) := by
      rw [Nat.div_lt_iff_lt_mul (by decide)]
      rwa [Nat.mul_succ, Nat.shiftLeft_add, Nat.shiftLeft_eq (1 <<< (8 * k))] at h
    have hbyte : (UInt8.ofNat (n % 256)).toNat = n % 256 := by
      simp [UInt8.toNat_ofNat']
    rw [toBytesBefore, ih _ _ hdiv, List.foldl_cons, hbyte, Nat.div_add_mod]

/-- A number that fits its bytes is read back from them. -/
theorem ofBytes_toBytes {k n : Nat} (h : n < 1 <<< (8 * k)) : ofBytes (toBytes k n) = n := by
  simp [ofBytes, toBytes, foldl_toBytesBefore [] k n h]

/-- The power of `b` modulo `m`, by squaring. -/
def powMod (m b : Nat) : (e : Nat) → Nat
  | 0 => 1 % m
  | e + 1 =>
    let half := powMod m (b * b % m) ((e + 1) / 2)
    if (e + 1) % 2 = 1 then half * b % m else half
termination_by e => e

theorem powMod_eq (m b e : Nat) : powMod m b e = Nat.pow b e % m := by
  rw [Nat.pow_eq]
  induction e using Nat.strongRecOn generalizing b with
  | ind e ih =>
    cases e with
    | zero => simp [powMod]
    | succ e =>
      rw [powMod]
      simp only [ih ((e + 1) / 2) (by omega), ← Nat.pow_mod]
      have hsq : (b * b) ^ ((e + 1) / 2) = b ^ (2 * ((e + 1) / 2)) := by
        rw [← Nat.pow_two, ← Nat.pow_mul]
      split
      · rename_i hodd
        have he : 2 * ((e + 1) / 2) + 1 = e + 1 := by omega
        rw [hsq, Nat.mod_mul_mod, ← Nat.pow_succ, Nat.succ_eq_add_one, he]
      · rename_i heven
        have he : 2 * ((e + 1) / 2) = e + 1 := by omega
        rw [hsq, he]

end ExasolClient.Crypto
