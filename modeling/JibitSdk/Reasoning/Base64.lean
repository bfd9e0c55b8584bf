import Mathlib.Data.List.Basic
import Mathlib.Tactic.Common

/-!
# Base64

Byte strings as 6-bit values: three bytes are four values, one or two bytes at the end are two or
three values, whose spare low bits are zero.
-/

namespace JibitSdk.Reasoning.Base64

/-! ## 1. Bytes and 6-bit values -/

/-- The 6-bit values of a byte string, from the high bits down. -/
def sextets : List UInt8 → List ℕ
  | [] => []
  | [a] => [a.toNat / 4, a.toNat % 4 * 16]
  | [a, b] => [a.toNat / 4, a.toNat % 4 * 16 + b.toNat / 16, b.toNat % 16 * 4]
  | a :: b :: c :: rest =>
    a.toNat / 4 :: (a.toNat % 4 * 16 + b.toNat / 16) :: (b.toNat % 16 * 4 + c.toNat / 64) ::
      c.toNat % 64 :: sextets rest

/-- The bytes 6-bit values stand for; bits that fill no byte are dropped. -/
def octets : List ℕ → List UInt8
  | v :: w :: x :: y :: rest =>
    .ofNat (v * 4 + w / 16) :: .ofNat (w % 16 * 16 + x / 4) ::
      .ofNat (x % 4 * 64 + y) :: octets rest
  | [v, w, x] => [.ofNat (v * 4 + w / 16), .ofNat (w % 16 * 16 + x / 4)]
  | [v, w] => [.ofNat (v * 4 + w / 16)]
  | _ => []

theorem sextets_lt (bytes : List UInt8) : ∀ v ∈ sextets bytes, v < 64 := by
  induction bytes using sextets.induct with
  | case1 => simp [sextets]
  | case2 a =>
    have ha := a.toNat_lt
    intro v hv
    simp only [sextets, List.mem_cons, List.not_mem_nil, or_false] at hv
    omega
  | case3 a b =>
    have ha := a.toNat_lt
    have hb := b.toNat_lt
    intro v hv
    simp only [sextets, List.mem_cons, List.not_mem_nil, or_false] at hv
    omega
  | case4 a b c rest ih =>
    have ha := a.toNat_lt
    have hb := b.toNat_lt
    have hc := c.toNat_lt
    intro v hv
    simp only [sextets, List.mem_cons] at hv
    rcases hv with h | h | h | h | h
    · omega
    · omega
    · omega
    · omega
    · exact ih v h

theorem length_sextets (bytes : List UInt8) :
    (sextets bytes).length = (4 * bytes.length + 2) / 3 := by
  induction bytes using sextets.induct with
  | case1 => rfl
  | case2 a => simp [sextets]
  | case3 a b => simp [sextets]
  | case4 a b c rest ih =>
    simp only [sextets, List.length_cons, ih]
    omega

/-! ## 2. The round trip -/

/-- A byte is the number it was cut from. -/
theorem ofNat_of_eq {a : UInt8} {n : ℕ} (h : n = a.toNat) : UInt8.ofNat n = a := by
  rw [h, UInt8.ofNat_toNat]

theorem octets_sextets (bytes : List UInt8) : octets (sextets bytes) = bytes := by
  induction bytes using sextets.induct with
  | case1 => rfl
  | case2 a =>
    have hfirst : a.toNat / 4 * 4 + a.toNat % 4 * 16 / 16 = a.toNat := by omega
    rw [sextets, octets, ofNat_of_eq hfirst]
  | case3 a b =>
    have hb := b.toNat_lt
    have hfirst : a.toNat / 4 * 4 + (a.toNat % 4 * 16 + b.toNat / 16) / 16 = a.toNat := by omega
    have hsecond :
        (a.toNat % 4 * 16 + b.toNat / 16) % 16 * 16 + b.toNat % 16 * 4 / 4 = b.toNat := by omega
    rw [sextets, octets, ofNat_of_eq hfirst, ofNat_of_eq hsecond]
  | case4 a b c rest ih =>
    have hb := b.toNat_lt
    have hc := c.toNat_lt
    have hfirst : a.toNat / 4 * 4 + (a.toNat % 4 * 16 + b.toNat / 16) / 16 = a.toNat := by omega
    have hsecond : (a.toNat % 4 * 16 + b.toNat / 16) % 16 * 16 +
        (b.toNat % 16 * 4 + c.toNat / 64) / 4 = b.toNat := by omega
    have hthird : (b.toNat % 16 * 4 + c.toNat / 64) % 4 * 64 + c.toNat % 64 = c.toNat := by omega
    rw [sextets, octets, ofNat_of_eq hfirst, ofNat_of_eq hsecond, ofNat_of_eq hthird, ih]

end JibitSdk.Reasoning.Base64
