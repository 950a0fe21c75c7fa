import Mathlib.Tactic
import Slapstic.Text.Utf8

/-!
# Proofs/Text/Utf8 — the bytes of a text read back as the text

A character is spelled by a lead byte, which says how many bytes follow and holds the first bits of
the code point, and by bytes of six bits each.  The reader takes in one spelling at a time, whatever
comes after it (`decodeFrom_utf8EncodeChar`), so it gives a whole text back (`decode_encode`).
-/

namespace Slapstic.Text.Utf8

/-! ## One byte -/

/-- A byte of six bits. -/
def trail (n : Nat) : UInt8 := UInt8.ofNat (n % 0x40 + 0x80)

theorem toNat_trail (n : Nat) : (trail n).toNat = n % 64 + 128 := by
  rw [trail, UInt8.toNat_ofNat']
  omega

/-- **The bounds on the byte after a lead**, which keep out long spellings, surrogates and what lies
past the last plane, hold for six bits that continue a code point. -/
theorem trail_mem {low high : UInt8} {n : Nat} (low_le : low.toNat ≤ n % 64 + 128)
    (le_high : n % 64 + 128 ≤ high.toNat) : low ≤ trail n ∧ trail n ≤ high := by
  rw [UInt8.le_iff_toNat_le, UInt8.le_iff_toNat_le, toNat_trail]
  exact ⟨low_le, le_high⟩

/-- Six bits lie in the widest of these bounds. -/
theorem trail_mem_six (n : Nat) : 0x80 ≤ trail n ∧ trail n ≤ 0xBF := by
  refine trail_mem ?_ ?_ <;> simp only [UInt8.reduceToNat] <;> omega

/-- The last byte of a spelling completes its character. -/
theorem decodeFrom_last {low high : UInt8} {n : Nat} (mem : low ≤ trail n ∧ trail n ≤ high)
    (rest : List UInt8) : decodeFrom (some ⟨1, low, high, n / 64⟩) (trail n :: rest) =
      Char.ofNat n :: decodeFrom none rest := by
  have scalar : 64 * (n / 64) + (trail n).toNat % 64 = n := by
    rw [toNat_trail]
    omega
  rw [decodeFrom, if_pos mem]
  dsimp only
  rw [if_pos le_rfl, scalar]

/-- A byte in the middle of a spelling adds its bits. -/
theorem decodeFrom_more {owed : Nat} {low high : UInt8} {n : Nat}
    (mem : low ≤ trail n ∧ trail n ≤ high) (rest : List UInt8) :
    decodeFrom (some ⟨owed + 2, low, high, n / 64⟩) (trail n :: rest) =
      decodeFrom (some ⟨owed + 1, 0x80, 0xBF, n⟩) rest := by
  have scalar : 64 * (n / 64) + (trail n).toNat % 64 = n := by
    rw [toNat_trail]
    omega
  rw [decodeFrom, if_pos mem]
  dsimp only
  rw [if_neg (by omega), scalar]
  rfl

/-! ## Lead bytes -/

/-- The lead of two bytes. -/
theorem decodeFrom_lead_two {k : Nat} (low : 2 ≤ k) (high : k < 0x20) (rest : List UInt8) :
    decodeFrom none (UInt8.ofNat (k + 0xC0) :: rest) =
      decodeFrom (some ⟨1, 0x80, 0xBF, k⟩) rest := by
  interval_cases k <;> rfl

/-- The lead of three bytes, which may spell neither a short code point nor a surrogate. -/
theorem decodeFrom_lead_three {k : Nat} (lt : k < 0x10) (rest : List UInt8) :
    decodeFrom none (UInt8.ofNat (k + 0xE0) :: rest) =
      decodeFrom (some ⟨2, if k = 0 then 0xA0 else 0x80, if k = 0xD then 0x9F else 0xBF, k⟩)
        rest := by
  interval_cases k <;> rfl

/-- The lead of four bytes, which may spell neither a short code point nor one past the last. -/
theorem decodeFrom_lead_four {k : Nat} (le : k ≤ 4) (rest : List UInt8) :
    decodeFrom none (UInt8.ofNat (k + 0xF0) :: rest) =
      decodeFrom (some ⟨3, if k = 0 then 0x90 else 0x80, if k = 4 then 0x8F else 0xBF, k⟩)
        rest := by
  interval_cases k <;> rfl

/-! ## One character -/

section Spelling

variable {v : Nat} (rest : List UInt8)

theorem decodeFrom_one_byte (le : v ≤ 0x7F) :
    decodeFrom none (UInt8.ofNat v :: rest) = Char.ofNat v :: decodeFrom none rest := by
  have toNat_eq : (UInt8.ofNat v).toNat = v := by
    rw [UInt8.toNat_ofNat']
    omega
  have ascii : UInt8.ofNat v < 0x80 := by
    rw [UInt8.lt_iff_toNat_lt, toNat_eq]
    exact Nat.lt_succ_of_le le
  rw [decodeFrom, start, if_pos ascii, toNat_eq]
  rfl

theorem decodeFrom_two_bytes (low : 0x7F < v) (high : v ≤ 0x7FF) :
    decodeFrom none (UInt8.ofNat (v / 64 % 0x20 + 0xC0) :: trail v :: rest) =
      Char.ofNat v :: decodeFrom none rest := by
  rw [Nat.mod_eq_of_lt (by omega), decodeFrom_lead_two (by omega) (by omega),
    decodeFrom_last (trail_mem_six _)]

theorem decodeFrom_three_bytes (low : 0x7FF < v) (high : v ≤ 0xFFFF)
    (scalar : v < 0xD800 ∨ 0xDFFF < v) :
    decodeFrom none (UInt8.ofNat (v / 4096 % 0x10 + 0xE0) :: trail (v / 64) :: trail v :: rest) =
      Char.ofNat v :: decodeFrom none rest := by
  have bits : v / 4096 = v / 64 / 64 := by omega
  have mem : (if v / 64 / 64 = 0 then 0xA0 else 0x80) ≤ trail (v / 64) ∧
      trail (v / 64) ≤ if v / 64 / 64 = 0xD then 0x9F else 0xBF := by
    refine trail_mem ?_ ?_ <;> split <;> simp only [UInt8.reduceToNat] <;> omega
  rw [Nat.mod_eq_of_lt (by omega), decodeFrom_lead_three (by omega), bits,
    decodeFrom_more mem, decodeFrom_last (trail_mem_six _)]

theorem decodeFrom_four_bytes (low : 0xFFFF < v) (high : v < 0x110000) :
    decodeFrom none (UInt8.ofNat (v / 262144 % 0x08 + 0xF0) :: trail (v / 4096) ::
      trail (v / 64) :: trail v :: rest) = Char.ofNat v :: decodeFrom none rest := by
  have first : v / 262144 = v / 4096 / 64 := by omega
  have second : v / 4096 = v / 64 / 64 := by omega
  have mem : (if v / 4096 / 64 = 0 then 0x90 else 0x80) ≤ trail (v / 4096) ∧
      trail (v / 4096) ≤ if v / 4096 / 64 = 4 then 0x8F else 0xBF := by
    refine trail_mem ?_ ?_ <;> split <;> simp only [UInt8.reduceToNat] <;> omega
  rw [Nat.mod_eq_of_lt (by omega), decodeFrom_lead_four (by omega), first, decodeFrom_more mem,
    second, decodeFrom_more (trail_mem_six _),
    decodeFrom_last (trail_mem_six _)]

end Spelling

/-- **The reader takes in the spelling of a character**, whatever comes after it. -/
theorem decodeFrom_utf8EncodeChar (c : Char) (rest : List UInt8) :
    decodeFrom none (String.utf8EncodeChar c ++ rest) = c :: decodeFrom none rest := by
  have valid : c.val.toNat < 0xD800 ∨ 0xDFFF < c.val.toNat ∧ c.val.toNat < 0x110000 := c.valid
  have ofNat_eq : Char.ofNat c.val.toNat = c := c.ofNat_toNat
  rw [String.utf8EncodeChar]
  split
  next ascii => exact (decodeFrom_one_byte rest ascii).trans (by rw [ofNat_eq])
  next =>
  split
  next => exact (decodeFrom_two_bytes rest (by omega) (by omega)).trans (by rw [ofNat_eq])
  next =>
  split
  next =>
    exact (decodeFrom_three_bytes rest (by omega) (by omega) (by omega)).trans (by rw [ofNat_eq])
  next => exact (decodeFrom_four_bytes rest (by omega) (by omega)).trans (by rw [ofNat_eq])

/-! ## A text -/

theorem encode_eq (text : String) : encode text = text.toList.flatMap String.utf8EncodeChar := by
  rw [encode, String.toUTF8_eq_toByteArray, ← String.utf8Encode_toList, List.utf8Encode,
    List.toList_data_toByteArray]

theorem encode_append (first second : String) :
    encode (first ++ second) = encode first ++ encode second := by
  rw [encode_eq, String.toList_append, List.flatMap_append, ← encode_eq, ← encode_eq]

/-- **The bytes of a text read back as the text.** -/
@[simp] theorem decode_encode (text : String) : decode (encode text) = text := by
  have chars (cs : List Char) : decodeFrom none (cs.flatMap String.utf8EncodeChar) = cs := by
    induction cs with
    | nil => rfl
    | cons c rest ih => rw [List.flatMap_cons, decodeFrom_utf8EncodeChar, ih]
  rw [decode, encode_eq, chars, String.ofList_toList]

theorem encode_injective : Function.Injective encode :=
  Function.LeftInverse.injective decode_encode

end Slapstic.Text.Utf8
