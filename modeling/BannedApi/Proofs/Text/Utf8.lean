import Mathlib.Data.List.Basic
import BannedApi.Text.Utf8

/-!
Encoding and decoding: the bytes of a text are decoded into the text.

A character takes one to four bytes. The lead byte promises the others and narrows the range of the
first of them, so that no character can be written in more bytes than it needs and no half of a pair
can be written at all; the ranges in `lead` are exactly those that characters reach.
-/
namespace BannedApi.Text.Utf8

/-- The bytes of characters. -/
def encode (cs : List Char) : List UInt8 := cs.flatMap String.utf8EncodeChar

theorem encode_toList (s : String) : encode s.toList = s.toUTF8.data.toList := by
  have hbytes : (encode s.toList).toByteArray = s.toUTF8 := String.utf8Encode_toList
  rw [← hbytes, List.toList_data_toByteArray]

/-! ### One byte -/

section Byte

variable {first start bits owed low high n : Nat}

/-- A byte after the lead byte adds six bits; then the range of the next one is the whole. -/
theorem run_next (hn : n < 64) (hlow : low ≤ n + 128) (hhigh : n + 128 ≤ high) (pos : Nat)
    (bs : List UInt8) :
    run (some ⟨first, start, bits, owed + 2, low, high⟩) pos (UInt8.ofNat (n + 128) :: bs)
      = run (some ⟨first, start, bits * 64 + n, owed + 1, 0x80, 0xBF⟩) (pos + 1) bs := by
  have hbyte : (n + 128) % 256 = n + 128 := Nat.mod_eq_of_lt (by omega)
  simp [run, hbyte, hlow, hhigh]

/-- The last byte of a character. -/
theorem run_last (hn : n < 64) (hlow : low ≤ n + 128) (hhigh : n + 128 ≤ high) (pos : Nat)
    (bs : List UInt8) :
    run (some ⟨first, start, bits, 1, low, high⟩) pos (UInt8.ofNat (n + 128) :: bs)
      = (run none (pos + 1) bs).map (Char.ofNat (bits * 64 + n) :: ·) := by
  have hbyte : (n + 128) % 256 = n + 128 := Nat.mod_eq_of_lt (by omega)
  simp [run, hbyte, hlow, hhigh]

theorem run_lead (hn : n < 256) {pos : Nat}
    (hlead : lead pos n = some ⟨first, start, bits, owed + 1, low, high⟩) (bs : List UInt8) :
    run none pos (UInt8.ofNat n :: bs)
      = run (some ⟨first, start, bits, owed + 1, low, high⟩) (pos + 1) bs := by
  simp [run, Nat.mod_eq_of_lt hn, hlead]

end Byte

/-! ### Characters and texts -/

theorem run_one {v : Nat} (hone : v ≤ 127) (pos : Nat) (bs : List UInt8) :
    run none pos (UInt8.ofNat v :: bs) = (run none (pos + 1) bs).map (Char.ofNat v :: ·) := by
  have hbyte : v % 256 = v := Nat.mod_eq_of_lt (by omega)
  have hlead : lead pos v = some ⟨v, pos, v, 0, 0x80, 0xBF⟩ := by rw [lead, if_pos (by omega)]
  simp [run, hbyte, hlead]

/-- The lead byte of two is between `C2` and `DF`. -/
theorem run_two {v : Nat} (hone : ¬ v ≤ 127) (htwo : v ≤ 2047) (pos : Nat) (bs : List UInt8) :
    run none pos (UInt8.ofNat (v / 64 % 32 + 192) :: UInt8.ofNat (v % 64 + 128) :: bs)
      = (run none (pos + 2) bs).map (Char.ofNat v :: ·) := by
  have hlead : lead pos (v / 64 % 32 + 192)
      = some ⟨v / 64 % 32 + 192, pos, v / 64 % 32 + 192 - 0xC0, 1, 0x80, 0xBF⟩ := by
    rw [lead, if_neg (by omega), if_neg (by omega), if_pos (by omega)]
  have hbits : (v / 64 % 32 + 192 - 0xC0) * 64 + v % 64 = v := by omega
  rw [run_lead (by omega) hlead, run_last (by omega) (by omega) (by omega), hbits]

/-- The lead byte of three is between `E0` and `EF`. After `E0` the next byte is at least `A0`, and
after `ED` at most `9F`. -/
theorem run_three {v : Nat} (htwo : ¬ v ≤ 2047) (hthree : v ≤ 65535)
    (hvalid : v < 0xD800 ∨ 0xDFFF < v) (pos : Nat) (bs : List UInt8) :
    run none pos (UInt8.ofNat (v / 4096 % 16 + 224) :: UInt8.ofNat (v / 64 % 64 + 128)
        :: UInt8.ofNat (v % 64 + 128) :: bs)
      = (run none (pos + 3) bs).map (Char.ofNat v :: ·) := by
  have hlead : lead pos (v / 4096 % 16 + 224)
      = some ⟨v / 4096 % 16 + 224, pos, v / 4096 % 16 + 224 - 0xE0, 2,
          if v / 4096 % 16 + 224 = 0xE0 then 0xA0 else 0x80,
          if v / 4096 % 16 + 224 = 0xED then 0x9F else 0xBF⟩ := by
    rw [lead, if_neg (by omega), if_neg (by omega), if_neg (by omega), if_pos (by omega)]
  have hbits : ((v / 4096 % 16 + 224 - 0xE0) * 64 + v / 64 % 64) * 64 + v % 64 = v := by omega
  rw [run_lead (by omega) hlead,
    run_next (by omega) (by split <;> omega) (by split <;> omega),
    run_last (by omega) (by omega) (by omega), hbits]

/-- The lead byte of four is between `F0` and `F4`. After `F0` the next byte is at least `90`, and
after `F4` at most `8F`. -/
theorem run_four {v : Nat} (hthree : ¬ v ≤ 65535) (hvalid : v < 0x110000) (pos : Nat)
    (bs : List UInt8) :
    run none pos (UInt8.ofNat (v / 262144 % 8 + 240) :: UInt8.ofNat (v / 4096 % 64 + 128)
        :: UInt8.ofNat (v / 64 % 64 + 128) :: UInt8.ofNat (v % 64 + 128) :: bs)
      = (run none (pos + 4) bs).map (Char.ofNat v :: ·) := by
  have hlead : lead pos (v / 262144 % 8 + 240)
      = some ⟨v / 262144 % 8 + 240, pos, v / 262144 % 8 + 240 - 0xF0, 3,
          if v / 262144 % 8 + 240 = 0xF0 then 0x90 else 0x80,
          if v / 262144 % 8 + 240 = 0xF4 then 0x8F else 0xBF⟩ := by
    rw [lead, if_neg (by omega), if_neg (by omega), if_neg (by omega), if_neg (by omega),
      if_pos (by omega)]
  have hbits : (((v / 262144 % 8 + 240 - 0xF0) * 64 + v / 4096 % 64) * 64 + v / 64 % 64) * 64
      + v % 64 = v := by omega
  rw [run_lead (by omega) hlead,
    run_next (by omega) (by split <;> omega) (by split <;> omega),
    run_next (by omega) (by omega) (by omega), run_last (by omega) (by omega) (by omega), hbits]

/-- The bytes of a character are decoded into the character. -/
theorem run_encodeChar (c : Char) (pos : Nat) (bs : List UInt8) :
    ∃ next, run none pos (String.utf8EncodeChar c ++ bs) = (run none next bs).map (c :: ·) := by
  have hchar : Char.ofNat c.val.toNat = c := Char.ofNat_toNat c
  have hvalid : c.val.toNat < 0xD800 ∨ 0xDFFF < c.val.toNat ∧ c.val.toNat < 0x110000 := c.valid
  rw [String.utf8EncodeChar]
  generalize c.val.toNat = v at hchar hvalid
  obtain rfl := hchar
  split
  · next hone => exact ⟨pos + 1, run_one hone pos bs⟩
  split
  · next hone htwo => exact ⟨pos + 2, run_two hone htwo pos bs⟩
  split
  · next htwo hthree => exact ⟨pos + 3, run_three htwo hthree (by omega) pos bs⟩
  · next hthree => exact ⟨pos + 4, run_four hthree (by omega) pos bs⟩

theorem run_encode (cs : List Char) (pos : Nat) : run none pos (encode cs) = .ok cs := by
  induction cs generalizing pos with
  | nil => rfl
  | cons c cs ih =>
    obtain ⟨next, hnext⟩ := run_encodeChar c pos (encode cs)
    rw [encode, List.flatMap_cons]
    rw [← encode, hnext, ih]
    rfl

theorem decode_encode (cs : List Char) : decode (encode cs) = .ok cs := run_encode cs 0

end BannedApi.Text.Utf8
