/-!
Words of 32 bits with a sign, as four bytes of which the lowest comes first. Every four bytes are
one word and every word is four bytes.
-/

namespace DaemonLaunch.Word

/-- The lowest byte of a number. -/
def lowByte (n : Nat) : UInt8 := UInt8.ofNat n

/-- The bytes of a word, the lowest one first. -/
def bytes (word : Int32) : List UInt8 :=
  let n := word.toUInt32.toNat
  [lowByte n, lowByte (n / 0x100), lowByte (n / 0x10000), lowByte (n / 0x1000000)]

/-- The word with the given bytes, the lowest one first. -/
def ofBytes (a b c d : UInt8) : Int32 :=
  (UInt32.ofNat (a.toNat + b.toNat * 0x100 + c.toNat * 0x10000 + d.toNat * 0x1000000)).toInt32

theorem length_bytes (word : Int32) : (bytes word).length = 4 := rfl

theorem ofBytes_bytes (word : Int32) :
    ofBytes (lowByte word.toUInt32.toNat) (lowByte (word.toUInt32.toNat / 0x100))
      (lowByte (word.toUInt32.toNat / 0x10000)) (lowByte (word.toUInt32.toNat / 0x1000000)) =
        word := by
  have hlt := word.toUInt32.toNat_lt
  have hsum : (lowByte word.toUInt32.toNat).toNat +
      (lowByte (word.toUInt32.toNat / 0x100)).toNat * 0x100 +
      (lowByte (word.toUInt32.toNat / 0x10000)).toNat * 0x10000 +
      (lowByte (word.toUInt32.toNat / 0x1000000)).toNat * 0x1000000 = word.toUInt32.toNat := by
    simp only [lowByte, UInt8.toNat_ofNat']
    omega
  simp only [ofBytes, hsum, UInt32.ofNat_toNat, Int32.toInt32_toUInt32]

end DaemonLaunch.Word
