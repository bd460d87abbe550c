import Mathlib.Logic.Function.Iterate

/-! The bit-serial CRC-32C of the source. -/

namespace DBlusBlus

def crc32cReflectedPolynomial : UInt32 := 0x82F63B78
def crc32cInitialRemainder : UInt32 := 0xFFFFFFFF

def crc32cBit (remainder : UInt32) : UInt32 :=
  if remainder &&& 1 ≠ 0 then (remainder >>> 1) ^^^ crc32cReflectedPolynomial else remainder >>> 1

def crc32cByte (remainder : UInt32) (byte : UInt8) : UInt32 :=
  crc32cBit^[8] (remainder ^^^ byte.toUInt32)

def crc32c (bytes : List UInt8) : UInt32 :=
  bytes.foldl crc32cByte crc32cInitialRemainder ^^^ crc32cInitialRemainder

end DBlusBlus
