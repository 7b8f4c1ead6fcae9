/-! The cyclic redundancy check of 32 bits that compressed bodies carry. -/

namespace LogCourier

/-- The reversed generator polynomial. -/
def crcPolynomial : UInt32 := 0xedb88320

/-- Divides one bit out of the register. -/
def crcShift (register : UInt32) : UInt32 :=
  if register &&& 1 = 1 then (register >>> 1) ^^^ crcPolynomial else register >>> 1

/-- Takes one byte into the register. -/
def crcByte (register : UInt32) (byte : UInt8) : UInt32 :=
  (List.range 8).foldl (fun held _ => crcShift held) (register ^^^ byte.toUInt32)

/-- The checksum of a run of bytes. -/
def checksum (bytes : List UInt8) : UInt32 :=
  bytes.foldl crcByte 0xffffffff ^^^ 0xffffffff

/-- A word as four bytes, the lowest first. -/
def littleEndian (word : UInt32) : List UInt8 :=
  [word, word >>> 8, word >>> 16, word >>> 24].map UInt32.toUInt8

end LogCourier
