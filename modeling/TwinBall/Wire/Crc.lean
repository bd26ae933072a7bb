/-!
# The frame checksum

Frames carry the 8-bit cyclic redundancy check with the polynomial `x^8 + x^2 + x + 1`, initial
value `0` and no reflection.  A digest takes the bytes in one by one.
-/

namespace TwinBall.Crc

/-- The polynomial without its leading term. -/
def polynomial : UInt8 := 0x07

/-- One step of the division: the register moves up by one bit, and what falls out at the top is
replaced by the polynomial. -/
def bitStep (r : UInt8) : UInt8 :=
  if r &&& 0x80 = 0 then r <<< 1 else (r <<< 1) ^^^ polynomial

/-- The register after one more byte. -/
def byteStep (r byte : UInt8) : UInt8 :=
  bitStep (bitStep (bitStep (bitStep (bitStep (bitStep (bitStep (bitStep (r ^^^ byte))))))))

/-- The register after more bytes. -/
def extend (r : UInt8) (bytes : List UInt8) : UInt8 := bytes.foldl byteStep r

/-- The checksum of bytes. -/
def checksum (bytes : List UInt8) : UInt8 := extend 0 bytes

@[simp] theorem extend_nil (r : UInt8) : extend r [] = r := rfl

@[simp] theorem extend_cons (r b : UInt8) (bytes : List UInt8) :
    extend r (b :: bytes) = extend (byteStep r b) bytes := rfl

/-- Bytes may be taken in piece by piece. -/
theorem extend_append (r : UInt8) (bytes more : List UInt8) :
    extend r (bytes ++ more) = extend (extend r bytes) more :=
  List.foldl_append

end TwinBall.Crc
