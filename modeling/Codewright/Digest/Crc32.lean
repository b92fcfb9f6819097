/-!
# CRC-32

The checksum that guards the files of an archive.
-/

namespace Codewright.Digest.Crc32

/-- The remainder `r` after one more bit. -/
def shift (r : UInt32) : UInt32 :=
  if r &&& 1 = 1 then (r >>> 1) ^^^ 0xEDB88320 else r >>> 1

/-- The remainder `r` after one more byte. -/
def step (r : UInt32) (b : UInt8) : UInt32 :=
  (List.range 8).foldl (fun r _ => shift r) (r ^^^ b.toUInt32)

/-- The checksum of a row of bytes. -/
def checksum (content : ByteArray) : UInt32 :=
  ~~~ content.data.foldl step 0xFFFFFFFF

example : checksum "123456789".toUTF8 = 0xCBF43926 := by decide +kernel

end Codewright.Digest.Crc32
