/-!
# A hash of texts

The 64-bit hash FNV-1a: from a fixed start, each byte is mixed in and the result
multiplied by a prime.
-/

namespace SharedPages.Text

/-- The hash of a sequence of bytes. -/
def fnv1a (bytes : List UInt8) : UInt64 :=
  bytes.foldl (fun hash b => (hash ^^^ b.toUInt64) * 0x00000100000001b3) 0xcbf29ce484222325

/-- The bytes of a text. -/
def bytesOf (text : String) : List UInt8 := text.toUTF8.data.toList

end SharedPages.Text
