/-!
Fingerprints: words of 64 bits that stand for texts. A text is taken byte by byte in its UTF-8
form; every byte is mixed into the word, which is then multiplied by a prime. Texts may share a
fingerprint.
-/

namespace RouterMetrics.Text

/-- The fingerprint of no bytes. -/
def fingerprintStart : UInt64 := 0xcbf29ce484222325

/-- The prime that a fingerprint is multiplied by after each byte. -/
def fingerprintPrime : UInt64 := 0x100000001b3

/-- A fingerprint with one more byte. -/
def mixByte (h : UInt64) (b : UInt8) : UInt64 := (h ^^^ b.toUInt64) * fingerprintPrime

/-- The fingerprint of texts one after the other. Where one ends and the next begins does not
count. -/
def fingerprint (texts : List String) : UInt64 :=
  (texts.flatMap fun s => s.toUTF8.toList).foldl mixByte fingerprintStart

end RouterMetrics.Text
