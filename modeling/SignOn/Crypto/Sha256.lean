import SignOn.Text.Utf8
/-!
SHA-256: a digest of 32 bytes.
-/

namespace SignOn.Crypto.Sha256

/-- The working variables, and the digest so far. -/
structure Words where
  a : UInt32
  b : UInt32
  c : UInt32
  d : UInt32
  e : UInt32
  f : UInt32
  g : UInt32
  h : UInt32

/-- The digest of nothing yet. -/
def start : Words :=
  ⟨0x6a09e667, 0xbb67ae85, 0x3c6ef372, 0xa54ff53a, 0x510e527f, 0x9b05688c, 0x1f83d9ab, 0x5be0cd19⟩

/-- The constants of the 64 rounds. -/
def roundConstants : List UInt32 :=
  [0x428a2f98, 0x71374491, 0xb5c0fbcf, 0xe9b5dba5, 0x3956c25b, 0x59f111f1, 0x923f82a4, 0xab1c5ed5,
   0xd807aa98, 0x12835b01, 0x243185be, 0x550c7dc3, 0x72be5d74, 0x80deb1fe, 0x9bdc06a7, 0xc19bf174,
   0xe49b69c1, 0xefbe4786, 0x0fc19dc6, 0x240ca1cc, 0x2de92c6f, 0x4a7484aa, 0x5cb0a9dc, 0x76f988da,
   0x983e5152, 0xa831c66d, 0xb00327c8, 0xbf597fc7, 0xc6e00bf3, 0xd5a79147, 0x06ca6351, 0x14292967,
   0x27b70a85, 0x2e1b2138, 0x4d2c6dfc, 0x53380d13, 0x650a7354, 0x766a0abb, 0x81c2c92e, 0x92722c85,
   0xa2bfe8a1, 0xa81a664b, 0xc24b8b70, 0xc76c51a3, 0xd192e819, 0xd6990624, 0xf40e3585, 0x106aa070,
   0x19a4c116, 0x1e376c08, 0x2748774c, 0x34b0bcb5, 0x391c0cb3, 0x4ed8aa4a, 0x5b9cca4f, 0x682e6ff3,
   0x748f82ee, 0x78a5636f, 0x84c87814, 0x8cc70208, 0x90befffa, 0xa4506ceb, 0xbef9a3f7, 0xc67178f2]

/-- Turns a word right. -/
def rotate (x n : UInt32) : UInt32 := (x >>> n) ||| (x <<< (32 - n))

/-- The word that four bytes spell, high byte first. -/
def word (a b c d : UInt8) : UInt32 :=
  (a.toUInt32 <<< 24) ||| (b.toUInt32 <<< 16) ||| (c.toUInt32 <<< 8) ||| d.toUInt32

/-- The words that bytes spell. -/
def wordsOf : Bytes → List UInt32
  | a :: b :: c :: d :: rest => word a b c d :: wordsOf rest
  | _ => []

/-- The bytes of a word, high byte first. -/
def bytesOf (w : UInt32) : Bytes :=
  [(w >>> 24).toUInt8, (w >>> 16).toUInt8, (w >>> 8).toUInt8, w.toUInt8]

/-- The word that follows sixteen words of the schedule. -/
def nextWord (ws : List UInt32) : UInt32 :=
  let x := ws.getD 1 0
  let y := ws.getD 14 0
  ws.getD 0 0 + (rotate x 7 ^^^ rotate x 18 ^^^ (x >>> 3)) + ws.getD 9 0 +
    (rotate y 17 ^^^ rotate y 19 ^^^ (y >>> 10))

/-- The words of the schedule from sixteen of them on: so many more come behind these. -/
def extend : Nat → List UInt32 → List UInt32
  | more + 1, w :: ws => w :: extend more (ws ++ [nextWord (w :: ws)])
  | _, ws => ws

/-- The 64 words of a block. -/
def schedule (block : List UInt32) : List UInt32 := extend 48 block

/-- One round. -/
def round (s : Words) (k w : UInt32) : Words :=
  let s1 := rotate s.e 6 ^^^ rotate s.e 11 ^^^ rotate s.e 25
  let ch := (s.e &&& s.f) ^^^ (~~~s.e &&& s.g)
  let t1 := s.h + s1 + ch + k + w
  let s0 := rotate s.a 2 ^^^ rotate s.a 13 ^^^ rotate s.a 22
  let maj := (s.a &&& s.b) ^^^ (s.a &&& s.c) ^^^ (s.b &&& s.c)
  ⟨t1 + s0 + maj, s.a, s.b, s.c, s.d + t1, s.e, s.f, s.g⟩

/-- Takes one block into the digest. -/
def compress (s : Words) (block : List UInt32) : Words :=
  let r := (roundConstants.zip (schedule block)).foldl (fun r (k, w) => round r k w) s
  ⟨s.a + r.a, s.b + r.b, s.c + r.c, s.d + r.d, s.e + r.e, s.f + r.f, s.g + r.g, s.h + r.h⟩

/-- Takes blocks of sixteen words into the digest; `blocks` is their number. -/
def compressAll : Nat → Words → List UInt32 → Words
  | 0, s, _ => s
  | blocks + 1, s, ws => compressAll blocks (compress s (ws.take 16)) (ws.drop 16)

/-- The length of a message in bits, as eight bytes. -/
def lengthBytes (n : Nat) : Bytes :=
  (List.range 8).map fun i => UInt8.ofNat (8 * n / Nat.pow 256 (7 - i))

/-- A message filled up to whole blocks: a one bit, zeros, and its length. -/
def pad (m : Bytes) : Bytes :=
  m ++ 0x80 :: List.replicate ((119 - m.length % 64) % 64) 0 ++ lengthBytes m.length

/-- The digest of a message. -/
def digest (m : Bytes) : Bytes :=
  let padded := pad m
  let s := compressAll (padded.length / 64) start (wordsOf padded)
  [s.a, s.b, s.c, s.d, s.e, s.f, s.g, s.h].flatMap bytesOf

/-- The keyed digest of a message. -/
def keyed (key m : Bytes) : Bytes :=
  let key := if 64 < key.length then digest key else key
  let key := key ++ List.replicate (64 - key.length) 0
  digest (key.map (· ^^^ 0x5c) ++ digest (key.map (· ^^^ 0x36) ++ m))

end SignOn.Crypto.Sha256
