import SignOn.Text.Utf8
/-!
BLAKE2b: a digest of 1 to 64 bytes, without a key.
-/

namespace SignOn.Crypto.Blake2b

/-- The initial words. -/
def initial : Array UInt64 :=
  #[0x6a09e667f3bcc908, 0xbb67ae8584caa73b, 0x3c6ef372fe94f82b, 0xa54ff53a5f1d36f1,
    0x510e527fade682d1, 0x9b05688c2b3e6c1f, 0x1f83d9abfb41bd6b, 0x5be0cd19137e2179]

/-- The order in which each round takes the words of a block. -/
def orders : List (List Nat) :=
  [[0, 1, 2, 3, 4, 5, 6, 7, 8, 9, 10, 11, 12, 13, 14, 15],
   [14, 10, 4, 8, 9, 15, 13, 6, 1, 12, 0, 2, 11, 7, 5, 3],
   [11, 8, 12, 0, 5, 2, 15, 13, 10, 14, 3, 6, 7, 1, 9, 4],
   [7, 9, 3, 1, 13, 12, 11, 14, 2, 6, 5, 10, 4, 0, 15, 8],
   [9, 0, 5, 7, 2, 4, 10, 15, 14, 1, 11, 12, 6, 8, 3, 13],
   [2, 12, 6, 10, 0, 11, 8, 3, 4, 13, 7, 5, 15, 14, 1, 9],
   [12, 5, 1, 15, 14, 13, 4, 10, 0, 7, 6, 3, 9, 2, 8, 11],
   [13, 11, 7, 14, 12, 1, 3, 9, 5, 0, 15, 4, 8, 6, 2, 10],
   [6, 15, 14, 9, 11, 3, 0, 8, 12, 2, 13, 7, 1, 4, 10, 5],
   [10, 2, 8, 4, 7, 6, 1, 5, 15, 11, 9, 14, 3, 12, 13, 0],
   [0, 1, 2, 3, 4, 5, 6, 7, 8, 9, 10, 11, 12, 13, 14, 15],
   [14, 10, 4, 8, 9, 15, 13, 6, 1, 12, 0, 2, 11, 7, 5, 3]]

/-- The places of the words that each mixing step of a round works on. -/
def places : List (Nat × Nat × Nat × Nat) :=
  [(0, 4, 8, 12), (1, 5, 9, 13), (2, 6, 10, 14), (3, 7, 11, 15),
   (0, 5, 10, 15), (1, 6, 11, 12), (2, 7, 8, 13), (3, 4, 9, 14)]

/-- Turns a word right. -/
def rotate (x n : UInt64) : UInt64 := (x >>> n) ||| (x <<< (64 - n))

/-- The word that eight bytes spell, low byte first. -/
def word (bs : Bytes) : UInt64 := bs.foldr (fun b w => (w <<< 8) ||| b.toUInt64) 0

/-- The words that bytes spell, `count` of them. -/
def wordsOf : Nat → Bytes → List UInt64
  | 0, _ => []
  | count + 1, bs => word (bs.take 8) :: wordsOf count (bs.drop 8)

/-- The bytes of a word, low byte first. -/
def bytesOf (w : UInt64) : Bytes :=
  (List.range 8).map fun i => (w >>> (8 * UInt64.ofNat i)).toUInt8

/-- Four bytes of a number, low byte first. -/
def le32 (n : Nat) : Bytes := (List.range 4).map fun i => UInt8.ofNat (n / Nat.pow 256 i)

/-- One mixing step. -/
def mix (v : Array UInt64) (at4 : Nat × Nat × Nat × Nat) (x y : UInt64) : Array UInt64 :=
  let (i, j, k, l) := at4
  let a := v.getD i 0
  let b := v.getD j 0
  let c := v.getD k 0
  let d := v.getD l 0
  let a := a + b + x
  let d := rotate (d ^^^ a) 32
  let c := c + d
  let b := rotate (b ^^^ c) 24
  let a := a + b + y
  let d := rotate (d ^^^ a) 16
  let c := c + d
  let b := rotate (b ^^^ c) 63
  (((v.setIfInBounds i a).setIfInBounds j b).setIfInBounds k c).setIfInBounds l d

/-- The words of a block in the order of a round, two by two. -/
def pairs (m : Array UInt64) : List Nat → List (UInt64 × UInt64)
  | i :: j :: rest => (m.getD i 0, m.getD j 0) :: pairs m rest
  | _ => []

/-- One round. -/
def round (m v : Array UInt64) (order : List Nat) : Array UInt64 :=
  (places.zip (pairs m order)).foldl (fun v (at4, x, y) => mix v at4 x y) v

/-- Takes one block into the digest; `count` bytes have been taken then. -/
def compress (h : Array UInt64) (block : Bytes) (count : Nat) (isLast : Bool) : Array UInt64 :=
  let m := (wordsOf 16 block).toArray
  let v := h ++ initial
  let v := v.setIfInBounds 12 (v.getD 12 0 ^^^ UInt64.ofNat count)
  let v := v.setIfInBounds 13 (v.getD 13 0 ^^^ UInt64.ofNat (count / 0x10000000000000000))
  let v := if isLast then v.setIfInBounds 14 (~~~v.getD 14 0) else v
  let v := orders.foldl (round m) v
  ((List.range 8).map fun i => h.getD i 0 ^^^ v.getD i 0 ^^^ v.getD (i + 8) 0).toArray

/-- Takes the blocks of a message into the digest; `blocks` is how many follow the first one. -/
def compressAll : Nat → Array UInt64 → Bytes → Nat → Array UInt64
  | 0, h, bs, count => compress h bs (count + bs.length) true
  | blocks + 1, h, bs, count =>
    compressAll blocks (compress h (bs.take 128) (count + 128) false) (bs.drop 128) (count + 128)

/-- The digest of a message, `size` bytes long. -/
def digest (size : Nat) (m : Bytes) : Bytes :=
  let h := initial.setIfInBounds 0 (initial.getD 0 0 ^^^ 0x01010000 ^^^ UInt64.ofNat size)
  ((compressAll ((m.length - 1) / 128) h m 0).toList.flatMap bytesOf).take size

end SignOn.Crypto.Blake2b
