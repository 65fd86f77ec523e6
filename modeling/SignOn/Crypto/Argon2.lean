import SignOn.Crypto.Blake2b
/-!
Argon2, the hash for passwords: it fills a memory of kilobyte blocks, each from the block before it
and one chosen among the earlier ones, and digests what stands at its end. The variants differ in
how the second block is chosen: by the memory's content, by the position alone, or by the position
first and then by content.
-/

namespace SignOn.Crypto.Argon2

open SignOn.Crypto.Blake2b (le32 rotate)

/-- How the second block is chosen. -/
inductive Variant where
  /-- By content. -/
  | dependent
  /-- By position. -/
  | independent
  /-- By position in the first half of the first pass, then by content. -/
  | hybrid
  deriving DecidableEq, Repr

/-- The number of a variant. -/
def Variant.number : Variant → Nat
  | .dependent => 0
  | .independent => 1
  | .hybrid => 2

/-- The costs of a hash. -/
structure Costs where
  /-- Memory in kilobytes. -/
  memory : Nat
  /-- Passes over the memory. -/
  time : Nat
  /-- Lanes that are filled side by side. -/
  lanes : Nat
  deriving DecidableEq, Repr

/-- What goes into a hash. -/
structure Input where
  variant : Variant
  version : Nat
  costs : Costs
  password : Bytes
  salt : Bytes
  /-- Associated data. -/
  data : Bytes
  /-- The length of the hash in bytes. -/
  size : Nat

/-- Whether the hash is defined. -/
def Input.isSound (i : Input) : Bool :=
  8 ≤ i.costs.memory && 8 * i.costs.lanes ≤ i.costs.memory && 1 ≤ i.costs.time &&
  1 ≤ i.costs.lanes && i.costs.lanes ≤ 0xFFFFFF && 8 ≤ i.salt.length && 4 ≤ i.size

/-! ## Blocks -/

/-- Sixteen words. -/
structure Row where
  w0 : UInt64
  w1 : UInt64
  w2 : UInt64
  w3 : UInt64
  w4 : UInt64
  w5 : UInt64
  w6 : UInt64
  w7 : UInt64
  w8 : UInt64
  w9 : UInt64
  w10 : UInt64
  w11 : UInt64
  w12 : UInt64
  w13 : UInt64
  w14 : UInt64
  w15 : UInt64

/-- A kilobyte: eight rows of sixteen words. -/
structure Block where
  r0 : Row
  r1 : Row
  r2 : Row
  r3 : Row
  r4 : Row
  r5 : Row
  r6 : Row
  r7 : Row

/-- Sixteen zeros. -/
def Row.zero : Row := ⟨0, 0, 0, 0, 0, 0, 0, 0, 0, 0, 0, 0, 0, 0, 0, 0⟩

/-- A kilobyte of zeros. -/
def Block.zero : Block :=
  ⟨Row.zero, Row.zero, Row.zero, Row.zero, Row.zero, Row.zero, Row.zero, Row.zero⟩

/-- The words of two rows, combined. -/
def Row.xor (a b : Row) : Row :=
  ⟨a.w0 ^^^ b.w0, a.w1 ^^^ b.w1, a.w2 ^^^ b.w2, a.w3 ^^^ b.w3,
    a.w4 ^^^ b.w4, a.w5 ^^^ b.w5, a.w6 ^^^ b.w6, a.w7 ^^^ b.w7,
    a.w8 ^^^ b.w8, a.w9 ^^^ b.w9, a.w10 ^^^ b.w10, a.w11 ^^^ b.w11,
    a.w12 ^^^ b.w12, a.w13 ^^^ b.w13, a.w14 ^^^ b.w14, a.w15 ^^^ b.w15⟩

/-- The words of two blocks, combined. -/
def Block.xor (a b : Block) : Block :=
  ⟨a.r0.xor b.r0, a.r1.xor b.r1, a.r2.xor b.r2, a.r3.xor b.r3,
    a.r4.xor b.r4, a.r5.xor b.r5, a.r6.xor b.r6, a.r7.xor b.r7⟩

/-- Four words. -/
structure Quad where
  a : UInt64
  b : UInt64
  c : UInt64
  d : UInt64

/-- A sum to which the product of the low halves is added twice. -/
@[inline] def blend (x y : UInt64) : UInt64 :=
  x + y + 2 * ((x &&& 0xFFFFFFFF) * (y &&& 0xFFFFFFFF))

/-- Mixes four words. -/
@[inline] def mix (a b c d : UInt64) : Quad :=
  let a := blend a b
  let d := rotate (d ^^^ a) 32
  let c := blend c d
  let b := rotate (b ^^^ c) 24
  let a := blend a b
  let d := rotate (d ^^^ a) 16
  let c := blend c d
  let b := rotate (b ^^^ c) 63
  ⟨a, b, c, d⟩

/-- Mixes a row: the columns of its square, then the diagonals. -/
def Row.permute (r : Row) : Row :=
  let p := mix r.w0 r.w4 r.w8 r.w12
  let q := mix r.w1 r.w5 r.w9 r.w13
  let s := mix r.w2 r.w6 r.w10 r.w14
  let t := mix r.w3 r.w7 r.w11 r.w15
  let i := mix p.a q.b s.c t.d
  let j := mix q.a s.b t.c p.d
  let k := mix s.a t.b p.c q.d
  let l := mix t.a p.b q.c s.d
  ⟨i.a, j.a, k.a, l.a, l.b, i.b, j.b, k.b, k.c, l.c, i.c, j.c, j.d, k.d, l.d, i.d⟩

/-- Mixes each row of a block. -/
def Block.permuteRows (b : Block) : Block :=
  ⟨b.r0.permute, b.r1.permute, b.r2.permute, b.r3.permute, b.r4.permute, b.r5.permute,
    b.r6.permute, b.r7.permute⟩

/-- Makes rows of the columns, which are two words wide. -/
def Block.turn (b : Block) : Block :=
    ⟨⟨b.r0.w0, b.r0.w1, b.r1.w0, b.r1.w1, b.r2.w0, b.r2.w1, b.r3.w0, b.r3.w1, b.r4.w0, b.r4.w1,
       b.r5.w0, b.r5.w1, b.r6.w0, b.r6.w1, b.r7.w0, b.r7.w1⟩,
      ⟨b.r0.w2, b.r0.w3, b.r1.w2, b.r1.w3, b.r2.w2, b.r2.w3, b.r3.w2, b.r3.w3, b.r4.w2, b.r4.w3,
       b.r5.w2, b.r5.w3, b.r6.w2, b.r6.w3, b.r7.w2, b.r7.w3⟩,
      ⟨b.r0.w4, b.r0.w5, b.r1.w4, b.r1.w5, b.r2.w4, b.r2.w5, b.r3.w4, b.r3.w5, b.r4.w4, b.r4.w5,
       b.r5.w4, b.r5.w5, b.r6.w4, b.r6.w5, b.r7.w4, b.r7.w5⟩,
      ⟨b.r0.w6, b.r0.w7, b.r1.w6, b.r1.w7, b.r2.w6, b.r2.w7, b.r3.w6, b.r3.w7, b.r4.w6, b.r4.w7,
       b.r5.w6, b.r5.w7, b.r6.w6, b.r6.w7, b.r7.w6, b.r7.w7⟩,
      ⟨b.r0.w8, b.r0.w9, b.r1.w8, b.r1.w9, b.r2.w8, b.r2.w9, b.r3.w8, b.r3.w9, b.r4.w8, b.r4.w9,
       b.r5.w8, b.r5.w9, b.r6.w8, b.r6.w9, b.r7.w8, b.r7.w9⟩,
      ⟨b.r0.w10, b.r0.w11, b.r1.w10, b.r1.w11, b.r2.w10, b.r2.w11, b.r3.w10, b.r3.w11, b.r4.w10,
       b.r4.w11, b.r5.w10, b.r5.w11, b.r6.w10, b.r6.w11, b.r7.w10, b.r7.w11⟩,
      ⟨b.r0.w12, b.r0.w13, b.r1.w12, b.r1.w13, b.r2.w12, b.r2.w13, b.r3.w12, b.r3.w13, b.r4.w12,
       b.r4.w13, b.r5.w12, b.r5.w13, b.r6.w12, b.r6.w13, b.r7.w12, b.r7.w13⟩,
      ⟨b.r0.w14, b.r0.w15, b.r1.w14, b.r1.w15, b.r2.w14, b.r2.w15, b.r3.w14, b.r3.w15, b.r4.w14,
       b.r4.w15, b.r5.w14, b.r5.w15, b.r6.w14, b.r6.w15, b.r7.w14, b.r7.w15⟩⟩

/-- The block that two blocks determine. -/
def Block.compress (x y : Block) : Block :=
  let r := x.xor y
  (r.permuteRows.turn.permuteRows.turn).xor r

/-- The words of a row. -/
def Row.words (r : Row) : List UInt64 :=
  [r.w0, r.w1, r.w2, r.w3, r.w4, r.w5, r.w6, r.w7,
    r.w8, r.w9, r.w10, r.w11, r.w12, r.w13, r.w14, r.w15]

/-- The words of a block. -/
def Block.words (b : Block) : List UInt64 :=
  b.r0.words ++ b.r1.words ++ b.r2.words ++ b.r3.words ++ b.r4.words ++ b.r5.words ++ b.r6.words ++
    b.r7.words

/-- The bytes of a block. -/
def Block.bytes (b : Block) : Bytes := b.words.flatMap Blake2b.bytesOf

/-- The row that sixteen words make up; missing ones are zero. -/
def Row.ofWords (ws : List UInt64) : Row :=
  let w (i : Nat) : UInt64 := ws.getD i 0
  ⟨w 0, w 1, w 2, w 3, w 4, w 5, w 6, w 7, w 8, w 9, w 10, w 11, w 12, w 13, w 14, w 15⟩

/-- The block that bytes make up. -/
def Block.ofBytes (bs : Bytes) : Block :=
  let ws := Blake2b.wordsOf 128 bs
  let r (i : Nat) : Row := Row.ofWords (ws.drop (16 * i))
  ⟨r 0, r 1, r 2, r 3, r 4, r 5, r 6, r 7⟩

/-! ## Digests of any length -/

/-- The digests that make up a long one: half of each counts, but the last one counts whole. -/
def extend : Nat → Nat → Bytes → Bytes
  | 0, _, v => v
  | fuel + 1, size, v =>
    if size ≤ 64 then Blake2b.digest size v
    else
      let next := Blake2b.digest 64 v
      next.take 32 ++ extend fuel (size - 32) next

/-- A digest of any length. -/
def longDigest (size : Nat) (m : Bytes) : Bytes :=
  extend (size / 32 + 1) size (le32 size ++ m)

/-! ## Filling the memory -/

/-- The layout of the memory: lanes of four slices. -/
structure Layout where
  input : Input
  /-- The length of a slice. -/
  slice : Nat

/-- The length of a lane. -/
def Layout.lane (l : Layout) : Nat := 4 * l.slice

/-- The memory is four slices of every lane, and each slice has at least two blocks. -/
def layout (i : Input) : Layout := ⟨i, i.costs.memory / (4 * i.costs.lanes)⟩

/-- The digest of everything that goes into the hash. -/
def seed (i : Input) : Bytes :=
  Blake2b.digest 64
    (le32 i.costs.lanes ++ le32 i.size ++ le32 i.costs.memory ++ le32 i.costs.time ++
      le32 i.version ++ le32 i.variant.number ++ le32 i.password.length ++ i.password ++
      le32 i.salt.length ++ i.salt ++ le32 0 ++ le32 i.data.length ++ i.data)

/-- The memory with the first two blocks of every lane. -/
def firstMemory (l : Layout) : Array Block :=
  let h0 := seed l.input
  (List.range l.input.costs.lanes).foldl (fun memory lane =>
    let block (k : Nat) : Block := Block.ofBytes (longDigest 1024 (h0 ++ le32 k ++ le32 lane))
    (memory.setIfInBounds (lane * l.lane) (block 0)).setIfInBounds (lane * l.lane + 1) (block 1))
    (Array.replicate (l.lane * l.input.costs.lanes) Block.zero)

/-- Where the filling stands. -/
structure Position where
  pass : Nat
  slice : Nat
  lane : Nat

/-- Whether the choice at this position looks at the position alone. -/
def isIndependent (v : Variant) (p : Position) : Bool :=
  match v with
  | .dependent => false
  | .independent => true
  | .hybrid => p.pass == 0 && p.slice < 2

/-- The block of choices for 128 neighbouring positions. -/
def choices (l : Layout) (p : Position) (number : Nat) : Block :=
  let n (k : Nat) : UInt64 := UInt64.ofNat k
  let row : Row :=
    { Row.zero with
      w0 := n p.pass, w1 := n p.lane, w2 := n p.slice,
      w3 := n (l.lane * l.input.costs.lanes), w4 := n l.input.costs.time,
      w5 := n l.input.variant.number, w6 := n number }
  let block := Block.zero.compress { Block.zero with r0 := row }
  Block.zero.compress block

/-- The block that a choice refers to, for the block number `index` of a slice. -/
def chosen (l : Layout) (p : Position) (index : Nat) (choice : UInt64) : Nat :=
  let low := (choice &&& 0xFFFFFFFF).toNat
  let high := (choice >>> 32).toNat
  let lane := if p.pass == 0 && p.slice == 0 then p.lane else high % l.input.costs.lanes
  let same := lane == p.lane
  let finished := if p.pass == 0 then p.slice * l.slice else l.lane - l.slice
  let area :=
    if same then finished + index - 1 else if index == 0 then finished - 1 else finished
  let x := low * low / 0x100000000
  let place := area - 1 - area * x / 0x100000000
  let start := if p.pass == 0 then 0 else (p.slice + 1) % 4 * l.slice
  lane * l.lane + (start + place) % l.lane

/-- Fills the blocks of a slice from number `index` on, `count` of them. `drawn` holds the choices
for the position, where they do not depend on the content. -/
def fillSlice (l : Layout) (p : Position) (drawn : Array UInt64) :
    Nat → Nat → Array Block → Array Block
  | 0, _, memory => memory
  | count + 1, index, memory =>
    let inLane := p.slice * l.slice + index
    let here := p.lane * l.lane + inLane
    let before := if inLane == 0 then p.lane * l.lane + l.lane - 1 else here - 1
    let previous := memory.getD before Block.zero
    let choice :=
      if isIndependent l.input.variant p then drawn.getD index 0 else previous.r0.w0
    let other := memory.getD (chosen l p index choice) Block.zero
    let block := previous.compress other
    let block :=
      if p.pass == 0 || l.input.version == 0x10 then block
      else block.xor (memory.getD here Block.zero)
    fillSlice l p drawn count (index + 1) (memory.setIfInBounds here block)

/-- The choices for a whole slice. -/
def drawnFor (l : Layout) (p : Position) : Array UInt64 :=
  if isIndependent l.input.variant p then
    ((List.range ((l.slice + 127) / 128)).flatMap fun k => (choices l p (k + 1)).words).toArray
  else #[]

/-- Fills one slice of one lane. The first two blocks of a lane are there already. -/
def fillAt (l : Layout) (memory : Array Block) (p : Position) : Array Block :=
  let skipped := if p.pass == 0 && p.slice == 0 then 2 else 0
  fillSlice l p (drawnFor l p) (l.slice - skipped) skipped memory

/-- All positions, in the order in which they are filled. -/
def positions (i : Input) : List Position :=
  (List.range i.costs.time).flatMap fun pass => (List.range 4).flatMap fun slice =>
    (List.range i.costs.lanes).map fun lane => ⟨pass, slice, lane⟩

/-- The hash, where it is defined. -/
def hash (i : Input) : Option Bytes :=
  if i.isSound then
    let l := layout i
    let memory := (positions i).foldl (fillAt l) (firstMemory l)
    let last (lane : Nat) : Block := memory.getD (lane * l.lane + l.lane - 1) Block.zero
    let final := (List.range i.costs.lanes).foldl (fun b lane => b.xor (last lane)) Block.zero
    some (longDigest i.size final.bytes)
  else none

end SignOn.Crypto.Argon2
