/-! # BLAKE2b

The hash function of RFC 7693 without a key, for results of 1 to 64 bytes. A message is folded block
by block into a state of eight words; every block is mixed in twelve rounds, each of which takes the
block's words in an order of its own.
-/

namespace SessionTokens.Blake2b

/-- The bits turned `n` places to the right. -/
def rotr (x n : UInt64) : UInt64 := (x >>> n) ||| (x <<< (64 - n))

/-- The constants that a state begins with. -/
def initial : Array UInt64 := #[
  0x6a09e667f3bcc908, 0xbb67ae8584caa73b, 0x3c6ef372fe94f82b, 0xa54ff53a5f1d36f1,
  0x510e527fade682d1, 0x9b05688c2b3e6c1f, 0x1f83d9abfb41bd6b, 0x5be0cd19137e2179]

/-- The orders in which the rounds take the words of a block. -/
def orders : Array (Array Nat) := #[
  #[0, 1, 2, 3, 4, 5, 6, 7, 8, 9, 10, 11, 12, 13, 14, 15],
  #[14, 10, 4, 8, 9, 15, 13, 6, 1, 12, 0, 2, 11, 7, 5, 3],
  #[11, 8, 12, 0, 5, 2, 15, 13, 10, 14, 3, 6, 7, 1, 9, 4],
  #[7, 9, 3, 1, 13, 12, 11, 14, 2, 6, 5, 10, 4, 0, 15, 8],
  #[9, 0, 5, 7, 2, 4, 10, 15, 14, 1, 11, 12, 6, 8, 3, 13],
  #[2, 12, 6, 10, 0, 11, 8, 3, 4, 13, 7, 5, 15, 14, 1, 9],
  #[12, 5, 1, 15, 14, 13, 4, 10, 0, 7, 6, 3, 9, 2, 8, 11],
  #[13, 11, 7, 14, 12, 1, 3, 9, 5, 0, 15, 4, 8, 6, 2, 10],
  #[6, 15, 14, 9, 11, 3, 0, 8, 12, 2, 13, 7, 1, 4, 10, 5],
  #[10, 2, 8, 4, 7, 6, 1, 5, 15, 11, 9, 14, 3, 12, 13, 0]]

/-- Mixes four words of the working state, and two of the block, into one another. -/
def mix (v : Array UInt64) (a b c d : Nat) (x y : UInt64) : Array UInt64 :=
  let va := v.getD a 0 + v.getD b 0 + x
  let vd := rotr (v.getD d 0 ^^^ va) 32
  let vc := v.getD c 0 + vd
  let vb := rotr (v.getD b 0 ^^^ vc) 24
  let va := va + vb + y
  let vd := rotr (vd ^^^ va) 16
  let vc := vc + vd
  let vb := rotr (vb ^^^ vc) 63
  (((v.setIfInBounds a va).setIfInBounds b vb).setIfInBounds c vc).setIfInBounds d vd

/-- The places that the eight steps of a round mix: the columns, then the diagonals. -/
def places : List (Nat × Nat × Nat × Nat) :=
  [(0, 4, 8, 12), (1, 5, 9, 13), (2, 6, 10, 14), (3, 7, 11, 15),
    (0, 5, 10, 15), (1, 6, 11, 12), (2, 7, 8, 13), (3, 4, 9, 14)]

/-- One round. -/
def round (block : Array UInt64) (v : Array UInt64) (r : Nat) : Array UInt64 :=
  let order := orders.getD (r % 10) #[]
  (places.zipIdx).foldl (fun v p =>
    let word := fun i => block.getD (order.getD i 0) 0
    mix v p.1.1 p.1.2.1 p.1.2.2.1 p.1.2.2.2 (word (2 * p.2)) (word (2 * p.2 + 1))) v

/-- Folds a block into the state; `count` is how many bytes have been taken by then. -/
def compress (h block : Array UInt64) (count : Nat) (last : Bool) : Array UInt64 :=
  let flags : Array UInt64 := #[0, 0, 0, 0, UInt64.ofNat count, 0, if last then 0xffffffffffffffff else 0, 0]
  let v := h ++ initial.zipWith (· ^^^ ·) flags
  let v := (List.range 12).foldl (round block) v
  (Array.range 8).map fun i => h.getD i 0 ^^^ v.getD i 0 ^^^ v.getD (i + 8) 0

/-- The words of a sequence of bytes, the least significant byte first. -/
def words : List UInt8 → List UInt64
  | b0 :: b1 :: b2 :: b3 :: b4 :: b5 :: b6 :: b7 :: rest =>
    (b0.toUInt64 ||| (b1.toUInt64 <<< 8) ||| (b2.toUInt64 <<< 16) ||| (b3.toUInt64 <<< 24) |||
      (b4.toUInt64 <<< 32) ||| (b5.toUInt64 <<< 40) ||| (b6.toUInt64 <<< 48) |||
      (b7.toUInt64 <<< 56)) :: words rest
  | _ => []

/-- The bytes of a word, the least significant first. -/
def wordBytes (x : UInt64) : List UInt8 :=
  [x.toUInt8, (x >>> 8).toUInt8, (x >>> 16).toUInt8, (x >>> 24).toUInt8, (x >>> 32).toUInt8,
    (x >>> 40).toUInt8, (x >>> 48).toUInt8, (x >>> 56).toUInt8]

/-- The words of a block, a short one filled up with zeros. -/
def block (bytes : List UInt8) : Array UInt64 :=
  (words (bytes ++ List.replicate (128 - bytes.length) 0)).toArray

/-- Folds the blocks of a message into the state; `taken` bytes have been folded in before. -/
def absorb (h : Array UInt64) (taken : Nat) (message : List UInt8) : Array UInt64 :=
  if message.length ≤ 128 then compress h (block message) (taken + message.length) true
  else absorb (compress h (block (message.take 128)) (taken + 128) false) (taken + 128)
    (message.drop 128)
termination_by message.length
decreasing_by simp only [List.length_drop]; omega

/-- The hash of a message with so many bytes. -/
def hash (size : Nat) (message : List UInt8) : List UInt8 :=
  let start := initial.setIfInBounds 0 (initial.getD 0 0 ^^^ 0x01010000 ^^^ UInt64.ofNat size)
  ((absorb start 0 message).toList.flatMap wordBytes).take size

end SessionTokens.Blake2b
