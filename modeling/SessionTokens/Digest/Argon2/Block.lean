import SessionTokens.Digest.Blake2b

/-! # Blocks of the memory that Argon2 fills

A block has 128 words. For mixing it is a square of eight rows of eight pairs of words: the rows are
permuted, then the columns, which are the rows of the transposed square.
-/

namespace SessionTokens.Argon2

/-- Four words that are mixed into one another. -/
structure Quad where
  a : UInt64
  b : UInt64
  c : UInt64
  d : UInt64

/-- The sum of two words and twice the product of their lower halves. -/
@[inline] def blend (x y : UInt64) : UInt64 :=
  x + y + 2 * ((x &&& 0xffffffff) * (y &&& 0xffffffff))

/-- Mixes four words. -/
@[inline] def Quad.mix (q : Quad) : Quad :=
  let a := blend q.a q.b
  let d := Blake2b.rotr (q.d ^^^ a) 32
  let c := blend q.c d
  let b := Blake2b.rotr (q.b ^^^ c) 24
  let a := blend a b
  let d := Blake2b.rotr (d ^^^ a) 16
  let c := blend c d
  let b := Blake2b.rotr (b ^^^ c) 63
  ⟨a, b, c, d⟩

/-- Eight pairs of words. -/
structure Row where
  v0 : UInt64
  v1 : UInt64
  v2 : UInt64
  v3 : UInt64
  v4 : UInt64
  v5 : UInt64
  v6 : UInt64
  v7 : UInt64
  v8 : UInt64
  v9 : UInt64
  v10 : UInt64
  v11 : UInt64
  v12 : UInt64
  v13 : UInt64
  v14 : UInt64
  v15 : UInt64

/-- No bit set. -/
def Row.zero : Row := ⟨0, 0, 0, 0, 0, 0, 0, 0, 0, 0, 0, 0, 0, 0, 0, 0⟩

/-- The exclusive or, word by word. -/
def Row.xor (x y : Row) : Row :=
  ⟨x.v0 ^^^ y.v0, x.v1 ^^^ y.v1, x.v2 ^^^ y.v2, x.v3 ^^^ y.v3, x.v4 ^^^ y.v4, x.v5 ^^^ y.v5,
    x.v6 ^^^ y.v6, x.v7 ^^^ y.v7, x.v8 ^^^ y.v8, x.v9 ^^^ y.v9, x.v10 ^^^ y.v10, x.v11 ^^^ y.v11,
    x.v12 ^^^ y.v12, x.v13 ^^^ y.v13, x.v14 ^^^ y.v14, x.v15 ^^^ y.v15⟩

/-- Permutes the words of a row: as four by four words, along the columns and then the diagonals. -/
def Row.permute (r : Row) : Row :=
  let c0 := Quad.mix ⟨r.v0, r.v4, r.v8, r.v12⟩
  let c1 := Quad.mix ⟨r.v1, r.v5, r.v9, r.v13⟩
  let c2 := Quad.mix ⟨r.v2, r.v6, r.v10, r.v14⟩
  let c3 := Quad.mix ⟨r.v3, r.v7, r.v11, r.v15⟩
  let d0 := Quad.mix ⟨c0.a, c1.b, c2.c, c3.d⟩
  let d1 := Quad.mix ⟨c1.a, c2.b, c3.c, c0.d⟩
  let d2 := Quad.mix ⟨c2.a, c3.b, c0.c, c1.d⟩
  let d3 := Quad.mix ⟨c3.a, c0.b, c1.c, c2.d⟩
  ⟨d0.a, d1.a, d2.a, d3.a, d3.b, d0.b, d1.b, d2.b, d2.c, d3.c, d0.c, d1.c, d1.d, d2.d, d3.d,
    d0.d⟩

/-- The words of a row. -/
def Row.toList (r : Row) : List UInt64 :=
  [r.v0, r.v1, r.v2, r.v3, r.v4, r.v5, r.v6, r.v7, r.v8, r.v9, r.v10, r.v11, r.v12, r.v13,
    r.v14, r.v15]

/-- The row of sixteen words. -/
def Row.ofList : List UInt64 → Row
  | [v0, v1, v2, v3, v4, v5, v6, v7, v8, v9, v10, v11, v12, v13, v14, v15] =>
    ⟨v0, v1, v2, v3, v4, v5, v6, v7, v8, v9, v10, v11, v12, v13, v14, v15⟩
  | _ => Row.zero

/-- Eight rows. -/
structure Block where
  r0 : Row
  r1 : Row
  r2 : Row
  r3 : Row
  r4 : Row
  r5 : Row
  r6 : Row
  r7 : Row

namespace Block

/-- No bit set. -/
def zero : Block :=
  ⟨.zero, .zero, .zero, .zero, .zero, .zero, .zero, .zero⟩

instance : Inhabited Block := ⟨zero⟩

/-- The exclusive or, word by word. -/
def xor (x y : Block) : Block :=
  ⟨x.r0.xor y.r0, x.r1.xor y.r1, x.r2.xor y.r2, x.r3.xor y.r3, x.r4.xor y.r4, x.r5.xor y.r5,
    x.r6.xor y.r6, x.r7.xor y.r7⟩

/-- Every row permuted. -/
def permuteRows (b : Block) : Block :=
  ⟨b.r0.permute, b.r1.permute, b.r2.permute, b.r3.permute, b.r4.permute, b.r5.permute,
    b.r6.permute, b.r7.permute⟩

/-- The square of pairs with rows and columns exchanged. -/
def transpose (b : Block) : Block :=
  ⟨
    ⟨b.r0.v0, b.r0.v1, b.r1.v0, b.r1.v1, b.r2.v0, b.r2.v1, b.r3.v0, b.r3.v1, b.r4.v0, b.r4.v1,
      b.r5.v0, b.r5.v1, b.r6.v0, b.r6.v1, b.r7.v0, b.r7.v1⟩,
    ⟨b.r0.v2, b.r0.v3, b.r1.v2, b.r1.v3, b.r2.v2, b.r2.v3, b.r3.v2, b.r3.v3, b.r4.v2, b.r4.v3,
      b.r5.v2, b.r5.v3, b.r6.v2, b.r6.v3, b.r7.v2, b.r7.v3⟩,
    ⟨b.r0.v4, b.r0.v5, b.r1.v4, b.r1.v5, b.r2.v4, b.r2.v5, b.r3.v4, b.r3.v5, b.r4.v4, b.r4.v5,
      b.r5.v4, b.r5.v5, b.r6.v4, b.r6.v5, b.r7.v4, b.r7.v5⟩,
    ⟨b.r0.v6, b.r0.v7, b.r1.v6, b.r1.v7, b.r2.v6, b.r2.v7, b.r3.v6, b.r3.v7, b.r4.v6, b.r4.v7,
      b.r5.v6, b.r5.v7, b.r6.v6, b.r6.v7, b.r7.v6, b.r7.v7⟩,
    ⟨b.r0.v8, b.r0.v9, b.r1.v8, b.r1.v9, b.r2.v8, b.r2.v9, b.r3.v8, b.r3.v9, b.r4.v8, b.r4.v9,
      b.r5.v8, b.r5.v9, b.r6.v8, b.r6.v9, b.r7.v8, b.r7.v9⟩,
    ⟨b.r0.v10, b.r0.v11, b.r1.v10, b.r1.v11, b.r2.v10, b.r2.v11, b.r3.v10, b.r3.v11, b.r4.v10,
      b.r4.v11, b.r5.v10, b.r5.v11, b.r6.v10, b.r6.v11, b.r7.v10, b.r7.v11⟩,
    ⟨b.r0.v12, b.r0.v13, b.r1.v12, b.r1.v13, b.r2.v12, b.r2.v13, b.r3.v12, b.r3.v13, b.r4.v12,
      b.r4.v13, b.r5.v12, b.r5.v13, b.r6.v12, b.r6.v13, b.r7.v12, b.r7.v13⟩,
    ⟨b.r0.v14, b.r0.v15, b.r1.v14, b.r1.v15, b.r2.v14, b.r2.v15, b.r3.v14, b.r3.v15, b.r4.v14,
      b.r4.v15, b.r5.v14, b.r5.v15, b.r6.v14, b.r6.v15, b.r7.v14, b.r7.v15⟩⟩

/-- Compresses two blocks into one. -/
def compress (x y : Block) : Block :=
  let r := x.xor y
  r.xor r.permuteRows.transpose.permuteRows.transpose

/-- The words of a block. -/
def toList (b : Block) : List UInt64 :=
  b.r0.toList ++ b.r1.toList ++ b.r2.toList ++ b.r3.toList ++ b.r4.toList ++ b.r5.toList ++
    b.r6.toList ++ b.r7.toList

/-- The block of 128 words. -/
def ofList (ws : List UInt64) : Block :=
  let row := fun i => Row.ofList ((ws.drop (16 * i)).take 16)
  ⟨row 0, row 1, row 2, row 3, row 4, row 5, row 6, row 7⟩

end Block

end SessionTokens.Argon2
