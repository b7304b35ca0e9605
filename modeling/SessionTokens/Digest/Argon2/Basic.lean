import SessionTokens.Digest.Argon2.Block

/-! # Argon2

The password hash of RFC 9106. A memory of blocks is filled lane by lane, every block from its
predecessor and one earlier block; which one, is drawn from the predecessor itself, or from a
sequence that does not depend on the password. Later passes go over the memory again. The last
blocks of all lanes give the hash.
-/

namespace SessionTokens.Argon2

/-- Where the references to earlier blocks come from. -/
inductive Variant where
  /-- From the blocks. -/
  | d
  /-- From a fixed sequence. -/
  | i
  /-- From a fixed sequence in the first half of the first pass, then from the blocks. -/
  | id
deriving DecidableEq, Repr

/-- The number of a variant in the first hash. -/
def Variant.number : Variant → Nat
  | .d => 0
  | .i => 1
  | .id => 2

/-- What a hash is made with. -/
structure Parameters where
  variant : Variant
  version : Nat
  /-- How many blocks the memory has, before rounding. -/
  memory : Nat
  passes : Nat
  lanes : Nat
  /-- What goes into the hash besides the password and the salt. -/
  associated : List UInt8
  /-- How many bytes the hash has. -/
  size : Nat
deriving DecidableEq, Repr

/-- The four bytes of a number, the least significant first. -/
def bytes4 (n : Nat) : List UInt8 :=
  [UInt8.ofNat n, UInt8.ofNat (n / 256), UInt8.ofNat (n / 65536), UInt8.ofNat (n / 16777216)]

/-- A text with its length before it. -/
def sized (bytes : List UInt8) : List UInt8 := bytes4 bytes.length ++ bytes

/-- Hashes of 64 bytes, each that of the one before. All but the last `rest` bytes are the first
halves; the last hash has just the size that is missing. -/
def stretch (v : List UInt8) (rest : Nat) : List UInt8 :=
  if rest ≤ 64 then v.take 32 ++ Blake2b.hash rest v
  else v.take 32 ++ stretch (Blake2b.hash 64 v) (rest - 32)
termination_by rest

/-- A hash of any size. -/
def longHash (size : Nat) (message : List UInt8) : List UInt8 :=
  let message := bytes4 size ++ message
  if size ≤ 64 then Blake2b.hash size message
  else stretch (Blake2b.hash 64 message) (size - 32)

namespace Parameters

/-- How many blocks a lane has between two points where the lanes wait for one another. -/
def segment (p : Parameters) : Nat := p.memory / (4 * p.lanes)

/-- How many blocks a lane has. -/
def lane (p : Parameters) : Nat := 4 * p.segment

/-- How many blocks the memory has. -/
def blocks (p : Parameters) : Nat := p.lanes * p.lane

/-- The hash of all that goes in. -/
def firstHash (p : Parameters) (password salt : List UInt8) : List UInt8 :=
  Blake2b.hash 64 (bytes4 p.lanes ++ bytes4 p.size ++ bytes4 p.memory ++ bytes4 p.passes ++
    bytes4 p.version ++ bytes4 p.variant.number ++ sized password ++ sized salt ++ bytes4 0 ++
    sized p.associated)

/-- One of the first two blocks of a lane. -/
def startBlock (first : List UInt8) (column lane : Nat) : Block :=
  .ofList (Blake2b.words (longHash 1024 (first ++ bytes4 column ++ bytes4 lane)))

/-- The memory with the first two blocks of every lane. -/
def start (p : Parameters) (first : List UInt8) : Array Block :=
  (List.range p.lanes).foldl (fun m l =>
    (m.setIfInBounds (l * p.lane) (startBlock first 0 l)).setIfInBounds (l * p.lane + 1)
      (startBlock first 1 l)) (Array.replicate p.blocks Block.zero)

end Parameters

/-- Where filling has got to. -/
structure Position where
  pass : Nat
  slice : Nat
  lane : Nat

/-- The references of this segment come from a fixed sequence. -/
def Parameters.isFixed (p : Parameters) (pos : Position) : Bool :=
  match p.variant with
  | .d => false
  | .i => true
  | .id => pos.pass = 0 && pos.slice < 2

/-- The words of the fixed sequence for a segment. -/
def Parameters.fixedWords (p : Parameters) (pos : Position) : Array UInt64 :=
  if p.isFixed pos then
    ((List.range ((p.segment + 127) / 128)).flatMap fun i =>
      let input := Block.ofList ([pos.pass, pos.lane, pos.slice, p.blocks, p.passes,
        p.variant.number, i + 1].map UInt64.ofNat ++ List.replicate 121 0)
      (Block.zero.compress (Block.zero.compress input)).toList).toArray
  else #[]

/-- Which block a word refers to, when the block at an index of a segment is filled: its lane and
its column. -/
def Parameters.reference (p : Parameters) (pos : Position) (index : Nat) (word : UInt64) :
    Nat × Nat :=
  let j1 := (word &&& 0xffffffff).toNat
  let j2 := (word >>> 32).toNat
  let lane := if pos.pass = 0 && pos.slice = 0 then pos.lane else j2 % p.lanes
  let filled := if pos.pass = 0 then pos.slice * p.segment else p.lane - p.segment
  let area := if lane = pos.lane then filled + index - 1 else if index = 0 then filled - 1 else filled
  let back := (area * (j1 * j1 / 0x100000000)) / 0x100000000
  let first := if pos.pass = 0 || pos.slice = 3 then 0 else (pos.slice + 1) * p.segment
  (lane, (first + (area - 1 - back)) % p.lane)

/-- Fills the block at an index of a segment. -/
def Parameters.fillBlock (p : Parameters) (pos : Position) (fixed : Array UInt64)
    (m : Array Block) (index : Nat) : Array Block :=
  let column := pos.slice * p.segment + index
  let base := pos.lane * p.lane
  let previous := m.getD (base + if column = 0 then p.lane - 1 else column - 1) .zero
  let word := if p.isFixed pos then fixed.getD index 0 else previous.r0.v0
  let (lane, refColumn) := p.reference pos index word
  let fresh := previous.compress (m.getD (lane * p.lane + refColumn) .zero)
  let block :=
    if pos.pass = 0 || p.version = 0x10 then fresh
    else fresh.xor (m.getD (base + column) .zero)
  m.setIfInBounds (base + column) block

/-- Fills a segment. The first two blocks of a lane are there from the start. -/
def Parameters.fillSegment (p : Parameters) (m : Array Block) (pos : Position) : Array Block :=
  let fixed := p.fixedWords pos
  let skipped := if pos.pass = 0 && pos.slice = 0 then 2 else 0
  ((List.range p.segment).drop skipped).foldl (p.fillBlock pos fixed) m

/-- All segments in the order in which they are filled. -/
def Parameters.positions (p : Parameters) : List Position :=
  (List.range p.passes).flatMap fun pass => (List.range 4).flatMap fun slice =>
    (List.range p.lanes).map fun lane => ⟨pass, slice, lane⟩

/-- The hash of a password with a salt. -/
def hash (p : Parameters) (password salt : List UInt8) : List UInt8 :=
  let memory := p.positions.foldl p.fillSegment (p.start (p.firstHash password salt))
  let last := (List.range p.lanes).foldl (fun (b : Block) l =>
    b.xor (memory.getD (l * p.lane + (p.lane - 1)) .zero)) .zero
  longHash p.size (last.toList.flatMap Blake2b.wordBytes)

end SessionTokens.Argon2
