/-!
# The BLAKE3 hash

The text is cut into chunks of 1024 bytes and these into blocks of 64. Each block is compressed
into the chaining value of its chunk; the chunks are the leaves of a binary tree in which every
left subtree is full, and the root gives the digest. Pairing neighbours level by level, an odd
last one going up as it is, builds that tree.

Main result: `Blake3.digest`, the 32 bytes of the root.
-/
namespace Flowgraph.Blake3

/-- Eight words that one compression hands to the next. -/
abbrev Chain := Vector UInt32 8

/-- Sixteen words: a block, or the state of a compression. -/
abbrev Words := Vector UInt32 16

/-- The chaining value that everything starts from. -/
def initial : Chain :=
  #v[0x6A09E667, 0xBB67AE85, 0x3C6EF372, 0xA54FF53A, 0x510E527F, 0x9B05688C, 0x1F83D9AB, 0x5BE0CD19]

/-- Where the words of a block go from one round to the next. -/
def permute (m : Words) : Words :=
  #v[m[2], m[6], m[3], m[10], m[7], m[0], m[4], m[13], m[1], m[11], m[12], m[5], m[9], m[14], m[15],
    m[8]]

/-- A word rotated to the right by some of its 32 bits. -/
def rotateRight (x n : UInt32) : UInt32 := (x >>> n) ||| (x <<< (32 - n))

/-- Mixes two words of a block into four words of the state. -/
def mix (s : Words) (a b c d : Fin 16) (x y : UInt32) : Words :=
  let va := s[a] + s[b] + x
  let vd := rotateRight (s[d] ^^^ va) 16
  let vc := s[c] + vd
  let vb := rotateRight (s[b] ^^^ vc) 12
  let va' := va + vb + y
  let vd' := rotateRight (vd ^^^ va') 8
  let vc' := vc + vd'
  let vb' := rotateRight (vb ^^^ vc') 7
  (((s.set a va').set b vb').set c vc').set d vd'

/-- A round: the columns of the state, then its diagonals. -/
def round (s m : Words) : Words :=
  let s := mix s 0 4 8 12 m[0] m[1]
  let s := mix s 1 5 9 13 m[2] m[3]
  let s := mix s 2 6 10 14 m[4] m[5]
  let s := mix s 3 7 11 15 m[6] m[7]
  let s := mix s 0 5 10 15 m[8] m[9]
  let s := mix s 1 6 11 12 m[10] m[11]
  let s := mix s 2 7 8 13 m[12] m[13]
  mix s 3 4 9 14 m[14] m[15]

/-- So many rounds, the block permuted between them. -/
def rounds : Nat → Words → Words → Words
  | 0, s, _ => s
  | n + 1, s, m => rounds n (round s m) (permute m)

/-- What a compression is applied to. -/
structure Step where
  chain : Chain
  block : Words
  counter : UInt64
  length : UInt32
  flags : UInt32

/-- Marks the first block of a chunk. -/
def chunkStart : UInt32 := 1

/-- Marks the last block of a chunk. -/
def chunkEnd : UInt32 := 2

/-- Marks a node above the chunks. -/
def parent : UInt32 := 4

/-- Marks the root. -/
def root : UInt32 := 8

/-- The chaining value of a compression. -/
def Step.compress (step : Step) : Chain :=
  let chain := step.chain
  let state : Words := #v[chain[0], chain[1], chain[2], chain[3], chain[4], chain[5], chain[6],
    chain[7], initial[0], initial[1], initial[2], initial[3], step.counter.toUInt32,
    (step.counter >>> 32).toUInt32, step.length, step.flags]
  let s := rounds 7 state step.block
  #v[s[0] ^^^ s[8], s[1] ^^^ s[9], s[2] ^^^ s[10], s[3] ^^^ s[11], s[4] ^^^ s[12], s[5] ^^^ s[13],
    s[6] ^^^ s[14], s[7] ^^^ s[15]]

/-- The word of four bytes, the lowest first; absent bytes are zero. -/
def wordAt (bytes : List UInt8) (i : Nat) : UInt32 :=
  let byte (k : Nat) : UInt32 := ((bytes[4 * i + k]?).getD 0).toUInt32
  byte 0 ||| (byte 1 <<< 8) ||| (byte 2 <<< 16) ||| (byte 3 <<< 24)

def blockOf (bytes : List UInt8) : Words := Vector.ofFn fun i => wordAt bytes i.val

/-- The parts of a list that are of one length, but the last, which may be shorter; an empty list
has one empty part. -/
def parts (size : Nat) : Nat → List UInt8 → List (List UInt8)
  | 0, bytes => [bytes]
  | fuel + 1, bytes =>
    if bytes.length ≤ size then [bytes] else bytes.take size :: parts size fuel (bytes.drop size)

/-- Compresses the blocks of a chunk up to the last one, which is left to be compressed. -/
def chunkFrom (chain : Chain) (counter : UInt64) (flags : UInt32) : List (List UInt8) → Step
  | [] => ⟨chain, blockOf [], counter, 0, flags ||| chunkEnd⟩
  | [bytes] => ⟨chain, blockOf bytes, counter, bytes.length.toUInt32, flags ||| chunkEnd⟩
  | bytes :: rest =>
    let step : Step := ⟨chain, blockOf bytes, counter, 64, flags⟩
    chunkFrom step.compress counter 0 rest

/-- The last step of a chunk. -/
def chunk (counter : Nat) (bytes : List UInt8) : Step :=
  chunkFrom initial counter.toUInt64 chunkStart (parts 64 16 bytes)

/-- The step of a node above two others. -/
def join (left right : Step) : Step :=
  let l := left.compress
  let r := right.compress
  ⟨initial, #v[l[0], l[1], l[2], l[3], l[4], l[5], l[6], l[7], r[0], r[1], r[2], r[3], r[4], r[5],
    r[6], r[7]], 0, 64, parent⟩

/-- Joins neighbours; an odd last one is left as it is. -/
def pairUp : List Step → List Step
  | left :: right :: rest => join left right :: pairUp rest
  | rest => rest

/-- Joins neighbours until one is left. -/
def climb : Nat → List Step → List Step
  | 0, steps => steps
  | fuel + 1, steps =>
    match steps with
    | _ :: _ :: _ => climb fuel (pairUp steps)
    | steps => steps

/-- The step of the root. -/
def rootOf (bytes : List UInt8) : Step :=
  let leaves := (parts 1024 bytes.length bytes).zipIdx.map fun (part, counter) => chunk counter part
  (climb leaves.length leaves).headD (chunk 0 [])

/-- The bytes of a word, the lowest first. -/
def wordBytes (w : UInt32) : List UInt8 :=
  [w.toUInt8, (w >>> 8).toUInt8, (w >>> 16).toUInt8, (w >>> 24).toUInt8]

/-- The 32 bytes of the digest. -/
def digest (bytes : List UInt8) : List UInt8 :=
  let step := rootOf bytes
  { step with flags := step.flags ||| root }.compress.toList.flatMap wordBytes

/-- Bytes in hexadecimal, two digits each. -/
def hex (bytes : List UInt8) : String :=
  String.ofList (bytes.flatMap fun byte =>
    [Nat.digitChar (byte.toNat / 16), Nat.digitChar (byte.toNat % 16)])

end Flowgraph.Blake3
