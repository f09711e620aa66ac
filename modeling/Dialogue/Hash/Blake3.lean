/-!
The BLAKE3 hash of a byte string. The bytes are cut into chunks, each chunk is compressed block by
block, and the chunks are joined in pairs up to the root of a tree whose left halves are full.
-/
namespace Dialogue.Blake3

abbrev Words (n : Nat) := Vector UInt32 n

def initialWords : Words 8 := #v[
    0x6A09E667, 0xBB67AE85, 0x3C6EF372, 0xA54FF53A, 0x510E527F, 0x9B05688C, 0x1F83D9AB, 0x5BE0CD19]

def permutation : Vector (Fin 16) 16 := #v[
    2, 6, 3, 10, 7, 0, 4, 13, 1, 11, 12, 5, 9, 14, 15, 8]

def chunkStart : UInt32 := 1
def chunkEnd : UInt32 := 2
def parentNode : UInt32 := 4
def rootNode : UInt32 := 8

def blockBytes : Nat := 64
def chunkBytes : Nat := 1024

def rotateRight (x n : UInt32) : UInt32 :=
  (x >>> n) ||| (x <<< (32 - n))

def mix (v : Words 16) (a b c d : Fin 16) (x y : UInt32) : Words 16 :=
  let va := v[a] + v[b] + x
  let vd := rotateRight (v[d] ^^^ va) 16
  let vc := v[c] + vd
  let vb := rotateRight (v[b] ^^^ vc) 12
  let va := va + vb + y
  let vd := rotateRight (vd ^^^ va) 8
  let vc := vc + vd
  let vb := rotateRight (vb ^^^ vc) 7
  (((v.set a va).set b vb).set c vc).set d vd

/-- Four columns, then four diagonals. -/
def round (v m : Words 16) : Words 16 :=
  let v := mix v 0 4 8 12 m[0] m[1]
  let v := mix v 1 5 9 13 m[2] m[3]
  let v := mix v 2 6 10 14 m[4] m[5]
  let v := mix v 3 7 11 15 m[6] m[7]
  let v := mix v 0 5 10 15 m[8] m[9]
  let v := mix v 1 6 11 12 m[10] m[11]
  let v := mix v 2 7 8 13 m[12] m[13]
  mix v 3 4 9 14 m[14] m[15]

def permute (m : Words 16) : Words 16 :=
  permutation.map fun i => m[i]

def rounds : Nat → Words 16 → Words 16 → Words 16
  | 0, v, _ => v
  | n + 1, v, m => rounds n (round v m) (permute m)

/-- What is compressed: a chaining value, a block with its length, a counter, and flags. -/
structure Node where
  chaining : Words 8
  block : Words 16
  counter : UInt64
  length : UInt32
  flags : UInt32

def Node.compress (node : Node) : Words 8 :=
  let h := node.chaining
  let iv := initialWords
  let v := rounds 7 #v[
      h[0], h[1], h[2], h[3], h[4], h[5], h[6], h[7], iv[0], iv[1], iv[2], iv[3],
      node.counter.toUInt32, (node.counter >>> 32).toUInt32, node.length, node.flags] node.block
  Vector.ofFn fun i : Fin 8 => v[i.val] ^^^ v[i.val + 8]

def blockWords (bytes : List UInt8) : Words 16 :=
  let b := bytes.toArray
  let byte (i : Nat) : UInt32 := (b.getD i 0).toUInt32
  Vector.ofFn fun i =>
    byte (4 * i) ||| (byte (4 * i + 1) <<< 8) ||| (byte (4 * i + 2) <<< 16) |||
      (byte (4 * i + 3) <<< 24)

/-- Cuts a list into pieces of `size`, the last one possibly shorter. The empty list is one
piece. -/
def pieces (size : Nat) (bytes : List UInt8) : List (List UInt8) :=
  (List.range (max 1 ((bytes.length + size - 1) / size))).map fun i =>
    (bytes.drop (i * size)).take size

/-- The last node of a chunk; the blocks before it are compressed into its chaining value. -/
def chunkNode (counter : UInt64) (chaining : Words 8) (start : UInt32) : List (List UInt8) → Node
  | [] => ⟨chaining, blockWords [], counter, 0, start ||| chunkEnd⟩
  | [last] => ⟨chaining, blockWords last, counter, UInt32.ofNat last.length, start ||| chunkEnd⟩
  | block :: rest =>
    let node : Node := ⟨chaining, blockWords block, counter, UInt32.ofNat block.length, start⟩
    chunkNode counter node.compress 0 rest

def joinNode (left right : Node) : Node :=
  ⟨initialWords, (left.compress ++ right.compress).cast rfl, 0, UInt32.ofNat blockBytes, parentNode⟩

def leftSize (n : Nat) : Nat :=
  1 <<< (n - 1).log2

/-- The node over some chunks, the first of which has the given number. `fuel` bounds the height. -/
def treeNode : Nat → Nat → List (List UInt8) → Node
  | 0, first, chunks =>
    chunkNode (UInt64.ofNat first) initialWords chunkStart (pieces blockBytes (chunks.headD []))
  | fuel + 1, first, chunks =>
    if chunks.length ≤ 1 then treeNode 0 first chunks
    else
      let left := leftSize chunks.length
      joinNode (treeNode fuel first (chunks.take left))
        (treeNode fuel (first + left) (chunks.drop left))

def wordBytes (w : UInt32) : List UInt8 :=
  [w.toUInt8, (w >>> 8).toUInt8, (w >>> 16).toUInt8, (w >>> 24).toUInt8]

def hash (bytes : List UInt8) : List UInt8 :=
  let chunks := pieces chunkBytes bytes
  let node := treeNode chunks.length 0 chunks
  ({ node with flags := node.flags ||| rootNode }.compress).toList.flatMap wordBytes

def hexDigit (n : Nat) : Char :=
  Nat.digitChar n

def hex (bytes : List UInt8) : String :=
  String.ofList (bytes.flatMap fun b => [hexDigit (b.toNat / 16), hexDigit (b.toNat % 16)])

def hexHash (bytes : List UInt8) : String :=
  hex (hash bytes)

end Dialogue.Blake3
