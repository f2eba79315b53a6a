import HttpRequestClient.CString
import HttpRequestClient.Lib.BitString
import HttpRequestClient.Lib.PrefixWalk

/-!
# The Huffman coder of `CompressHandler.c`

`huffmanTable` is the table of the source, entry for entry.  It has 290
entries; `buildHuffmanTree` reads entries 0 to 256 and `hpackHuffmanEncode`
entries 0 to 255.

The tree of the source is a static array of 513 nodes with child pointers.
Every node has one parent, so the pointer structure is a tree value here:
`HuffmanNode.null` is the null pointer, and the number of nodes taken from
the array is threaded through the construction, because `getHuffmanNode`
fails when the array is used up.

Allocation does not fail.
-/

namespace HttpRequestClient.Hpack

open BitString

structure HuffmanCode where
  code : Nat
  bits : Nat
  deriving Repr, DecidableEq, Inhabited

def huffmanTable : List HuffmanCode := [
    ⟨0x1ff8, 13⟩, ⟨0x7fffd8, 23⟩, ⟨0xfffffe2, 28⟩, ⟨0xfffffe3, 28⟩, ⟨0xfffffe4, 28⟩,
    ⟨0xfffffe5, 28⟩, ⟨0xfffffe6, 28⟩, ⟨0xfffffe7, 28⟩, ⟨0xfffffe8, 28⟩, ⟨0xffffea, 24⟩,
    ⟨0x3ffffffc, 30⟩, ⟨0xfffffe9, 28⟩, ⟨0xfffffea, 28⟩, ⟨0x3ffffffd, 30⟩, ⟨0xfffffeb, 28⟩,
    ⟨0xfffffec, 28⟩, ⟨0xfffffed, 28⟩, ⟨0xfffffee, 28⟩, ⟨0xfffffef, 28⟩, ⟨0xffffff0, 28⟩,
    ⟨0xffffff1, 28⟩, ⟨0xffffff2, 28⟩, ⟨0x3ffffffe, 30⟩, ⟨0xffffff3, 28⟩, ⟨0xffffff4, 28⟩,
    ⟨0xffffff5, 28⟩, ⟨0xffffff6, 28⟩, ⟨0xffffff7, 28⟩, ⟨0xffffff8, 28⟩, ⟨0xffffff9, 28⟩,
    ⟨0xffffffa, 28⟩, ⟨0xffffffb, 28⟩, ⟨0x14, 6⟩, ⟨0x3f8, 10⟩, ⟨0x3f9, 10⟩, ⟨0xffa, 12⟩,
    ⟨0x1ff9, 13⟩, ⟨0x15, 6⟩, ⟨0xf8, 8⟩, ⟨0x7fa, 11⟩, ⟨0x3fa, 10⟩, ⟨0x3fb, 10⟩, ⟨0xf9, 8⟩,
    ⟨0x7fb, 11⟩, ⟨0xfa, 8⟩, ⟨0x16, 6⟩, ⟨0x17, 6⟩, ⟨0x18, 6⟩, ⟨0x0, 5⟩, ⟨0x1, 5⟩, ⟨0x2, 5⟩,
    ⟨0x19, 6⟩, ⟨0x1a, 6⟩, ⟨0x1b, 6⟩, ⟨0x1c, 6⟩, ⟨0x1d, 6⟩, ⟨0x1e, 6⟩, ⟨0x1f, 6⟩, ⟨0x5c, 7⟩,
    ⟨0xfb, 8⟩, ⟨0x7ffc, 15⟩, ⟨0x20, 6⟩, ⟨0xffb, 12⟩, ⟨0x3fc, 10⟩, ⟨0x1ffa, 13⟩, ⟨0x21, 6⟩,
    ⟨0x5d, 7⟩, ⟨0x5e, 7⟩, ⟨0x5f, 7⟩, ⟨0x60, 7⟩, ⟨0x61, 7⟩, ⟨0x62, 7⟩, ⟨0x63, 7⟩, ⟨0x64, 7⟩,
    ⟨0x65, 7⟩, ⟨0x66, 7⟩, ⟨0x67, 7⟩, ⟨0x68, 7⟩, ⟨0x69, 7⟩, ⟨0x6a, 7⟩, ⟨0x6b, 7⟩, ⟨0x6c, 7⟩,
    ⟨0x6d, 7⟩, ⟨0x6e, 7⟩, ⟨0x6f, 7⟩, ⟨0x70, 7⟩, ⟨0x71, 7⟩, ⟨0x72, 7⟩, ⟨0xfc, 8⟩, ⟨0x73, 7⟩,
    ⟨0xfd, 8⟩, ⟨0x1ffb, 13⟩, ⟨0x7fff0, 19⟩, ⟨0x1ffc, 13⟩, ⟨0x3ffc, 14⟩, ⟨0x22, 6⟩,
    ⟨0x7ffd, 15⟩, ⟨0x3, 5⟩, ⟨0x23, 6⟩, ⟨0x4, 5⟩, ⟨0x24, 6⟩, ⟨0x5, 5⟩, ⟨0x25, 6⟩, ⟨0x26, 6⟩,
    ⟨0x27, 6⟩, ⟨0x6, 5⟩, ⟨0x74, 7⟩, ⟨0x75, 7⟩, ⟨0x28, 6⟩, ⟨0x29, 6⟩, ⟨0x2a, 6⟩, ⟨0x7, 5⟩,
    ⟨0x2b, 6⟩, ⟨0x76, 7⟩, ⟨0x2c, 6⟩, ⟨0x8, 5⟩, ⟨0x9, 5⟩, ⟨0x2d, 6⟩, ⟨0x77, 7⟩, ⟨0x78, 7⟩,
    ⟨0x79, 7⟩, ⟨0x7a, 7⟩, ⟨0x7b, 7⟩, ⟨0x7ffe, 15⟩, ⟨0x7fc, 11⟩, ⟨0x3ffd, 14⟩, ⟨0x1ffd, 13⟩,
    ⟨0xffffffc, 28⟩, ⟨0xfffe6, 20⟩, ⟨0x3fffd2, 22⟩, ⟨0xfffe7, 20⟩, ⟨0xfffe8, 20⟩,
    ⟨0x3fffd3, 22⟩, ⟨0x3fffd4, 22⟩, ⟨0x3fffd5, 22⟩, ⟨0x7fffd9, 23⟩, ⟨0x3fffd6, 22⟩,
    ⟨0x7fffda, 23⟩, ⟨0x7fffdb, 23⟩, ⟨0x7fffdc, 23⟩, ⟨0x7fffdd, 23⟩, ⟨0x7fffde, 23⟩,
    ⟨0xffffeb, 24⟩, ⟨0x7fffdf, 23⟩, ⟨0xffffec, 24⟩, ⟨0xffffed, 24⟩, ⟨0x3fffd7, 22⟩,
    ⟨0x7fffe0, 23⟩, ⟨0xffffee, 24⟩, ⟨0x7fffe1, 23⟩, ⟨0x7fffe2, 23⟩, ⟨0x7fffe3, 23⟩,
    ⟨0x7fffe4, 23⟩, ⟨0x1fffdc, 21⟩, ⟨0x3fffd8, 22⟩, ⟨0x7fffe5, 23⟩, ⟨0x3fffd9, 22⟩,
    ⟨0x7fffe6, 23⟩, ⟨0x7fffe7, 23⟩, ⟨0xffffef, 24⟩, ⟨0x3fffda, 22⟩, ⟨0x1fffdd, 21⟩,
    ⟨0xfffe9, 20⟩, ⟨0x3fffdb, 22⟩, ⟨0x3fffdc, 22⟩, ⟨0x7fffe8, 23⟩, ⟨0x7fffe9, 23⟩,
    ⟨0x1fffde, 21⟩, ⟨0x7fffea, 23⟩, ⟨0x3fffdd, 22⟩, ⟨0x3fffde, 22⟩, ⟨0xfffff0, 24⟩,
    ⟨0x1fffdf, 21⟩, ⟨0x3fffdf, 22⟩, ⟨0x7fffeb, 23⟩, ⟨0x7fffec, 23⟩, ⟨0x1fffe0, 21⟩,
    ⟨0x1fffe1, 21⟩, ⟨0x3fffe0, 22⟩, ⟨0x1fffe2, 21⟩, ⟨0x7fffed, 23⟩, ⟨0x3fffe1, 22⟩,
    ⟨0x7fffee, 23⟩, ⟨0x7fffef, 23⟩, ⟨0xfffea, 20⟩, ⟨0x3fffe2, 22⟩, ⟨0x3fffe3, 22⟩,
    ⟨0x3fffe4, 22⟩, ⟨0x7ffff0, 23⟩, ⟨0x3fffe5, 22⟩, ⟨0x3fffe6, 22⟩, ⟨0x7ffff1, 23⟩,
    ⟨0x3ffffe0, 26⟩, ⟨0x3ffffe1, 26⟩, ⟨0xfffeb, 20⟩, ⟨0x7fff1, 19⟩, ⟨0x3fffe7, 22⟩,
    ⟨0x7ffff2, 23⟩, ⟨0x3fffe8, 22⟩, ⟨0x1ffffec, 25⟩, ⟨0x3ffffe2, 26⟩, ⟨0x3ffffe3, 26⟩,
    ⟨0x3ffffe4, 26⟩, ⟨0x7ffffde, 27⟩, ⟨0x7ffffdf, 27⟩, ⟨0x3ffffe5, 26⟩, ⟨0xfffff1, 24⟩,
    ⟨0x1ffffed, 25⟩, ⟨0x7fff2, 19⟩, ⟨0x1fffe3, 21⟩, ⟨0x3ffffe6, 26⟩, ⟨0x7ffffe0, 27⟩,
    ⟨0x7ffffe1, 27⟩, ⟨0x3ffffe7, 26⟩, ⟨0x7ffffe2, 27⟩, ⟨0xfffff2, 24⟩, ⟨0x1fffe4, 21⟩,
    ⟨0x1fffe5, 21⟩, ⟨0x3ffffe8, 26⟩, ⟨0x3ffffe9, 26⟩, ⟨0xffffffd, 28⟩, ⟨0x7ffffe3, 27⟩,
    ⟨0x7ffffe4, 27⟩, ⟨0x7ffffe5, 27⟩, ⟨0xfffec, 20⟩, ⟨0xfffff3, 24⟩, ⟨0xfffed, 20⟩,
    ⟨0x1fffe6, 21⟩, ⟨0x3fffe9, 22⟩, ⟨0x1fffe7, 21⟩, ⟨0x1fffe8, 21⟩, ⟨0x7ffff3, 23⟩,
    ⟨0x3fffea, 22⟩, ⟨0x3fffeb, 22⟩, ⟨0x1ffffee, 25⟩, ⟨0x1ffffef, 25⟩, ⟨0xfffff4, 24⟩,
    ⟨0xfffff5, 24⟩, ⟨0x3ffffea, 26⟩, ⟨0x7ffff4, 23⟩, ⟨0x3ffffeb, 26⟩, ⟨0x7ffffe6, 27⟩,
    ⟨0x3ffffec, 26⟩, ⟨0x3ffffed, 26⟩, ⟨0x7ffffe7, 27⟩, ⟨0x7ffffe8, 27⟩, ⟨0x1fffff0, 25⟩,
    ⟨0x1fffff1, 25⟩, ⟨0x3ffffee, 26⟩, ⟨0x1fffff2, 25⟩, ⟨0x7ffffe9, 27⟩, ⟨0x1fffff3, 25⟩,
    ⟨0x3ffffef, 26⟩, ⟨0x1fffff4, 25⟩, ⟨0x1fffff5, 25⟩, ⟨0x3fffff0, 26⟩, ⟨0x1fffff6, 25⟩,
    ⟨0x3fffff1, 26⟩, ⟨0x3fffff2, 26⟩, ⟨0x7ffffea, 27⟩, ⟨0x3fffff3, 26⟩, ⟨0x3fffff4, 26⟩,
    ⟨0x7ffffeb, 27⟩, ⟨0x7ffffec, 27⟩, ⟨0x1fffff7, 25⟩, ⟨0x3fffff5, 26⟩, ⟨0x3fffff6, 26⟩,
    ⟨0x7ffffed, 27⟩, ⟨0x7ffffee, 27⟩, ⟨0x1fffff8, 25⟩, ⟨0x1fffff9, 25⟩, ⟨0x3fffff7, 26⟩,
    ⟨0x3fffff8, 26⟩, ⟨0x3fffff9, 26⟩, ⟨0x7ffffef, 27⟩, ⟨0x3fffffa, 26⟩, ⟨0x3fffffb, 26⟩,
    ⟨0x7fffff0, 27⟩, ⟨0x3fffffc, 26⟩, ⟨0x3fffffd, 26⟩, ⟨0x7fffff1, 27⟩, ⟨0x3fffffe, 26⟩,
    ⟨0x7fffff2, 27⟩, ⟨0x3ffffff, 26⟩, ⟨0x7fffff3, 27⟩, ⟨0x7fffff4, 27⟩, ⟨0x7fffff5, 27⟩,
    ⟨0xfffee, 20⟩, ⟨0x7fffff6, 27⟩, ⟨0x3fffffff, 28⟩
  ]

/-- `huffmanTable[i]`. -/
def huffmanEntry (i : Nat) : HuffmanCode := huffmanTable.getD i default

/-- The bits of an entry in the order both the tree construction and the
encoder use, highest first. -/
def HuffmanCode.word (entry : HuffmanCode) : List Bool := ofNat entry.bits entry.code

/-- The code word of an octet. -/
def codeWord (c : UInt8) : List Bool := (huffmanEntry c.toNat).word

/-! ## The tree -/

/-- A node of the decoding tree.  `symbol` is -1 for a node without a
symbol and 0 to 256 for a leaf. -/
inductive HuffmanNode where
  | null
  | node (symbol : Int) (left right : HuffmanNode)
  deriving Repr, DecidableEq

/-- A zeroed node of the static array, null when the array is used up. -/
def getHuffmanNode (index : Nat) : HuffmanNode :=
  if index ≥ 513 then .null else .node 0 .null .null

/-- The child to descend to: the one there, or the next node of the array
with its symbol set to -1.  The second component is the next free index. -/
def childOrNew (child : HuffmanNode) (index : Nat) : Option (HuffmanNode × Nat) :=
  match child with
  | .node symbol left right => some (.node symbol left right, index)
  | .null =>
    match getHuffmanNode index with
    | .null => none
    | .node _ left right => some (.node (-1) left right, index + 1)

/-- The inner loop of `buildHuffmanTree`: descend along the bits of a code,
create the missing nodes, and set the symbol of the last one. -/
def insertCode (symbol : Int) : List Bool → HuffmanNode → Nat → Option (HuffmanNode × Nat)
  | _, .null, _ => none
  | [], .node _ left right, index => some (.node symbol left right, index)
  | bit :: bits, .node s left right, index => do
    let (child, index) ← childOrNew (if bit then right else left) index
    let (child, index) ← insertCode symbol bits child index
    return (if bit then .node s left child else .node s child right, index)

/-- The outer loop of `buildHuffmanTree` over the symbols in `symbols`. -/
def insertCodes : List Nat → HuffmanNode → Nat → Option HuffmanNode
  | [], root, _ => some root
  | i :: symbols, root, index => do
    let (root, index) ← insertCode i (huffmanEntry i).word root index
    insertCodes symbols root index

/-- Entries 0 to 256 of the table inserted into an empty root. -/
def buildHuffmanTree : Option HuffmanNode :=
  match getHuffmanNode 0 with
  | .null => none
  | .node _ left right => insertCodes (List.range 257) (.node (-1) left right) 1

/-- The global that `initialiseEnv` sets. -/
def huffmanRoot : HuffmanNode := buildHuffmanTree.getD .null

/-! ## Decoding -/

def HuffmanNode.child (node : HuffmanNode) (bit : Bool) : HuffmanNode :=
  match node with
  | .null => .null
  | .node _ left right => if bit then right else left

/-- The two nested loops of `huffmanDecodeTree`, over the bits of all bytes
in order.  The loops leave at a missing branch and at symbol 256. -/
def decodeBits (root : HuffmanNode) : HuffmanNode → List Bool → Bytes
  | _, [] => []
  | node, bit :: bits =>
    match node.child bit with
    | .null => []
    | .node symbol left right =>
      if symbol ≥ 0 then
        if symbol = 256 then []
        else UInt8.ofNat symbol.toNat :: decodeBits root root bits
      else decodeBits root (.node symbol left right) bits

/-- The decoded octets as the terminated string the callers see. -/
def huffmanDecodeTree (src : Bytes) (root : HuffmanNode) : Bytes :=
  cstr (decodeBits root root (ofBytes src))

def hpackHuffmanDecode (src : Bytes) : Bytes := huffmanDecodeTree src huffmanRoot

/-! ## Encoding -/

/-- The `while (bitsUsed >= 8)` loop: the octets it writes and what it
leaves in `currentByte`.  Every round takes eight bits, so `fuel` rounds are
enough when `bitsUsed < 8 * (fuel + 1)`. -/
def drainBytes : Nat → Nat → Nat → Bytes × Nat × Nat
  | 0, currentByte, bitsUsed => ([], currentByte, bitsUsed)
  | fuel + 1, currentByte, bitsUsed =>
    if bitsUsed ≥ 8 then
      let byte := UInt8.ofNat ((currentByte >>> (bitsUsed - 8)) % 2 ^ 8)
      let rest := drainBytes fuel (currentByte % 2 ^ (bitsUsed - 8)) (bitsUsed - 8)
      (byte :: rest.1, rest.2)
    else ([], currentByte, bitsUsed)

/-- The loop of `hpackHuffmanEncode` over the input.  `currentByte` is a
`uint32_t`: bits shifted beyond bit 31 are lost. -/
def encodeLoop : Bytes → Nat → Nat → Bytes
  | [], currentByte, bitsUsed =>
    if bitsUsed > 0 then
      [UInt8.ofNat (((currentByte <<< (8 - bitsUsed)) ||| (2 ^ (8 - bitsUsed) - 1)) % 2 ^ 8)]
    else []
  | c :: input, currentByte, bitsUsed =>
    let entry := huffmanEntry c.toNat
    let word := ((currentByte <<< entry.bits) % 2 ^ 32) ||| entry.code
    let drained := drainBytes (bitsUsed + entry.bits) word (bitsUsed + entry.bits)
    drained.1 ++ encodeLoop input drained.2.1 drained.2.2

def hpackHuffmanEncode (input : Bytes) : Bytes := encodeLoop input 0 0

end HttpRequestClient.Hpack
