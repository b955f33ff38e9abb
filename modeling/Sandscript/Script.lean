import Sandscript.Numeric.Power
import Sandscript.Text.Blank
import Sandscript.Text.Hex

/-!
# Script digests

The fingerprint of a text: its BLAKE3 hash, written in base sixteen.  The text is cut into chunks of 1024 bytes;
neighbouring subtrees are joined pairwise until one node is left, and that node is compressed as the root.
-/

namespace Sandscript

namespace Blake3

abbrev Words := Vector UInt32 16

def initial : Vector UInt32 8 :=
  #v[0x6A09E667, 0xBB67AE85, 0x3C6EF372, 0xA54FF53A, 0x510E527F, 0x9B05688C, 0x1F83D9AB, 0x5BE0CD19]

def chunkStart : UInt32 := 1
def chunkEnd : UInt32 := 2
def parentFlag : UInt32 := 4
def rootFlag : UInt32 := 8

private def rotateRight (x : UInt32) (n : UInt32) : UInt32 := (x >>> n) ||| (x <<< (32 - n))

/-- The quarter round on the lanes `a`, `b`, `c`, `d` with two message words. -/
def mix (s : Words) (a b c d : Fin 16) (x y : UInt32) : Words :=
  let s := s.set a (s[a] + s[b] + x)
  let s := s.set d (rotateRight (s[d] ^^^ s[a]) 16)
  let s := s.set c (s[c] + s[d])
  let s := s.set b (rotateRight (s[b] ^^^ s[c]) 12)
  let s := s.set a (s[a] + s[b] + y)
  let s := s.set d (rotateRight (s[d] ^^^ s[a]) 8)
  let s := s.set c (s[c] + s[d])
  s.set b (rotateRight (s[b] ^^^ s[c]) 7)

def round (s m : Words) : Words :=
  let s := mix s 0 4 8 12 m[0] m[1]
  let s := mix s 1 5 9 13 m[2] m[3]
  let s := mix s 2 6 10 14 m[4] m[5]
  let s := mix s 3 7 11 15 m[6] m[7]
  let s := mix s 0 5 10 15 m[8] m[9]
  let s := mix s 1 6 11 12 m[10] m[11]
  let s := mix s 2 7 8 13 m[12] m[13]
  mix s 3 4 9 14 m[14] m[15]

/-- The order in which the next round takes the message words. -/
def permute (m : Words) : Words :=
  #v[m[2], m[6], m[3], m[10], m[7], m[0], m[4], m[13], m[1], m[11], m[12], m[5], m[9], m[14], m[15], m[8]]

def rounds : Nat → Words → Words → Words
  | 0, s, _ => s
  | n + 1, s, m => rounds n (round s m) (permute m)

/-- One block waiting to be compressed. -/
structure Node where
  chain : Vector UInt32 8
  block : Words
  counter : Nat
  length : Nat
  flags : UInt32

namespace Node

def compress (n : Node) (extra : UInt32) : Vector UInt32 8 :=
  let h := n.chain
  let s : Words :=
    #v[h[0], h[1], h[2], h[3], h[4], h[5], h[6], h[7], initial[0], initial[1], initial[2], initial[3],
       n.counter.toUInt32, (n.counter / 2 ^ 32).toUInt32, n.length.toUInt32, n.flags ||| extra]
  let t := rounds 7 s n.block
  Vector.ofFn fun i : Fin 8 => t.get ⟨i.val, by omega⟩ ^^^ t.get ⟨i.val + 8, by omega⟩

/-- The chaining value that the parent of the node takes. -/
def value (n : Node) : Vector UInt32 8 := n.compress 0

def parent (l r : Node) : Node :=
  { chain := initial, block := l.value ++ r.value, counter := 0, length := 64, flags := parentFlag }

end Node

private def wordAt (bytes : ByteArray) (i : Nat) : UInt32 :=
  let b (k : Nat) : UInt32 := ((bytes.data[i + k]?).getD 0).toUInt32
  b 0 ||| (b 1 <<< 8) ||| (b 2 <<< 16) ||| (b 3 <<< 24)

private def blockAt (bytes : ByteArray) (start : Nat) : Words :=
  Vector.ofFn fun i : Fin 16 => wordAt bytes (start + 4 * i.val)

/-- The last node of a chunk; `start` is where the next block of the chunk begins and `stop` is its end. -/
private def chunkNode (bytes : ByteArray) (counter start stop : Nat) (chain : Vector UInt32 8) (flags : UInt32) :
    Node :=
  if h : start + 64 < stop then
    let n : Node := { chain, block := blockAt bytes start, counter, length := 64, flags }
    chunkNode bytes counter (start + 64) stop n.value 0
  else
    { chain, block := blockAt bytes start, counter, length := stop - start, flags := flags ||| chunkEnd }
termination_by stop - start

private def chunk (bytes : ByteArray) (counter : Nat) : Node :=
  let start := 1024 * counter
  chunkNode (bytes.extract start (start + 1024)) counter 0 (min 1024 (bytes.size - start)) initial chunkStart

/-- The layer above the nodes `a`, `ns`: neighbours are joined, and an odd last node is carried up as it is. -/
private def layer : Node → List Node → Node × List Node
  | a, [] => (a, [])
  | a, [b] => (Node.parent a b, [])
  | a, b :: c :: rest => (Node.parent a b, (layer c rest).1 :: (layer c rest).2)

private theorem length_layer_le (a : Node) (ns : List Node) : (layer a ns).2.length ≤ ns.length / 2 := by
  fun_induction layer a ns with
  | case1 => simp
  | case2 => simp
  | case3 a b c rest ih => simp; omega

/-- The root of the tree over the nodes `a`, `ns`. -/
def root (a : Node) (ns : List Node) : Node :=
  match ns with
  | [] => a
  | b :: rest =>
    have := length_layer_le a (b :: rest)
    root (layer a (b :: rest)).1 (layer a (b :: rest)).2
termination_by ns.length
decreasing_by simp_all; omega

def hash (bytes : ByteArray) : List UInt8 :=
  let top := root (chunk bytes 0) ((List.range ((bytes.size - 1) / 1024)).map fun i => chunk bytes (i + 1))
  (top.compress rootFlag).toList.flatMap fun (w : UInt32) =>
    [w.toUInt8, (w >>> 8).toUInt8, (w >>> 16).toUInt8, (w >>> 24).toUInt8]

end Blake3

/-- The text of a fingerprint.  A fingerprint that was stored elsewhere may hold any text. -/
structure ScriptDigest where
  text : String
deriving Repr, DecidableEq, Inhabited

namespace ScriptDigest

def ofText (s : String) : ScriptDigest := ⟨String.ofList ((Blake3.hash s.toUTF8).flatMap fun b => Text.hexByte b.toNat)⟩

/-- The longest run of first characters that takes exactly `n` bytes, if there is one. -/
def takeBytes : Nat → List Char → Option (List Char)
  | 0, _ => some []
  | _, [] => none
  | n + 1, c :: rest => if c.utf8Size ≤ n + 1 then (takeBytes (n + 1 - c.utf8Size) rest).map (c :: ·) else none
termination_by _ cs => cs.length

/-- The first twelve bytes, or the whole text when it is no longer.  There is no short form when the twelfth byte
lies inside a character. -/
def short? (d : ScriptDigest) : Option String :=
  if d.text.utf8ByteSize ≤ 12 then some d.text
  else (takeBytes 12 d.text.toList).map String.ofList

end ScriptDigest

/-- A script as it was handed in. -/
structure Script where
  source : String
deriving Repr, DecidableEq, Inhabited

namespace Script

def size (s : Script) : Nat := s.source.utf8ByteSize

def isBlank (s : Script) : Bool := Text.isBlank s.source

def digest (s : Script) : ScriptDigest := ScriptDigest.ofText s.source

end Script

end Sandscript
