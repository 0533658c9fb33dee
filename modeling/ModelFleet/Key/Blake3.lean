/-!
# BLAKE3 digests of short inputs

The digest of an input of at most sixty-four bytes, which is one block: the compression function is
applied once, to the initial words, with the flags of a chunk that is first, last and the root.
-/

namespace ModelFleet.Blake3

abbrev Words := Vector UInt32 16

def initial : Vector UInt32 8 :=
  #v[0x6A09E667, 0xBB67AE85, 0x3C6EF372, 0xA54FF53A, 0x510E527F, 0x9B05688C, 0x1F83D9AB, 0x5BE0CD19]

def rotate (x : UInt32) (n : UInt32) : UInt32 := (x >>> n) ||| (x <<< (32 - n))

/-- Mixes two words of the message into four words of the state. -/
def mix (v : Words) (a b c d : Fin 16) (x y : UInt32) : Words :=
  let va := v.get a + v.get b + x
  let vd := rotate (v.get d ^^^ va) 16
  let vc := v.get c + vd
  let vb := rotate (v.get b ^^^ vc) 12
  let va := va + vb + y
  let vd := rotate (vd ^^^ va) 8
  let vc := vc + vd
  let vb := rotate (vb ^^^ vc) 7
  (((v.set a va).set b vb).set c vc).set d vd

/-- One round: the columns, then the diagonals. -/
def round (v m : Words) : Words :=
  let v := mix v 0 4 8 12 (m.get 0) (m.get 1)
  let v := mix v 1 5 9 13 (m.get 2) (m.get 3)
  let v := mix v 2 6 10 14 (m.get 4) (m.get 5)
  let v := mix v 3 7 11 15 (m.get 6) (m.get 7)
  let v := mix v 0 5 10 15 (m.get 8) (m.get 9)
  let v := mix v 1 6 11 12 (m.get 10) (m.get 11)
  let v := mix v 2 7 8 13 (m.get 12) (m.get 13)
  mix v 3 4 9 14 (m.get 14) (m.get 15)

/-- Where each word of the message comes from in the next round. -/
def order : Vector (Fin 16) 16 := #v[2, 6, 3, 10, 7, 0, 4, 13, 1, 11, 12, 5, 9, 14, 15, 8]

def permute (m : Words) : Words := order.map m.get

def rounds : Nat → Words → Words → Words
  | 0, v, _ => v
  | n + 1, v, m => rounds n (round v m) (permute m)

/-- The word that four bytes write, the lowest first. -/
def wordOf (bytes : List UInt8) : UInt32 :=
  bytes.foldr (fun b w => (w <<< 8) ||| b.toUInt32) 0

/-- The message of an input of at most sixty-four bytes, filled up with zeros. -/
def message (bytes : List UInt8) : Words :=
  Vector.ofFn fun i => wordOf (((bytes.drop (4 * i.val)).take 4))

/-- The four bytes of a word, the lowest first. -/
def bytesOf (w : UInt32) : List UInt8 :=
  [w.toUInt8, (w >>> 8).toUInt8, (w >>> 16).toUInt8, (w >>> 24).toUInt8]

/-- The flags of a chunk that is first, last and the root. -/
def flags : UInt32 := 11

/-- The digest of an input of at most sixty-four bytes. -/
def digest (bytes : List UInt8) : List UInt8 :=
  let iv := initial
  let start : Words := #v[iv.get 0, iv.get 1, iv.get 2, iv.get 3, iv.get 4, iv.get 5, iv.get 6,
    iv.get 7, iv.get 0, iv.get 1, iv.get 2, iv.get 3, 0, 0, UInt32.ofNat bytes.length, flags]
  let v := rounds 7 start (message bytes)
  (List.finRange 8).flatMap fun i =>
    bytesOf (v.get (i.castLE (by omega)) ^^^ v.get ((i.natAdd 8).castLE (by omega)))

end ModelFleet.Blake3
