import Stencil.Text.Quoted

/-! The 64-bit xxHash of a byte sequence, which tells whether a generated text has changed. -/
namespace Stencil.Digest

def prime1 : UInt64 := 0x9e3779b185ebca87
def prime2 : UInt64 := 0xc2b2ae3d27d4eb4f
def prime3 : UInt64 := 0x165667b19e3779f9
def prime4 : UInt64 := 0x85ebca77c2b2ae63
def prime5 : UInt64 := 0x27d4eb2f165667c5

def rotate (x : UInt64) (n : UInt64) : UInt64 := (x <<< n) ||| (x >>> (64 - n))

/-- The number whose bytes these are, the lowest first. -/
def littleEndian (bs : List UInt8) : UInt64 :=
  bs.foldr (fun b n => n * 256 + b.toUInt64) 0

def mix (acc input : UInt64) : UInt64 := rotate (acc + input * prime2) 31 * prime1

def merge (hash lane : UInt64) : UInt64 := (hash ^^^ mix 0 lane) * prime1 + prime4

/-- The four accumulators that read a stripe of 32 bytes side by side. -/
structure Lanes where
  a : UInt64
  b : UInt64
  c : UInt64
  d : UInt64

def Lanes.init (seed : UInt64) : Lanes :=
  ⟨seed + prime1 + prime2, seed + prime2, seed, seed - prime1⟩

def Lanes.absorb (l : Lanes) (stripe : List UInt8) : Lanes where
  a := mix l.a (littleEndian (stripe.take 8))
  b := mix l.b (littleEndian ((stripe.drop 8).take 8))
  c := mix l.c (littleEndian ((stripe.drop 16).take 8))
  d := mix l.d (littleEndian ((stripe.drop 24).take 8))

def Lanes.converge (l : Lanes) : UInt64 :=
  let hash := rotate l.a 1 + rotate l.b 7 + rotate l.c 12 + rotate l.d 18
  merge (merge (merge (merge hash l.a) l.b) l.c) l.d

/-- Read all whole stripes; what is left is shorter than one. -/
def Lanes.run (l : Lanes) (bs : List UInt8) : Lanes × List UInt8 :=
  if 32 ≤ bs.length then (l.absorb bs).run (bs.drop 32) else (l, bs)
termination_by bs.length
decreasing_by simp; omega

def addWords (hash : UInt64) (bs : List UInt8) : UInt64 × List UInt8 :=
  if 8 ≤ bs.length then
    addWords (rotate (hash ^^^ mix 0 (littleEndian (bs.take 8))) 27 * prime1 + prime4) (bs.drop 8)
  else (hash, bs)
termination_by bs.length
decreasing_by simp; omega

def addHalfWord (hash : UInt64) (bs : List UInt8) : UInt64 × List UInt8 :=
  if 4 ≤ bs.length then
    (rotate (hash ^^^ (littleEndian (bs.take 4) * prime1)) 23 * prime2 + prime3, bs.drop 4)
  else (hash, bs)

def addByte (hash : UInt64) (b : UInt8) : UInt64 :=
  rotate (hash ^^^ (b.toUInt64 * prime5)) 11 * prime1

def avalanche (hash : UInt64) : UInt64 :=
  let hash := (hash ^^^ (hash >>> 33)) * prime2
  let hash := (hash ^^^ (hash >>> 29)) * prime3
  hash ^^^ (hash >>> 32)

def xxh64 (seed : UInt64) (bs : List UInt8) : UInt64 :=
  let (hash, rest) :=
    if 32 ≤ bs.length then
      let (lanes, rest) := (Lanes.init seed).run bs
      (lanes.converge, rest)
    else (seed + prime5, bs)
  let (hash, rest) := addWords (hash + bs.length.toUInt64) rest
  let (hash, rest) := addHalfWord hash rest
  avalanche (rest.foldl addByte hash)

def toHex (hash : UInt64) : String :=
  let digits := Text.hexDigits hash.toNat
  String.ofList (List.replicate (16 - digits.length) '0' ++ digits)

end Stencil.Digest
