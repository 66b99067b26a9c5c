import MeshAccess.Crypto.Octets

/-!
This file holds the SHA-2 family of hash functions.

The members of the family differ in the width of their words, in their constants and in the length
of the digest. The constants of the members with short words are the leading halves of the others.
-/

namespace MeshAccess.Crypto.Sha2

/-- The amounts of the mixing of one word: two rotations, and a third rotation or a shift. -/
structure Mixing where
  first : Nat
  second : Nat
  third : Nat
  deriving DecidableEq, Repr

def Mixing.rotate {width : Nat} (mixing : Mixing) (word : BitVec width) : BitVec width :=
  word.rotateRight mixing.first ^^^ word.rotateRight mixing.second ^^^
    word.rotateRight mixing.third

def Mixing.shift {width : Nat} (mixing : Mixing) (word : BitVec width) : BitVec width :=
  word.rotateRight mixing.first ^^^ word.rotateRight mixing.second ^^^ (word >>> mixing.third)

/-- A member of the family with words of the given width. -/
structure Variant (width : Nat) where
  start : List (BitVec width)
  constants : List (BitVec width)
  choiceMixing : Mixing
  majorityMixing : Mixing
  recentMixing : Mixing
  distantMixing : Mixing
  digestLength : Nat

/-- The fractional parts of the square roots of the first sixteen primes. -/
def squareRoots : List (BitVec 64) :=
    [0x6A09E667F3BCC908, 0xBB67AE8584CAA73B, 0x3C6EF372FE94F82B, 0xA54FF53A5F1D36F1,
     0x510E527FADE682D1, 0x9B05688C2B3E6C1F, 0x1F83D9ABFB41BD6B, 0x5BE0CD19137E2179,
     0xCBBB9D5DC1059ED8, 0x629A292A367CD507, 0x9159015A3070DD17, 0x152FECD8F70E5939,
     0x67332667FFC00B31, 0x8EB44A8768581511, 0xDB0C2E0D64F98FA7, 0x47B5481DBEFA4FA4]

/-- The fractional parts of the cube roots of the first eighty primes. -/
def cubeRoots : List (BitVec 64) :=
    [0x428A2F98D728AE22, 0x7137449123EF65CD, 0xB5C0FBCFEC4D3B2F, 0xE9B5DBA58189DBBC,
     0x3956C25BF348B538, 0x59F111F1B605D019, 0x923F82A4AF194F9B, 0xAB1C5ED5DA6D8118,
     0xD807AA98A3030242, 0x12835B0145706FBE, 0x243185BE4EE4B28C, 0x550C7DC3D5FFB4E2,
     0x72BE5D74F27B896F, 0x80DEB1FE3B1696B1, 0x9BDC06A725C71235, 0xC19BF174CF692694,
     0xE49B69C19EF14AD2, 0xEFBE4786384F25E3, 0x0FC19DC68B8CD5B5, 0x240CA1CC77AC9C65,
     0x2DE92C6F592B0275, 0x4A7484AA6EA6E483, 0x5CB0A9DCBD41FBD4, 0x76F988DA831153B5,
     0x983E5152EE66DFAB, 0xA831C66D2DB43210, 0xB00327C898FB213F, 0xBF597FC7BEEF0EE4,
     0xC6E00BF33DA88FC2, 0xD5A79147930AA725, 0x06CA6351E003826F, 0x142929670A0E6E70,
     0x27B70A8546D22FFC, 0x2E1B21385C26C926, 0x4D2C6DFC5AC42AED, 0x53380D139D95B3DF,
     0x650A73548BAF63DE, 0x766A0ABB3C77B2A8, 0x81C2C92E47EDAEE6, 0x92722C851482353B,
     0xA2BFE8A14CF10364, 0xA81A664BBC423001, 0xC24B8B70D0F89791, 0xC76C51A30654BE30,
     0xD192E819D6EF5218, 0xD69906245565A910, 0xF40E35855771202A, 0x106AA07032BBD1B8,
     0x19A4C116B8D2D0C8, 0x1E376C085141AB53, 0x2748774CDF8EEB99, 0x34B0BCB5E19B48A8,
     0x391C0CB3C5C95A63, 0x4ED8AA4AE3418ACB, 0x5B9CCA4F7763E373, 0x682E6FF3D6B2B8A3,
     0x748F82EE5DEFB2FC, 0x78A5636F43172F60, 0x84C87814A1F0AB72, 0x8CC702081A6439EC,
     0x90BEFFFA23631E28, 0xA4506CEBDE82BDE9, 0xBEF9A3F7B2C67915, 0xC67178F2E372532B,
     0xCA273ECEEA26619C, 0xD186B8C721C0C207, 0xEADA7DD6CDE0EB1E, 0xF57D4F7FEE6ED178,
     0x06F067AA72176FBA, 0x0A637DC5A2C898A6, 0x113F9804BEF90DAE, 0x1B710B35131C471B,
     0x28DB77F523047D84, 0x32CAAB7B40C72493, 0x3C9EBE0A15C9BEBC, 0x431D67C49C100D4C,
     0x4CC5D4BECB3E42B6, 0x597F299CFC657E2A, 0x5FCB6FAB3AD6FAEC, 0x6C44198C4A475817]

def leadingHalf (word : BitVec 64) : BitVec 32 := word.extractLsb' 32 32

def sha256 : Variant 32 where
  start := (squareRoots.take 8).map leadingHalf
  constants := (cubeRoots.take 64).map leadingHalf
  choiceMixing := ⟨6, 11, 25⟩
  majorityMixing := ⟨2, 13, 22⟩
  recentMixing := ⟨17, 19, 10⟩
  distantMixing := ⟨7, 18, 3⟩
  digestLength := 32

def sha512 : Variant 64 where
  start := squareRoots.take 8
  constants := cubeRoots
  choiceMixing := ⟨14, 18, 41⟩
  majorityMixing := ⟨28, 34, 39⟩
  recentMixing := ⟨19, 61, 6⟩
  distantMixing := ⟨1, 8, 7⟩
  digestLength := 64

def sha384 : Variant 64 := { sha512 with start := squareRoots.drop 8, digestLength := 48 }

/-- The number of the words of a block. -/
def blockLength : Nat := 16

/-- A message with a one bit, zeros up to a whole number of blocks, and its length in bits. -/
def pad (width : Nat) (message : List UInt8) : List UInt8 :=
  let size := width / 8
  let blockSize := blockLength * size
  let used := (message.length + 1 + 2 * size) % blockSize
  message ++ 0x80 :: List.replicate ((blockSize - used) % blockSize) 0 ++
    Octets.toList (2 * size) (8 * message.length)

/-- The word after the given words, which are in reverse order. -/
def nextWord {width : Nat} (variant : Variant width) (reversed : List (BitVec width)) :
    BitVec width :=
  variant.recentMixing.shift (reversed.getD 1 0) + reversed.getD 6 0 +
    variant.distantMixing.shift (reversed.getD 14 0) + reversed.getD 15 0

/-- This function puts `count` words in front of the given words, which are in reverse order. -/
def extend {width : Nat} (variant : Variant width) :
    Nat → List (BitVec width) → List (BitVec width)
  | 0, reversed => reversed
  | count + 1, reversed => extend variant count (nextWord variant reversed :: reversed)

/-- The eight words between two rounds. -/
structure State (width : Nat) where
  a : BitVec width
  b : BitVec width
  c : BitVec width
  d : BitVec width
  e : BitVec width
  f : BitVec width
  g : BitVec width
  h : BitVec width

def State.ofList {width : Nat} (words : List (BitVec width)) : State width :=
  ⟨words.getD 0 0, words.getD 1 0, words.getD 2 0, words.getD 3 0, words.getD 4 0,
    words.getD 5 0, words.getD 6 0, words.getD 7 0⟩

def State.toList {width : Nat} (state : State width) : List (BitVec width) :=
  [state.a, state.b, state.c, state.d, state.e, state.f, state.g, state.h]

/-- One round takes the sum of a constant and a word of the message. -/
def State.step {width : Nat} (variant : Variant width) (state : State width)
    (addend : BitVec width) : State width :=
  let choice := (state.e &&& state.f) ^^^ (~~~state.e &&& state.g)
  let majority := (state.a &&& state.b) ^^^ (state.a &&& state.c) ^^^ (state.b &&& state.c)
  let first := state.h + variant.choiceMixing.rotate state.e + choice + addend
  let second := variant.majorityMixing.rotate state.a + majority
  ⟨first + second, state.a, state.b, state.c, state.d + first, state.e, state.f, state.g⟩

/-- This function adds a block to the words of a state. -/
def compress {width : Nat} (variant : Variant width) (words block : List (BitVec width)) :
    List (BitVec width) :=
  let schedule :=
    (extend variant (variant.constants.length - blockLength) block.reverse).reverse
  let addends := List.zipWith (· + ·) variant.constants schedule
  let last := addends.foldl (State.step variant) (State.ofList words)
  List.zipWith (· + ·) words last.toList

/-- The digest of a message. -/
def digest {width : Nat} (variant : Variant width) (message : List UInt8) : List UInt8 :=
  let size := width / 8
  let words := (Octets.chunks size (pad width message)).map fun bytes =>
    BitVec.ofNat width (Octets.ofList bytes)
  let last := (Octets.chunks blockLength words).foldl (compress variant) variant.start
  (last.flatMap fun word => Octets.toList size word.toNat).take variant.digestLength

end MeshAccess.Crypto.Sha2
