import Mathlib.Data.List.Basic
import Mathlib.Algebra.Group.Nat.Defs

/-! SHA-256 on natural numbers below `2 ^ 32`, in a form that the kernel evaluates. -/

namespace ClosedLoop.Library.Sha256

/-- A value that is computed before it is used. -/
def strictly {α : Type} (value : Nat) (next : Nat → α) : α :=
  match value with
  | 0 => next 0
  | before + 1 => next (before + 1)

@[simp] theorem strictly_eq {α : Type} (value : Nat) (next : Nat → α) : strictly value next = next value := by
  cases value <;> rfl

def roundConstants : List Nat :=
  [0x428a2f98, 0x71374491, 0xb5c0fbcf, 0xe9b5dba5, 0x3956c25b, 0x59f111f1, 0x923f82a4, 0xab1c5ed5, 0xd807aa98, 0x12835b01,
    0x243185be, 0x550c7dc3, 0x72be5d74, 0x80deb1fe, 0x9bdc06a7, 0xc19bf174, 0xe49b69c1, 0xefbe4786, 0x0fc19dc6, 0x240ca1cc,
    0x2de92c6f, 0x4a7484aa, 0x5cb0a9dc, 0x76f988da, 0x983e5152, 0xa831c66d, 0xb00327c8, 0xbf597fc7, 0xc6e00bf3, 0xd5a79147,
    0x06ca6351, 0x14292967, 0x27b70a85, 0x2e1b2138, 0x4d2c6dfc, 0x53380d13, 0x650a7354, 0x766a0abb, 0x81c2c92e, 0x92722c85,
    0xa2bfe8a1, 0xa81a664b, 0xc24b8b70, 0xc76c51a3, 0xd192e819, 0xd6990624, 0xf40e3585, 0x106aa070, 0x19a4c116, 0x1e376c08,
    0x2748774c, 0x34b0bcb5, 0x391c0cb3, 0x4ed8aa4a, 0x5b9cca4f, 0x682e6ff3, 0x748f82ee, 0x78a5636f, 0x84c87814, 0x8cc70208,
    0x90befffa, 0xa4506ceb, 0xbef9a3f7, 0xc67178f2]

/-- The working variables `a` to `h`. -/
structure Words where
  a : Nat
  b : Nat
  c : Nat
  d : Nat
  e : Nat
  f : Nat
  g : Nat
  h : Nat

def Words.toList (words : Words) : List Nat :=
  [words.a, words.b, words.c, words.d, words.e, words.f, words.g, words.h]

def initialWords : Words :=
  ⟨0x6a09e667, 0xbb67ae85, 0x3c6ef372, 0xa54ff53a, 0x510e527f, 0x9b05688c, 0x1f83d9ab, 0x5be0cd19⟩

def rotateRight (count word : Nat) : Nat := word >>> count ||| word <<< (32 - count) % 2 ^ 32

/-- The message schedule goes on with a word that is made of four of the last sixteen. -/
def nextWord (first early middle late : Nat) : Nat :=
  ((rotateRight 17 late ^^^ rotateRight 19 late ^^^ late >>> 10) + middle +
    (rotateRight 7 early ^^^ rotateRight 18 early ^^^ early >>> 3) + first) % 2 ^ 32

/-- One round of the compression. -/
def compressRound (constant word : Nat) : Words → Words
  | ⟨a, b, c, d, e, f, g, h⟩ =>
      let choice := (e &&& f) ^^^ ((2 ^ 32 - 1 - e) &&& g)
      let majority := (a &&& b) ^^^ (a &&& c) ^^^ (b &&& c)
      strictly (h + (rotateRight 6 e ^^^ rotateRight 11 e ^^^ rotateRight 25 e) + choice + constant + word) fun first =>
      strictly ((first + (rotateRight 2 a ^^^ rotateRight 13 a ^^^ rotateRight 22 a) + majority) % 2 ^ 32) fun top =>
      strictly ((d + first) % 2 ^ 32) fun middle => ⟨top, a, b, c, middle, e, f, g⟩

/-- The rounds of the compression, one for each constant. The window has the next sixteen words of the schedule. -/
def compressRounds : List Nat → List Nat → Words → Words
  | constant :: rest, w0 :: w1 :: w2 :: w3 :: w4 :: w5 :: w6 :: w7 :: w8 :: w9 :: w10 :: w11 :: w12 :: w13 :: w14 :: w15 :: _,
    words =>
      strictly (nextWord w0 w1 w9 w14) fun w16 =>
        compressRounds rest [w1, w2, w3, w4, w5, w6, w7, w8, w9, w10, w11, w12, w13, w14, w15, w16]
          (compressRound constant w0 words)
  | _, _, words => words

def addWords (words others : Words) : Words :=
  let sum := fun part : Words → Nat => (part words + part others) % 2 ^ 32
  strictly (sum Words.a) fun a => strictly (sum Words.b) fun b => strictly (sum Words.c) fun c =>
    strictly (sum Words.d) fun d => strictly (sum Words.e) fun e => strictly (sum Words.f) fun f =>
      strictly (sum Words.g) fun g => strictly (sum Words.h) fun h => ⟨a, b, c, d, e, f, g, h⟩

/-- The words of bytes, with their most significant byte first. -/
def wordsOf : List Nat → List Nat
  | a :: b :: c :: d :: rest =>
      strictly (a <<< 24 + b <<< 16 + c <<< 8 + d) fun word => word :: wordsOf rest
  | _ => []

/-- The compression of some number of blocks of sixteen words. -/
def compressBlocks : Nat → List Nat → Words → Words
  | 0, _, words => words
  | count + 1, message, words =>
      compressBlocks count (message.drop 16) (addWords words (compressRounds roundConstants (message.take 16) words))

/-- A number with some number of digits of a base, the most significant first. -/
def bigEndian (base : Nat) : Nat → Nat → List Nat
  | 0, _ => []
  | width + 1, value => strictly (value / base) fun rest => bigEndian base width rest ++ [value % base]

/-- The message with a one bit, zeros and its length. -/
def padded (bytes : List Nat) : List Nat :=
  bytes ++ 0x80 :: List.replicate ((119 - bytes.length % 64) % 64) 0 ++ bigEndian 256 8 (8 * bytes.length)

def digest (bytes : List Nat) : Words :=
  compressBlocks ((bytes.length + 72) / 64) (wordsOf (padded bytes)) initialWords

def hexDigits : List Char := "0123456789abcdef".toList

/-- A digit below sixteen. -/
def hexDigit (digit : Nat) : Char := hexDigits.getD digit '0'

/-- `digest` as bytes. -/
def digestBytes (bytes : List Nat) : List Nat := (digest bytes).toList.flatMap (bigEndian 256 4)

/-- `hmac.new(key, message, sha256).digest()`. A key that is longer than a block is hashed first. -/
def hmac (key message : List Nat) : List Nat :=
  let short := if 64 < key.length then digestBytes key else key
  let block := short ++ List.replicate (64 - short.length) 0
  digestBytes (block.map (· ^^^ 0x5c) ++ digestBytes (block.map (· ^^^ 0x36) ++ message))

/-- `hexdigest` of bytes. -/
def hexDigestBytes (bytes : List Nat) : String :=
  String.ofList ((digest bytes).toList.flatMap fun word => (bigEndian 16 8 word).map hexDigit)

/-- `hexdigest` of the bytes of a text. -/
def hexDigest (text : String) : String :=
  let bytes := (text.toList.flatMap String.utf8EncodeChar).map UInt8.toNat
  String.ofList ((digest bytes).toList.flatMap fun word => strictly word fun word => (bigEndian 16 8 word).map hexDigit)

/-- A number fills its width. -/
theorem length_bigEndian (base width value : Nat) : (bigEndian base width value).length = width := by
  induction width generalizing value with
  | zero => rfl
  | succ width ih => rw [bigEndian, strictly_eq, List.length_append, ih, List.length_singleton]

theorem hexDigit_mem (digit : Nat) : hexDigit digit ∈ hexDigits := by
  unfold hexDigit
  rw [List.getD_eq_getElem?_getD]
  cases found : hexDigits[digit]? with
  | none => decide
  | some char => exact List.mem_of_getElem? found

/-- A key gives 32 bytes. -/
theorem length_hmac (key message : List Nat) : (hmac key message).length = 32 := by
  simp [hmac, digestBytes, Words.toList, length_bigEndian]

/-- A digest has 64 digits. -/
theorem length_hexDigest (text : String) : (hexDigest text).toList.length = 64 := by
  simp [hexDigest, Words.toList, length_bigEndian]

/-- A digest is written in hexadecimal. -/
theorem hexDigest_digits (text : String) : ∀ char ∈ (hexDigest text).toList, char ∈ hexDigits := by
  intro char member
  simp only [hexDigest, String.toList_ofList, List.mem_flatMap, strictly_eq, List.mem_map] at member
  obtain ⟨_, _, digit, _, rfl⟩ := member
  exact hexDigit_mem digit

example : hexDigest "abc" = "ba7816bf8f01cfea414140de5dae2223b00361a396177a9cb410ff61f20015ad" := by decide +kernel

end ClosedLoop.Library.Sha256
