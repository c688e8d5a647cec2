/-
# Theory.Sha256 — the SHA-256 of a message

The message is padded to blocks of 64 bytes, and each block is mixed into eight words. The digest
is the bytes of the words (`sha256_length`).
-/
import FlowWeave.Theory.BigEndian

namespace FlowWeave.Theory.Sha256

open BigEndian

set_option autoImplicit false

structure Words where
  (a b c d e f g h : UInt32)

def initial : Words :=
  ⟨0x6a09e667, 0xbb67ae85, 0x3c6ef372, 0xa54ff53a, 0x510e527f, 0x9b05688c, 0x1f83d9ab, 0x5be0cd19⟩

def constants : List UInt32 :=
  [0x428a2f98, 0x71374491, 0xb5c0fbcf, 0xe9b5dba5, 0x3956c25b, 0x59f111f1, 0x923f82a4, 0xab1c5ed5,
    0xd807aa98, 0x12835b01, 0x243185be, 0x550c7dc3, 0x72be5d74, 0x80deb1fe, 0x9bdc06a7, 0xc19bf174,
    0xe49b69c1, 0xefbe4786, 0x0fc19dc6, 0x240ca1cc, 0x2de92c6f, 0x4a7484aa, 0x5cb0a9dc, 0x76f988da,
    0x983e5152, 0xa831c66d, 0xb00327c8, 0xbf597fc7, 0xc6e00bf3, 0xd5a79147, 0x06ca6351, 0x14292967,
    0x27b70a85, 0x2e1b2138, 0x4d2c6dfc, 0x53380d13, 0x650a7354, 0x766a0abb, 0x81c2c92e, 0x92722c85,
    0xa2bfe8a1, 0xa81a664b, 0xc24b8b70, 0xc76c51a3, 0xd192e819, 0xd6990624, 0xf40e3585, 0x106aa070,
    0x19a4c116, 0x1e376c08, 0x2748774c, 0x34b0bcb5, 0x391c0cb3, 0x4ed8aa4a, 0x5b9cca4f, 0x682e6ff3,
    0x748f82ee, 0x78a5636f, 0x84c87814, 0x8cc70208, 0x90befffa, 0xa4506ceb, 0xbef9a3f7, 0xc67178f2]

def rotate (word count : UInt32) : UInt32 := (word >>> count) ||| (word <<< (32 - count))

/-- So many more words of the message schedule, the last one first. -/
def schedule : Nat → List UInt32 → List UInt32
  | 0, words => words
  | count + 1, words =>
    let near := words.getD 1 0
    let far := words.getD 14 0
    let next := (rotate near 17 ^^^ rotate near 19 ^^^ (near >>> 10)) + words.getD 6 0 +
      (rotate far 7 ^^^ rotate far 18 ^^^ (far >>> 3)) + words.getD 15 0
    schedule count (next :: words)

def round (words : Words) (constant scheduled : UInt32) : Words :=
  let ⟨a, b, c, d, e, f, g, h⟩ := words
  let first := h + (rotate e 6 ^^^ rotate e 11 ^^^ rotate e 25) + ((e &&& f) ^^^ (~~~e &&& g)) +
    constant + scheduled
  let second :=
    (rotate a 2 ^^^ rotate a 13 ^^^ rotate a 22) + ((a &&& b) ^^^ (a &&& c) ^^^ (b &&& c))
  ⟨first + second, a, b, c, d + first, e, f, g⟩

def compress (words : Words) (block : List UInt32) : Words :=
  let mixed := (constants.zip (schedule 48 block.reverse).reverse).foldl
    (fun words step => round words step.1 step.2) words
  ⟨words.a + mixed.a, words.b + mixed.b, words.c + mixed.c, words.d + mixed.d, words.e + mixed.e,
    words.f + mixed.f, words.g + mixed.g, words.h + mixed.h⟩

def pad (message : List UInt8) : List UInt8 :=
  message ++ 0x80 :: List.replicate ((119 - message.length % 64) % 64) 0 ++
    toBE 8 (8 * message.length)

def absorb : Nat → List UInt8 → Words → Words
  | 0, _, words => words
  | blocks + 1, bytes, words =>
    let block := (List.range 16).map fun word => u32FromBE (slice bytes (4 * word) (4 * word + 4))
    absorb blocks (bytes.drop 64) (compress words block)

def sha256 (message : List UInt8) : List UInt8 :=
  let ⟨a, b, c, d, e, f, g, h⟩ := absorb ((pad message).length / 64) (pad message) initial
  [a, b, c, d, e, f, g, h].flatMap u32ToBE

theorem sha256_length (message : List UInt8) : (sha256 message).length = 32 := by
  simp [sha256]

example : (sha256 [0x61, 0x62, 0x63]).take 4 = [0xba, 0x78, 0x16, 0xbf] := by decide +kernel

end FlowWeave.Theory.Sha256
