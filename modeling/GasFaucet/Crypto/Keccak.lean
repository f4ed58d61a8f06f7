import GasFaucet.Bytes

/-!
# Keccak-256

The sponge over the permutation Keccak-f[1600] with a rate of 136 bytes and the
padding `0x01 … 0x80`.  A state is the list of its 25 lanes, lane `x + 5 * y` in
column `x` and row `y`.
-/

namespace GasFaucet.Keccak

def rotateLeft (w : UInt64) (k : Nat) : UInt64 :=
  if k = 0 then w else (w <<< k.toUInt64) ||| (w >>> (64 - k).toUInt64)

/-- A state of the permutation: its lanes, row by row. -/
abbrev Lanes := Array UInt64

/-- How far the lane `x + 5 * y` is rotated. -/
def rotations : Array Nat :=
  #[0, 1, 62, 28, 27,
    36, 44, 6, 55, 20,
    3, 10, 43, 25, 39,
    41, 45, 15, 21, 8,
    18, 2, 61, 56, 14]

def roundConstants : List UInt64 :=
  [0x0000000000000001, 0x0000000000008082, 0x800000000000808a, 0x8000000080008000,
   0x000000000000808b, 0x0000000080000001, 0x8000000080008081, 0x8000000000008009,
   0x000000000000008a, 0x0000000000000088, 0x0000000080008009, 0x000000008000000a,
   0x000000008000808b, 0x800000000000008b, 0x8000000000008089, 0x8000000000008003,
   0x8000000000008002, 0x8000000000000080, 0x000000000000800a, 0x800000008000000a,
   0x8000000080008081, 0x8000000000008080, 0x0000000080000001, 0x8000000080008008]

/-- The lane in column `x` and row `y`, both taken modulo 5. -/
def lane (s : Lanes) (x y : Nat) : UInt64 :=
  s.getD (x % 5 + 5 * (y % 5)) 0

/-- The state whose lane in column `x` and row `y` is `f x y`. -/
def tabulate (f : Nat → Nat → UInt64) : Lanes :=
  Array.ofFn fun i : Fin 25 => f (i.val % 5) (i.val / 5)

def mixColumns (s : Lanes) : Lanes :=
  let parity : Array UInt64 := Array.ofFn fun x : Fin 5 =>
    lane s x 0 ^^^ lane s x 1 ^^^ lane s x 2 ^^^ lane s x 3 ^^^ lane s x 4
  tabulate fun x y =>
    lane s x y ^^^ parity.getD ((x + 4) % 5) 0 ^^^ rotateLeft (parity.getD ((x + 1) % 5) 0) 1

def scatter (s : Lanes) : Lanes :=
  tabulate fun x y =>
    rotateLeft (lane s (x + 3 * y) x) (rotations.getD ((x + 3 * y) % 5 + 5 * x) 0)

def combineRows (s : Lanes) : Lanes :=
  tabulate fun x y => lane s x y ^^^ ((lane s (x + 1) y ^^^ 0xffffffffffffffff) &&& lane s (x + 2) y)

def round (s : Lanes) (constant : UInt64) : Lanes :=
  (combineRows (scatter (mixColumns s))).modify 0 (· ^^^ constant)

def permute (s : Lanes) : Lanes :=
  roundConstants.foldl round s

def lanesOfBlock (block : Bytes) : Lanes :=
  Array.ofFn fun i : Fin 25 =>
    ((block.drop (8 * i.val)).take 8).foldr (fun x w => (w <<< 8) ||| x.toUInt64) 0

def rate : Nat := 136

def pad (message : Bytes) : Bytes :=
  let free := rate - message.length % rate
  if free = 1 then message ++ [0x81]
  else message ++ 0x01 :: List.replicate (free - 2) 0 ++ [0x80]

def absorb : (count : Nat) → Lanes → Bytes → Lanes
  | 0, s, _ => s
  | count + 1, s, message =>
      absorb count (permute (s.zipWith (· ^^^ ·) (lanesOfBlock (message.take rate)))) (message.drop rate)

def bytesOfLane (w : UInt64) : Bytes :=
  (Bytes.ofNat 8 w.toNat).reverse

def hash (message : Bytes) : Bytes :=
  let padded := pad message
  let s := absorb (padded.length / rate) (Array.replicate 25 0) padded
  ((s.toList.take 4).map bytesOfLane).flatten

end GasFaucet.Keccak
