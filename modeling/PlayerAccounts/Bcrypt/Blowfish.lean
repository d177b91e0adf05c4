import PlayerAccounts.Bcrypt.Circle
/-!
# The Blowfish cipher with an expensive key schedule

The state of the cipher is 18 round keys and four substitution boxes of 256 words, one after another in
an array. It begins as the digits of π and is replaced, pair by pair, by what it encrypts. The key
schedule of bcrypt mixes in key and salt a number of times that doubles with each step of the cost.
-/
namespace PlayerAccounts.Bcrypt
set_option autoImplicit false

/-! ## One block -/

/-- Round keys and boxes. -/
abbrev CipherState := Array UInt32

def roundKeys : Nat := 18

def stateWords : Nat := roundKeys + 4 * 256

def initialState : CipherState := circleWords stateWords

/-- The word of a box that a byte of a word selects. -/
def boxed (w : CipherState) (box : Nat) (byte : UInt32) : UInt32 :=
  w.getD (roundKeys + 256 * box + (byte &&& 255).toNat) 0

def scramble (w : CipherState) (x : UInt32) : UInt32 :=
  ((boxed w 0 (x >>> 24) + boxed w 1 (x >>> 16)) ^^^ boxed w 2 (x >>> 8)) + boxed w 3 x

def joinHalves (left right : UInt32) : UInt64 := left.toUInt64 <<< 32 ||| right.toUInt64

def leftHalf (block : UInt64) : UInt32 := (block >>> 32).toUInt32

def rightHalf (block : UInt64) : UInt32 := block.toUInt32

/-- The last rounds of a block, this many of them. -/
def lastRounds (w : CipherState) : Nat → UInt32 → UInt32 → UInt64
  | 0, left, right => joinHalves (right ^^^ w.getD 17 0) (left ^^^ w.getD 16 0)
  | n + 1, left, right =>
    let left := left ^^^ w.getD (15 - n) 0
    lastRounds w n (right ^^^ scramble w left) left

def encryptBlock (w : CipherState) (block : UInt64) : UInt64 :=
  lastRounds w 16 (leftHalf block) (rightHalf block)

/-! ## The key schedule -/

def bigEndianWords : List UInt8 → List UInt32
  | a :: b :: c :: d :: rest =>
    (a.toUInt32 <<< 24 ||| b.toUInt32 <<< 16 ||| c.toUInt32 <<< 8 ||| d.toUInt32) ::
      bigEndianWords rest
  | _ => []

def mixKey (key : Array UInt32) (w : CipherState) : CipherState :=
  Nat.fold roundKeys (fun i _ w => w.setIfInBounds i (w.getD i 0 ^^^ key.getD i 0)) w

/-- The state from a pair of words on replaced by encrypted blocks. Before each of them one half of the
salt is mixed in, `even` before pairs with an even number and `odd` before the others. -/
def refill (even odd : UInt64) : Nat → Nat → UInt64 → CipherState → CipherState
  | 0, _, _, w => w
  | n + 1, i, block, w =>
    let block := encryptBlock w (block ^^^ if i % 2 = 0 then even else odd)
    refill even odd n (i + 1) block
      ((w.setIfInBounds (2 * i) (leftHalf block)).setIfInBounds (2 * i + 1) (rightHalf block))

/-- The state after one pass with a salt and a key. -/
def expand (even odd : UInt64) (key : Array UInt32) (w : CipherState) : CipherState :=
  refill even odd (stateWords / 2) 0 0 (mixKey key w)

/-- The state for a cost, a salt of four words and a key of eighteen words. -/
def schedule (cost : Nat) (salt key : Array UInt32) : CipherState :=
  let saltKey := (Array.range roundKeys).map fun i => salt.getD (i % 4) 0
  let start := expand (joinHalves (salt.getD 0 0) (salt.getD 1 0))
    (joinHalves (salt.getD 2 0) (salt.getD 3 0)) key initialState
  Nat.repeat (fun w => expand 0 0 saltKey (expand 0 0 key w)) (Nat.pow 2 cost) start

/-! ## The digest -/

/-- The eight bytes of a block, highest first. -/
def blockBytes (block : UInt64) : List UInt8 :=
  (List.range 8).map fun i => (block >>> UInt64.ofNat (56 - 8 * i)).toUInt8

/-- The three blocks of text that are encrypted: `OrpheanBeholderScryDoubt`. -/
def magicBlocks : List UInt64 := [0x4F72706865616E42, 0x65686F6C64657253, 0x637279446F756274]

/-- The digest of a key and a salt: the three blocks, each encrypted 64 times. -/
def digest (cost : Nat) (salt key : List UInt8) : List UInt8 :=
  let w := schedule cost (bigEndianWords salt).toArray (bigEndianWords key).toArray
  magicBlocks.flatMap fun block => blockBytes (Nat.repeat (encryptBlock w) 64 block)

theorem length_blockBytes (block : UInt64) : (blockBytes block).length = 8 := by
  simp [blockBytes]

theorem length_digest (cost : Nat) (salt key : List UInt8) : (digest cost salt key).length = 24 := by
  simp [digest, magicBlocks, length_blockBytes]

end PlayerAccounts.Bcrypt
