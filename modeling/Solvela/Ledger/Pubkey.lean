import Mathlib.Data.Nat.Notation
import Mathlib.Logic.Function.Defs
import Mathlib.Tactic.Ring

/-!
# Base58 public keys

`decode_bs58_pubkey`, and the program ids in the refund transfer's fixed account table.
-/

namespace Solvela.ChannelLedger

/-- A 32-byte Solana public key. -/
abbrev Pubkey := Vector UInt8 32

/-- The UTF-8 bytes of a text. -/
def textBytes (s : String) : List UInt8 := s.toUTF8.data.toList

/-- The bytes of a text determine it. -/
theorem textBytes_injective : Function.Injective textBytes := by
  intro s s' h
  have hdata : s.toUTF8.data = s'.toUTF8.data := Array.toList_inj.1 h
  exact String.toByteArray_inj.1 (ByteArray.ext hdata)

/-- The position of a byte in an alphabet, on the piece from `first` to `last` that starts at
`offset`. -/
def alphabetPiece (first last : Char) (offset : ℕ) (b : UInt8) : Option ℕ :=
  if first.toNat ≤ b.toNat ∧ b.toNat ≤ last.toNat then some (b.toNat - first.toNat + offset)
  else none

/-- The digit a base58 character denotes: digits and letters without `0`, `O`, `I`, `l`. -/
def bs58Digit (b : UInt8) : Option ℕ :=
  alphabetPiece '1' '9' 0 b <|> alphabetPiece 'A' 'H' 9 b <|> alphabetPiece 'J' 'N' 17 b <|>
    alphabetPiece 'P' 'Z' 22 b <|> alphabetPiece 'a' 'k' 33 b <|> alphabetPiece 'm' 'z' 44 b

/-- The number a base58 text denotes; `none` on a foreign character. -/
def bs58Value (s : List UInt8) : Option ℕ :=
  s.foldlM (fun n b => (bs58Digit b).map (n * 58 + ·)) 0

/-- The number of bytes of a number, without leading zeros. -/
def byteLength (n : ℕ) : ℕ := if n = 0 then 0 else Nat.log2 n / 8 + 1

/-- `decode_bs58_pubkey`: each leading `1` is a zero byte, the rest is the big-endian number,
and the whole must be 32 bytes. -/
def decodeBs58Pubkey (s : String) : Option Pubkey := do
  let n ← bs58Value (textBytes s)
  let zeros := ((textBytes s).takeWhile fun b => b.toNat == '1'.toNat).length
  if zeros + byteLength n = 32 then
    some (Vector.ofFn fun i => UInt8.ofNat (n / 256 ^ (31 - i.val) % 256))
  else none

/-- `Pubkey::SYSTEM_PROGRAM`. -/
def systemProgram : Pubkey := Vector.replicate 32 0

/-- `Pubkey::TOKEN_PROGRAM_ID`. -/
def tokenProgramId : Pubkey := #v[
  6, 221, 246, 225, 215, 101, 161, 147, 217, 203, 225, 70, 206, 235, 121, 172, 28, 180, 133,
  237, 95, 91, 55, 145, 58, 140, 245, 133, 126, 255, 0, 169]

/-- `ASSOCIATED_TOKEN_PROGRAM_ID`. -/
def associatedTokenProgramId : Pubkey := #v[
  140, 151, 37, 143, 78, 36, 137, 241, 187, 61, 16, 41, 20, 142, 13, 131, 11, 90, 19, 153, 218,
  255, 16, 132, 4, 142, 123, 216, 219, 233, 248, 89]

example : decodeBs58Pubkey "11111111111111111111111111111111" = some systemProgram := by decide

example :
    decodeBs58Pubkey "TokenkegQfeZyiNwAJbNbGKPFXCWuBvf9Ss623VQ5DA" = some tokenProgramId := by
  decide

end Solvela.ChannelLedger
