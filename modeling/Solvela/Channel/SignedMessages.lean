import Solvela.Channel.VoucherWords
import Solvela.Lib.Bytes
import Solvela.Signer.ChannelWire

/-!
# What a session key signs

A session key signs vouchers and closes. Every field of either has a fixed width after its domain
tag, and the two tags differ within their common length, so the bytes determine the message.
-/

namespace Solvela.Channel

open Solvela.Lib
open Solvela.ChannelLedger
open Solvela.Signer (closeDomainSep buildCloseMessage)

/-- A message of a session key, with the fields the source gives it. -/
inductive SignedMessage
  | voucher (channelId : Pubkey) (cumulativeAmount expirySlot nonce : UInt64)
      (requestDigest : Vector UInt8 32)
  | close (channelId : Pubkey)

/-- The bytes that are signed: `build_voucher_message` and `build_close_message`. -/
def SignedMessage.bytes : SignedMessage → List UInt8
  | .voucher channelId cumulativeAmount expirySlot nonce requestDigest =>
    buildVoucherMessage channelId cumulativeAmount.toNat expirySlot.toNat nonce.toNat requestDigest
  | .close channelId => buildCloseMessage channelId

/-! ## Authorization -/

/-- `ChannelCloseSigError`. -/
inductive ChannelCloseSigError
  | invalidSessionKey
  | invalidSignature
deriving DecidableEq

section
variable (validKey : Pubkey → Bool)
  (verifySignature : Pubkey → List UInt8 → Vector UInt8 64 → Bool)

/-- `verify_close`; `validKey` says which keys the signature library takes for a point. -/
def verifyClose (sessionKey channelId : Pubkey) (signature : Vector UInt8 64) :
    Except ChannelCloseSigError Unit :=
  if validKey sessionKey = false then .error .invalidSessionKey
  else if verifySignature sessionKey (buildCloseMessage channelId) signature = false then
    .error .invalidSignature
  else .ok ()

/-- The gateway takes a signature of a session key for this voucher or for this close. -/
inductive Authorizes (sessionKey : Pubkey) (signature : Vector UInt8 64) : SignedMessage → Prop
  | voucher (state : Words.ChannelState) (voucher : Words.Voucher) (billed slot : UInt64)
      (key : state.sessionKey = sessionKey) (carried : voucher.signature = signature)
      (accepted : Words.verifyVoucher verifySignature state voucher billed slot = .ok ()) :
      Authorizes sessionKey signature
        (.voucher voucher.channelId voucher.cumulativeAtomic voucher.expirySlot voucher.nonce
          voucher.requestDigest)
  | close (channelId : Pubkey)
      (accepted : verifyClose validKey verifySignature sessionKey channelId signature = .ok ()) :
      Authorizes sessionKey signature (.close channelId)

end

/-! ## The layouts -/

/-- Vectors of one length cannot go on. -/
theorem prefixFree_vector (n : ℕ) : PrefixFree fun v : Vector UInt8 n => v.toList := by
  apply prefixFree_of_width (n := n)
  · intro v
    exact Vector.length_toList
  · intro v v' h
    exact Vector.toList_inj.mp h

/-- Nor can words of eight bytes. -/
theorem prefixFree_u64 : PrefixFree fun n : UInt64 => leBytes n.toNat := by
  apply prefixFree_of_width (n := 8)
  · intro n
    exact length_leDigits 8 n.toNat
  · intro n n' h
    have hn : n.toNat < 256 ^ 8 := n.toNat_lt
    have hn' : n'.toNat < 256 ^ 8 := n'.toNat_lt
    exact UInt64.toNat_inj.mp (leDigits_injOn hn hn' h)

/-- The fields of a voucher after its tag. -/
theorem prefixFree_voucher :
    PrefixFree fun p : Pubkey × UInt64 × UInt64 × UInt64 × Vector UInt8 32 =>
      domainSep ++ (p.1.toList ++ (leBytes p.2.1.toNat ++ (leBytes p.2.2.1.toNat ++
        (leBytes p.2.2.2.1.toNat ++ p.2.2.2.2.toList)))) := by
  have hnonce := prefixFree_u64.append (prefixFree_vector 32)
  have hexpiry := prefixFree_u64.append hnonce
  have hcumulative := prefixFree_u64.append hexpiry
  have hchannel := (prefixFree_vector 32).append hcumulative
  exact hchannel.tagged domainSep

/-- Nor can close messages. -/
theorem prefixFree_close :
    PrefixFree fun channelId : Pubkey => closeDomainSep ++ channelId.toList :=
  (prefixFree_vector 32).tagged closeDomainSep

/-- The tags differ at the first letter after `solvela-channel-`. -/
theorem domainSep_ne_closeDomainSep (s s' : List UInt8) :
    domainSep ++ s ≠ closeDomainSep ++ s' := by
  have hvoucher : domainSep[16]? = some 118 := by decide +kernel
  have hclose : closeDomainSep[16]? = some 99 := by decide +kernel
  exact append_ne_of_getElem hvoucher hclose (by decide) s s'

/-- No two messages have the same bytes. -/
theorem SignedMessage.bytes_injective : Function.Injective SignedMessage.bytes := by
  intro m m' h
  cases m with
  | voucher id c e n d =>
    cases m' with
    | voucher id' c' e' n' d' =>
      have hfields : (id, c, e, n, d) = (id', c', e', n', d') := by
        apply prefixFree_voucher.injective
        simpa only [SignedMessage.bytes, buildVoucherMessage, List.append_assoc] using h
      simp only [Prod.mk.injEq] at hfields
      rw [hfields.1, hfields.2.1, hfields.2.2.1, hfields.2.2.2.1, hfields.2.2.2.2]
    | close id' =>
      exfalso
      simp only [SignedMessage.bytes, buildVoucherMessage, List.append_assoc] at h
      exact domainSep_ne_closeDomainSep _ _ h
  | close id =>
    cases m' with
    | voucher id' c' e' n' d' =>
      exfalso
      simp only [SignedMessage.bytes, buildVoucherMessage, List.append_assoc] at h
      exact domainSep_ne_closeDomainSep _ _ h.symm
    | close id' =>
      rw [prefixFree_close.injective h]

/-! ## One signature, one authorization -/

variable {validKey : Pubkey → Bool}
  {verifySignature : Pubkey → List UInt8 → Vector UInt8 64 → Bool}

/-- What a signature authorizes, the signature library accepts it for. -/
theorem Authorizes.verified {sessionKey : Pubkey} {signature : Vector UInt8 64}
    {m : SignedMessage} (h : Authorizes validKey verifySignature sessionKey signature m) :
    verifySignature sessionKey m.bytes signature = true := by
  cases h with
  | voucher state voucher billed slot key carried accepted =>
    have hrules := (Words.verifyVoucher_iff state voucher billed slot).mp accepted
    rw [← key, ← carried]
    exact hrules.signature
  | close channelId accepted =>
    unfold verifyClose at accepted
    split_ifs at accepted with hkey hsig
    rw [Bool.not_eq_false] at hsig
    exact hsig

end Solvela.Channel
