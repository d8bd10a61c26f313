import Solvela.Lib.Runs
import Solvela.Lib.Txn
import Solvela.Lib.Table
import Solvela.Escrow.Program
import Solvela.Escrow.ProgramTheorems
import Solvela.Escrow.LifeCycle
import Solvela.Ledger.Schema
import Solvela.Ledger.Channels
import Solvela.Ledger.Refunds
import Solvela.Ledger.Theorems
import Solvela.Ledger.Invariant
import Solvela.Channel.Pricing
import Solvela.Channel.Voucher
import Solvela.Channel.Draw
import Solvela.Channel.DrawTheorems
import Solvela.Channel.CloseRace
import Solvela.Channel.Billing
import Solvela.Channel.Persistable
import Solvela.Channel.Open
import Solvela.Ledger.Entries
import Solvela.Refund.Worker
import Solvela.Refund.WorkerTheorems
import Solvela.Refund.StatusMachine
import Solvela.Refund.ExactlyOnce
import Solvela.Refund.ClaimTxn
import Solvela.Refund.DailyCap
import Solvela.Lib.Lru
import Solvela.Replay.Check
import Solvela.Replay.CheckTheorems
import Solvela.Payment.ReplayKey
import Solvela.Budget.Calendar
import Solvela.Lib.Prog
import Solvela.Budget.Tracker
import Solvela.Budget.History
import Solvela.Budget.CheckTheorems
import Solvela.Budget.System
import Solvela.Budget.Settlement
import Solvela.Budget.Limits
import Solvela.ClaimQueue.Processor
import Solvela.ClaimQueue.Leases
import Solvela.ClaimQueue.Completed
import Solvela.A2a.Exclusion
import Solvela.Settlement.Gateway
import Solvela.Settlement.Verdicts
import Solvela.Settlement.Credits
import Solvela.Chat.Cost
import Solvela.Chat.Settlement
import Solvela.Chat.Recorded
import Solvela.Claims.Integrity
import Solvela.Channel.Surfaces
import Solvela.A2a.Projection
import Solvela.A2a.Truthful
import Solvela.Client.Accepts
import Solvela.Client.Reserved
import Solvela.Client.Spending
import Solvela.Client.BudgetTheorems
import Solvela.Channel.Tracker
import Solvela.Channel.TrackerTheorems
import Solvela.Channel.Recovery
import Solvela.Signer.ChannelWire
import Solvela.Signer.ChannelParity
import Solvela.Signer.Deposit
import Solvela.Signer.DepositParity
import Solvela.Signer.Agreement
import Solvela.Channel.SlotCache
import Solvela.Chat.UpperBound
import Solvela.Chat.CompletionLimit
import Solvela.Providers.Fallback
import Solvela.Providers.Probes
import Solvela.Chat.Dispatch
import Solvela.Chat.FallbackPrice
import Solvela.Chat.CacheProvenance
import Solvela.RateLimit.Identity
import Solvela.Chat.Reservation
import Solvela.Faucet.Drip
import Solvela.Ledger.Base58
import Solvela.Faucet.Once
import Solvela.Faucet.DailyCap
import Solvela.Channel.PlatformFee
import Solvela.Channel.VoucherWords
import Solvela.Lib.Bytes
import Solvela.Channel.SignedMessages
import Solvela.Router.Registry
import Solvela.Chat.DiscoveryFloor
import Solvela.Escrow.ClaimMessage
import Solvela.Payment.SplTransfer
import Solvela.Payment.ExactVerifier
import Solvela.Payment.DurableNonce
import Solvela.Payment.UsdcTransfer
import Solvela.Escrow.Claimable
import Solvela.Escrow.DepositVerifier
import Solvela.Escrow.VerifiedDeposit
import Solvela.Escrow.DepositOnChain
import Solvela.RateLimit.Windows
import Solvela.RateLimit.FreeTierCap
import Solvela.Router.FallbackParity
import Solvela.Protocol.Chat
import Solvela.Lib.Utf8
import Solvela.Lib.Sse
import Solvela.Providers.Gemini
import Solvela.Providers.Streams
import Solvela.Chat.PromptGuard
import Solvela.Chat.PromptGuardSplit
import Solvela.Cache.Requests
import Solvela.Cache.PromptText
import Solvela.Cache.ExactKey
import Solvela.Signer.PaymentHeader
import Solvela.Escrow.DepositAgreement
import Solvela.Lib.Traverse
import Solvela.Providers.RequestTranslation
import Solvela.Messages.Inbound
import Solvela.Messages.Fork
import Solvela.Messages.GuardCoverage
import Solvela.Lib.SortedMap
import Solvela.Protocol.JsonDoc
import Solvela.Messages.Relay
import Solvela.Messages.RelayReading
import Solvela.Messages.SentLimits
import Solvela.Lib.SliceReader
import Solvela.Payment.WireParsing
import Solvela.Chat.UsdcParsing
import Solvela.Escrow.RefundMessage
import Solvela.Escrow.Refundable
import Solvela.FeePayer.Pool
import Solvela.FeePayer.Rotation
