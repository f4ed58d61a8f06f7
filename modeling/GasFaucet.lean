import GasFaucet.Main
import GasFaucet.Rehearsal.ScriptedNode
import GasFaucet.Rehearsal.Session
import GasFaucet.Proofs.Lending
import GasFaucet.Proofs.Changes
import GasFaucet.Proofs.Exclusivity
import GasFaucet.Proofs.Nonces
import GasFaucet.Proofs.Histories
import GasFaucet.Proofs.Verdicts
import GasFaucet.Proofs.Conservation
import GasFaucet.Proofs.Exchange
import GasFaucet.Proofs.Spellings
import GasFaucet.Proofs.Accounts
import GasFaucet.Proofs.Startup
import GasFaucet.Proofs.Substitution
import GasFaucet.Proofs.Operations
import GasFaucet.Proofs.Rounds
import GasFaucet.Proofs.Absorption
import GasFaucet.Proofs.Moments
import GasFaucet.Proofs.Authorisation
import GasFaucet.Proofs.Groundwork
import GasFaucet.Proofs.Deadlines
import GasFaucet.Proofs.Shutdown
import GasFaucet.Proofs.Bookkeeping
import GasFaucet.Proofs.Watching
import GasFaucet.Proofs.Unmined
import GasFaucet.Proofs.Polling
import GasFaucet.Proofs.Receipts
import GasFaucet.Proofs.Stopping
import GasFaucet.Proofs.Settling
import GasFaucet.Proofs.Searches
import GasFaucet.Proofs.Trials
import GasFaucet.Proofs.Selection
import GasFaucet.Proofs.Patience
import GasFaucet.Proofs.Settlements
import GasFaucet.Proofs.Amounts
import GasFaucet.Proofs.Prefixes
import GasFaucet.Proofs.Payloads
import GasFaucet.Proofs.Keyrings
import GasFaucet.Proofs.Custody
import GasFaucet.Proofs.Floors
import GasFaucet.Proofs.Broadcasts
import GasFaucet.Proofs.Counters
import GasFaucet.Proofs.MiningPlans
import GasFaucet.Proofs.GasPrices
import GasFaucet.Proofs.Censuses
import GasFaucet.Proofs.Secrecy
