import LeveredBasket.Main
import LeveredBasket.Proofs.Lending.Custody
import LeveredBasket.Proofs.Lending.Rounding
import LeveredBasket.Proofs.Leverage.Alignment
import LeveredBasket.Proofs.Lending.Bystanders
import LeveredBasket.Proofs.Lending.Health
import LeveredBasket.Proofs.Leverage.Steps
import LeveredBasket.Proofs.Leverage.Redemption
import LeveredBasket.Proofs.Leverage.Issuance
import LeveredBasket.Proofs.Json.Reading
import LeveredBasket.Proofs.Exchange.Order
import LeveredBasket.Proofs.Leverage.Trade
import LeveredBasket.Proofs.Leverage.FullDelever
import LeveredBasket.Proofs.Leverage.Atomicity
import LeveredBasket.Proofs.Leverage.Security
import LeveredBasket.Proofs.Leverage.Liquidation
import LeveredBasket.Proofs.Leverage.Freshness
import LeveredBasket.Proofs.Leverage.Grounding
import LeveredBasket.Proofs.Leverage.Removal
import LeveredBasket.Proofs.Lending.Deposits
import LeveredBasket.Proofs.Leverage.Backing
import LeveredBasket.Proofs.Leverage.Journal
import LeveredBasket.Proofs.Lending.Pledges
import LeveredBasket.Proofs.Leverage.Replay
import LeveredBasket.Proofs.Ledger
import LeveredBasket.Proofs.Leverage.Bookkeeping
import LeveredBasket.Proofs.Leverage.Registrations
import LeveredBasket.Proofs.Leverage.Isolation
import LeveredBasket.Proofs.Leverage.Lifecycle
import LeveredBasket.Proofs.Leverage.Shape
import LeveredBasket.Proofs.Leverage.Conservation
import LeveredBasket.Proofs.Leverage.Authorization
import LeveredBasket.Proofs.Leverage.Arithmetic
import LeveredBasket.Proofs.Leverage.Idempotence
import LeveredBasket.Proofs.Json.RoundTrip
import LeveredBasket.Proofs.Leverage.Chronicle
import LeveredBasket.Proofs.Leverage.Symmetry
import LeveredBasket.Proofs.Leverage.Commutation
import LeveredBasket.Proofs.Leverage.Course
import LeveredBasket.Proofs.Leverage.Limits
import LeveredBasket.Proofs.Leverage.Accounts
import LeveredBasket.Proofs.Leverage.Residue
import LeveredBasket.Proofs.Positions
import LeveredBasket.Proofs.Lending.Compounding
import LeveredBasket.Proofs.Leverage.Repayment
import LeveredBasket.Proofs.Leverage.Entering
import LeveredBasket.Proofs.Conversions
import LeveredBasket.Proofs.Quotients
import LeveredBasket.Proofs.Numerals
import LeveredBasket.Proofs.Lending.Separation
