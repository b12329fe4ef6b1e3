import Trickle.Json.Write
import Trickle.Main
import Trickle.Proofs.Accounting
import Trickle.Proofs.Amount
import Trickle.Proofs.Breakdown
import Trickle.Proofs.Copies
import Trickle.Proofs.Eligibility
import Trickle.Proofs.Environment
import Trickle.Proofs.Fees
import Trickle.Proofs.Gate
import Trickle.Proofs.LiveBalance
import Trickle.Proofs.Log
import Trickle.Proofs.LongerBound
import Trickle.Proofs.Nonces
import Trickle.Proofs.Orders
import Trickle.Proofs.Passes
import Trickle.Proofs.Payer
import Trickle.Proofs.PlainAmount
import Trickle.Proofs.PrintedAddress
import Trickle.Proofs.PrintedAmount
import Trickle.Proofs.Quantities
import Trickle.Proofs.ReceiptWait
import Trickle.Proofs.RowsOrFault
import Trickle.Proofs.Secrecy
import Trickle.Proofs.SettingsFaults
import Trickle.Proofs.Spending
import Trickle.Proofs.Summary
import Trickle.Proofs.Totals
import Trickle.Transaction.Rlp
