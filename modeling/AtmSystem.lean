import AtmSystem.Library.Program
import AtmSystem.Library.KeyedTable
import AtmSystem.Library.SerialTable
import AtmSystem.Library.Machine
import AtmSystem.Library.RunningTotal
import AtmSystem.Library.Chronology
import AtmSystem.Library.TwoRuns
import AtmSystem.Library.Guarded
import AtmSystem.Library.Outcomes
import AtmSystem.Library.Loop
import AtmSystem.Library.Crash
import AtmSystem.Library.Duplex
import AtmSystem.Library.Interleaving
import AtmSystem.Library.Fips180
import AtmSystem.Library.HalfEven
import AtmSystem.Model.Text
import AtmSystem.Model.Double
import AtmSystem.Model.Sha256
import AtmSystem.Model.Database
import AtmSystem.Model.Auth
import AtmSystem.Model.Account
import AtmSystem.Model.Reports
import AtmSystem.Model.Server
import AtmSystem.Model.Protocol
import AtmSystem.Model.Client
import AtmSystem.Model.Legacy
import AtmSystem.Model.Buffers
import AtmSystem.Model.Exchange
import AtmSystem.Model.Terminal
import AtmSystem.Model.Connection
import AtmSystem.Semantics.Calls
import AtmSystem.Semantics.Reports
import AtmSystem.Semantics.Errors
import AtmSystem.Semantics.Refusals
import AtmSystem.Semantics.ErrorBuffer
import AtmSystem.Semantics.Reported
import AtmSystem.Semantics.Sockets
import AtmSystem.Semantics.Numbers
import AtmSystem.Semantics.Requests
import AtmSystem.Semantics.Terminal
import AtmSystem.Semantics.Hashing
import AtmSystem.Semantics.Brackets
import AtmSystem.Semantics.Connections
import AtmSystem.Semantics.Interrupted
import AtmSystem.Semantics.Crash
import AtmSystem.Bank.Action
import AtmSystem.Bank.Entries
import AtmSystem.Bank.Rows
import AtmSystem.Bank.Settle
import AtmSystem.Bank.Login
import AtmSystem.Bank.Turn
import AtmSystem.Bank.Run
import AtmSystem.Bank.Opening
import AtmSystem.Bank.View
import AtmSystem.Bank.Printing
import AtmSystem.Safety.Ledger
import AtmSystem.Safety.Conservation
import AtmSystem.Safety.Counterparts
import AtmSystem.Safety.Overdraft
import AtmSystem.Safety.FiniteAmounts
import AtmSystem.Safety.ShownBalance
import AtmSystem.Safety.Atomicity
import AtmSystem.Safety.Authorization
import AtmSystem.Safety.Lockout
import AtmSystem.Safety.SessionLock
import AtmSystem.Safety.Sessions
import AtmSystem.Safety.AdminPassword
import AtmSystem.Safety.AdminSession
import AtmSystem.Safety.PinCorrectness
import AtmSystem.Safety.Framing
import AtmSystem.Safety.ClientRequests
import AtmSystem.Safety.Exchanges
import AtmSystem.Safety.LegacyAccounts
import AtmSystem.Safety.LegacyTransactions
import AtmSystem.Safety.Restarts
import AtmSystem.Safety.Crashes
import AtmSystem.Safety.Survival
import AtmSystem.Safety.AuditTrail
import AtmSystem.Safety.Recovery
import AtmSystem.Safety.WellFormedAccounts
import AtmSystem.Safety.TransferEffect
import AtmSystem.Safety.Renaming
import AtmSystem.Safety.Isolation
import AtmSystem.Safety.ReusedNumbers
import AtmSystem.Safety.MonthlySummary
import AtmSystem.Safety.AdminReports
import AtmSystem.Safety.MiniStatement
import AtmSystem.Safety.AccountListing
import AtmSystem.Safety.Columns
import AtmSystem.Safety.StatementsFit
import AtmSystem.Safety.AppliedAmounts
import AtmSystem.Safety.Serializable
import AtmSystem.Safety.DeletionRace
import AtmSystem.Safety.LoginRace
import AtmSystem.Safety.ErrorTexts
import AtmSystem.Safety.Appending
import AtmSystem.Safety.IntLiterals
import AtmSystem.Safety.TerminalEnds
import AtmSystem.Safety.Remote
import AtmSystem.Semantics.Wires
import AtmSystem.Semantics.Connection
import AtmSystem.Safety.TerminalFlows
import AtmSystem.Safety.Terminal
import AtmSystem.Safety.Connection
