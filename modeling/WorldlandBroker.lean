import WorldlandBroker.Foundation.Run
import WorldlandBroker.Foundation.CountMap
import WorldlandBroker.Vault.Token
import WorldlandBroker.Vault.Contract
import WorldlandBroker.Vault.Effect
import WorldlandBroker.Vault.Rentals
import WorldlandBroker.Vault.Authorisation
import WorldlandBroker.Vault.Solvency
import WorldlandBroker.Vault.SpendCap
import WorldlandBroker.Vault.Settlement
import WorldlandBroker.Vault.Nonces
import WorldlandBroker.Vault.KeyRecords
import WorldlandBroker.Vault.Revocation
import WorldlandBroker.Provider.Types
import WorldlandBroker.Provider.Ledger
import WorldlandBroker.Provider.LedgerEffect
import WorldlandBroker.Provider.Scalars
import WorldlandBroker.Provider.Mining
import WorldlandBroker.Provider.Grants
import WorldlandBroker.Provider.Balance
import WorldlandBroker.Provider.Usage
import WorldlandBroker.Provider.Offer
import WorldlandBroker.Job.Text
import WorldlandBroker.Job.Quantity
import WorldlandBroker.Job.Pod
import WorldlandBroker.Job.Request
import WorldlandBroker.Job.Numeral
import WorldlandBroker.Job.Footprint
import WorldlandBroker.Job.Refund
import WorldlandBroker.Job.Tenant
import WorldlandBroker.ControlPlane.Step
import WorldlandBroker.ControlPlane.Inversion
import WorldlandBroker.ControlPlane.Postings
import WorldlandBroker.ControlPlane.Equation
import WorldlandBroker.ControlPlane.Mentions
import WorldlandBroker.ControlPlane.Credits
import WorldlandBroker.ControlPlane.Hands
import WorldlandBroker.ControlPlane.Overlap
import WorldlandBroker.ControlPlane.AtMostOnce
import WorldlandBroker.ControlPlane.Outstanding
import WorldlandBroker.ControlPlane.Covering
import WorldlandBroker.ControlPlane.Accounting
import WorldlandBroker.ControlPlane.Leaks
import WorldlandBroker.ControlPlane.Boot
import WorldlandBroker.ControlPlane.Restart
import WorldlandBroker.Foundation.Slots
import WorldlandBroker.Wallet.Session
import WorldlandBroker.Wallet.Moves
import WorldlandBroker.Wallet.Memory
import WorldlandBroker.Wallet.SpendLimit
import WorldlandBroker.Wallet.Finality
import WorldlandBroker.Wallet.SingleUse
import WorldlandBroker.Mining.Pods
import WorldlandBroker.Mining.Tracking
import WorldlandBroker.Mining.Agreement
import WorldlandBroker.Registration.Handler
import WorldlandBroker.Registration.Accounting
import WorldlandBroker.Sdk.Capacity
import WorldlandBroker.Sdk.Reservation
import WorldlandBroker.Provider.Requests
import WorldlandBroker.Provider.Oversubscription
import WorldlandBroker.Sdk.Envelope
import WorldlandBroker.Registration.Liveness
import WorldlandBroker.Registration.Mirror
import WorldlandBroker.Foundation.StreamLog
import WorldlandBroker.Messaging.Streams
import WorldlandBroker.Messaging.Delivery
import WorldlandBroker.Messaging.Response
import WorldlandBroker.ControlPlane.Placement
import WorldlandBroker.ControlPlane.Completeness
import WorldlandBroker.Job.Fence
import WorldlandBroker.Sdk.MiningStatus
import WorldlandBroker.Sdk.AutoScale
import WorldlandBroker.Vault.EventLog
import WorldlandBroker.Vault.Validity
import WorldlandBroker.Wallet.Takeover
import WorldlandBroker.Foundation.StructHash
import WorldlandBroker.Wallet.OnChain
import WorldlandBroker.Provider.Deployment
import WorldlandBroker.Provider.AllOrNothing
import WorldlandBroker.Provider.Restored
import WorldlandBroker.ControlPlane.OmittedType
import WorldlandBroker.ControlPlane.FailedCreate
import WorldlandBroker.Job.Canonical
import WorldlandBroker.Job.Decoders
import WorldlandBroker.Foundation.Parts
import WorldlandBroker.Job.Cluster
import WorldlandBroker.Job.Isolation
import WorldlandBroker.Foundation.Pages
import WorldlandBroker.Foundation.Like
import WorldlandBroker.Provider.Reported
import WorldlandBroker.ControlPlane.Reconcile
import WorldlandBroker.ControlPlane.Fleet
import WorldlandBroker.ControlPlane.Searches
import WorldlandBroker.ControlPlane.PlacedModel
import WorldlandBroker.Job.TenantCleanup
import WorldlandBroker.ControlPlane.FailedDelete
import WorldlandBroker.Wallet.SessionManager
import WorldlandBroker.Wallet.FailedCharge
import WorldlandBroker.Wallet.Login
import WorldlandBroker.Wallet.Identity
import WorldlandBroker.Sdk.Hardware
import WorldlandBroker.Job.NodeTaints
import WorldlandBroker.Mining.Resize
import WorldlandBroker.Foundation.Calendar
import WorldlandBroker.Foundation.TimeText
import WorldlandBroker.Job.Expiry
import WorldlandBroker.Job.OutOfMemory
import WorldlandBroker.Foundation.NetworkPolicy
import WorldlandBroker.Job.NetworkFence
import WorldlandBroker.Job.QuotaUse
import WorldlandBroker.Wallet.SessionAuth
import WorldlandBroker.Wallet.Tokens
import WorldlandBroker.Foundation.Split
import WorldlandBroker.Sdk.Scanner
import WorldlandBroker.Messaging.Address
import WorldlandBroker.Foundation.Journal
import WorldlandBroker.Vault.Wealth
import WorldlandBroker.Vault.Governance
import WorldlandBroker.Vault.KeyList
import WorldlandBroker.Foundation.Optimistic
import WorldlandBroker.Job.NodeSteering
import WorldlandBroker.Mining.Scheduling
import WorldlandBroker.ControlPlane.ReadBack
import WorldlandBroker.Job.AdviceLoop
import WorldlandBroker.Gateway.Server
import WorldlandBroker.Foundation.Fetch
import WorldlandBroker.Gateway.Visitors
import WorldlandBroker.Gateway.WebClient
