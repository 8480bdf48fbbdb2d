import WorldlandBroker.Foundation.Run
import WorldlandBroker.Vault.Token

/-!
# The GPUVault contract

Every external function of `GPUVault` as a function from the storage before the
call to the storage after it, or to the reason it reverts.  Arithmetic on
`uint256` is checked, as Solidity 0.8 compiles it.

The payment token runs no code of the vault, so each call is one step and the
reentrancy guard never fires.  Hashing and signature recovery belong to the
EVM; they are parameters of `GPUVault`.
-/

namespace WorldlandBroker.Vault

open Foundation

abbrev Bytes := List UInt8

inductive Word where
  | address (value : Address)
  | uint256 (value : Nat)
  | string (value : String)
  deriving DecidableEq

structure TypedData where
  typeString : String
  members : List Word
  deriving DecidableEq

/--
The immutable surroundings of one deployed vault.  `hashTypedDataV4` hashes a
struct under the vault's own domain, and `recover` is `ECDSA.recover`, which
reverts (`none`) on a malformed signature.
-/
structure GPUVault (τ : Type) where
  self : Address
  self_ne_zero : self ≠ 0
  paymentToken : PaymentToken τ
  Digest : Type
  hashTypedDataV4 : TypedData → Digest
  recover : Digest → Bytes → Option Address

inductive Revert where
  | insufficientDeposit
  | invalidSessionKey
  | sessionKeyExpired
  | spendLimitExceeded
  | rentalNotActive
  | invalidSignature
  | deadlineExpired
  | zeroAmount
  | ownableUnauthorizedAccount (account : Address)
  | ownableInvalidOwner (owner : Address)
  | require (message : String)
  | arithmetic
  | safeERC20
  | ecdsa
  deriving DecidableEq

structure SessionKey where
  mainWallet : Address
  spendLimit : Nat
  spentAmount : Nat
  expiry : Nat
  isActive : Bool
  deriving DecidableEq

structure Rental where
  renter : Address
  provider : Address
  pricePerSecond : Nat
  startTime : Nat
  isActive : Bool
  jobId : String
  deriving DecidableEq

/--
What a call leaves in the transaction log: the vault's events, and the token
transfers it issues.
-/
inductive Event where
  | deposited (user : Address) (amount : Nat)
  | withdrawn (user : Address) (amount : Nat)
  | sessionKeyRegistered (mainWallet sessionKey : Address)
      (spendLimit expiry : Nat)
  | sessionKeyRevoked (mainWallet sessionKey : Address)
  | rentalStarted (rentalId : Nat) (renter provider : Address)
      (jobId : String) (pricePerSecond : Nat)
  | rentalEnded (rentalId totalCost platformFee : Nat)
  | paymentProcessed (owner recipient : Address) (amount : Nat)
      (jobId : String)
  | ownershipTransferred (previousOwner newOwner : Address)
  | transfer (recipient : Address) (amount : Nat)
  | transferFrom (owner : Address) (amount : Nat)
  deriving DecidableEq

/-- Storage, the token's state and the block the next call runs in. -/
structure State (τ : Type) where
  timestamp : Nat
  token : τ
  deposits : Address → Nat
  sessionKeys : Address → SessionKey
  userSessionKeys : Address → List Address
  nonces : Address → Nat
  rentals : Nat → Rental
  rentalCount : Nat
  platformFeeBps : Nat
  feeRecipient : Address
  owner : Address
  log : List Event

def deployed {τ : Type} (token : τ) (deployer feeRecipient : Address)
    (timestamp : Nat) : State τ where
  timestamp := timestamp
  token := token
  deposits := fun _ => 0
  sessionKeys := fun _ => ⟨0, 0, 0, 0, false⟩
  userSessionKeys := fun _ => []
  nonces := fun _ => 0
  rentals := fun _ => ⟨0, 0, 0, 0, false, ""⟩
  rentalCount := 0
  platformFeeBps := 500
  feeRecipient := feeRecipient
  owner := deployer
  log := [.ownershipTransferred 0 deployer]

/-! ## Checks and checked arithmetic -/

def ensure (condition : Prop) [Decidable condition] (error : Revert) :
    Except Revert Unit :=
  if condition then .ok () else .error error

def checkedAdd (a b : Nat) : Except Revert Nat :=
  if a + b < wordSize then .ok (a + b) else .error .arithmetic

def checkedSub (a b : Nat) : Except Revert Nat :=
  if b ≤ a then .ok (a - b) else .error .arithmetic

def checkedMul (a b : Nat) : Except Revert Nat :=
  if a * b < wordSize then .ok (a * b) else .error .arithmetic

theorem bind_eq_ok {ε α β : Type} {x : Except ε α} {f : α → Except ε β} {b : β} :
    (x >>= f) = .ok b ↔ ∃ a, x = .ok a ∧ f a = .ok b := by
  cases x with
  | error e => simp [bind, Except.bind]
  | ok a => simp [bind, Except.bind]

theorem pure_eq_ok {ε α : Type} {a b : α} :
    (pure a : Except ε α) = .ok b ↔ a = b := by
  simp [pure, Except.pure]

theorem ensure_eq_ok {condition : Prop} [Decidable condition] {error : Revert}
    {u : Unit} : ensure condition error = .ok u ↔ condition := by
  unfold ensure
  split <;> simp [*]

theorem checkedAdd_eq_ok {a b c : Nat} :
    checkedAdd a b = .ok c ↔ a + b < wordSize ∧ c = a + b := by
  unfold checkedAdd
  split <;> simp [*, eq_comm]

theorem checkedSub_eq_ok {a b c : Nat} :
    checkedSub a b = .ok c ↔ b ≤ a ∧ c = a - b := by
  unfold checkedSub
  split <;> simp [*, eq_comm]

theorem checkedMul_eq_ok {a b c : Nat} :
    checkedMul a b = .ok c ↔ a * b < wordSize ∧ c = a * b := by
  unfold checkedMul
  split <;> simp [*, eq_comm]

/-! ## Storage updates -/

section Updates

variable {τ : Type}

def State.emit (s : State τ) (event : Event) : State τ :=
  { s with log := s.log ++ [event] }

def State.credit (s : State τ) (account : Address) (amount : Nat) :
    Except Revert (State τ) := do
  let balance ← checkedAdd (s.deposits account) amount
  return { s with deposits := Function.update s.deposits account balance }

def State.debit (s : State τ) (account : Address) (amount : Nat) :
    Except Revert (State τ) := do
  let balance ← checkedSub (s.deposits account) amount
  return { s with deposits := Function.update s.deposits account balance }

/-- `nonces[account]++`, with the value it had before. -/
def State.useNonce (s : State τ) (account : Address) :
    Except Revert (Nat × State τ) := do
  let next ← checkedAdd (s.nonces account) 1
  return (s.nonces account,
    { s with nonces := Function.update s.nonces account next })

def State.recordSessionKey (s : State τ)
    (mainWallet sessionKey : Address) (spendLimit expiry : Nat) : State τ :=
  { s with
    sessionKeys := Function.update s.sessionKeys sessionKey
      ⟨mainWallet, spendLimit, 0, expiry, true⟩
    userSessionKeys := Function.update s.userSessionKeys mainWallet
      (s.userSessionKeys mainWallet ++ [sessionKey]) }

def State.openRental (s : State τ) (renter provider : Address)
    (pricePerSecond : Nat) (jobId : String) : Except Revert (State τ) := do
  let rentalId := s.rentalCount
  let next ← checkedAdd s.rentalCount 1
  return { s with
    rentalCount := next
    rentals := Function.update s.rentals rentalId
      ⟨renter, provider, pricePerSecond, s.timestamp, true, jobId⟩ }

def State.closeRental (s : State τ) (rentalId : Nat) : State τ :=
  { s with
    rentals := Function.update s.rentals rentalId
      { s.rentals rentalId with isActive := false } }

end Updates

/-! ## External functions -/

section Functions

variable {τ : Type} (V : GPUVault τ)

def safeTransfer (s : State τ) (recipient : Address) (amount : Nat) :
    Except Revert (State τ) :=
  match V.paymentToken.transfer s.token V.self recipient amount with
  | none => .error .safeERC20
  | some token =>
      .ok { s with token := token, log := s.log ++ [.transfer recipient amount] }

def safeTransferFrom (s : State τ) (owner : Address) (amount : Nat) :
    Except Revert (State τ) :=
  match V.paymentToken.transferFrom s.token V.self owner V.self amount with
  | none => .error .safeERC20
  | some token =>
      .ok { s with token := token, log := s.log ++ [.transferFrom owner amount] }

def recoverSigner (data : TypedData) (signature : Bytes) :
    Except Revert Address :=
  match V.recover (V.hashTypedDataV4 data) signature with
  | none => .error .ecdsa
  | some signer => .ok signer

def deposit (s : State τ) (sender : Address) (amount : Nat) :
    Except Revert (State τ) := do
  ensure (amount ≠ 0) .zeroAmount
  let s ← safeTransferFrom V s sender amount
  let s ← s.credit sender amount
  return s.emit (.deposited sender amount)

def withdraw (s : State τ) (sender : Address) (amount : Nat) :
    Except Revert (State τ) := do
  ensure (amount ≠ 0) .zeroAmount
  ensure (amount ≤ s.deposits sender) .insufficientDeposit
  let s ← s.debit sender amount
  let s ← safeTransfer V s sender amount
  return s.emit (.withdrawn sender amount)

def maxDuration : Nat := 30 * 24 * 60 * 60

def registerSessionKey (s : State τ) (sender sessionKey : Address)
    (spendLimit duration : Nat) : Except Revert (State τ) := do
  ensure (sessionKey ≠ 0) (.require "Invalid session key")
  ensure (0 < spendLimit) (.require "Spend limit must be > 0")
  ensure (0 < duration ∧ duration ≤ maxDuration) (.require "Invalid duration")
  let expiry ← checkedAdd s.timestamp duration
  let s := s.recordSessionKey sender sessionKey spendLimit expiry
  return s.emit (.sessionKeyRegistered sender sessionKey spendLimit expiry)

def registrationData (mainWallet sessionKey : Address)
    (spendLimit expiry nonce : Nat) : TypedData where
  typeString := "RegisterSessionKey(address mainWallet,address sessionKey,uint256 spendLimit,uint256 expiry,uint256 nonce)"
  members := [.address mainWallet, .address sessionKey, .uint256 spendLimit,
    .uint256 expiry, .uint256 nonce]

def registerSessionKeyWithSignature (s : State τ)
    (mainWallet sessionKey : Address) (spendLimit expiry : Nat)
    (signature : Bytes) : Except Revert (State τ) := do
  ensure (sessionKey ≠ 0) (.require "Invalid session key")
  ensure (s.timestamp < expiry) (.require "Already expired")
  let (nonce, s) ← s.useNonce mainWallet
  let signer ← recoverSigner V
    (registrationData mainWallet sessionKey spendLimit expiry nonce) signature
  ensure (signer = mainWallet) .invalidSignature
  let s := s.recordSessionKey mainWallet sessionKey spendLimit expiry
  return s.emit (.sessionKeyRegistered mainWallet sessionKey spendLimit expiry)

def revokeSessionKey (s : State τ) (sender sessionKey : Address) :
    Except Revert (State τ) := do
  let sk := s.sessionKeys sessionKey
  ensure (sk.mainWallet = sender) (.require "Not authorized")
  let s := { s with
    sessionKeys := Function.update s.sessionKeys sessionKey
      { sk with isActive := false } }
  return s.emit (.sessionKeyRevoked sender sessionKey)

def startRental (s : State τ) (sender provider : Address)
    (pricePerSecond : Nat) (jobId : String) : Except Revert (State τ) := do
  ensure (0 < s.deposits sender) (.require "Deposit required")
  ensure (0 < pricePerSecond) (.require "Invalid price")
  let rentalId := s.rentalCount
  let s ← s.openRental sender provider pricePerSecond jobId
  return s.emit (.rentalStarted rentalId sender provider jobId pricePerSecond)

/-- The caller's address is not an argument: the source never looks at it. -/
def startRentalWithSessionKey (s : State τ) (sessionKey provider : Address)
    (pricePerSecond : Nat) (jobId : String) : Except Revert (State τ) := do
  let sk := s.sessionKeys sessionKey
  ensure (sk.isActive = true) .invalidSessionKey
  ensure (s.timestamp ≤ sk.expiry) .sessionKeyExpired
  let mainWallet := sk.mainWallet
  ensure (0 < s.deposits mainWallet) (.require "Deposit required")
  let rentalId := s.rentalCount
  let s ← s.openRental mainWallet provider pricePerSecond jobId
  return s.emit
    (.rentalStarted rentalId mainWallet provider jobId pricePerSecond)

def payFee (s : State τ) (platformFee : Nat) : Except Revert (State τ) :=
  if 0 < platformFee then safeTransfer V s s.feeRecipient platformFee
  else .ok s

/-- The block of `endRental` under `totalCost > 0`. -/
def settle (s : State τ) (rentalId : Nat) (rental : Rental) (totalCost : Nat) :
    Except Revert (State τ) :=
  if 0 < totalCost then do
    ensure (totalCost ≤ s.deposits rental.renter) .insufficientDeposit
    let scaled ← checkedMul totalCost s.platformFeeBps
    let platformFee := scaled / 10000
    let providerPayment ← checkedSub totalCost platformFee
    let s ← s.debit rental.renter totalCost
    let s ← safeTransfer V s rental.provider providerPayment
    let s ← payFee V s platformFee
    return s.emit (.rentalEnded rentalId totalCost platformFee)
  else .ok s

def endRental (s : State τ) (rentalId : Nat) : Except Revert (State τ) := do
  let rental := s.rentals rentalId
  ensure (rental.isActive = true) .rentalNotActive
  let duration ← checkedSub s.timestamp rental.startTime
  let totalCost ← checkedMul duration rental.pricePerSecond
  let s ← settle V s rentalId rental totalCost
  return s.closeRental rentalId

def calculateRentalCost (s : State τ) (rentalId : Nat) : Except Revert Nat := do
  let rental := s.rentals rentalId
  if rental.isActive = false then return 0
  let duration ← checkedSub s.timestamp rental.startTime
  checkedMul duration rental.pricePerSecond

def paymentData (mainWallet recipient : Address) (amount : Nat)
    (jobId : String) (nonce deadline : Nat) : TypedData where
  typeString := "Payment(address from,address to,uint256 amount,string jobId,uint256 nonce,uint256 deadline)"
  members := [.address mainWallet, .address recipient, .uint256 amount,
    .string jobId, .uint256 nonce, .uint256 deadline]

def processPaymentWithSessionKey (s : State τ) (sessionKey recipient : Address)
    (amount : Nat) (jobId : String) (deadline : Nat) (signature : Bytes) :
    Except Revert (State τ) := do
  ensure (s.timestamp ≤ deadline) .deadlineExpired
  let sk := s.sessionKeys sessionKey
  ensure (sk.isActive = true) .invalidSessionKey
  ensure (s.timestamp ≤ sk.expiry) .sessionKeyExpired
  let spent ← checkedAdd sk.spentAmount amount
  ensure (spent ≤ sk.spendLimit) .spendLimitExceeded
  let mainWallet := sk.mainWallet
  let (nonce, s) ← s.useNonce sessionKey
  let signer ← recoverSigner V
    (paymentData mainWallet recipient amount jobId nonce deadline) signature
  ensure (signer = sessionKey) .invalidSignature
  ensure (amount ≤ s.deposits mainWallet) .insufficientDeposit
  let s := { s with
    sessionKeys := Function.update s.sessionKeys sessionKey
      { sk with spentAmount := spent } }
  let s ← s.debit mainWallet amount
  let s ← safeTransfer V s recipient amount
  return s.emit (.paymentProcessed mainWallet recipient amount jobId)

def onlyOwner (s : State τ) (sender : Address) : Except Revert Unit :=
  ensure (s.owner = sender) (.ownableUnauthorizedAccount sender)

def setPlatformFee (s : State τ) (sender : Address) (newFeeBps : Nat) :
    Except Revert (State τ) := do
  onlyOwner s sender
  ensure (newFeeBps ≤ 1000) (.require "Fee too high")
  return { s with platformFeeBps := newFeeBps }

def setFeeRecipient (s : State τ) (sender newRecipient : Address) :
    Except Revert (State τ) := do
  onlyOwner s sender
  ensure (newRecipient ≠ 0) (.require "Invalid address")
  return { s with feeRecipient := newRecipient }

def assignOwner (s : State τ) (newOwner : Address) : State τ :=
  { s.emit (.ownershipTransferred s.owner newOwner) with owner := newOwner }

def transferOwnership (s : State τ) (sender newOwner : Address) :
    Except Revert (State τ) := do
  onlyOwner s sender
  ensure (newOwner ≠ 0) (.ownableInvalidOwner 0)
  return assignOwner s newOwner

def renounceOwnership (s : State τ) (sender : Address) :
    Except Revert (State τ) := do
  onlyOwner s sender
  return assignOwner s 0

end Functions

/-! ## Transactions -/

inductive Call where
  | deposit (amount : Nat)
  | withdraw (amount : Nat)
  | registerSessionKey (sessionKey : Address) (spendLimit duration : Nat)
  | registerSessionKeyWithSignature (mainWallet sessionKey : Address)
      (spendLimit expiry : Nat) (signature : Bytes)
  | revokeSessionKey (sessionKey : Address)
  | startRental (provider : Address) (pricePerSecond : Nat) (jobId : String)
  | startRentalWithSessionKey (sessionKey provider : Address)
      (pricePerSecond : Nat) (jobId : String)
  | endRental (rentalId : Nat)
  | processPaymentWithSessionKey (sessionKey recipient : Address)
      (amount : Nat) (jobId : String) (deadline : Nat) (signature : Bytes)
  | setPlatformFee (newFeeBps : Nat)
  | setFeeRecipient (newRecipient : Address)
  | transferOwnership (newOwner : Address)
  | renounceOwnership

structure Tx where
  sender : Address
  timestamp : Nat
  call : Call

section Transactions

variable {τ : Type} (V : GPUVault τ)

def execute (s : State τ) (sender : Address) : Call → Except Revert (State τ)
  | .deposit amount => deposit V s sender amount
  | .withdraw amount => withdraw V s sender amount
  | .registerSessionKey sessionKey spendLimit duration =>
      registerSessionKey s sender sessionKey spendLimit duration
  | .registerSessionKeyWithSignature mainWallet sessionKey spendLimit expiry
      signature =>
      registerSessionKeyWithSignature V s mainWallet sessionKey spendLimit
        expiry signature
  | .revokeSessionKey sessionKey => revokeSessionKey s sender sessionKey
  | .startRental provider pricePerSecond jobId =>
      startRental s sender provider pricePerSecond jobId
  | .startRentalWithSessionKey sessionKey provider pricePerSecond jobId =>
      startRentalWithSessionKey s sessionKey provider pricePerSecond jobId
  | .endRental rentalId => endRental V s rentalId
  | .processPaymentWithSessionKey sessionKey recipient amount jobId deadline
      signature =>
      processPaymentWithSessionKey V s sessionKey recipient amount jobId
        deadline signature
  | .setPlatformFee newFeeBps => setPlatformFee s sender newFeeBps
  | .setFeeRecipient newRecipient => setFeeRecipient s sender newRecipient
  | .transferOwnership newOwner => transferOwnership s sender newOwner
  | .renounceOwnership => renounceOwnership s sender

/-- `block.timestamp` for a call mined at `now`. -/
def State.at (s : State τ) (now : Nat) : State τ :=
  { s with timestamp := now }

@[simp] theorem State.at_timestamp (s : State τ) (now : Nat) :
    (s.at now).timestamp = now := rfl

@[simp] theorem State.at_token (s : State τ) (now : Nat) :
    (s.at now).token = s.token := rfl

@[simp] theorem State.at_deposits (s : State τ) (now : Nat) :
    (s.at now).deposits = s.deposits := rfl

@[simp] theorem State.at_sessionKeys (s : State τ) (now : Nat) :
    (s.at now).sessionKeys = s.sessionKeys := rfl

@[simp] theorem State.at_nonces (s : State τ) (now : Nat) :
    (s.at now).nonces = s.nonces := rfl

@[simp] theorem State.at_rentals (s : State τ) (now : Nat) :
    (s.at now).rentals = s.rentals := rfl

@[simp] theorem State.at_rentalCount (s : State τ) (now : Nat) :
    (s.at now).rentalCount = s.rentalCount := rfl

@[simp] theorem State.at_platformFeeBps (s : State τ) (now : Nat) :
    (s.at now).platformFeeBps = s.platformFeeBps := rfl

@[simp] theorem State.at_feeRecipient (s : State τ) (now : Nat) :
    (s.at now).feeRecipient = s.feeRecipient := rfl

@[simp] theorem State.at_owner (s : State τ) (now : Nat) :
    (s.at now).owner = s.owner := rfl

@[simp] theorem State.at_log (s : State τ) (now : Nat) :
    (s.at now).log = s.log := rfl

inductive Action (τ : Type) where
  | tx (tx : Tx)
  | token (next : τ)

/--
One step of the chain as the vault sees it.  Time does not run backwards, and a
reverting call leaves only the time behind.
-/
def step (s : State τ) : Action τ → Option (State τ)
  | .tx tx =>
      if s.timestamp ≤ tx.timestamp then
        match execute V (s.at tx.timestamp) tx.sender tx.call with
        | .ok s' => some s'
        | .error _ => some (s.at tx.timestamp)
      else none
  | .token next => some { s with token := next }

end Transactions

/-! ## A vault over the OpenZeppelin token -/

/-- The only signature in circulation is that of key 2 under one payment. -/
def sampleVault : GPUVault ERC20 where
  self := 100
  self_ne_zero := by decide
  paymentToken := ERC20.paymentToken
  Digest := TypedData
  hashTypedDataV4 := id
  recover := fun digest signature =>
    if digest = paymentData 1 92 7 "job-2" 0 100 ∧ signature = [27] then some 2
    else none

def sampleToken : ERC20 :=
  (ERC20.empty.minted 1 1000 (by decide)).approved 1 100 1000

def sampleState : State ERC20 := deployed sampleToken 90 91 0

end WorldlandBroker.Vault
