import WorldlandBroker.Vault.Contract

/-!
# What a step of the vault can do

One specification lemma for each external function, and from them the inversion
of `step`: every transition is an `Effect`, with the checks it passed and the
storage it left.  The invariants of the vault are proved by cases on `Effect`
and never unfold the functions again.
-/

namespace WorldlandBroker.Vault

open Foundation

variable {τ : Type}

def State.accrued (s : State τ) (rentalId : Nat) : Nat :=
  (s.timestamp - (s.rentals rentalId).startTime) *
    (s.rentals rentalId).pricePerSecond

def State.fee (s : State τ) (cost : Nat) : Nat :=
  cost * s.platformFeeBps / 10000

def feeTransfer (recipient : Address) (fee : Nat) : List Event :=
  if 0 < fee then [.transfer recipient fee] else []

def feePaid (V : GPUVault τ) (token : τ) (recipient : Address) (fee : Nat) :
    Option τ :=
  if 0 < fee then V.paymentToken.transfer token V.self recipient fee
  else some token

def State.settled (s : State τ) (rentalId : Nat) (token : τ) : State τ :=
  let rental := s.rentals rentalId
  let cost := s.accrued rentalId
  let fee := s.fee cost
  { s with
    token := token
    deposits := Function.update s.deposits rental.renter
      (s.deposits rental.renter - cost)
    rentals := Function.update s.rentals rentalId
      { rental with isActive := false }
    log := s.log ++ .transfer rental.provider (cost - fee) ::
      feeTransfer s.feeRecipient fee ++ [.rentalEnded rentalId cost fee] }

structure Settles (V : GPUVault τ) (s : State τ) (rentalId : Nat) (token : τ) :
    Prop where
  positive : 0 < s.accrued rentalId
  covered : s.accrued rentalId ≤ s.deposits (s.rentals rentalId).renter
  scaled_lt : s.accrued rentalId * s.platformFeeBps < wordSize
  fee_le : s.fee (s.accrued rentalId) ≤ s.accrued rentalId
  paid : ∃ paid, V.paymentToken.transfer s.token V.self
      (s.rentals rentalId).provider
      (s.accrued rentalId - s.fee (s.accrued rentalId)) = some paid ∧
    feePaid V paid s.feeRecipient (s.fee (s.accrued rentalId)) = some token

/--
`Done V s sender call s'`: in the block of `s`, `call` sent by `sender`
succeeds and leaves `s'`.
-/
inductive Done (V : GPUVault τ) (s : State τ) (sender : Address) :
    Call → State τ → Prop where
  | deposit {amount : Nat} {token : τ} (hamount : amount ≠ 0)
      (htoken : V.paymentToken.transferFrom s.token V.self sender V.self amount =
        some token)
      (hfits : s.deposits sender + amount < wordSize) :
      Done V s sender (.deposit amount)
        { s with
          token := token
          deposits := Function.update s.deposits sender
            (s.deposits sender + amount)
          log := s.log ++ [.transferFrom sender amount,
            .deposited sender amount] }
  | withdraw {amount : Nat} {token : τ} (hamount : amount ≠ 0)
      (hcovered : amount ≤ s.deposits sender)
      (htoken : V.paymentToken.transfer s.token V.self sender amount =
        some token) :
      Done V s sender (.withdraw amount)
        { s with
          token := token
          deposits := Function.update s.deposits sender
            (s.deposits sender - amount)
          log := s.log ++ [.transfer sender amount, .withdrawn sender amount] }
  | registerSessionKey {sessionKey : Address} {spendLimit duration : Nat}
      (hkey : sessionKey ≠ 0) (hlimit : 0 < spendLimit)
      (hduration : 0 < duration ∧ duration ≤ maxDuration)
      (hfits : s.timestamp + duration < wordSize) :
      Done V s sender (.registerSessionKey sessionKey spendLimit duration)
        ((s.recordSessionKey sender sessionKey spendLimit
          (s.timestamp + duration)).emit
          (.sessionKeyRegistered sender sessionKey spendLimit
            (s.timestamp + duration)))
  | registerSessionKeyWithSignature {mainWallet sessionKey : Address}
      {spendLimit expiry : Nat} {signature : Bytes}
      (hkey : sessionKey ≠ 0) (hexpiry : s.timestamp < expiry)
      (hnonce : s.nonces mainWallet + 1 < wordSize)
      (hsigner : V.recover (V.hashTypedDataV4 (registrationData mainWallet
        sessionKey spendLimit expiry (s.nonces mainWallet))) signature =
          some mainWallet) :
      Done V s sender (.registerSessionKeyWithSignature mainWallet sessionKey
        spendLimit expiry signature)
        ({ s.recordSessionKey mainWallet sessionKey spendLimit expiry with
          nonces := Function.update s.nonces mainWallet
            (s.nonces mainWallet + 1) }.emit
          (.sessionKeyRegistered mainWallet sessionKey spendLimit expiry))
  | revokeSessionKey {sessionKey : Address}
      (howner : (s.sessionKeys sessionKey).mainWallet = sender) :
      Done V s sender (.revokeSessionKey sessionKey)
        { s with
          sessionKeys := Function.update s.sessionKeys sessionKey
            { s.sessionKeys sessionKey with isActive := false }
          log := s.log ++ [.sessionKeyRevoked sender sessionKey] }
  | startRental {provider : Address} {pricePerSecond : Nat} {jobId : String}
      (hdeposit : 0 < s.deposits sender) (hprice : 0 < pricePerSecond)
      (hfits : s.rentalCount + 1 < wordSize) :
      Done V s sender (.startRental provider pricePerSecond jobId)
        { s with
          rentalCount := s.rentalCount + 1
          rentals := Function.update s.rentals s.rentalCount
            ⟨sender, provider, pricePerSecond, s.timestamp, true, jobId⟩
          log := s.log ++ [.rentalStarted s.rentalCount sender provider jobId
            pricePerSecond] }
  | startRentalWithSessionKey {sessionKey provider : Address}
      {pricePerSecond : Nat} {jobId : String}
      (hactive : (s.sessionKeys sessionKey).isActive = true)
      (hexpiry : s.timestamp ≤ (s.sessionKeys sessionKey).expiry)
      (hdeposit : 0 < s.deposits (s.sessionKeys sessionKey).mainWallet)
      (hfits : s.rentalCount + 1 < wordSize) :
      Done V s sender
        (.startRentalWithSessionKey sessionKey provider pricePerSecond jobId)
        { s with
          rentalCount := s.rentalCount + 1
          rentals := Function.update s.rentals s.rentalCount
            ⟨(s.sessionKeys sessionKey).mainWallet, provider, pricePerSecond,
              s.timestamp, true, jobId⟩
          log := s.log ++ [.rentalStarted s.rentalCount
            (s.sessionKeys sessionKey).mainWallet provider jobId
            pricePerSecond] }
  | endRentalFree {rentalId : Nat}
      (hactive : (s.rentals rentalId).isActive = true)
      (hstart : (s.rentals rentalId).startTime ≤ s.timestamp)
      (hfree : s.accrued rentalId = 0) :
      Done V s sender (.endRental rentalId) (s.closeRental rentalId)
  | endRentalPaid {rentalId : Nat} {token : τ}
      (hactive : (s.rentals rentalId).isActive = true)
      (hstart : (s.rentals rentalId).startTime ≤ s.timestamp)
      (hfits : s.accrued rentalId < wordSize)
      (hsettles : Settles V s rentalId token) :
      Done V s sender (.endRental rentalId) (s.settled rentalId token)
  | processPaymentWithSessionKey {sessionKey recipient : Address}
      {amount : Nat} {jobId : String} {deadline : Nat} {signature : Bytes}
      {token : τ} (hdeadline : s.timestamp ≤ deadline)
      (hactive : (s.sessionKeys sessionKey).isActive = true)
      (hexpiry : s.timestamp ≤ (s.sessionKeys sessionKey).expiry)
      (hfits : (s.sessionKeys sessionKey).spentAmount + amount < wordSize)
      (hlimit : (s.sessionKeys sessionKey).spentAmount + amount ≤
        (s.sessionKeys sessionKey).spendLimit)
      (hnonce : s.nonces sessionKey + 1 < wordSize)
      (hsigner : V.recover (V.hashTypedDataV4 (paymentData
        (s.sessionKeys sessionKey).mainWallet recipient amount jobId
        (s.nonces sessionKey) deadline)) signature = some sessionKey)
      (hcovered : amount ≤ s.deposits (s.sessionKeys sessionKey).mainWallet)
      (htoken : V.paymentToken.transfer s.token V.self recipient amount =
        some token) :
      Done V s sender (.processPaymentWithSessionKey sessionKey recipient
        amount jobId deadline signature)
        { s with
          token := token
          deposits := Function.update s.deposits
            (s.sessionKeys sessionKey).mainWallet
            (s.deposits (s.sessionKeys sessionKey).mainWallet - amount)
          sessionKeys := Function.update s.sessionKeys sessionKey
            { s.sessionKeys sessionKey with
              spentAmount := (s.sessionKeys sessionKey).spentAmount + amount }
          nonces := Function.update s.nonces sessionKey
            (s.nonces sessionKey + 1)
          log := s.log ++ [.transfer recipient amount,
            .paymentProcessed (s.sessionKeys sessionKey).mainWallet recipient
              amount jobId] }
  | setPlatformFee {newFeeBps : Nat} (howner : s.owner = sender)
      (hcap : newFeeBps ≤ 1000) :
      Done V s sender (.setPlatformFee newFeeBps)
        { s with platformFeeBps := newFeeBps }
  | setFeeRecipient {newRecipient : Address} (howner : s.owner = sender)
      (hrecipient : newRecipient ≠ 0) :
      Done V s sender (.setFeeRecipient newRecipient)
        { s with feeRecipient := newRecipient }
  | transferOwnership {newOwner : Address} (howner : s.owner = sender)
      (hnew : newOwner ≠ 0) :
      Done V s sender (.transferOwnership newOwner) (assignOwner s newOwner)
  | renounceOwnership (howner : s.owner = sender) :
      Done V s sender .renounceOwnership (assignOwner s 0)

inductive Effect (V : GPUVault τ) (s : State τ) :
    Action τ → State τ → Prop where
  | done {tx : Tx} {s' : State τ} (htime : s.timestamp ≤ tx.timestamp)
      (hok : execute V (s.at tx.timestamp) tx.sender tx.call = .ok s')
      (hdone : Done V (s.at tx.timestamp) tx.sender tx.call s') :
      Effect V s (.tx tx) s'
  | reverted {tx : Tx} {error : Revert} (htime : s.timestamp ≤ tx.timestamp)
      (herror : execute V (s.at tx.timestamp) tx.sender tx.call = .error error) :
      Effect V s (.tx tx) (s.at tx.timestamp)
  | token (next : τ) : Effect V s (.token next) { s with token := next }

def Call.administrative : Call → Prop
  | .setPlatformFee _ | .setFeeRecipient _ | .transferOwnership _
  | .renounceOwnership => True
  | _ => False

section Specifications

variable {V : GPUVault τ} {s s' : State τ}

theorem safeTransfer_eq_ok {recipient : Address} {amount : Nat} :
    safeTransfer V s recipient amount = .ok s' ↔
      ∃ token, V.paymentToken.transfer s.token V.self recipient amount =
          some token ∧
        s' = { s with
          token := token
          log := s.log ++ [.transfer recipient amount] } := by
  unfold safeTransfer
  cases V.paymentToken.transfer s.token V.self recipient amount with
  | none => simp
  | some token => simp [eq_comm]

theorem safeTransferFrom_eq_ok {owner : Address} {amount : Nat} :
    safeTransferFrom V s owner amount = .ok s' ↔
      ∃ token, V.paymentToken.transferFrom s.token V.self owner V.self amount =
          some token ∧
        s' = { s with
          token := token
          log := s.log ++ [.transferFrom owner amount] } := by
  unfold safeTransferFrom
  cases V.paymentToken.transferFrom s.token V.self owner V.self amount with
  | none => simp
  | some token => simp [eq_comm]

theorem recoverSigner_eq_ok {data : TypedData} {signature : Bytes}
    {signer : Address} :
    recoverSigner V data signature = .ok signer ↔
      V.recover (V.hashTypedDataV4 data) signature = some signer := by
  unfold recoverSigner
  cases V.recover (V.hashTypedDataV4 data) signature with
  | none => simp
  | some signer' => simp

theorem debit_eq_ok {account : Address} {amount : Nat} :
    s.debit account amount = .ok s' ↔
      amount ≤ s.deposits account ∧
        s' = { s with
          deposits := Function.update s.deposits account
            (s.deposits account - amount) } := by
  simp only [State.debit, bind_eq_ok, checkedSub_eq_ok, pure_eq_ok]
  constructor
  · rintro ⟨_, ⟨hle, rfl⟩, rfl⟩
    exact ⟨hle, rfl⟩
  · rintro ⟨hle, rfl⟩
    exact ⟨_, ⟨hle, rfl⟩, rfl⟩

theorem credit_eq_ok {account : Address} {amount : Nat} :
    s.credit account amount = .ok s' ↔
      s.deposits account + amount < wordSize ∧
        s' = { s with
          deposits := Function.update s.deposits account
            (s.deposits account + amount) } := by
  simp only [State.credit, bind_eq_ok, checkedAdd_eq_ok, pure_eq_ok]
  constructor
  · rintro ⟨_, ⟨hlt, rfl⟩, rfl⟩
    exact ⟨hlt, rfl⟩
  · rintro ⟨hlt, rfl⟩
    exact ⟨_, ⟨hlt, rfl⟩, rfl⟩

theorem useNonce_eq_ok {account : Address} {used : Nat × State τ} :
    s.useNonce account = .ok used ↔
      s.nonces account + 1 < wordSize ∧
        used = (s.nonces account,
          { s with
            nonces := Function.update s.nonces account
              (s.nonces account + 1) }) := by
  simp only [State.useNonce, bind_eq_ok, checkedAdd_eq_ok, pure_eq_ok]
  constructor
  · rintro ⟨_, ⟨hlt, rfl⟩, rfl⟩
    exact ⟨hlt, rfl⟩
  · rintro ⟨hlt, rfl⟩
    exact ⟨_, ⟨hlt, rfl⟩, rfl⟩

theorem openRental_eq_ok {renter provider : Address} {pricePerSecond : Nat}
    {jobId : String} :
    s.openRental renter provider pricePerSecond jobId = .ok s' ↔
      s.rentalCount + 1 < wordSize ∧
        s' = { s with
          rentalCount := s.rentalCount + 1
          rentals := Function.update s.rentals s.rentalCount
            ⟨renter, provider, pricePerSecond, s.timestamp, true, jobId⟩ } := by
  simp only [State.openRental, bind_eq_ok, checkedAdd_eq_ok, pure_eq_ok]
  constructor
  · rintro ⟨_, ⟨hlt, rfl⟩, rfl⟩
    exact ⟨hlt, rfl⟩
  · rintro ⟨hlt, rfl⟩
    exact ⟨_, ⟨hlt, rfl⟩, rfl⟩

theorem deposit_eq_ok {sender : Address} {amount : Nat}
    (h : deposit V s sender amount = .ok s') :
    Done V s sender (.deposit amount) s' := by
  simp only [deposit, bind_eq_ok, ensure_eq_ok, safeTransferFrom_eq_ok,
    credit_eq_ok, pure_eq_ok] at h
  obtain ⟨_, hamount, _, ⟨token, htoken, rfl⟩, _, ⟨hfits, rfl⟩, rfl⟩ := h
  simpa [State.emit] using Done.deposit hamount htoken hfits

theorem withdraw_eq_ok {sender : Address} {amount : Nat}
    (h : withdraw V s sender amount = .ok s') :
    Done V s sender (.withdraw amount) s' := by
  simp only [withdraw, bind_eq_ok, ensure_eq_ok, debit_eq_ok,
    safeTransfer_eq_ok, pure_eq_ok] at h
  obtain ⟨_, hamount, _, hcovered, _, ⟨-, rfl⟩, _, ⟨token, htoken, rfl⟩, rfl⟩ := h
  simpa [State.emit] using Done.withdraw hamount hcovered htoken

theorem registerSessionKey_eq_ok {sender sessionKey : Address}
    {spendLimit duration : Nat}
    (h : registerSessionKey s sender sessionKey spendLimit duration = .ok s') :
    Done V s sender (.registerSessionKey sessionKey spendLimit duration) s' := by
  simp only [registerSessionKey, bind_eq_ok, ensure_eq_ok, checkedAdd_eq_ok,
    pure_eq_ok] at h
  obtain ⟨_, hkey, _, hlimit, _, hduration, _, ⟨hfits, rfl⟩, rfl⟩ := h
  exact Done.registerSessionKey hkey hlimit hduration hfits

theorem registerSessionKeyWithSignature_eq_ok
    {sender mainWallet sessionKey : Address} {spendLimit expiry : Nat}
    {signature : Bytes}
    (h : registerSessionKeyWithSignature V s mainWallet sessionKey spendLimit
      expiry signature = .ok s') :
    Done V s sender (.registerSessionKeyWithSignature mainWallet sessionKey
      spendLimit expiry signature) s' := by
  simp only [registerSessionKeyWithSignature, bind_eq_ok, ensure_eq_ok,
    useNonce_eq_ok, recoverSigner_eq_ok, pure_eq_ok] at h
  obtain ⟨_, hkey, _, hexpiry, _, ⟨hnonce, rfl⟩, _, hsigner, _, rfl, rfl⟩ := h
  exact Done.registerSessionKeyWithSignature hkey hexpiry hnonce hsigner

theorem revokeSessionKey_eq_ok {sender sessionKey : Address}
    (h : revokeSessionKey s sender sessionKey = .ok s') :
    Done V s sender (.revokeSessionKey sessionKey) s' := by
  simp only [revokeSessionKey, bind_eq_ok, ensure_eq_ok, pure_eq_ok] at h
  obtain ⟨_, howner, rfl⟩ := h
  exact Done.revokeSessionKey howner

theorem startRental_eq_ok {sender provider : Address} {pricePerSecond : Nat}
    {jobId : String}
    (h : startRental s sender provider pricePerSecond jobId = .ok s') :
    Done V s sender (.startRental provider pricePerSecond jobId) s' := by
  simp only [startRental, bind_eq_ok, ensure_eq_ok, openRental_eq_ok,
    pure_eq_ok] at h
  obtain ⟨_, hdeposit, _, hprice, _, ⟨hfits, rfl⟩, rfl⟩ := h
  exact Done.startRental hdeposit hprice hfits

theorem startRentalWithSessionKey_eq_ok {sender sessionKey provider : Address}
    {pricePerSecond : Nat} {jobId : String}
    (h : startRentalWithSessionKey s sessionKey provider pricePerSecond jobId =
      .ok s') :
    Done V s sender (.startRentalWithSessionKey sessionKey provider
      pricePerSecond jobId) s' := by
  simp only [startRentalWithSessionKey, bind_eq_ok, ensure_eq_ok,
    openRental_eq_ok, pure_eq_ok] at h
  obtain ⟨_, hactive, _, hexpiry, _, hdeposit, _, ⟨hfits, rfl⟩, rfl⟩ := h
  exact Done.startRentalWithSessionKey hactive hexpiry hdeposit hfits

theorem payFee_eq_ok {fee : Nat} :
    payFee V s fee = .ok s' ↔
      ∃ token, feePaid V s.token s.feeRecipient fee = some token ∧
        s' = { s with
          token := token
          log := s.log ++ feeTransfer s.feeRecipient fee } := by
  unfold payFee feePaid feeTransfer
  split
  · exact safeTransfer_eq_ok
  · constructor
    · rintro ⟨⟩
      exact ⟨s.token, rfl, by simp⟩
    · rintro ⟨_, ⟨⟩, rfl⟩
      simp

theorem settle_eq_ok {rentalId : Nat}
    (hpositive : 0 < s.accrued rentalId) :
    settle V s rentalId (s.rentals rentalId) (s.accrued rentalId) = .ok s' ↔
      ∃ token, Settles V s rentalId token ∧
        s' = { s.settled rentalId token with rentals := s.rentals } := by
  simp only [settle, if_pos hpositive, bind_eq_ok, ensure_eq_ok,
    checkedSub_eq_ok, checkedMul_eq_ok, debit_eq_ok, safeTransfer_eq_ok,
    payFee_eq_ok, pure_eq_ok]
  constructor
  · rintro ⟨_, hcovered, _, ⟨hscaled, rfl⟩, _, ⟨hfee, rfl⟩, _, ⟨-, rfl⟩, _,
      ⟨paid, hpaid, rfl⟩, _, ⟨token, htoken, rfl⟩, rfl⟩
    refine ⟨token, ⟨hpositive, hcovered, hscaled, hfee, paid, hpaid, htoken⟩, ?_⟩
    simp [State.emit, State.settled, State.fee]
  · rintro ⟨token, ⟨-, hcovered, hscaled, hfee, paid, hpaid, htoken⟩, rfl⟩
    refine ⟨(), hcovered, _, ⟨hscaled, rfl⟩, _, ⟨hfee, rfl⟩, _,
      ⟨hcovered, rfl⟩, _, ⟨paid, hpaid, rfl⟩, _, ⟨token, htoken, rfl⟩, ?_⟩
    simp [State.emit, State.settled, State.fee]

theorem endRental_eq_ok {rentalId : Nat} :
    endRental V s rentalId = .ok s' ↔
      (s.rentals rentalId).isActive = true ∧
      (s.rentals rentalId).startTime ≤ s.timestamp ∧
      s.accrued rentalId < wordSize ∧
      (s.accrued rentalId = 0 ∧ s' = s.closeRental rentalId ∨
        ∃ token, Settles V s rentalId token ∧ s' = s.settled rentalId token) := by
  simp only [endRental, bind_eq_ok, ensure_eq_ok, checkedSub_eq_ok,
    checkedMul_eq_ok, pure_eq_ok]
  constructor
  · rintro ⟨_, hactive, _, ⟨hstart, rfl⟩, _, ⟨hfits, rfl⟩, closed, hsettle, rfl⟩
    refine ⟨hactive, hstart, hfits, ?_⟩
    rcases Nat.eq_zero_or_pos (s.accrued rentalId) with hfree | hpositive
    · change settle V s rentalId _ (s.accrued rentalId) = _ at hsettle
      rw [hfree, settle, if_neg (lt_irrefl 0)] at hsettle
      cases hsettle
      exact .inl ⟨hfree, rfl⟩
    · obtain ⟨token, hsettles, rfl⟩ := (settle_eq_ok hpositive).mp hsettle
      exact .inr ⟨token, hsettles, rfl⟩
  · rintro ⟨hactive, hstart, hfits, hsettled⟩
    refine ⟨(), hactive, _, ⟨hstart, rfl⟩, _, ⟨hfits, rfl⟩, ?_⟩
    rcases hsettled with ⟨hfree, rfl⟩ | ⟨token, hsettles, rfl⟩
    · refine ⟨s, ?_, rfl⟩
      change settle V s rentalId _ (s.accrued rentalId) = _
      rw [hfree, settle, if_neg (lt_irrefl 0)]
    · exact ⟨_, (settle_eq_ok hsettles.positive).mpr ⟨token, hsettles, rfl⟩, rfl⟩

theorem processPaymentWithSessionKey_eq_ok
    {sender sessionKey recipient : Address} {amount : Nat} {jobId : String}
    {deadline : Nat} {signature : Bytes}
    (h : processPaymentWithSessionKey V s sessionKey recipient amount jobId
      deadline signature = .ok s') :
    Done V s sender (.processPaymentWithSessionKey sessionKey recipient amount
      jobId deadline signature) s' := by
  simp only [processPaymentWithSessionKey, bind_eq_ok, ensure_eq_ok,
    checkedAdd_eq_ok, useNonce_eq_ok, recoverSigner_eq_ok, debit_eq_ok,
    safeTransfer_eq_ok, pure_eq_ok] at h
  obtain ⟨_, hdeadline, _, hactive, _, hexpiry, _, ⟨hfits, rfl⟩, _, hlimit, _,
    ⟨hnonce, rfl⟩, _, hsigner, _, rfl, _, hcovered, _, ⟨-, rfl⟩, _,
    ⟨token, htoken, rfl⟩, rfl⟩ := h
  simpa [State.emit] using Done.processPaymentWithSessionKey hdeadline hactive
    hexpiry hfits hlimit hnonce hsigner hcovered htoken

theorem administer_eq_ok {sender : Address} {call : Call}
    (h : execute V s sender call = .ok s') (hcall : call.administrative) :
    Done V s sender call s' := by
  cases call with
  | setPlatformFee newFeeBps =>
      simp only [execute, setPlatformFee, onlyOwner, bind_eq_ok, ensure_eq_ok,
        pure_eq_ok] at h
      obtain ⟨_, howner, _, hcap, rfl⟩ := h
      exact .setPlatformFee howner hcap
  | setFeeRecipient newRecipient =>
      simp only [execute, setFeeRecipient, onlyOwner, bind_eq_ok, ensure_eq_ok,
        pure_eq_ok] at h
      obtain ⟨_, howner, _, hrecipient, rfl⟩ := h
      exact .setFeeRecipient howner hrecipient
  | transferOwnership newOwner =>
      simp only [execute, transferOwnership, onlyOwner, bind_eq_ok,
        ensure_eq_ok, pure_eq_ok] at h
      obtain ⟨_, howner, _, hnew, rfl⟩ := h
      exact .transferOwnership howner hnew
  | renounceOwnership =>
      simp only [execute, renounceOwnership, onlyOwner, bind_eq_ok,
        ensure_eq_ok, pure_eq_ok] at h
      obtain ⟨_, howner, rfl⟩ := h
      exact .renounceOwnership howner
  | _ => simp [Call.administrative] at hcall

theorem execute_eq_ok {sender : Address} {call : Call}
    (h : execute V s sender call = .ok s') : Done V s sender call s' := by
  cases call with
  | deposit => exact deposit_eq_ok h
  | withdraw => exact withdraw_eq_ok h
  | registerSessionKey => exact registerSessionKey_eq_ok h
  | registerSessionKeyWithSignature =>
      exact registerSessionKeyWithSignature_eq_ok h
  | revokeSessionKey => exact revokeSessionKey_eq_ok h
  | startRental => exact startRental_eq_ok h
  | startRentalWithSessionKey => exact startRentalWithSessionKey_eq_ok h
  | endRental rentalId =>
      obtain ⟨hactive, hstart, hfits, ⟨hfree, rfl⟩ | ⟨token, hsettles, rfl⟩⟩ :=
        endRental_eq_ok.mp h
      · exact .endRentalFree hactive hstart hfree
      · exact .endRentalPaid hactive hstart hfits hsettles
  | processPaymentWithSessionKey =>
      exact processPaymentWithSessionKey_eq_ok h
  | setPlatformFee => exact administer_eq_ok h trivial
  | setFeeRecipient => exact administer_eq_ok h trivial
  | transferOwnership => exact administer_eq_ok h trivial
  | renounceOwnership => exact administer_eq_ok h trivial

theorem step_effect {a : Action τ} (h : step V s a = some s') :
    Effect V s a s' := by
  cases a with
  | token next =>
      obtain rfl := Option.some.inj h
      exact .token next
  | tx tx =>
      simp only [step] at h
      split at h
      · rename_i htime
        split at h
        · rename_i hexecute
          obtain rfl := Option.some.inj h
          exact .done htime hexecute (execute_eq_ok hexecute)
        · rename_i error hexecute
          obtain rfl := Option.some.inj h
          exact .reverted htime hexecute
      · contradiction

end Specifications

end WorldlandBroker.Vault
