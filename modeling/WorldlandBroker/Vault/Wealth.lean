import WorldlandBroker.Foundation.Journal
import WorldlandBroker.Vault.Authorisation
import WorldlandBroker.Vault.KeyRecords
import WorldlandBroker.Vault.Solvency

/-!
# What an account is worth

An account's tokens and its deposit together.  The events of the vault, read with
the records of the rentals, are the whole journal of what changes it: deposits and
withdrawals move nothing, nor does any call about keys, fees or ownership.  A rental
locks no funds: until it ends its renter's deposit is the renter's own.
-/

namespace WorldlandBroker.Vault

open Foundation

variable {τ : Type} {V : GPUVault τ} {s s' : State τ} {account : Address}

def State.wealth (V : GPUVault τ) (s : State τ) (account : Address) : ℤ :=
  (V.paymentToken.balanceOf s.token account : ℤ) + s.deposits account

def Event.payments (s : State τ) : Event → List (Payment Address)
  | .rentalEnded rentalId totalCost platformFee =>
      [⟨(s.rentals rentalId).renter, (s.rentals rentalId).provider, totalCost - platformFee⟩,
        ⟨(s.rentals rentalId).renter, s.feeRecipient, platformFee⟩]
  | .paymentProcessed owner recipient amount _ => [⟨owner, recipient, amount⟩]
  | _ => []

def newEvents (r : VaultStep τ) : List Event := r.post.log.drop r.pre.log.length

def payments (r : VaultStep τ) : List (Payment Address) :=
  (newEvents r).flatMap (Event.payments r.pre)

def outsideGain (V : GPUVault τ) (account : Address) (r : VaultStep τ) : ℤ :=
  match r.act with
  | .token next =>
      (V.paymentToken.balanceOf next account : ℤ) - V.paymentToken.balanceOf r.pre.token account
  | .tx _ => 0

/-! ## One transfer -/

private theorem moveBalance_of_ne {balances : Address → Nat} {owner recipient : Address}
    {value : Nat}
    (hne : account ≠ owner) :
    moveBalance balances owner recipient value account =
      balances account + if recipient = account then value else 0 := by
  by_cases hto : recipient = account
  · subst hto
    rw [moveBalance_recipient hne, if_pos rfl]
  · have hother : account ≠ recipient := fun heq => hto heq.symm
    simp [moveBalance, hne, hother, hto]

section Transfers

variable (hT : StandardToken V.paymentToken) (hself : account ≠ V.self) {token token' : τ}
  {recipient : Address} {amount fee : Nat}

include hT hself

private theorem transfer_received
    (h : V.paymentToken.transfer token V.self recipient amount = some token') :
    V.paymentToken.balanceOf token' account =
      V.paymentToken.balanceOf token account + if recipient = account then amount else 0 := by
  obtain ⟨-, hbalance, -⟩ := hT.transfer_exact h
  rw [hbalance, moveBalance_of_ne hself]

private theorem feePaid_received (h : feePaid V token recipient fee = some token') :
    V.paymentToken.balanceOf token' account =
      V.paymentToken.balanceOf token account + if recipient = account then fee else 0 := by
  unfold feePaid at h
  split at h
  · exact transfer_received hT hself h
  · rename_i hfree
    obtain rfl := Option.some.inj h
    rw [Nat.eq_zero_of_not_pos hfree, ite_self, Nat.add_zero]

end Transfers

private theorem update_debit (account : Address) {deposits : Address → Nat} {owner : Address}
    {amount : Nat} (hle : amount ≤ deposits owner) :
    (Function.update deposits owner (deposits owner - amount) account : ℤ) =
      deposits account - if owner = account then (amount : ℤ) else 0 := by
  by_cases howner : owner = account
  · subst howner
    rw [Function.update_self, if_pos rfl]
    omega
  · rw [Function.update_of_ne (Ne.symm howner), if_neg howner, sub_zero]

/-! ## One call -/

private theorem payments_of_log {events : List Event} (hlog : s'.log = s.log ++ events)
    (a : Action τ) :
    payments ⟨s, a, s'⟩ = events.flatMap (Event.payments s) := by
  rw [payments, newEvents, hlog, List.drop_left]

private theorem wealth_of_log {events : List Event} (a : Action τ) (hlog : s'.log = s.log ++ events)
    (hworth : s'.wealth V account =
      s.wealth V account + gained (events.flatMap (Event.payments s)) account) :
    s'.wealth V account = s.wealth V account + gained (payments ⟨s, a, s'⟩) account := by
  rw [payments_of_log hlog]
  exact hworth

private theorem payments_of_same_log {r : VaultStep τ} (hlog : r.post.log = r.pre.log) :
    payments r = [] :=
  payments_of_log (hlog.trans (List.append_nil _).symm) r.act

private theorem wealth_of_same_log (a : Action τ) (hlog : s'.log = s.log)
    (hworth : s'.wealth V account = s.wealth V account) :
    s'.wealth V account = s.wealth V account + gained (payments ⟨s, a, s'⟩) account := by
  rw [payments_of_same_log hlog, gained_nil, add_zero]
  exact hworth

private theorem feeTransfer_payments (s : State τ) (recipient : Address) (fee : Nat) :
    (feeTransfer recipient fee).flatMap (Event.payments s) = [] := by
  unfold feeTransfer
  split <;> rfl

private theorem deposit_wealth (hT : StandardToken V.paymentToken) (hself : account ≠ V.self)
    {sender : Address} {amount : Nat} {token : τ}
    (h : V.paymentToken.transferFrom s.token V.self sender V.self amount = some token) :
    (V.paymentToken.balanceOf token account : ℤ) +
        Function.update s.deposits sender (s.deposits sender + amount) account =
      s.wealth V account := by
  obtain ⟨-, -, hvalue, hbalance, -⟩ := hT.transferFrom_exact h
  rw [hbalance, State.wealth]
  by_cases hsender : account = sender
  · subst hsender
    have hto : account ≠ V.self := hself
    simp only [moveBalance, Function.update_of_ne hto, Function.update_self]
    omega
  · rw [moveBalance_of_ne hsender, if_neg hself.symm, Nat.add_zero,
      Function.update_of_ne hsender]

theorem Settles.wealth (hT : StandardToken V.paymentToken) (hself : account ≠ V.self)
    {rentalId : Nat} {token : τ} (h : Settles V s rentalId token) :
    (s.settled rentalId token).wealth V account = s.wealth V account +
      gained (Event.payments s
        (.rentalEnded rentalId (s.accrued rentalId) (s.fee (s.accrued rentalId)))) account := by
  obtain ⟨paid, hprovider, hfee⟩ := h.paid
  have hreceived := transfer_received hT hself hprovider
  have hrecipient := feePaid_received hT hself hfee
  have hdebit := update_debit account h.covered
  have hshare := h.fee_le
  simp only [State.wealth, State.settled, Event.payments, gained_cons, gained_nil, Payment.gain,
    hrecipient, hreceived, hdebit]
  split_ifs <;> push_cast <;> omega

theorem Done.wealth (hT : StandardToken V.paymentToken) (hself : account ≠ V.self)
    {sender : Address} {call : Call} (h : Done V s sender call s') (a : Action τ) :
    s'.wealth V account = s.wealth V account + gained (payments ⟨s, a, s'⟩) account := by
  cases h with
  | deposit hamount htoken hfits =>
      refine wealth_of_log a rfl ?_
      exact (deposit_wealth hT hself htoken).trans (add_zero _).symm
  | withdraw hamount hcovered htoken =>
      have hreceived := transfer_received hT hself htoken
      have hdebit := update_debit account hcovered
      refine wealth_of_log a rfl ?_
      simp only [State.wealth, hreceived, hdebit, Event.payments, List.flatMap_cons,
        List.flatMap_nil, List.append_nil, gained_nil]
      split_ifs <;> push_cast <;> omega
  | endRentalFree => exact wealth_of_same_log a rfl rfl
  | @endRentalPaid rentalId token hactive hstart hfits hsettles =>
      have hlog : (s.settled rentalId token).log = s.log ++ _ :=
        List.append_assoc s.log _ _
      refine wealth_of_log a hlog ?_
      rw [hsettles.wealth hT hself]
      simp only [List.flatMap_cons, List.flatMap_append, List.cons_append, feeTransfer_payments]
      rfl
  | processPaymentWithSessionKey _ _ _ _ _ _ _ hcovered htoken =>
      have hreceived := transfer_received hT hself htoken
      have hdebit := update_debit account hcovered
      refine wealth_of_log a rfl ?_
      simp only [State.wealth, hreceived, hdebit, Event.payments, List.flatMap_cons,
        List.flatMap_nil, List.append_nil, List.nil_append, gained_cons, gained_nil, Payment.gain]
      split_ifs <;> push_cast <;> omega
  | setPlatformFee | setFeeRecipient => exact wealth_of_same_log a rfl rfl
  | _ => exact wealth_of_log a rfl (add_zero _).symm

inductive Charges (s : State τ) (account : Address) : Call → Prop where
  | ended {rentalId : Nat} (hrenter : (s.rentals rentalId).renter = account) :
      Charges s account (.endRental rentalId)
  | paid {sessionKey recipient : Address} {amount : Nat} {jobId : String} {deadline : Nat}
      {signature : Bytes} (howner : (s.sessionKeys sessionKey).mainWallet = account)
      (hactive : (s.sessionKeys sessionKey).isActive = true) :
      Charges s account
        (.processPaymentWithSessionKey sessionKey recipient amount jobId deadline signature)

theorem Done.charges {sender : Address} {call : Call} (h : Done V s sender call s')
    (a : Action τ) : ∀ p ∈ payments ⟨s, a, s'⟩, Charges s p.payer call := by
  intro p hp
  cases h with
  | endRentalFree | setPlatformFee | setFeeRecipient =>
      rw [payments_of_same_log rfl] at hp
      cases hp
  | @endRentalPaid rentalId token hactive hstart hfits hsettles =>
      have hlog : (s.settled rentalId token).log = s.log ++ _ :=
        List.append_assoc s.log _ _
      rw [payments_of_log hlog] at hp
      simp only [List.flatMap_cons, List.flatMap_append, List.cons_append,
        feeTransfer_payments, Event.payments, List.flatMap_nil, List.nil_append, List.append_nil,
        List.mem_cons, List.not_mem_nil, or_false] at hp
      rcases hp with rfl | rfl
      · exact .ended rfl
      · exact .ended rfl
  | processPaymentWithSessionKey _ hactive =>
      simp [payments, newEvents, Event.payments] at hp
      subst hp
      exact .paid rfl hactive
  | _ => simp [payments, newEvents, Event.payments, State.emit, State.recordSessionKey,
      assignOwner] at hp

private theorem step_wealth (hT : StandardToken V.paymentToken) (hself : account ≠ V.self)
    {a : Action τ} (h : step V s a = some s') :
    s'.wealth V account = s.wealth V account +
      (gained (payments ⟨s, a, s'⟩) account + outsideGain V account ⟨s, a, s'⟩) := by
  cases step_effect h with
  | @done tx _ htime hok hdone =>
      have hcall := hdone.wealth hT hself (.tx tx)
      exact hcall.trans (congrArg _ (add_zero _).symm)
  | @reverted tx _ htime herror =>
      rw [payments_of_same_log (show (s.at tx.timestamp).log = s.log from rfl)]
      exact (add_zero _).symm
  | token next =>
      have hnone : payments ⟨s, .token next, { s with token := next }⟩ = [] :=
        payments_of_same_log rfl
      simp only [State.wealth, outsideGain, hnone, gained_nil]
      omega

/-! ## Whole runs -/

/--
A step that the account pays for: the end of a rental in its name, or a payment that is
signed with a session key which an earlier call or signature of the account registered.
-/
inductive Spends (V : GPUVault τ) (before : List (VaultStep τ)) (account : Address)
    (r : VaultStep τ) : Prop where
  | ended (tx : Tx) (rentalId : Nat) (hok : Succeeds V r tx)
      (hcall : tx.call = .endRental rentalId)
      (hrenter : (r.pre.rentals rentalId).renter = account)
  | paid (tx : Tx) (sessionKey recipient : Address) (amount : Nat) (jobId : String)
      (deadline : Nat) (signature : Bytes) (hok : Succeeds V r tx)
      (hcall : tx.call =
        .processPaymentWithSessionKey sessionKey recipient amount jobId deadline signature)
      (hregistered : RegisteredBy V before sessionKey account)
      (hsigned : V.recover (V.hashTypedDataV4 (paymentData account recipient amount jobId
        (r.pre.nonces sessionKey) deadline)) signature = some sessionKey)

variable {guard : Guard (State τ) (Action τ)} {past before : List (VaultStep τ)}
  {r : VaultStep τ} {token : τ} {deployer feeRecipient : Address} {timestamp : Nat}

private theorem registeredBy_of_active
    (hrun : Run (step V) guard (deployed token deployer feeRecipient timestamp) past s)
    {sessionKey : Address} (hactive : (s.sessionKeys sessionKey).isActive = true) :
    RegisteredBy V past sessionKey (s.sessionKeys sessionKey).mainWallet := by
  refine hrun.invariant (I := fun past s => (s.sessionKeys sessionKey).isActive = true →
    RegisteredBy V past sessionKey (s.sessionKeys sessionKey).mainWallet) nofun ?_ hactive
  intro past s a s' _ ih _ hs hactive
  have hearlier : RegisteredBy V past sessionKey (s.sessionKeys sessionKey).mainWallet →
      RegisteredBy V (past ++ [⟨s, a, s'⟩]) sessionKey (s.sessionKeys sessionKey).mainWallet :=
    fun ⟨r, hr, hregisters⟩ => ⟨r, List.mem_append_left _ hr, hregisters⟩
  cases keyChange (r := ⟨s, a, s'⟩) hs sessionKey with
  | kept hrecord =>
      rw [hrecord] at hactive ⊢
      exact hearlier (ih hactive)
  | registered wallet spendLimit expiry hregisters hrecord =>
      rw [hrecord]
      exact ⟨_, List.mem_append_right _ (List.mem_singleton_self _), spendLimit, hregisters⟩
  | revoked tx hact hsender hrecord =>
      rw [hrecord] at hactive
      contradiction
  | paid tx recipient amount jobId deadline signature hok hcall hsigned hrecord =>
      rw [hrecord] at hactive ⊢
      exact hearlier (ih hactive)

private theorem spends_of_loss
    (hrun : Run (step V) guard (deployed token deployer feeRecipient timestamp) before r.pre)
    (h : step V r.pre r.act = some r.post) (hloss : gained (payments r) account < 0) :
    Spends V before account r := by
  obtain ⟨p, hp, rfl⟩ : ∃ p ∈ payments r, p.payer = account := by
    by_contra hnone
    push Not at hnone
    exact absurd (gained_nonneg hnone) (not_le.mpr hloss)
  obtain ⟨s, a, s'⟩ := r
  have heffect : Effect V s a s' := step_effect h
  cases heffect with
  | @done tx _ htime hok hdone =>
      obtain ⟨caller, now, call⟩ := tx
      have hcharges := hdone.charges (.tx ⟨caller, now, call⟩) p hp
      cases hcharges with
      | ended hrenter => exact .ended _ _ ⟨rfl, hok⟩ rfl hrenter
      | paid howner hactive =>
          have hregistered := registeredBy_of_active hrun hactive
          have hsigned := hdone.signed_of_payment
          rw [howner] at hsigned
          exact .paid _ _ _ _ _ _ _ ⟨rfl, hok⟩ rfl (howner ▸ hregistered) hsigned
  | @reverted tx htime herror =>
      rw [payments_of_same_log (show (s.at tx.timestamp).log = s.log from rfl)] at hp
      cases hp
  | token next =>
      have hlog : ({ s with token := next } : State τ).log = s.log := rfl
      rw [payments_of_same_log hlog] at hp
      cases hp

/--
Over every run of a deployed vault with a standard token, what any other account is worth
changes by what the token's other users move and by the payments in the vault's events.
No step takes from an account by them but one that ends a rental in its name or carries
out a payment signed with a session key that it registered.
-/
theorem wealth_journal (hT : StandardToken V.paymentToken)
    (hrun : Run (step V) guard (deployed token deployer feeRecipient timestamp) past s)
    (hself : account ≠ V.self) :
    s.wealth V account = V.paymentToken.balanceOf token account +
        gained (past.flatMap payments) account + (past.map (outsideGain V account)).sum ∧
      ∀ before r, OccursAfter past before r → gained (payments r) account < 0 →
        Spends V before account r := by
  constructor
  · have hsum := hrun.sum_change (fun s => s.wealth V account)
      (fun r => gained (payments r) account + outsideGain V account r)
      fun _ _ _ hs => step_wealth hT hself hs
    have hstart : (deployed token deployer feeRecipient timestamp).wealth V account =
        V.paymentToken.balanceOf token account := add_zero _
    rw [hsum, hstart, gained_flatMap, List.sum_map_add, add_assoc]
  · rintro before r ⟨after, hsplit⟩ hloss
    obtain ⟨hbefore, -, hstep⟩ := hrun.of_split hsplit
    exact spends_of_loss hbefore hstep hloss

/-- One settled rental: the provider has gained its share, the renter has lost the cost. -/
theorem wealth_journal_sample :
    ∃ (past before : List (VaultStep ERC20)) (r : VaultStep ERC20) (s : State ERC20),
      Run (step sampleVault) anyStep sampleState past s ∧ past.length = 3 ∧
      s.wealth sampleVault 92 = 48 ∧ s.wealth sampleVault 1 = 950 ∧
      OccursAfter past before r ∧ r.act = .tx ⟨92, 40, .endRental 0⟩ ∧
      Spends sampleVault before 1 r := by
  have hdeposit := (Run.nil : Run (step sampleVault) anyStep sampleState [] _).take
    (.tx ⟨1, 10, .deposit 1000⟩) trivial rfl
  have hopen := hdeposit.take (.tx ⟨1, 30, .startRental 92 5 "job-1"⟩) trivial rfl
  have hend := hopen.take (.tx ⟨92, 40, .endRental 0⟩) trivial rfl
  have hprovider := (wealth_journal ERC20.standard hend
    (show (92 : Address) ≠ sampleVault.self by decide)).1
  obtain ⟨hrenter, hspends⟩ := wealth_journal ERC20.standard hend
    (show (1 : Address) ≠ sampleVault.self by decide)
  exact ⟨_, _, _, _, hend, rfl, hprovider.trans (by decide +kernel),
    hrenter.trans (by decide +kernel), .last _ _, rfl,
    hspends _ _ (.last _ _) (by decide +kernel)⟩

end WorldlandBroker.Vault
