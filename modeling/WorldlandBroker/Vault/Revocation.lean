import WorldlandBroker.Vault.KeyRecords

/-!
# After revocation and after expiry

A key that its wallet has revoked, or whose time has run out, no longer reaches
the wallet's deposit: not by a payment, and not by a rental opened from then
on, whenever that rental is ended.  Other accounts may register the key for
themselves meanwhile; only the wallet or its signature brings it back.
-/

namespace WorldlandBroker.Vault

open Foundation

variable {τ : Type}

/--
By `now` the wallet has revoked the key, or the time of its last registration
has passed, and the wallet has not registered it again since.
-/
inductive Ended (V : GPUVault τ) (wallet sessionKey : Address)
    (past : List (VaultStep τ)) (now : Nat) : Prop where
  | revoked (before after : List (VaultStep τ)) (r : VaultStep τ) (tx : Tx)
      (hsplit : past = before ++ r :: after) (hok : Succeeds V r tx)
      (hsender : tx.sender = wallet)
      (hcall : tx.call = .revokeSessionKey sessionKey)
      (hlater : ∀ r' ∈ after, ∀ limit, ¬ Registers V r' wallet sessionKey limit)
  | expired (before after : List (VaultStep τ)) (r : VaultStep τ) (limit : Nat)
      (hsplit : past = before ++ r :: after)
      (hregisters : Registers V r wallet sessionKey limit)
      (hexpiry : (r.post.sessionKeys sessionKey).expiry < now)
      (hlater : ∀ r' ∈ after, ∀ limit, ¬ Registers V r' wallet sessionKey limit)

def Powerless (wallet : Address) (now : Nat) (key : SessionKey) : Prop :=
  key.mainWallet = wallet → key.isActive = false ∨ key.expiry < now

variable {V : GPUVault τ} {wallet sessionKey : Address} {now : Nat}
  {r r' : VaultStep τ} {s s' : State τ} {past before before' : List (VaultStep τ)}

private theorem powerless_step (h : step V r.pre r.act = some r.post)
    (hnot : ∀ limit, ¬ Registers V r wallet sessionKey limit)
    (hpowerless : Powerless wallet now (r.pre.sessionKeys sessionKey)) :
    Powerless wallet now (r.post.sessionKeys sessionKey) := by
  cases keyChange h sessionKey with
  | kept hrecord =>
      rw [hrecord]
      exact hpowerless
  | registered owner limit expiry hregisters hrecord =>
      intro howner
      rw [hrecord] at howner
      change owner = wallet at howner
      subst howner
      exact absurd hregisters (hnot limit)
  | revoked tx hact hsender hrecord =>
      intro _
      rw [hrecord]
      exact .inl rfl
  | paid tx recipient amount jobId deadline signature hok hcall hsigned
      hrecord =>
      rw [hrecord]
      exact hpowerless

theorem Ended.powerless {guard : Guard (State τ) (Action τ)} {s₀ : State τ}
    (hrun : Run (step V) guard s₀ past s)
    (hended : Ended V wallet sessionKey past now) :
    Powerless wallet now (s.sessionKeys sessionKey) := by
  cases hended with
  | revoked before after r tx hsplit hok hsender hcall hlater =>
      subst hsplit
      apply hrun.since (I := fun s =>
        Powerless wallet now (s.sessionKeys sessionKey))
      · intro _
        obtain ⟨s, a, s'⟩ := r
        obtain ⟨caller, time, call⟩ := tx
        cases hcall
        have hdone : Done V (s.at time) caller _ s' := execute_eq_ok hok.ok
        cases hdone
        left
        simp
      · intro r' hr' h hpowerless
        exact powerless_step h (hlater r' hr') hpowerless
  | expired before after r limit hsplit hregisters hexpiry hlater =>
      subst hsplit
      apply hrun.since (I := fun s =>
        Powerless wallet now (s.sessionKeys sessionKey))
      · intro _
        exact .inr hexpiry
      · intro r' hr' h hpowerless
        exact powerless_step h (hlater r' hr') hpowerless

def Call.actsThrough (sessionKey : Address) : Call → Prop
  | .processPaymentWithSessionKey key _ _ _ _ _ => key = sessionKey
  | .startRentalWithSessionKey key _ _ _ => key = sessionKey
  | _ => False

theorem Done.not_powerless {sender : Address} {call : Call}
    (h : Done V s sender call s') (hthrough : call.actsThrough sessionKey) :
    ¬ Powerless (s.sessionKeys sessionKey).mainWallet s.timestamp
      (s.sessionKeys sessionKey) := by
  intro hpowerless
  cases h with
  | startRentalWithSessionKey hactive hexpiry =>
      cases hthrough
      rcases hpowerless rfl with hinactive | hexpired
      · rw [hactive] at hinactive
        contradiction
      · omega
  | processPaymentWithSessionKey hdeadline hactive hexpiry =>
      cases hthrough
      rcases hpowerless rfl with hinactive | hexpired
      · rw [hactive] at hinactive
        contradiction
      · omega
  | _ => exact hthrough

theorem Succeeds.owner_ne {tx : Tx} (hok : Succeeds V r tx)
    (hthrough : tx.call.actsThrough sessionKey)
    (hpowerless : Powerless wallet tx.timestamp (r.pre.sessionKeys sessionKey)) :
    (r.pre.sessionKeys sessionKey).mainWallet ≠ wallet := by
  intro howner
  subst howner
  exact (execute_eq_ok hok.ok).not_powerless hthrough hpowerless

/-! ## Rentals opened through the key -/

theorem renter_along {guard : Guard (State τ) (Action τ)} {s₀ : State τ}
    (hrun : Run (step V) guard s₀ past s) (hr : r ∈ past) {rentalId : Nat}
    {tx : Tx} {rental : Rental} (hissues : Issues V r rentalId tx rental) :
    (s.rentals rentalId).renter = rental.renter := by
  obtain ⟨before, after, rfl⟩ := List.append_of_mem hr
  have hkept : rentalId < s.rentalCount ∧
      rental.Continues (s.rentals rentalId) := by
    apply hrun.since (I := fun s => rentalId < s.rentalCount ∧
      rental.Continues (s.rentals rentalId))
    · obtain ⟨hcount, hrentals⟩ := hissues.post
      rw [hcount, hrentals, Function.update_self]
      exact ⟨Nat.lt_succ_self _, .refl _⟩
    · intro r' _ h hpre
      exact ⟨hpre.1.trans_le (rentalCount_le h),
        hpre.2.trans (rental_continues h hpre.1)⟩
  exact hkept.2.renter

private theorem payer_of_decrease (h : step V r.pre r.act = some r.post) {tx : Tx}
    (hact : r.act = .tx tx)
    (hless : r.post.deposits wallet < r.pre.deposits wallet) :
    Succeeds V r tx ∧ ∃ amount,
      tx.call.charge (r.pre.at tx.timestamp) tx.sender =
        some (wallet, amount) := by
  obtain ⟨tx', amount, hok, hcharge⟩ := charged_of_decrease h hless
  have htx := hok.act
  rw [hact] at htx
  cases htx
  exact ⟨hok, amount, hcharge⟩

variable {guard : Guard (State τ) (Action τ)} {token : τ}
  {deployer feeRecipient : Address} {timestamp : Nat}

private theorem payment_spares {s₀ : State τ} (hrun : Run (step V) guard s₀ past s)
    (hocc : OccursAfter past before r) {tx : Tx} (hact : r.act = .tx tx)
    (hended : Ended V wallet sessionKey before tx.timestamp)
    {recipient : Address} {amount : Nat} {jobId : String} {deadline : Nat}
    {signature : Bytes}
    (hcall : tx.call = .processPaymentWithSessionKey sessionKey recipient
      amount jobId deadline signature) :
    r.pre.deposits wallet ≤ r.post.deposits wallet := by
  obtain ⟨after, rfl⟩ := hocc
  obtain ⟨hbefore, -, h⟩ := hrun.of_split rfl
  by_contra hless
  obtain ⟨hok, charged, hcharge⟩ := payer_of_decrease h hact (not_le.mp hless)
  have howner := hok.owner_ne
    (show tx.call.actsThrough sessionKey by rw [hcall]; rfl) (hended.powerless hbefore)
  rw [hcall] at hcharge
  cases hcharge
  exact howner rfl

private theorem rental_spares {s₀ : State τ} (hrun : Run (step V) guard s₀ past s)
    (hocc : OccursAfter past before r) {rentalId : Nat} {tx : Tx}
    {rental : Rental} (hissues : Issues V r rentalId tx rental)
    (hended : Ended V wallet sessionKey before tx.timestamp)
    {provider : Address} {pricePerSecond : Nat} {jobId : String}
    (hcall : tx.call = .startRentalWithSessionKey sessionKey provider
      pricePerSecond jobId)
    (hocc' : OccursAfter past before' r') (hlater : r ∈ before') {tx' : Tx}
    (hact' : r'.act = .tx tx') (hcall' : tx'.call = .endRental rentalId) :
    r'.pre.deposits wallet ≤ r'.post.deposits wallet := by
  obtain ⟨after, hsplit⟩ := hocc
  obtain ⟨hbefore, -, -⟩ := hrun.of_split hsplit
  obtain ⟨after', hsplit'⟩ := hocc'
  obtain ⟨hbefore', -, h'⟩ := hrun.of_split hsplit'
  have howner := hissues.toSucceeds.owner_ne
    (show tx.call.actsThrough sessionKey by rw [hcall]; rfl) (hended.powerless hbefore)
  have hrenter : rental.renter = (r.pre.sessionKeys sessionKey).mainWallet := by
    have hrental := hissues.rental
    rw [hcall] at hrental
    cases hrental
    rfl
  by_contra hless
  obtain ⟨-, charged, hcharge⟩ :=
    payer_of_decrease h' hact' (not_le.mp hless)
  rw [hcall'] at hcharge
  cases hcharge
  apply howner
  rw [← hrenter, ← renter_along hbefore' hlater hissues]
  rfl

/--
Once the authority of a key for a wallet has ended, no payment with the key
takes from the wallet's deposit, and neither does a rental opened through the
key from then on, whenever it is ended.
-/
theorem ended_key_spares_deposit
    (hrun : Run (step V) guard (deployed token deployer feeRecipient timestamp)
      past s) (hocc : OccursAfter past before r) {tx : Tx}
    (hact : r.act = .tx tx)
    (hended : Ended V wallet sessionKey before tx.timestamp) :
    (∀ recipient amount jobId deadline signature,
      tx.call = .processPaymentWithSessionKey sessionKey recipient amount jobId
        deadline signature →
      r.pre.deposits wallet ≤ r.post.deposits wallet) ∧
    ∀ provider pricePerSecond jobId rentalId rental,
      tx.call = .startRentalWithSessionKey sessionKey provider pricePerSecond
        jobId → Issues V r rentalId tx rental →
      ∀ before' r' tx', OccursAfter past before' r' → r ∈ before' →
        r'.act = .tx tx' → tx'.call = .endRental rentalId →
        r'.pre.deposits wallet ≤ r'.post.deposits wallet := by
  constructor
  · intro recipient amount jobId deadline signature hcall
    exact payment_spares hrun hocc hact hended hcall
  · intro provider pricePerSecond jobId rentalId rental hcall hissues before' r'
      tx' hocc' hlater hact' hcall'
    exact rental_spares hrun hocc hissues hended hcall hocc' hlater hact' hcall'

/--
Account 1 revokes key 2, account 3 registers it for itself, and a rental opened
through the key is charged to account 3.
-/
theorem ended_key_spares_deposit_taken :
    ∃ r : VaultStep ERC20, r.act = .tx ⟨4, 40, .endRental 0⟩ ∧
      r.post.deposits 3 < r.pre.deposits 3 ∧
      r.pre.deposits 1 ≤ r.post.deposits 1 := by
  have hdeposit := (Run.nil : Run (step sampleVault) anyStep sampleState
    [] _).take (.tx ⟨1, 10, .deposit 1000⟩) trivial rfl
  have hkey := hdeposit.take (.tx ⟨1, 20, .registerSessionKey 2 10 3600⟩)
    trivial rfl
  have hrevoke := hkey.take (.tx ⟨1, 21, .revokeSessionKey 2⟩) trivial rfl
  have hmint := hrevoke.take
    (.token ((sampleToken.minted 3 500 (by decide)).approved 3 100 500))
    trivial rfl
  have hother := hmint.take (.tx ⟨3, 22, .deposit 500⟩) trivial rfl
  have htaken := hother.take (.tx ⟨3, 23, .registerSessionKey 2 10 3600⟩)
    trivial rfl
  have hopen := htaken.take
    (.tx ⟨4, 30, .startRentalWithSessionKey 2 92 5 "job-2"⟩) trivial rfl
  have hend := hopen.take (.tx ⟨4, 40, .endRental 0⟩) trivial rfl
  refine ⟨_, rfl, ?_, (ended_key_spares_deposit hend
    ((OccursAfter.last _ _).snoc _) rfl (?_ : Ended sampleVault 1 2 _ _)).2
    92 5 "job-2" 0 ⟨3, 92, 5, 30, true, "job-2"⟩ rfl ?_ _ _ _ (.last _ _)
    (List.mem_append_right _ (List.mem_singleton_self _)) rfl rfl⟩
  · decide
  · refine .revoked [_, _] [_, _, _] _ _ rfl (.of_isOk rfl ?_) rfl rfl ?_
    · decide
    · intro r hr limit hregisters
      have haction := hregisters.actionOf
      simp only [List.mem_cons, List.not_mem_nil, or_false] at hr
      rcases hr with rfl | rfl | rfl
      · cases haction
      · cases haction
      · cases haction
  · exact ⟨.of_isOk rfl (by decide), by decide, by decide⟩

end WorldlandBroker.Vault
