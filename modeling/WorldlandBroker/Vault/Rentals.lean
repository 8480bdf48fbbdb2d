import WorldlandBroker.Vault.Effect

/-!
# Charges, keys and rentals along a run

What a successful call takes from a deposit, which rental a start call creates,
which calls register a session key, and the book-keeping invariant behind every
statement about rentals: each issued id has one recorded start call, and its
record still carries what that call wrote.
-/

namespace WorldlandBroker.Vault

open Foundation

variable {τ : Type} {V : GPUVault τ} {s s' : State τ} {sender : Address}
  {call : Call}

abbrev VaultStep (τ : Type) := Transition (State τ) (Action τ)

/-- The wallet a call charges and the amount, should the call succeed. -/
def Call.charge (s : State τ) (sender : Address) : Call → Option (Address × Nat)
  | .withdraw amount => some (sender, amount)
  | .endRental rentalId =>
      some ((s.rentals rentalId).renter, s.accrued rentalId)
  | .processPaymentWithSessionKey sessionKey _ amount _ _ _ =>
      some ((s.sessionKeys sessionKey).mainWallet, amount)
  | _ => none

def Call.rental (s : State τ) (sender : Address) : Call → Option Rental
  | .startRental provider pricePerSecond jobId =>
      some ⟨sender, provider, pricePerSecond, s.timestamp, true, jobId⟩
  | .startRentalWithSessionKey sessionKey provider pricePerSecond jobId =>
      some ⟨(s.sessionKeys sessionKey).mainWallet, provider, pricePerSecond,
        s.timestamp, true, jobId⟩
  | _ => none

structure Succeeds (V : GPUVault τ) (r : VaultStep τ) (tx : Tx) : Prop where
  act : r.act = .tx tx
  ok : execute V (r.pre.at tx.timestamp) tx.sender tx.call = .ok r.post

theorem Succeeds.of_isOk {tx : Tx} (h : step V s (.tx tx) = some s')
    (hok : (execute V (s.at tx.timestamp) tx.sender tx.call).isOk = true) :
    Succeeds V ⟨s, .tx tx, s'⟩ tx := by
  refine ⟨rfl, ?_⟩
  simp only [step] at h
  split at h
  · cases hcall : execute V (s.at tx.timestamp) tx.sender tx.call with
    | error error =>
        rw [hcall] at hok
        contradiction
    | ok last =>
        rw [hcall] at h
        rw [Option.some.inj h]
  · contradiction

structure Issues (V : GPUVault τ) (r : VaultStep τ) (rentalId : Nat) (tx : Tx)
    (rental : Rental) : Prop extends Succeeds V r tx where
  rental : tx.call.rental (r.pre.at tx.timestamp) tx.sender = some rental
  id : r.pre.rentalCount = rentalId

inductive Registers (V : GPUVault τ) (r : VaultStep τ)
    (wallet sessionKey : Address) (spendLimit : Nat) : Prop where
  | direct (tx : Tx) (duration : Nat) (hok : Succeeds V r tx)
      (hsender : tx.sender = wallet)
      (hcall : tx.call = .registerSessionKey sessionKey spendLimit duration)
  | signed (tx : Tx) (expiry : Nat) (signature : Bytes)
      (hok : Succeeds V r tx)
      (hcall : tx.call = .registerSessionKeyWithSignature wallet sessionKey
        spendLimit expiry signature)
      (hsigned : V.recover (V.hashTypedDataV4 (registrationData wallet
        sessionKey spendLimit expiry (r.pre.nonces wallet))) signature =
          some wallet)

/-! ## Deposits -/

theorem Done.deposits_of_charge (h : Done V s sender call s') {wallet : Address}
    {amount : Nat} (hcharge : call.charge s sender = some (wallet, amount)) :
    amount ≤ s.deposits wallet ∧
      s'.deposits = Function.update s.deposits wallet
        (s.deposits wallet - amount) := by
  cases h with
  | withdraw hamount hcovered htoken =>
      cases hcharge
      exact ⟨hcovered, rfl⟩
  | endRentalFree hactive hstart hfree =>
      cases hcharge
      simp [hfree, State.closeRental]
  | endRentalPaid hactive hstart hfits hsettles =>
      cases hcharge
      exact ⟨hsettles.covered, rfl⟩
  | processPaymentWithSessionKey _ _ _ _ _ _ _ hcovered _ =>
      cases hcharge
      exact ⟨hcovered, rfl⟩
  | _ => simp [Call.charge] at hcharge

theorem Done.le_deposits_of_no_charge (h : Done V s sender call s')
    (hcharge : call.charge s sender = none) (wallet : Address) :
    s.deposits wallet ≤ s'.deposits wallet := by
  cases h with
  | deposit hamount htoken hfits =>
      by_cases hw : wallet = sender
      · subst hw
        simp
      · simp [hw]
  | withdraw | endRentalFree | endRentalPaid | processPaymentWithSessionKey =>
      simp [Call.charge] at hcharge
  | _ => exact le_rfl

theorem charged_of_decrease {r : VaultStep τ}
    (h : step V r.pre r.act = some r.post) {wallet : Address}
    (hless : r.post.deposits wallet < r.pre.deposits wallet) :
    ∃ tx amount, Succeeds V r tx ∧
      tx.call.charge (r.pre.at tx.timestamp) tx.sender =
        some (wallet, amount) := by
  obtain ⟨s, a, s'⟩ := r
  have heffect : Effect V s a s' := step_effect h
  cases heffect with
  | @done tx _ htime hok hdone =>
      cases hcharge : tx.call.charge (s.at tx.timestamp) tx.sender with
      | none =>
          have hle := hdone.le_deposits_of_no_charge hcharge wallet
          exact absurd hless (not_lt.mpr hle)
      | some charge =>
          obtain ⟨payer, amount⟩ := charge
          obtain ⟨-, hdeposits⟩ := hdone.deposits_of_charge hcharge
          have hpayer : wallet = payer := by
            by_contra hne
            change s'.deposits wallet < s.deposits wallet at hless
            rw [hdeposits, Function.update_of_ne hne] at hless
            exact absurd hless (lt_irrefl _)
          subst hpayer
          exact ⟨tx, amount, ⟨rfl, hok⟩, hcharge⟩
  | reverted => exact absurd hless (lt_irrefl _)
  | token => exact absurd hless (lt_irrefl _)

/-! ## Rentals -/

structure Rental.Continues (earlier later : Rental) : Prop where
  renter : later.renter = earlier.renter
  provider : later.provider = earlier.provider
  pricePerSecond : later.pricePerSecond = earlier.pricePerSecond
  startTime : later.startTime = earlier.startTime
  jobId : later.jobId = earlier.jobId
  ended : earlier.isActive = false → later.isActive = false

theorem Rental.Continues.refl (rental : Rental) : rental.Continues rental :=
  ⟨rfl, rfl, rfl, rfl, rfl, id⟩

theorem Rental.Continues.trans {a b c : Rental} (hab : a.Continues b)
    (hbc : b.Continues c) : a.Continues c :=
  ⟨hbc.renter.trans hab.renter, hbc.provider.trans hab.provider,
    hbc.pricePerSecond.trans hab.pricePerSecond,
    hbc.startTime.trans hab.startTime, hbc.jobId.trans hab.jobId,
    fun h => hbc.ended (hab.ended h)⟩

private theorem continues_close (rentals : Nat → Rental) (closedId rentalId : Nat) :
    (rentals rentalId).Continues (Function.update rentals closedId
      { rentals closedId with isActive := false } rentalId) := by
  by_cases hclosed : rentalId = closedId
  · subst hclosed
    rw [Function.update_self]
    exact ⟨rfl, rfl, rfl, rfl, rfl, fun _ => rfl⟩
  · rw [Function.update_of_ne hclosed]
    exact .refl _

theorem Issues.post {r : VaultStep τ} {rentalId : Nat} {tx : Tx}
    {rental : Rental} (h : Issues V r rentalId tx rental) :
    r.post.rentalCount = rentalId + 1 ∧
      r.post.rentals = Function.update r.pre.rentals rentalId rental := by
  obtain ⟨⟨hact, hok⟩, hrental, rfl⟩ := h
  obtain ⟨caller, now, call⟩ := tx
  obtain ⟨s, a, s'⟩ := r
  have hdone : Done V (s.at now) caller call s' := execute_eq_ok hok
  cases hdone with
  | startRental =>
      cases hrental
      exact ⟨rfl, rfl⟩
  | startRentalWithSessionKey =>
      cases hrental
      exact ⟨rfl, rfl⟩
  | _ => simp [Call.rental] at hrental

theorem Done.timestamp_eq (h : Done V s sender call s') :
    s'.timestamp = s.timestamp := by
  cases h <;> rfl

theorem Succeeds.timestamp_eq {r : VaultStep τ} {tx : Tx}
    (h : Succeeds V r tx) : r.post.timestamp = tx.timestamp :=
  (execute_eq_ok h.ok).timestamp_eq

theorem Issues.rental_fields {r : VaultStep τ} {rentalId : Nat} {tx : Tx}
    {rental : Rental} (h : Issues V r rentalId tx rental) :
    rental.isActive = true ∧ rental.startTime = tx.timestamp := by
  obtain ⟨caller, now, call⟩ := tx
  have hrental := h.rental
  cases call with
  | startRental =>
      cases hrental
      exact ⟨rfl, rfl⟩
  | startRentalWithSessionKey =>
      cases hrental
      exact ⟨rfl, rfl⟩
  | _ => simp [Call.rental] at hrental

theorem Done.isActive_of_endRental {rentalId : Nat}
    (h : Done V s sender (.endRental rentalId) s') :
    (s.rentals rentalId).isActive = true := by
  cases h <;> assumption

inductive RentalChange (V : GPUVault τ) (r : VaultStep τ) : Prop where
  | kept (hcount : r.post.rentalCount = r.pre.rentalCount)
      (hcontinues : ∀ rentalId, (r.pre.rentals rentalId).Continues
        (r.post.rentals rentalId))
  | opened (tx : Tx) (rental : Rental)
      (hissues : Issues V r r.pre.rentalCount tx rental)

theorem rentalChange {r : VaultStep τ} (h : step V r.pre r.act = some r.post) :
    RentalChange V r := by
  obtain ⟨s, a, s'⟩ := r
  have heffect : Effect V s a s' := step_effect h
  cases heffect with
  | token => exact .kept rfl fun _ => .refl _
  | reverted => exact .kept rfl fun _ => .refl _
  | @done tx _ htime hok hdone =>
      obtain ⟨caller, now, call⟩ := tx
      cases hdone with
      | startRental => exact .opened _ _ ⟨⟨rfl, hok⟩, rfl, rfl⟩
      | startRentalWithSessionKey => exact .opened _ _ ⟨⟨rfl, hok⟩, rfl, rfl⟩
      | endRentalFree => exact .kept rfl fun _ => continues_close _ _ _
      | endRentalPaid => exact .kept rfl fun _ => continues_close _ _ _
      | _ => exact .kept rfl fun _ => .refl _

private theorem timestamp_le {a : Action τ} (h : step V s a = some s') :
    s.timestamp ≤ s'.timestamp := by
  cases step_effect h with
  | token => exact le_rfl
  | reverted htime => exact htime
  | done htime _ hdone => exact htime.trans (le_of_eq hdone.timestamp_eq.symm)

theorem rentalCount_le {a : Action τ} (h : step V s a = some s') :
    s.rentalCount ≤ s'.rentalCount := by
  have hchange : RentalChange V ⟨s, a, s'⟩ := rentalChange h
  cases hchange with
  | kept hcount => exact le_of_eq hcount.symm
  | opened tx rental hissues => exact hissues.post.1 ▸ Nat.le_succ _

theorem rental_continues {a : Action τ} (h : step V s a = some s')
    {rentalId : Nat} (hid : rentalId < s.rentalCount) :
    (s.rentals rentalId).Continues (s'.rentals rentalId) := by
  have hchange : RentalChange V ⟨s, a, s'⟩ := rentalChange h
  cases hchange with
  | kept _ hcontinues => exact hcontinues rentalId
  | opened tx rental hissues =>
      have hrentals := hissues.post.2
      change s'.rentals = Function.update s.rentals s.rentalCount rental
        at hrentals
      rw [hrentals, Function.update_of_ne (by omega)]
      exact .refl _

/-! ## The rental book -/

structure RentalBook (V : GPUVault τ) (past : List (VaultStep τ))
    (s : State τ) : Prop where
  issued : ∀ rentalId < s.rentalCount, ∃ before r tx rental,
    OccursAfter past before r ∧ Issues V r rentalId tx rental ∧
      rental.Continues (s.rentals rentalId)
  fresh : ∀ rentalId, s.rentalCount ≤ rentalId →
    (s.rentals rentalId).isActive = false
  started : ∀ rentalId, (s.rentals rentalId).startTime ≤ s.timestamp

private theorem rentalBook_deployed (token : τ) (deployer feeRecipient : Address)
    (timestamp : Nat) :
    RentalBook V [] (deployed token deployer feeRecipient timestamp) where
  issued := fun rentalId h => absurd h (Nat.not_lt_zero rentalId)
  fresh := fun _ _ => rfl
  started := fun _ => Nat.zero_le _

theorem RentalBook.step {past : List (VaultStep τ)} {r : VaultStep τ}
    (hbook : RentalBook V past r.pre)
    (h : step V r.pre r.act = some r.post) :
    RentalBook V (past ++ [r]) r.post := by
  have hlater := timestamp_le h
  cases rentalChange h with
  | kept hcount hcontinues =>
      refine ⟨fun rentalId hid => ?_, fun rentalId hid => ?_, fun rentalId => ?_⟩
      · obtain ⟨before, r₀, tx, rental, hocc, hissues, hrental⟩ :=
          hbook.issued rentalId (hcount ▸ hid)
        exact ⟨before, r₀, tx, rental, hocc.snoc r, hissues,
          hrental.trans (hcontinues rentalId)⟩
      · exact (hcontinues rentalId).ended (hbook.fresh rentalId (hcount ▸ hid))
      · rw [(hcontinues rentalId).startTime]
        exact (hbook.started rentalId).trans hlater
  | opened tx rental hissues =>
      obtain ⟨hcount, hrentals⟩ := hissues.post
      have hnow : rental.startTime ≤ r.post.timestamp := by
        rw [hissues.rental_fields.2, hissues.timestamp_eq]
      have hother : ∀ rentalId, rentalId ≠ r.pre.rentalCount →
          r.post.rentals rentalId = r.pre.rentals rentalId := by
        intro rentalId hne
        rw [hrentals, Function.update_of_ne hne]
      refine ⟨fun rentalId hid => ?_, fun rentalId hid => ?_, fun rentalId => ?_⟩
      · by_cases hnew : rentalId = r.pre.rentalCount
        · subst hnew
          refine ⟨past, r, tx, rental, .last past r, hissues, ?_⟩
          rw [hrentals, Function.update_self]
          exact .refl _
        · obtain ⟨before, r₀, tx₀, rental₀, hocc, hissues₀, hrental⟩ :=
            hbook.issued rentalId (by omega)
          exact ⟨before, r₀, tx₀, rental₀, hocc.snoc r, hissues₀,
            hother rentalId hnew ▸ hrental⟩
      · rw [hother rentalId (by omega)]
        exact hbook.fresh rentalId (by omega)
      · by_cases hnew : rentalId = r.pre.rentalCount
        · rw [hnew, hrentals, Function.update_self]
          exact hnow
        · rw [hother rentalId hnew]
          exact (hbook.started rentalId).trans hlater

theorem rentalBook_run {guard : Guard (State τ) (Action τ)} {token : τ}
    {deployer feeRecipient : Address} {timestamp : Nat}
    {past : List (VaultStep τ)}
    (hrun : Run (step V) guard (deployed token deployer feeRecipient timestamp)
      past s) : RentalBook V past s :=
  hrun.invariant (rentalBook_deployed token deployer feeRecipient timestamp)
    fun _ _ _ _ _ hbook _ h => hbook.step h

end WorldlandBroker.Vault
