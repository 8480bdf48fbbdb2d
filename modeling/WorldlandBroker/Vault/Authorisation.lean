import WorldlandBroker.Vault.Rentals

/-!
# Who may charge a deposit

`startRentalWithSessionKey` asks for no signature and ignores its caller, so a
stranger can open rentals that `endRental` later charges to somebody else's
deposit.  When only holders of the wallet's key or of one of its session keys
make that call, every charge is authorised by the wallet.
-/

namespace WorldlandBroker.Vault

open Foundation

variable {τ : Type} (V : GPUVault τ)

def RegisteredBy (past : List (VaultStep τ)) (sessionKey wallet : Address) :
    Prop :=
  ∃ r ∈ past, ∃ spendLimit, Registers V r wallet sessionKey spendLimit

def ActsFor (past : List (VaultStep τ)) (account wallet : Address) : Prop :=
  account = wallet ∨ RegisteredBy V past account wallet

/-- The ways in which `wallet` can have agreed to the charge made by `r`. -/
inductive Authorised (past : List (VaultStep τ)) (wallet : Address)
    (r : VaultStep τ) : Prop where
  | withdrawal (tx : Tx) (amount : Nat) (hok : Succeeds V r tx)
      (hcall : tx.call = .withdraw amount) (hsender : tx.sender = wallet)
  | payment (tx : Tx) (sessionKey recipient : Address) (amount : Nat)
      (jobId : String) (deadline : Nat) (signature : Bytes)
      (hok : Succeeds V r tx)
      (hcall : tx.call = .processPaymentWithSessionKey sessionKey recipient
        amount jobId deadline signature)
      (hwallet : (r.pre.sessionKeys sessionKey).mainWallet = wallet)
      (hsigned : V.recover (V.hashTypedDataV4 (paymentData wallet recipient
        amount jobId (r.pre.nonces sessionKey) deadline)) signature =
          some sessionKey)
  | settlement (tx : Tx) (rentalId : Nat) (hok : Succeeds V r tx)
      (hcall : tx.call = .endRental rentalId)
      (hopened : ∃ before start opening rental,
        OccursAfter past before start ∧
        Issues V start rentalId opening rental ∧
        ActsFor V before opening.sender wallet)

/--
Whoever opens a rental through a session key of the wallet acts for the wallet.  The
contract does not check this.
-/
def openedByHolder (wallet : Address) : Guard (State τ) (Action τ) := fun past s a =>
  ∀ tx sessionKey provider pricePerSecond jobId, a = .tx tx →
    tx.call = .startRentalWithSessionKey sessionKey provider pricePerSecond
      jobId →
    (s.sessionKeys sessionKey).mainWallet = wallet →
    (execute V (s.at tx.timestamp) tx.sender tx.call).isOk = true →
    ActsFor V past tx.sender wallet

variable {V} {past before : List (VaultStep τ)} {s : State τ} {r : VaultStep τ}
  {wallet : Address}

theorem Done.signed_of_payment {s' : State τ} {sender : Address}
    {sessionKey recipient : Address} {amount : Nat} {jobId : String}
    {deadline : Nat} {signature : Bytes}
    (h : Done V s sender (.processPaymentWithSessionKey sessionKey recipient
      amount jobId deadline signature) s') :
    V.recover (V.hashTypedDataV4 (paymentData
      (s.sessionKeys sessionKey).mainWallet recipient amount jobId
      (s.nonces sessionKey) deadline)) signature = some sessionKey := by
  cases h
  assumption

private theorem opener_actsFor {rentalId : Nat} {tx : Tx} {rental : Rental}
    (hguard : openedByHolder V rental.renter before r.pre r.act)
    (hissues : Issues V r rentalId tx rental) :
    ActsFor V before tx.sender rental.renter := by
  obtain ⟨⟨hact, hok⟩, hrental, -⟩ := hissues
  obtain ⟨caller, now, call⟩ := tx
  cases call with
  | startRental =>
      cases hrental
      exact .inl rfl
  | startRentalWithSessionKey sessionKey provider pricePerSecond jobId =>
      cases hrental
      refine hguard _ _ _ _ _ hact rfl rfl ?_
      rw [hok]
      rfl
  | _ => simp [Call.rental] at hrental

private theorem opened_by_holder {s₀ : State τ} {rentalId : Nat}
    (hrun : Run (step V) (openedByHolder V (s.rentals rentalId).renter) s₀ past s)
    (hbook : RentalBook V past s) (hactive : (s.rentals rentalId).isActive = true) :
    ∃ before start opening rental, OccursAfter past before start ∧
      Issues V start rentalId opening rental ∧
      ActsFor V before opening.sender (s.rentals rentalId).renter := by
  have hid : rentalId < s.rentalCount := by
    by_contra hle
    have hfresh := hbook.fresh rentalId (by omega)
    rw [hactive] at hfresh
    contradiction
  obtain ⟨before, start, opening, rental, hocc, hissues, hcontinues⟩ :=
    hbook.issued rentalId hid
  obtain ⟨after, hsplit⟩ := hocc
  obtain ⟨-, hguard, -⟩ := hrun.of_split hsplit
  refine ⟨before, start, opening, rental, ⟨after, hsplit⟩, hissues, ?_⟩
  rw [hcontinues.renter] at hguard ⊢
  exact opener_actsFor hguard hissues

/--
In every run in which only holders open rentals through the session keys of a wallet,
each decrease of its deposit is authorised by it.
-/
theorem debits_authorised {token : τ} {deployer feeRecipient : Address}
    {timestamp : Nat}
    (hrun : Run (step V) (openedByHolder V wallet)
      (deployed token deployer feeRecipient timestamp) past s)
    (hocc : OccursAfter past before r)
    (hless : r.post.deposits wallet < r.pre.deposits wallet) :
    Authorised V before wallet r := by
  obtain ⟨after, hsplit⟩ := hocc
  obtain ⟨hbefore, -, hstep⟩ := hrun.of_split hsplit
  obtain ⟨tx, amount, hok, hcharge⟩ := charged_of_decrease hstep hless
  have hdone := execute_eq_ok hok.ok
  obtain ⟨caller, now, call⟩ := tx
  cases call with
  | withdraw amount =>
      cases hcharge
      exact .withdrawal _ amount hok rfl rfl
  | endRental rentalId =>
      cases hcharge
      have hopened := opened_by_holder (s := r.pre) hbefore
        (rentalBook_run hbefore) hdone.isActive_of_endRental
      exact .settlement _ rentalId hok rfl hopened
  | processPaymentWithSessionKey sessionKey recipient amount jobId deadline
      signature =>
      cases hcharge
      exact .payment _ sessionKey recipient amount jobId deadline signature hok
        rfl rfl hdone.signed_of_payment
  | _ => simp [Call.charge] at hcharge

/-- Key 2, registered by account 1, opens a rental that account 1 pays for. -/
theorem debits_authorised_key_holder :
    ∃ (past : List (VaultStep ERC20)) (r : VaultStep ERC20),
      r.act = .tx ⟨3, 40, .endRental 0⟩ ∧
      r.post.deposits 1 < r.pre.deposits 1 ∧ Authorised sampleVault past 1 r := by
  have hother : ∀ {past s} {tx : Tx}, (∀ sessionKey provider price jobId,
      tx.call ≠ .startRentalWithSessionKey sessionKey provider price jobId) →
      openedByHolder sampleVault 1 past s (.tx tx) := by
    intro past s tx hcall _ _ _ _ _ hact
    cases hact
    exact fun h => absurd h (hcall _ _ _ _)
  have hdeposit := (Run.nil : Run (step sampleVault)
    (openedByHolder sampleVault 1) sampleState [] _).take
    (.tx ⟨1, 10, .deposit 1000⟩) (hother nofun) rfl
  have hkey := hdeposit.take (.tx ⟨1, 20, .registerSessionKey 2 1000 3600⟩)
    (hother nofun) rfl
  have hopen := hkey.take
    (.tx ⟨2, 30, .startRentalWithSessionKey 2 92 5 "job-2"⟩) (by
      rintro _ _ _ _ _ ⟨⟩ ⟨⟩ - -
      refine .inr ⟨_, List.mem_append_right _ (List.mem_singleton_self _), 1000,
        .direct _ 3600 (.of_isOk rfl (by decide)) ?_ rfl⟩
      decide) rfl
  have hend := hopen.take (.tx ⟨3, 40, .endRental 0⟩) (hother nofun) rfl
  exact ⟨_, _, rfl, by decide, debits_authorised hend (.last _ _) (by decide)⟩

/-! ## A stranger's rental -/

def strangerOpens : List (Action ERC20) :=
  [.tx ⟨1, 10, .deposit 1000⟩,
   .tx ⟨1, 20, .registerSessionKey 2 1000 3600⟩,
   .tx ⟨3, 30, .startRentalWithSessionKey 2 3 5 "job-3"⟩]

def strangerEnds : Action ERC20 := .tx ⟨3, 40, .endRental 0⟩

private theorem stranger_acts {tx : Tx} (h : Action.tx tx ∈ strangerOpens) :
    (∀ s : State ERC20, tx.call.rental s tx.sender ≠ none → tx.sender = 3) ∧
      (∀ spendLimit duration,
        tx.call ≠ .registerSessionKey 3 spendLimit duration) ∧
      ∀ wallet spendLimit expiry signature, tx.call ≠
        .registerSessionKeyWithSignature wallet 3 spendLimit expiry
          signature := by
  simp only [strangerOpens, List.mem_cons, Action.tx.injEq, List.not_mem_nil,
    or_false] at h
  rcases h with rfl | rfl | rfl
  · simp [Call.rental]
  · simp [Call.rental]
  · simp

/--
The stranger opens a rental in the name of account 1, ends it, and account 1
pays for it without having agreed to anything.
-/
theorem stranger_charges_deposit :
    ∃ (past : List (VaultStep ERC20)) (s s' : State ERC20),
      Run (step sampleVault) anyStep sampleState past s ∧
      step sampleVault s strangerEnds = some s' ∧
      s'.deposits 1 < s.deposits 1 ∧
      ¬ Authorised sampleVault past 1 ⟨s, strangerEnds, s'⟩ := by
  have hends : ((trace (step sampleVault) sampleState strangerOpens).any
      fun p => (step sampleVault p.2 strangerEnds).any
        fun s' => s'.deposits 1 < p.2.deposits 1) = true := by decide
  obtain ⟨⟨past, s⟩, htrace, hends⟩ := (Option.any_eq_true _ _).mp hends
  obtain ⟨s', hstep, hless⟩ := (Option.any_eq_true _ _).mp hends
  have hrun := Run.of_trace htrace
  have hacts : ∀ r ∈ past, r.act ∈ strangerOpens := fun _ hr => trace_act_mem htrace hr
  refine ⟨past, s, s', hrun, hstep, of_decide_eq_true hless, ?_⟩
  rintro (⟨tx, amount, hok, hcall, -⟩ | ⟨tx, _, _, _, _, _, _, hok, hcall, -⟩ |
    ⟨tx, rentalId, hok, hcall, before, start, opening, rental, hocc, hissues,
      hacting⟩)
  · cases hok.act
    contradiction
  · cases hok.act
    contradiction
  · have hstart := hacts start hocc.mem
    rw [hissues.act] at hstart
    obtain ⟨hsender, -⟩ := stranger_acts hstart
    have hopener := hsender _
      (ne_of_eq_of_ne hissues.rental (Option.some_ne_none rental))
    rw [hopener] at hacting
    rcases hacting with hself | ⟨r, hr, spendLimit, hregisters⟩
    · contradiction
    have hregistering := hacts r (hocc.mem_of_mem_before hr)
    rcases hregisters with ⟨tx, _, hok, -, hcall⟩ | ⟨tx, _, _, hok, hcall, -⟩
    · rw [hok.act] at hregistering
      exact (stranger_acts hregistering).2.1 _ _ hcall
    · rw [hok.act] at hregistering
      exact (stranger_acts hregistering).2.2 _ _ _ _ hcall

end WorldlandBroker.Vault
