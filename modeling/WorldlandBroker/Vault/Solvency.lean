import WorldlandBroker.Vault.Rentals

/-!
# Solvency

With a standard payment token the vault always holds at least what it owes: the
sum of all deposits never exceeds its token balance.  The surplus can only grow,
so every depositor can withdraw in full at any time.
-/

namespace WorldlandBroker.Vault

open Foundation

variable {τ : Type} {V : GPUVault τ} {s s' : State τ} {sender : Address}
  {call : Call}

def State.balance (V : GPUVault τ) (s : State τ) : Nat :=
  V.paymentToken.balanceOf s.token V.self

def State.totalDeposits (s : State τ) : Nat :=
  ∑ account, s.deposits account

def State.surplus (V : GPUVault τ) (s : State τ) : ℤ :=
  s.balance V - s.totalDeposits

/-- Other accounts use the token as a standard token lets them. -/
def outsideToken (V : GPUVault τ) : Guard (State τ) (Action τ) :=
  fun _ s a => ∀ next, a = .token next →
    V.paymentToken.Outside V.self s.token next

theorem outsideToken_tx (V : GPUVault τ) (past : List (VaultStep τ))
    (s : State τ) (tx : Tx) : outsideToken V past s (.tx tx) := by
  rintro next ⟨⟩

structure Solvent (V : GPUVault τ) (s : State τ) : Prop where
  covered : s.totalDeposits ≤ s.balance V
  noZero : s.deposits 0 = 0
  noSelf : s.deposits V.self = 0
  unapproved : ∀ spender, V.paymentToken.allowance s.token V.self spender = 0

/-! ## Sums of deposits -/

theorem le_totalDeposits (account : Address) :
    s.deposits account ≤ s.totalDeposits :=
  Finset.single_le_sum (fun a _ => Nat.zero_le (s.deposits a))
    (Finset.mem_univ account)

private theorem totalDeposits_charge (h : Done V s sender call s') {wallet : Address}
    {amount : Nat} (hcharge : call.charge s sender = some (wallet, amount)) :
    s'.totalDeposits + amount = s.totalDeposits := by
  obtain ⟨hle, hdeposits⟩ := h.deposits_of_charge hcharge
  have hsum := sum_update_add s.deposits wallet (s.deposits wallet - amount)
  simp only [State.totalDeposits, hdeposits]
  omega

/-! ## Transfers of a standard token -/

section Transfers

variable (hT : StandardToken V.paymentToken) {token token' : τ}
  {recipient : Address} {amount fee : Nat}

include hT

theorem transfer_balance
    (h : V.paymentToken.transfer token V.self recipient amount = some token') :
    V.paymentToken.balanceOf token V.self ≤
        V.paymentToken.balanceOf token' V.self + amount ∧
      V.paymentToken.allowance token' = V.paymentToken.allowance token := by
  obtain ⟨hle, hbalance, hallowance⟩ := hT.transfer_exact h
  refine ⟨?_, hallowance⟩
  rw [hbalance]
  exact moveBalance_owner_add_le hle

private theorem feePaid_balance
    (h : feePaid V token recipient fee = some token') :
    V.paymentToken.balanceOf token V.self ≤
        V.paymentToken.balanceOf token' V.self + fee ∧
      V.paymentToken.allowance token' = V.paymentToken.allowance token := by
  unfold feePaid at h
  split at h
  · exact transfer_balance hT h
  · cases h
    exact ⟨Nat.le_add_right _ _, rfl⟩

private theorem settles_balance {rentalId : Nat}
    (h : Settles V s rentalId token') :
    V.paymentToken.balanceOf s.token V.self ≤
        V.paymentToken.balanceOf token' V.self + s.accrued rentalId ∧
      V.paymentToken.allowance token' =
        V.paymentToken.allowance s.token := by
  obtain ⟨paid, hprovider, hfee⟩ := h.paid
  obtain ⟨hbalance, hallowance⟩ := transfer_balance hT hprovider
  obtain ⟨hbalance', hallowance'⟩ := feePaid_balance hT hfee
  have hshares := h.fee_le
  exact ⟨by omega, hallowance'.trans hallowance⟩

end Transfers

/-! ## One step -/

theorem Done.balance_of_charge (hT : StandardToken V.paymentToken)
    (h : Done V s sender call s') {wallet : Address} {amount : Nat}
    (hcharge : call.charge s sender = some (wallet, amount)) :
    s.balance V ≤ s'.balance V + amount ∧
      V.paymentToken.allowance s'.token =
        V.paymentToken.allowance s.token := by
  cases h with
  | withdraw hamount hcovered htoken =>
      cases hcharge
      exact transfer_balance hT htoken
  | endRentalFree =>
      exact ⟨Nat.le_add_right _ _, rfl⟩
  | endRentalPaid hactive hstart hfits hsettles =>
      cases hcharge
      exact settles_balance hT hsettles
  | processPaymentWithSessionKey _ _ _ _ _ _ _ _ htoken =>
      cases hcharge
      exact transfer_balance hT htoken
  | _ => simp [Call.charge] at hcharge

theorem Done.balance_of_deposit (hT : StandardToken V.paymentToken)
    (hsolvent : Solvent V s) {amount : Nat}
    (h : Done V s sender (.deposit amount) s') :
    sender ≠ 0 ∧ sender ≠ V.self ∧
      s'.deposits = Function.update s.deposits sender
        (s.deposits sender + amount) ∧
      s'.balance V = s.balance V + amount ∧
      ∀ spender, V.paymentToken.allowance s'.token V.self spender = 0 := by
  cases h with
  | deposit hamount htoken hfits =>
      obtain ⟨hsender, hallowed, hvalue, hbalance, hallowance⟩ :=
        hT.transferFrom_exact htoken
      have hself : sender ≠ V.self := by
        rintro rfl
        rw [hsolvent.unapproved] at hallowed
        exact hamount (Nat.le_zero.mp hallowed)
      refine ⟨hsender, hself, rfl, ?_, fun spender => ?_⟩
      · simp only [State.balance, hbalance]
        exact moveBalance_recipient hself.symm
      · have hle := hallowance V.self spender
        rw [hsolvent.unapproved] at hle
        exact Nat.le_zero.mp hle

theorem Done.money_unchanged (h : Done V s sender call s')
    (hcharge : call.charge s sender = none)
    (hdeposit : ∀ amount, call ≠ .deposit amount) :
    s'.deposits = s.deposits ∧ s'.token = s.token := by
  cases h with
  | deposit => exact absurd rfl (hdeposit _)
  | withdraw | endRentalFree | endRentalPaid | processPaymentWithSessionKey =>
      simp [Call.charge] at hcharge
  | _ => exact ⟨rfl, rfl⟩

theorem Done.solvent (hT : StandardToken V.paymentToken)
    (hsolvent : Solvent V s) (h : Done V s sender call s') :
    Solvent V s' ∧ s.surplus V ≤ s'.surplus V := by
  cases hcharge : call.charge s sender with
  | some charge =>
      obtain ⟨wallet, amount⟩ := charge
      obtain ⟨-, hdeposits⟩ := h.deposits_of_charge hcharge
      have howed := totalDeposits_charge h hcharge
      obtain ⟨hheld, hallowance⟩ := h.balance_of_charge hT hcharge
      have hzero : ∀ a, s.deposits a = 0 → s'.deposits a = 0 := by
        intro a ha
        rw [hdeposits]
        by_cases hw : a = wallet
        · subst hw
          simp [ha]
        · rw [Function.update_of_ne hw, ha]
      have hcovered := hsolvent.covered
      refine ⟨⟨by omega, hzero 0 hsolvent.noZero, hzero _ hsolvent.noSelf, ?_⟩,
        by simp only [State.surplus]; omega⟩
      intro spender
      rw [hallowance]
      exact hsolvent.unapproved spender
  | none =>
      by_cases hdeposit : ∃ amount, call = .deposit amount
      · obtain ⟨amount, rfl⟩ := hdeposit
        obtain ⟨hsender, hself, hdeposits, hheld, hunapproved⟩ :=
          h.balance_of_deposit hT hsolvent
        have howed := sum_update_add s.deposits sender
          (s.deposits sender + amount)
        rw [← hdeposits] at howed
        change s'.totalDeposits + s.deposits sender =
          s.totalDeposits + (s.deposits sender + amount) at howed
        have hcovered := hsolvent.covered
        refine ⟨⟨by omega, ?_, ?_, hunapproved⟩,
          by simp only [State.surplus]; omega⟩
        · rw [hdeposits, Function.update_of_ne hsender.symm]
          exact hsolvent.noZero
        · rw [hdeposits, Function.update_of_ne hself.symm]
          exact hsolvent.noSelf
      · obtain ⟨hdeposits, htoken⟩ :=
          h.money_unchanged hcharge fun amount heq => hdeposit ⟨amount, heq⟩
        have howed : s'.totalDeposits = s.totalDeposits := by
          simp only [State.totalDeposits, hdeposits]
        have hheld : s'.balance V = s.balance V := by
          simp only [State.balance, htoken]
        refine ⟨⟨?_, hdeposits ▸ hsolvent.noZero, hdeposits ▸ hsolvent.noSelf,
          htoken ▸ hsolvent.unapproved⟩, ?_⟩
        · rw [howed, hheld]
          exact hsolvent.covered
        · rw [State.surplus, State.surplus, howed, hheld]

private theorem step_solvent (hT : StandardToken V.paymentToken)
    {past : List (VaultStep τ)} {a : Action τ} (hsolvent : Solvent V s)
    (hguard : outsideToken V past s a) (h : step V s a = some s') :
    Solvent V s' ∧ s.surplus V ≤ s'.surplus V := by
  cases step_effect h with
  | reverted => exact ⟨⟨hsolvent.covered, hsolvent.noZero, hsolvent.noSelf,
      hsolvent.unapproved⟩, le_rfl⟩
  | @done tx _ htime hok hdone =>
      have hat : Solvent V (s.at tx.timestamp) :=
        ⟨hsolvent.covered, hsolvent.noZero, hsolvent.noSelf,
          hsolvent.unapproved⟩
      have hnext := hdone.solvent hT hat
      exact hnext
  | token next =>
      obtain ⟨hbalance, hallowance⟩ := hguard next rfl
      refine ⟨⟨hsolvent.covered.trans hbalance, hsolvent.noZero,
        hsolvent.noSelf, fun spender => ?_⟩, ?_⟩
      · have hle := hallowance spender
        rw [hsolvent.unapproved] at hle
        exact Nat.le_zero.mp hle
      · change (s.balance V : ℤ) - s.totalDeposits ≤
          V.paymentToken.balanceOf next V.self - s.totalDeposits
        have hle : s.balance V ≤ V.paymentToken.balanceOf next V.self := hbalance
        omega

/-! ## Whole runs -/

section Runs

variable {token : τ} {deployer feeRecipient : Address} {timestamp : Nat}
  {past : List (VaultStep τ)}

private theorem solvent_deployed
    (hnew : ∀ spender, V.paymentToken.allowance token V.self spender = 0) :
    Solvent V (deployed token deployer feeRecipient timestamp) where
  covered := by simp [State.totalDeposits, deployed]
  noZero := rfl
  noSelf := rfl
  unapproved := hnew

theorem solvent_run (hT : StandardToken V.paymentToken)
    (hnew : ∀ spender, V.paymentToken.allowance token V.self spender = 0)
    (hrun : Run (step V) (outsideToken V)
      (deployed token deployer feeRecipient timestamp) past s) :
    Solvent V s :=
  hrun.always (solvent_deployed hnew) fun _ _ _ _ hsolvent hguard h =>
    (step_solvent hT hsolvent hguard h).1

theorem Solvent.withdraw_succeeds (hT : StandardToken V.paymentToken)
    (hsolvent : Solvent V s) {user : Address} {amount : Nat}
    (hpositive : 0 < amount) (hle : amount ≤ s.deposits user) :
    ∃ s', withdraw V s user amount = .ok s' := by
  have huser : user ≠ 0 := by
    rintro rfl
    rw [hsolvent.noZero] at hle
    omega
  have hheld : amount ≤ V.paymentToken.balanceOf s.token V.self :=
    hle.trans ((le_totalDeposits user).trans hsolvent.covered)
  obtain ⟨token, htoken⟩ := hT.transfer_succeeds V.self_ne_zero huser hheld
  simp only [withdraw, bind_eq_ok, ensure_eq_ok, debit_eq_ok,
    safeTransfer_eq_ok, pure_eq_ok]
  exact ⟨_, (), Nat.pos_iff_ne_zero.mp hpositive, (), hle, _, ⟨hle, rfl⟩, _,
    ⟨token, htoken, rfl⟩, rfl⟩

/--
Over every run of a vault with a standard payment token, deposits are covered,
the surplus never shrinks, and every depositor can withdraw what is recorded.
-/
theorem vault_solvent (hT : StandardToken V.paymentToken)
    (hnew : ∀ spender, V.paymentToken.allowance token V.self spender = 0)
    (hrun : Run (step V) (outsideToken V)
      (deployed token deployer feeRecipient timestamp) past s) :
    s.totalDeposits ≤ s.balance V ∧
      (∀ r ∈ past, r.pre.surplus V ≤ r.post.surplus V) ∧
      ∀ user amount now, 0 < amount → amount ≤ s.deposits user →
        ∃ s', withdraw V (s.at now) user amount = .ok s' := by
  refine ⟨(solvent_run hT hnew hrun).covered, fun r hr => ?_, ?_⟩
  · obtain ⟨before, after, hsplit⟩ := List.append_of_mem hr
    obtain ⟨hbefore, hguard, hstep⟩ := hrun.of_split hsplit
    exact (step_solvent hT (solvent_run hT hnew hbefore) hguard hstep).2
  · intro user amount now hpositive hle
    have hsolvent := solvent_run hT hnew hrun
    have hat : Solvent V (s.at now) :=
      ⟨hsolvent.covered, hsolvent.noZero, hsolvent.noSelf,
        hsolvent.unapproved⟩
    exact hat.withdraw_succeeds hT hpositive hle

end Runs

/-! ## The OpenZeppelin token -/

/-- Other accounts reach an OpenZeppelin token through its own functions. -/
def servedToken (V : GPUVault ERC20) : Guard (State ERC20) (Action ERC20) :=
  fun _ s a => ∀ next, a = .token next → ∃ sender request,
    sender ≠ V.self ∧ s.token.serve sender request = some next

/--
Over the OpenZeppelin token nothing is assumed about other accounts: whatever
they ask of the token, the vault's balance and allowances are safe from them.
-/
theorem outsideToken_of_served {V : GPUVault ERC20} {s : State ERC20}
    (hV : V.paymentToken = ERC20.paymentToken) {token : ERC20}
    {deployer feeRecipient : Address} {timestamp : Nat}
    {past : List (VaultStep ERC20)}
    (hnew : ∀ spender, token.allowances V.self spender = 0)
    (hrun : Run (step V) (servedToken V)
      (deployed token deployer feeRecipient timestamp) past s) :
    Run (step V) (outsideToken V)
      (deployed token deployer feeRecipient timestamp) past s := by
  induction hrun with
  | nil => exact .nil
  | @snoc past s s' a _ hguard hs ih =>
      refine ih.snoc ?_ hs
      rintro next rfl
      have hsolvent : Solvent V s := solvent_run (hV ▸ ERC20.standard)
        (by rw [hV]; exact hnew) ih
      obtain ⟨sender, request, hsender, hserve⟩ := hguard next rfl
      have hnone := hsolvent.unapproved
      rw [hV] at hnone ⊢
      exact ERC20.serve_outside hsender hnone hserve

/-- The renter lets someone else spend its tokens too, and withdraws what a settlement leaves. -/
theorem vault_solvent_sample :
    ∃ (past : List (VaultStep ERC20)) (s : State ERC20),
      Run (step sampleVault) (outsideToken sampleVault) sampleState past s ∧
      past.length = 4 ∧ s.deposits 1 = 950 ∧ s.totalDeposits ≤ s.balance sampleVault ∧
      ∃ s', withdraw sampleVault (s.at 50) 1 950 = .ok s' := by
  have htx : ∀ past s tx, servedToken sampleVault past s (.tx tx) := by
    rintro past s tx next ⟨⟩
  have happroved := (Run.nil : Run (step sampleVault) (servedToken sampleVault)
    sampleState [] _).take (.token (sampleToken.approved 1 5 20)) (by
      rintro next ⟨⟩
      exact ⟨1, .approve 5 20, by decide, rfl⟩) rfl
  have hdeposit := happroved.take (.tx ⟨1, 10, .deposit 1000⟩) (htx _ _ _) rfl
  have hopen := hdeposit.take (.tx ⟨1, 30, .startRental 92 5 "job-1"⟩) (htx _ _ _) rfl
  have hend := hopen.take (.tx ⟨92, 40, .endRental 0⟩) (htx _ _ _) rfl
  have hnew : ∀ spender, sampleVault.paymentToken.allowance sampleToken
      sampleVault.self spender = 0 := fun _ => rfl
  have hrun := outsideToken_of_served rfl hnew hend
  obtain ⟨hcovered, -, hwithdraw⟩ := vault_solvent ERC20.standard hnew hrun
  exact ⟨_, _, hrun, rfl, by decide, hcovered,
    hwithdraw 1 950 50 (by decide) (by decide)⟩

end WorldlandBroker.Vault
