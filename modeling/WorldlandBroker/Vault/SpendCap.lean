import WorldlandBroker.Vault.Authorisation

/-!
# The spend limit of a session key

`processPaymentWithSessionKey` checks and records what a key spends;
`startRentalWithSessionKey` and `endRental` do neither.  As long as no rental
opened through a key costs anything, the total debited through the key since
its latest registration stays within the registered limit.
-/

namespace WorldlandBroker.Vault

open Foundation

variable {τ : Type}

def openedThrough (past : List (VaultStep τ)) (rentalId : Nat)
    (sessionKey : Address) : Bool :=
  past.any fun r =>
    match r.act with
    | .tx ⟨_, _, .startRentalWithSessionKey key _ _ _⟩ =>
        key == sessionKey && r.pre.rentalCount == rentalId &&
          r.post.rentalCount == rentalId + 1
    | _ => false

def debitThrough (wallet sessionKey : Address) (past : List (VaultStep τ))
    (r : VaultStep τ) : Nat :=
  match r.act with
  | .tx ⟨_, _, .processPaymentWithSessionKey key _ _ _ _ _⟩ =>
      if key = sessionKey then r.pre.deposits wallet - r.post.deposits wallet
      else 0
  | .tx ⟨_, _, .endRental rentalId⟩ =>
      if openedThrough past rentalId sessionKey then
        r.pre.deposits wallet - r.post.deposits wallet
      else 0
  | _ => 0

def totalThrough (wallet sessionKey : Address) :
    List (VaultStep τ) → List (VaultStep τ) → Nat
  | _, [] => 0
  | past, r :: later =>
      debitThrough wallet sessionKey past r +
        totalThrough wallet sessionKey (past ++ [r]) later

private theorem totalThrough_snoc (wallet sessionKey : Address)
    (past later : List (VaultStep τ)) (r : VaultStep τ) :
    totalThrough wallet sessionKey past (later ++ [r]) =
      totalThrough wallet sessionKey past later +
        debitThrough wallet sessionKey (past ++ later) r := by
  induction later generalizing past with
  | nil => simp [totalThrough]
  | cons first later ih =>
      simp only [List.cons_append, totalThrough, ih, List.append_assoc,
        List.nil_append, Nat.add_assoc]

private theorem debitThrough_eq_zero {wallet sessionKey : Address}
    {past : List (VaultStep τ)} {r : VaultStep τ}
    (h : r.post.deposits = r.pre.deposits) :
    debitThrough wallet sessionKey past r = 0 := by
  unfold debitThrough
  split <;> simp [h]

variable {V : GPUVault τ} {s s' : State τ} {past : List (VaultStep τ)}
  {wallet sessionKey : Address}

/--
Once the wallet has registered the key, no settlement costs it anything that concerns a
rental opened through the key.
-/
def noKeyRentalCosts (V : GPUVault τ) (wallet sessionKey : Address) :
    Guard (State τ) (Action τ) := fun past s a =>
  ∀ tx rentalId, a = .tx tx → tx.call = .endRental rentalId →
    RegisteredBy V past sessionKey wallet → openedThrough past rentalId sessionKey = true →
    (s.rentals rentalId).renter = wallet →
    (execute V (s.at tx.timestamp) tx.sender tx.call).isOk = true →
    (s.at tx.timestamp).accrued rentalId = 0

theorem Registers.call {r : VaultStep τ} {spendLimit : Nat}
    (h : Registers V r wallet sessionKey spendLimit) :
    ∃ tx, r.act = .tx tx ∧
      ((∃ duration, tx.call =
          .registerSessionKey sessionKey spendLimit duration) ∨
        ∃ expiry signature, tx.call = .registerSessionKeyWithSignature wallet
          sessionKey spendLimit expiry signature) := by
  cases h with
  | direct tx duration hok _ hcall => exact ⟨tx, hok.act, .inl ⟨_, hcall⟩⟩
  | signed tx expiry signature hok hcall =>
      exact ⟨tx, hok.act, .inr ⟨_, _, hcall⟩⟩

theorem Registers.post {r : VaultStep τ} {spendLimit : Nat}
    (h : Registers V r wallet sessionKey spendLimit) :
    ∃ expiry, r.post.sessionKeys sessionKey =
      ⟨wallet, spendLimit, 0, expiry, true⟩ := by
  obtain ⟨s, a, s'⟩ := r
  cases h with
  | direct tx duration hok hsender hcall =>
      obtain ⟨caller, now, call⟩ := tx
      cases hcall
      cases hsender
      have hdone : Done V (s.at now) caller _ s' := execute_eq_ok hok.ok
      cases hdone
      exact ⟨_, Function.update_self ..⟩
  | signed tx expiry signature hok hcall hsigned =>
      obtain ⟨caller, now, call⟩ := tx
      cases hcall
      have hdone : Done V (s.at now) caller _ s' := execute_eq_ok hok.ok
      cases hdone
      exact ⟨_, Function.update_self ..⟩

inductive KeyStep (wallet sessionKey : Address) (past : List (VaultStep τ))
    (r : VaultStep τ) : Prop where
  | unspent (hdebit : debitThrough wallet sessionKey past r = 0)
      (hrecord : (r.post.sessionKeys sessionKey).mainWallet = wallet →
        (r.pre.sessionKeys sessionKey).mainWallet = wallet ∧
        (r.post.sessionKeys sessionKey).spendLimit =
          (r.pre.sessionKeys sessionKey).spendLimit ∧
        (r.post.sessionKeys sessionKey).spentAmount =
          (r.pre.sessionKeys sessionKey).spentAmount)
  | spent (howner : (r.pre.sessionKeys sessionKey).mainWallet = wallet)
      (hlimit : (r.post.sessionKeys sessionKey).spendLimit =
        (r.pre.sessionKeys sessionKey).spendLimit)
      (hspent : (r.post.sessionKeys sessionKey).spentAmount =
        (r.pre.sessionKeys sessionKey).spentAmount +
          debitThrough wallet sessionKey past r)
      (hcap : (r.post.sessionKeys sessionKey).spentAmount ≤
        (r.post.sessionKeys sessionKey).spendLimit)

theorem KeyStep.of_same {r : VaultStep τ}
    (hdebit : debitThrough wallet sessionKey past r = 0)
    (hkeys : r.post.sessionKeys = r.pre.sessionKeys) :
    KeyStep wallet sessionKey past r :=
  .unspent hdebit fun h => by rw [hkeys] at h ⊢; exact ⟨h, rfl, rfl⟩

theorem KeyStep.of_recorded {r : VaultStep τ} {owner key : Address}
    {spendLimit expiry : Nat} (hdeposits : r.post.deposits = r.pre.deposits)
    (hkeys : r.post.sessionKeys = Function.update r.pre.sessionKeys key
      ⟨owner, spendLimit, 0, expiry, true⟩)
    (hother : ¬ (owner = wallet ∧ key = sessionKey)) :
    KeyStep wallet sessionKey past r := by
  refine .unspent (debitThrough_eq_zero hdeposits) fun h => ?_
  rw [hkeys] at h ⊢
  by_cases hkey : sessionKey = key
  · subst hkey
    rw [Function.update_self] at h
    exact absurd ⟨h, rfl⟩ hother
  · rw [Function.update_of_ne hkey] at h ⊢
    exact ⟨h, rfl, rfl⟩

private theorem keyStep {r : VaultStep τ} (h : step V r.pre r.act = some r.post)
    (hguard : noKeyRentalCosts V wallet sessionKey past r.pre r.act)
    (hregistered : RegisteredBy V past sessionKey wallet)
    (hnot : ∀ spendLimit, ¬ Registers V r wallet sessionKey spendLimit) :
    KeyStep wallet sessionKey past r := by
  obtain ⟨s, a, s'⟩ := r
  have heffect : Effect V s a s' := step_effect h
  cases heffect with
  | token => exact .of_same rfl rfl
  | reverted => exact .of_same (debitThrough_eq_zero rfl) rfl
  | @done tx _ htime hok hdone =>
      obtain ⟨caller, now, call⟩ := tx
      cases hdone with
      | deposit => exact .of_same rfl rfl
      | withdraw => exact .of_same rfl rfl
      | startRental => exact .of_same rfl rfl
      | startRentalWithSessionKey => exact .of_same rfl rfl
      | setPlatformFee => exact .of_same rfl rfl
      | setFeeRecipient => exact .of_same rfl rfl
      | transferOwnership => exact .of_same rfl rfl
      | renounceOwnership => exact .of_same rfl rfl
      | endRentalFree => exact .of_same (debitThrough_eq_zero rfl) rfl
      | registerSessionKey =>
          refine .of_recorded rfl rfl ?_
          rintro ⟨rfl, rfl⟩
          exact hnot _ (.direct _ _ ⟨rfl, hok⟩ rfl rfl)
      | registerSessionKeyWithSignature _ _ _ hsigned =>
          refine .of_recorded rfl rfl ?_
          rintro ⟨rfl, rfl⟩
          exact hnot _ (.signed _ _ _ ⟨rfl, hok⟩ rfl hsigned)
      | @revokeSessionKey key howner =>
          refine .unspent rfl fun hwallet => ?_
          by_cases hkey : sessionKey = key
          · subst hkey
            simpa using hwallet
          · simpa [hkey] using hwallet
      | @endRentalPaid rentalId token hactive hstart hfits hsettles =>
          refine .of_same ?_ rfl
          by_cases hopened : openedThrough past rentalId sessionKey = true
          · by_cases hrenter : (s.rentals rentalId).renter = wallet
            · have hfree : (s.at now).accrued rentalId = 0 :=
                hguard _ _ rfl rfl hregistered hopened hrenter (by rw [hok]; rfl)
              exact absurd hfree (Nat.ne_of_gt hsettles.positive)
            · have hne : wallet ≠ (s.rentals rentalId).renter := Ne.symm hrenter
              simp [debitThrough, hopened, State.settled, hne]
          · simp [debitThrough, hopened]
      | @processPaymentWithSessionKey key _ amount _ _ _ _ _ _ _ _ hlimit _ _
          hcovered _ =>
          by_cases hkey : key = sessionKey
          · subst hkey
            by_cases howner : (s.sessionKeys key).mainWallet = wallet
            · subst howner
              refine .spent rfl (by simp) ?_ (by simpa using hlimit)
              rw [State.at_deposits, State.at_sessionKeys] at hcovered
              simp [debitThrough, Nat.sub_sub_self hcovered]
            · refine .unspent ?_ fun hwallet => ?_
              · have hne : wallet ≠ (s.sessionKeys key).mainWallet :=
                  fun heq => howner heq.symm
                simp [debitThrough, hne]
              · exact absurd (by simpa using hwallet) howner
          · refine .unspent (by simp [debitThrough, hkey]) fun hwallet => ?_
            have hne : sessionKey ≠ key := fun heq => hkey heq.symm
            simpa [hne] using hwallet

/--
Since its latest registration by the wallet the key has spent at most the limit;
while its record still names the wallet, `spentAmount` is exactly that sum.
-/
def KeyWithinLimit (V : GPUVault τ) (wallet sessionKey : Address)
    (past : List (VaultStep τ)) (s : State τ) : Prop :=
  ∀ before registration after spendLimit,
    past = before ++ registration :: after →
    Registers V registration wallet sessionKey spendLimit →
    (∀ r ∈ after, ∀ limit, ¬ Registers V r wallet sessionKey limit) →
    totalThrough wallet sessionKey (before ++ [registration]) after ≤
        spendLimit ∧
      ((s.sessionKeys sessionKey).mainWallet = wallet →
        (s.sessionKeys sessionKey).spendLimit = spendLimit ∧
        (s.sessionKeys sessionKey).spentAmount =
          totalThrough wallet sessionKey (before ++ [registration]) after)

theorem KeyWithinLimit.step {r : VaultStep τ}
    (hwithin : KeyWithinLimit V wallet sessionKey past r.pre)
    (hguard : noKeyRentalCosts V wallet sessionKey past r.pre r.act)
    (h : step V r.pre r.act = some r.post) :
    KeyWithinLimit V wallet sessionKey (past ++ [r]) r.post := by
  intro before registration after spendLimit hsplit hregisters hlatest
  rcases List.eq_nil_or_concat after with rfl | ⟨earlier, last, rfl⟩
  · obtain ⟨rfl, hlast⟩ := List.append_inj' hsplit rfl
    cases hlast
    obtain ⟨expiry, hrecord⟩ := hregisters.post
    rw [hrecord]
    exact ⟨Nat.zero_le _, fun _ => ⟨rfl, rfl⟩⟩
  · have hsplit' : past ++ [r] = (before ++ registration :: earlier) ++ [last] := by
      simpa using hsplit
    obtain ⟨hpast, hlast⟩ := List.append_inj' hsplit' rfl
    cases hlast
    obtain ⟨hbound, hrecord⟩ := hwithin before registration earlier spendLimit
      hpast hregisters fun r' hr' => hlatest r' (by simp [hr'])
    have hbefore : before ++ [registration] ++ earlier = past := by
      simp [hpast]
    rw [List.concat_eq_append, totalThrough_snoc, hbefore]
    have hregistered : RegisteredBy V past sessionKey wallet :=
      ⟨registration, by simp [hpast], spendLimit, hregisters⟩
    cases keyStep h hguard hregistered (hlatest r (by simp)) with
    | unspent hdebit hkept =>
        rw [hdebit]
        refine ⟨hbound, fun hwallet => ?_⟩
        obtain ⟨howner, hlimit, hspent⟩ := hkept hwallet
        rw [hlimit, hspent]
        exact hrecord howner
    | spent howner hlimit hspent hcap =>
        obtain ⟨hspendLimit, hspentAmount⟩ := hrecord howner
        rw [hspent, hlimit, hspendLimit, hspentAmount] at hcap
        refine ⟨hcap, fun _ => ⟨hlimit.trans hspendLimit, ?_⟩⟩
        rw [hspent, hspentAmount]

/--
As long as no rental opened through a session key is charged to its wallet, the key
spends no more than the limit of its latest registration.
-/
theorem spend_capped {token : τ} {deployer feeRecipient : Address}
    {timestamp : Nat} {before after : List (VaultStep τ)}
    {registration : VaultStep τ} {spendLimit : Nat}
    (hrun : Run (step V) (noKeyRentalCosts V wallet sessionKey)
      (deployed token deployer feeRecipient timestamp)
      (before ++ registration :: after) s)
    (hregisters : Registers V registration wallet sessionKey spendLimit)
    (hlatest : ∀ r ∈ after, ∀ limit, ¬ Registers V r wallet sessionKey limit) :
    totalThrough wallet sessionKey (before ++ [registration]) after ≤
      spendLimit := by
  have hwithin : KeyWithinLimit V wallet sessionKey
      (before ++ registration :: after) s :=
    hrun.invariant (fun _ _ _ _ hnil => by simp at hnil)
      fun _ _ _ _ _ hwithin hguard h => hwithin.step hguard h
  exact (hwithin before registration after spendLimit rfl hregisters hlatest).1

/-- Key 2 pays 7 of its 10 units. -/
theorem spend_capped_payment :
    ∃ (before after : List (VaultStep ERC20)) (registration : VaultStep ERC20),
      totalThrough 1 2 (before ++ [registration]) after = 7 ∧
      totalThrough 1 2 (before ++ [registration]) after ≤ 10 := by
  have hdeposit := (Run.nil : Run (step sampleVault) (noKeyRentalCosts sampleVault 1 2)
    sampleState [] _).take (.tx ⟨1, 10, .deposit 1000⟩) (by
      rintro _ _ ⟨⟩ ⟨⟩) rfl
  have hkey := hdeposit.take (.tx ⟨1, 20, .registerSessionKey 2 10 3600⟩) (by
      rintro _ _ ⟨⟩ ⟨⟩) rfl
  have hpay := hkey.take
    (.tx ⟨90, 30, .processPaymentWithSessionKey 2 92 7 "job-2" 100 [27]⟩) (by
      rintro _ _ ⟨⟩ ⟨⟩) rfl
  simp only [List.cons_append, List.nil_append] at hpay
  refine ⟨_ :: [], _, _, by decide, spend_capped hpay
    (.direct _ 3600 (.of_isOk rfl (by decide)) (by decide) rfl) ?_⟩
  intro r hr limit hregisters
  obtain rfl := List.mem_singleton.mp hr
  obtain ⟨tx, hact, hcall⟩ := hregisters.call
  cases hact
  simp at hcall

/-! ## A rental beyond the limit -/

/-- Key 2 has a limit of 10 units and rents for 50. -/
theorem rental_exceeds_limit :
    ∃ (before after : List (VaultStep ERC20)) (registration : VaultStep ERC20)
      (s : State ERC20),
      Run (step sampleVault) anyStep sampleState
        (before ++ registration :: after) s ∧
      Registers sampleVault registration 1 2 10 ∧
      (∀ r ∈ after, ∀ limit, ¬ Registers sampleVault r 1 2 limit) ∧
      10 < totalThrough 1 2 (before ++ [registration]) after := by
  have hdeposit := (Run.nil : Run (step sampleVault) anyStep sampleState
    [] _).take (.tx ⟨1, 10, .deposit 1000⟩) trivial rfl
  have hkey := hdeposit.take (.tx ⟨1, 20, .registerSessionKey 2 10 3600⟩)
    trivial rfl
  have hopen := hkey.take
    (.tx ⟨2, 30, .startRentalWithSessionKey 2 92 5 "job-2"⟩) trivial rfl
  have hend := hopen.take (.tx ⟨92, 40, .endRental 0⟩) trivial rfl
  simp only [List.append_assoc, List.cons_append, List.nil_append] at hend
  refine ⟨_ :: [], _, _, _, hend,
    .direct _ 3600 (.of_isOk rfl (by decide)) (by decide) rfl, ?_, by decide⟩
  intro r hr limit hregisters
  simp only [List.mem_cons, List.not_mem_nil, or_false] at hr
  obtain ⟨tx, hact, hcall⟩ := hregisters.call
  rcases hr with rfl | rfl
  · cases hact
    simp at hcall
  · cases hact
    simp at hcall

end WorldlandBroker.Vault
