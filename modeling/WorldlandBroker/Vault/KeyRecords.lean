import WorldlandBroker.Vault.Rentals

/-!
# Whose session key it is

What one step can do to the record of a session key, and when the record stays
its wallet's own.  `revokeSessionKey` looks at the owner of the record; neither
way of registering a key does, and a registration replaces the whole record.
-/

namespace WorldlandBroker.Vault

open Foundation

variable {τ : Type}

inductive KeyChange (V : GPUVault τ) (r : VaultStep τ) (sessionKey : Address) :
    Prop where
  | kept (hrecord : r.post.sessionKeys sessionKey = r.pre.sessionKeys sessionKey)
  | registered (wallet : Address) (spendLimit expiry : Nat)
      (hregisters : Registers V r wallet sessionKey spendLimit)
      (hrecord : r.post.sessionKeys sessionKey =
        ⟨wallet, spendLimit, 0, expiry, true⟩)
  | revoked (tx : Tx) (hact : r.act = .tx tx)
      (hsender : (r.pre.sessionKeys sessionKey).mainWallet = tx.sender)
      (hrecord : r.post.sessionKeys sessionKey =
        { r.pre.sessionKeys sessionKey with isActive := false })
  | paid (tx : Tx) (recipient : Address) (amount : Nat) (jobId : String)
      (deadline : Nat) (signature : Bytes) (hok : Succeeds V r tx)
      (hcall : tx.call = .processPaymentWithSessionKey sessionKey recipient
        amount jobId deadline signature)
      (hsigned : V.recover (V.hashTypedDataV4 (paymentData
        (r.pre.sessionKeys sessionKey).mainWallet recipient amount jobId
        (r.pre.nonces sessionKey) deadline)) signature = some sessionKey)
      (hrecord : r.post.sessionKeys sessionKey =
        { r.pre.sessionKeys sessionKey with
          spentAmount := (r.pre.sessionKeys sessionKey).spentAmount + amount })

variable {V : GPUVault τ} {r : VaultStep τ} {sessionKey wallet : Address}

theorem keyChange (h : step V r.pre r.act = some r.post)
    (sessionKey : Address) : KeyChange V r sessionKey := by
  obtain ⟨s, a, s'⟩ := r
  have heffect : Effect V s a s' := step_effect h
  cases heffect with
  | token => exact .kept rfl
  | reverted => exact .kept rfl
  | @done tx _ htime hok hdone =>
      obtain ⟨caller, now, call⟩ := tx
      cases hdone with
      | @registerSessionKey key spendLimit duration =>
          by_cases hkey : sessionKey = key
          · subst hkey
            exact .registered caller spendLimit _
              (.direct _ duration ⟨rfl, hok⟩ rfl rfl) (Function.update_self ..)
          · exact .kept (Function.update_of_ne hkey ..)
      | @registerSessionKeyWithSignature owner key spendLimit expiry signature _
          _ _ hsigned =>
          by_cases hkey : sessionKey = key
          · subst hkey
            exact .registered owner spendLimit expiry
              (.signed _ expiry signature ⟨rfl, hok⟩ rfl hsigned)
              (Function.update_self ..)
          · exact .kept (Function.update_of_ne hkey ..)
      | @revokeSessionKey key howner =>
          by_cases hkey : sessionKey = key
          · subst hkey
            exact .revoked _ rfl howner (Function.update_self ..)
          · exact .kept (Function.update_of_ne hkey ..)
      | @processPaymentWithSessionKey key recipient amount jobId deadline
          signature token _ _ _ _ _ _ hsigned =>
          by_cases hkey : sessionKey = key
          · subst hkey
            exact .paid _ recipient amount jobId deadline signature ⟨rfl, hok⟩
              rfl hsigned (Function.update_self ..)
          · exact .kept (Function.update_of_ne hkey ..)
      | _ => exact .kept rfl

/-! ## Steps of other accounts -/

/-- `wallet` sent the call, or the call carries its registration signature. -/
inductive ActionOf (V : GPUVault τ) (s : State τ) (wallet : Address) :
    Action τ → Prop where
  | sent (now : Nat) (call : Call) : ActionOf V s wallet (.tx ⟨wallet, now, call⟩)
  | signed (caller : Address) (now : Nat) (sessionKey : Address)
      (spendLimit expiry : Nat) (signature : Bytes)
      (hsigned : V.recover (V.hashTypedDataV4 (registrationData wallet
        sessionKey spendLimit expiry (s.nonces wallet))) signature =
          some wallet) :
      ActionOf V s wallet (.tx ⟨caller, now, .registerSessionKeyWithSignature
        wallet sessionKey spendLimit expiry signature⟩)

inductive PassingRegistration (V : GPUVault τ) (s : State τ)
    (sessionKey : Address) : Action τ → Prop where
  | direct (caller : Address) (now spendLimit duration : Nat)
      (hkey : sessionKey ≠ 0) (hlimit : 0 < spendLimit)
      (hduration : 0 < duration ∧ duration ≤ maxDuration)
      (hfits : now + duration < wordSize) :
      PassingRegistration V s sessionKey
        (.tx ⟨caller, now, .registerSessionKey sessionKey spendLimit duration⟩)
  | signed (caller : Address) (now : Nat) (wallet : Address)
      (spendLimit expiry : Nat) (signature : Bytes)
      (hkey : sessionKey ≠ 0) (hexpiry : now < expiry)
      (hnonce : s.nonces wallet + 1 < wordSize)
      (hsigned : V.recover (V.hashTypedDataV4 (registrationData wallet
        sessionKey spendLimit expiry (s.nonces wallet))) signature =
          some wallet) :
      PassingRegistration V s sessionKey
        (.tx ⟨caller, now, .registerSessionKeyWithSignature wallet sessionKey
          spendLimit expiry signature⟩)

theorem Registers.passing {spendLimit : Nat}
    (h : Registers V r wallet sessionKey spendLimit) :
    PassingRegistration V r.pre sessionKey r.act := by
  obtain ⟨s, a, s'⟩ := r
  cases h with
  | direct tx duration hok hsender hcall =>
      obtain ⟨caller, now, call⟩ := tx
      obtain ⟨rfl, hok⟩ := hok
      cases hcall
      have hdone : Done V (s.at now) caller _ s' := execute_eq_ok hok
      cases hdone with
      | registerSessionKey hkey hlimit hduration hfits =>
          exact .direct caller now spendLimit duration hkey hlimit hduration hfits
  | signed tx expiry signature hok hcall hsigned =>
      obtain ⟨caller, now, call⟩ := tx
      obtain ⟨rfl, hok⟩ := hok
      cases hcall
      have hdone : Done V (s.at now) caller _ s' := execute_eq_ok hok
      cases hdone with
      | registerSessionKeyWithSignature hkey hexpiry hnonce =>
          exact .signed caller now wallet spendLimit expiry signature hkey
            hexpiry hnonce hsigned

theorem Registers.actionOf {spendLimit : Nat}
    (h : Registers V r wallet sessionKey spendLimit) :
    ActionOf V r.pre wallet r.act := by
  cases h with
  | direct tx duration hok hsender =>
      obtain ⟨caller, now, call⟩ := tx
      cases hsender
      rw [hok.act]
      exact .sent now call
  | signed tx expiry signature hok hcall hsigned =>
      obtain ⟨caller, now, call⟩ := tx
      cases hcall
      rw [hok.act]
      exact .signed caller now sessionKey spendLimit expiry signature hsigned

private theorem registerSessionKey_passes {s : State τ} (caller : Address)
    {spendLimit duration : Nat} (hkey : sessionKey ≠ 0)
    (hlimit : 0 < spendLimit)
    (hduration : 0 < duration ∧ duration ≤ maxDuration)
    (hfits : s.timestamp + duration < wordSize) :
    ∃ s', registerSessionKey s caller sessionKey spendLimit duration = .ok s' ∧
      (s'.sessionKeys sessionKey).mainWallet = caller := by
  simp only [registerSessionKey, bind_eq_ok, ensure_eq_ok, checkedAdd_eq_ok,
    pure_eq_ok]
  refine ⟨_, ⟨(), hkey, (), hlimit, (), hduration, _, ⟨hfits, rfl⟩, rfl⟩, ?_⟩
  simp [State.emit, State.recordSessionKey]

theorem registerSessionKeyWithSignature_passes {s : State τ}
    {spendLimit expiry : Nat} {signature : Bytes} (hkey : sessionKey ≠ 0)
    (hexpiry : s.timestamp < expiry) (hnonce : s.nonces wallet + 1 < wordSize)
    (hsigned : V.recover (V.hashTypedDataV4 (registrationData wallet
      sessionKey spendLimit expiry (s.nonces wallet))) signature =
        some wallet) :
    ∃ s', registerSessionKeyWithSignature V s wallet sessionKey spendLimit
        expiry signature = .ok s' ∧
      (s'.sessionKeys sessionKey).mainWallet = wallet := by
  simp only [registerSessionKeyWithSignature, bind_eq_ok, ensure_eq_ok,
    useNonce_eq_ok, recoverSigner_eq_ok, pure_eq_ok]
  refine ⟨_, ⟨(), hkey, (), hexpiry, _, ⟨hnonce, rfl⟩, _, hsigned, (), rfl,
    rfl⟩, ?_⟩
  simp [State.emit, State.recordSessionKey]

theorem step_of_execute {s s' last : State τ} {tx : Tx}
    (h : step V s (.tx tx) = some s')
    (hok : execute V (s.at tx.timestamp) tx.sender tx.call = .ok last) :
    s' = last := by
  simp only [step, hok] at h
  split at h
  · exact (Option.some.inj h).symm
  · contradiction

theorem PassingRegistration.owner {s s' : State τ} {a : Action τ}
    (hpassing : PassingRegistration V s sessionKey a)
    (h : step V s a = some s') :
    ActionOf V s (s'.sessionKeys sessionKey).mainWallet a := by
  cases hpassing with
  | direct caller now spendLimit duration hkey hlimit hduration hfits =>
      obtain ⟨last, hok, howner⟩ := registerSessionKey_passes (s := s.at now)
        caller hkey hlimit hduration hfits
      rw [step_of_execute h hok, howner]
      exact .sent now _
  | signed caller now owner spendLimit expiry signature hkey hexpiry hnonce
      hsigned =>
      obtain ⟨last, hok, howner⟩ := registerSessionKeyWithSignature_passes
        (s := s.at now) hkey hexpiry hnonce hsigned
      rw [step_of_execute h hok, howner]
      exact .signed caller now sessionKey spendLimit expiry signature hsigned

/-- The record keeps its terms, and only a payment signed by the key spends. -/
structure KeyKept (V : GPUVault τ) (r : VaultStep τ) (sessionKey : Address) :
    Prop where
  mainWallet : (r.post.sessionKeys sessionKey).mainWallet =
    (r.pre.sessionKeys sessionKey).mainWallet
  spendLimit : (r.post.sessionKeys sessionKey).spendLimit =
    (r.pre.sessionKeys sessionKey).spendLimit
  expiry : (r.post.sessionKeys sessionKey).expiry =
    (r.pre.sessionKeys sessionKey).expiry
  isActive : (r.post.sessionKeys sessionKey).isActive =
    (r.pre.sessionKeys sessionKey).isActive
  spent : (r.post.sessionKeys sessionKey).spentAmount =
      (r.pre.sessionKeys sessionKey).spentAmount ∨
    ∃ tx recipient amount jobId deadline signature, Succeeds V r tx ∧
      tx.call = .processPaymentWithSessionKey sessionKey recipient amount jobId
        deadline signature ∧
      V.recover (V.hashTypedDataV4 (paymentData
        (r.pre.sessionKeys sessionKey).mainWallet recipient amount jobId
        (r.pre.nonces sessionKey) deadline)) signature = some sessionKey ∧
      (r.post.sessionKeys sessionKey).spentAmount =
        (r.pre.sessionKeys sessionKey).spentAmount + amount

private theorem keyKept_of_not_passing (h : step V r.pre r.act = some r.post)
    (howner : (r.pre.sessionKeys sessionKey).mainWallet = wallet)
    (hforeign : ¬ ActionOf V r.pre wallet r.act)
    (hpassing : ¬ PassingRegistration V r.pre sessionKey r.act) :
    KeyKept V r sessionKey := by
  cases keyChange h sessionKey with
  | kept hrecord => exact ⟨by rw [hrecord], by rw [hrecord], by rw [hrecord],
      by rw [hrecord], .inl (by rw [hrecord])⟩
  | registered owner spendLimit expiry hregisters =>
      exact absurd hregisters.passing hpassing
  | revoked tx hact hsender =>
      obtain ⟨caller, now, call⟩ := tx
      refine absurd ?_ hforeign
      rw [hact, ← howner, hsender]
      exact .sent now call
  | paid tx recipient amount jobId deadline signature hok hcall hsigned
      hrecord =>
      refine ⟨by rw [hrecord], by rw [hrecord], by rw [hrecord],
        by rw [hrecord], .inr ?_⟩
      exact ⟨tx, recipient, amount, jobId, deadline, signature, hok, hcall,
        hsigned, by rw [hrecord]⟩

/-! ## Runs -/

variable {guard : Guard (State τ) (Action τ)} {token : τ}
  {deployer feeRecipient : Address} {timestamp : Nat}
  {past before after : List (VaultStep τ)} {s : State τ}

/--
In every run, a step that is not of the wallet leaves the wallet's key alone,
active or not, exactly when it is not a registration of that key that passes its
checks.
-/
theorem key_record_kept_iff
    (hrun : Run (step V) guard (deployed token deployer feeRecipient timestamp)
      past s) (hr : r ∈ past)
    (howner : (r.pre.sessionKeys sessionKey).mainWallet = wallet)
    (hforeign : ¬ ActionOf V r.pre wallet r.act) :
    KeyKept V r sessionKey ↔
      ¬ PassingRegistration V r.pre sessionKey r.act := by
  have hstep := hrun.step_of_mem hr
  constructor
  · intro hkept hpassing
    have hnew := hpassing.owner hstep
    rw [hkept.mainWallet, howner] at hnew
    exact hforeign hnew
  · exact keyKept_of_not_passing hstep howner hforeign

structure HasTerms (key : SessionKey) (spent : Nat) (later : SessionKey) :
    Prop where
  mainWallet : later.mainWallet = key.mainWallet
  spendLimit : later.spendLimit = key.spendLimit
  expiry : later.expiry = key.expiry
  isActive : later.isActive = true
  spent : spent ≤ later.spentAmount

theorem HasTerms.step {key : SessionKey} {spent : Nat}
    (h : step V r.pre r.act = some r.post)
    (hterms : HasTerms key spent (r.pre.sessionKeys sessionKey))
    (hforeign : ¬ ActionOf V r.pre key.mainWallet r.act)
    (hpassing : ¬ PassingRegistration V r.pre sessionKey r.act) :
    HasTerms key spent (r.post.sessionKeys sessionKey) := by
  have hkept := keyKept_of_not_passing h hterms.mainWallet hforeign hpassing
  refine ⟨hkept.mainWallet.trans hterms.mainWallet,
    hkept.spendLimit.trans hterms.spendLimit,
    hkept.expiry.trans hterms.expiry, hkept.isActive.trans hterms.isActive, ?_⟩
  have hspent := hterms.spent
  rcases hkept.spent with hsame | ⟨_, _, amount, _, _, _, _, _, _, hpaid⟩
  · omega
  · omega

/--
While nobody registers it anew and the wallet does nothing, an active key keeps
its terms through any number of steps.
-/
theorem key_terms_along
    (hrun : Run (step V) guard (deployed token deployer feeRecipient timestamp)
      (before ++ r :: after) s)
    (hactive : (r.post.sessionKeys sessionKey).isActive = true)
    (hforeign : ∀ r' ∈ after, ¬ ActionOf V r'.pre
      (r.post.sessionKeys sessionKey).mainWallet r'.act)
    (hpassing : ∀ r' ∈ after, ¬ PassingRegistration V r'.pre sessionKey r'.act) :
    HasTerms (r.post.sessionKeys sessionKey)
      (r.post.sessionKeys sessionKey).spentAmount (s.sessionKeys sessionKey) := by
  apply hrun.since (I := fun s => HasTerms (r.post.sessionKeys sessionKey)
    (r.post.sessionKeys sessionKey).spentAmount (s.sessionKeys sessionKey))
  · exact ⟨rfl, rfl, rfl, hactive, le_rfl⟩
  · intro r' hr' h hterms
    exact hterms.step h (hforeign r' hr') (hpassing r' hr')

/-- A stranger's revocation reverts and leaves the key of account 1 alone. -/
theorem key_record_kept_revocation :
    ∃ r : VaultStep ERC20, r.act = .tx ⟨3, 30, .revokeSessionKey 2⟩ ∧
      (r.pre.sessionKeys 2).mainWallet = 1 ∧ KeyKept sampleVault r 2 := by
  have hkey := (Run.nil : Run (step sampleVault) anyStep sampleState [] _).take
    (.tx ⟨1, 20, .registerSessionKey 2 10 3600⟩) trivial rfl
  have hrevoke := hkey.take (.tx ⟨3, 30, .revokeSessionKey 2⟩) trivial rfl
  refine ⟨_, rfl, by decide, (key_record_kept_iff hrevoke
    (List.mem_append_right _ (List.mem_singleton_self _))
    (by decide : _ = (1 : Address)) ?_).mpr ?_⟩
  · intro h
    cases h
  · intro h
    cases h

/-! ## Another account's registration -/

/--
Account 3 registers the session key of account 1, and the record, spend limit
and expiry are account 3's from then on.
-/
theorem stranger_takes_key :
    ∃ (past : List (VaultStep ERC20)) (s : State ERC20) (r : VaultStep ERC20),
      Run (step sampleVault) anyStep sampleState past s ∧ r ∈ past ∧
      r.act = .tx ⟨3, 30, .registerSessionKey 2 1 1⟩ ∧
      (r.pre.sessionKeys 2).isActive = true ∧
      (r.pre.sessionKeys 2).mainWallet = 1 ∧
      ¬ ActionOf sampleVault r.pre 1 r.act ∧ ¬ KeyKept sampleVault r 2 := by
  have hkey := (Run.nil : Run (step sampleVault) anyStep sampleState [] _).take
    (.tx ⟨1, 20, .registerSessionKey 2 10 3600⟩) trivial rfl
  have htake := hkey.take (.tx ⟨3, 30, .registerSessionKey 2 1 1⟩) trivial rfl
  refine ⟨_, _, _, htake, List.mem_append_right _ (List.mem_singleton_self _),
    rfl, by decide, by decide, ?_, ?_⟩
  · intro h
    cases h
  · intro h
    have howner := h.mainWallet
    revert howner
    decide

end WorldlandBroker.Vault
