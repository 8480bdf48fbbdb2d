import WorldlandBroker.Vault.KeyRecords

/-!
# The list of a wallet's session keys

`getUserSessionKeys` answers with every key that was ever registered for a wallet.
A wallet that revokes all of them has cut off every key of its own, whatever other
accounts do meanwhile, for as long as nothing is registered for it anew.
-/

namespace WorldlandBroker.Vault

open Foundation

variable {τ : Type}

/-! ## The list and the log -/

def Event.registeredFor (wallet : Address) : Event → Option Address
  | .sessionKeyRegistered mainWallet sessionKey _ _ =>
      if mainWallet = wallet then some sessionKey else none
  | _ => none

def loggedKeys (wallet : Address) (log : List Event) : List Address :=
  log.filterMap (Event.registeredFor wallet)

private theorem loggedKeys_append (wallet : Address) (log events : List Event) :
    loggedKeys wallet (log ++ events) = loggedKeys wallet log ++ loggedKeys wallet events :=
  List.filterMap_append

private theorem loggedKeys_feeTransfer (wallet recipient : Address) (fee : Nat) :
    loggedKeys wallet (feeTransfer recipient fee) = [] := by
  unfold feeTransfer
  split <;> rfl

inductive Listing (V : GPUVault τ) (r : VaultStep τ) (wallet : Address) : Prop where
  | kept (hlist : r.post.userSessionKeys wallet = r.pre.userSessionKeys wallet)
      (hlog : loggedKeys wallet r.post.log = loggedKeys wallet r.pre.log)
  | added (sessionKey : Address) (spendLimit : Nat)
      (hregisters : Registers V r wallet sessionKey spendLimit)
      (hlist : r.post.userSessionKeys wallet = r.pre.userSessionKeys wallet ++ [sessionKey])
      (hlog : loggedKeys wallet r.post.log = loggedKeys wallet r.pre.log ++ [sessionKey])

variable {V : GPUVault τ} {s s' : State τ} {r : VaultStep τ} {wallet sessionKey : Address}

private theorem recorded (s : State τ) (mainWallet sessionKey : Address) (spendLimit expiry : Nat)
    (wallet : Address) :
    (s.recordSessionKey mainWallet sessionKey spendLimit expiry).userSessionKeys wallet =
      s.userSessionKeys wallet ++ if mainWallet = wallet then [sessionKey] else [] := by
  by_cases hwallet : mainWallet = wallet
  · subst hwallet
    simp [State.recordSessionKey]
  · simp [State.recordSessionKey, hwallet, Function.update_of_ne (Ne.symm hwallet)]

private theorem listing (h : step V r.pre r.act = some r.post) (wallet : Address) :
    Listing V r wallet := by
  obtain ⟨s, a, s'⟩ := r
  have heffect : Effect V s a s' := step_effect h
  cases heffect with
  | token => exact .kept rfl rfl
  | reverted => exact .kept rfl rfl
  | @done tx _ htime hok hdone =>
      obtain ⟨caller, now, call⟩ := tx
      cases hdone with
      | @registerSessionKey key spendLimit duration =>
          by_cases hwallet : caller = wallet
          · subst hwallet
            refine .added key spendLimit (.direct _ duration ⟨rfl, hok⟩ rfl rfl) ?_ ?_
            · simp [State.emit, recorded, State.at]
            · simp [State.emit, State.recordSessionKey, loggedKeys, Event.registeredFor]
          · refine .kept ?_ ?_
            · simp [State.emit, recorded, State.at, hwallet]
            · simp [State.emit, State.recordSessionKey, loggedKeys, Event.registeredFor, hwallet]
      | @registerSessionKeyWithSignature owner key spendLimit expiry signature _ _ _ hsigned =>
          by_cases hwallet : owner = wallet
          · subst hwallet
            refine .added key spendLimit (.signed _ expiry signature ⟨rfl, hok⟩ rfl hsigned)
              ?_ ?_
            · simp [State.emit, recorded, State.at]
            · simp [State.emit, State.recordSessionKey, loggedKeys, Event.registeredFor]
          · refine .kept ?_ ?_
            · simp [State.emit, recorded, State.at, hwallet]
            · simp [State.emit, State.recordSessionKey, loggedKeys, Event.registeredFor, hwallet]
      | @endRentalPaid rentalId token =>
          have hlog : ((s.at now).settled rentalId token).log = s.log ++ _ :=
            List.append_assoc s.log _ _
          refine .kept rfl ?_
          -- the settlement logs transfers and its own end
          have hevents (payment : Nat) (provider recipient : Address) (cost fee : Nat) :
              loggedKeys wallet (.transfer provider payment :: feeTransfer recipient fee ++
                [.rentalEnded rentalId cost fee]) = [] := by
            change loggedKeys wallet (feeTransfer recipient fee ++ _) = []
            rw [loggedKeys_append, loggedKeys_feeTransfer]
            rfl
          rw [hlog, loggedKeys_append, hevents, List.append_nil]
      | endRentalFree | setPlatformFee | setFeeRecipient => exact .kept rfl rfl
      | _ => exact .kept rfl (by simp [loggedKeys, Event.registeredFor, assignOwner, State.emit])

/-! ## Every active key is listed -/

theorem Registers.listed {spendLimit : Nat} (h : Registers V r wallet sessionKey spendLimit) :
    sessionKey ∈ r.post.userSessionKeys wallet := by
  obtain ⟨s, a, s'⟩ := r
  cases h with
  | direct tx duration hok hsender hcall =>
      obtain ⟨caller, now, call⟩ := tx
      obtain ⟨rfl, hok⟩ := hok
      cases hcall
      cases hsender
      have hdone : Done V (s.at now) caller _ s' := execute_eq_ok hok
      cases hdone
      simp [State.emit, recorded]
  | signed tx expiry signature hok hcall hsigned =>
      obtain ⟨caller, now, call⟩ := tx
      obtain ⟨rfl, hok⟩ := hok
      cases hcall
      have hdone : Done V (s.at now) caller _ s' := execute_eq_ok hok
      cases hdone
      simp [State.emit, recorded]

structure KeysListed (s : State τ) : Prop where
  logged : ∀ wallet, s.userSessionKeys wallet = loggedKeys wallet s.log
  active : ∀ sessionKey, (s.sessionKeys sessionKey).isActive = true →
    sessionKey ∈ s.userSessionKeys (s.sessionKeys sessionKey).mainWallet

theorem Listing.mem (h : Listing V r wallet) (hmem : sessionKey ∈ r.pre.userSessionKeys wallet) :
    sessionKey ∈ r.post.userSessionKeys wallet := by
  cases h with
  | kept hlist => rwa [hlist]
  | added key spendLimit hregisters hlist =>
      rw [hlist]
      exact List.mem_append_left _ hmem

theorem KeysListed.step (h : KeysListed r.pre) (hstep : Vault.step V r.pre r.act = some r.post) :
    KeysListed r.post where
  logged wallet := by
    cases listing hstep wallet with
    | kept hlist hlog => rw [hlist, hlog, h.logged]
    | added key spendLimit hregisters hlist hlog => rw [hlist, hlog, h.logged]
  active sessionKey hactive := by
    have hlisting := listing hstep
    cases keyChange hstep sessionKey with
    | kept hrecord =>
        rw [hrecord] at hactive ⊢
        exact (hlisting _).mem (h.active sessionKey hactive)
    | registered owner spendLimit expiry hregisters hrecord =>
        rw [hrecord]
        exact hregisters.listed
    | revoked tx hact hsender hrecord =>
        rw [hrecord] at hactive
        cases hactive
    | paid tx recipient amount jobId deadline signature hok hcall hsigned hrecord =>
        rw [hrecord] at hactive ⊢
        exact (hlisting _).mem (h.active sessionKey hactive)

/-! ## A wallet that revokes them all -/

def CutOff (wallet sessionKey : Address) (s : State τ) : Prop :=
  (s.sessionKeys sessionKey).mainWallet = wallet → (s.sessionKeys sessionKey).isActive = false

/-- A revocation that fails was about another wallet's key. -/
theorem cutOff_of_revocation {now : Nat}
    (h : step V s (.tx ⟨wallet, now, .revokeSessionKey sessionKey⟩) = some s') :
    CutOff wallet sessionKey s' := by
  have heffect := step_effect h
  cases heffect with
  | done htime hok hdone =>
      cases hdone
      simp [CutOff]
  | reverted htime herror =>
      intro howner
      rw [State.at_sessionKeys] at howner
      simp [execute, revokeSessionKey, ensure, howner, bind, Except.bind, pure, Except.pure]
        at herror

theorem CutOff.step (h : CutOff wallet sessionKey r.pre)
    (hstep : Vault.step V r.pre r.act = some r.post)
    (hnone : ∀ key spendLimit, ¬ Registers V r wallet key spendLimit) :
    CutOff wallet sessionKey r.post := by
  intro howner
  cases keyChange hstep sessionKey with
  | kept hrecord =>
      rw [hrecord] at howner ⊢
      exact h howner
  | registered owner spendLimit expiry hregisters hrecord =>
      rw [hrecord] at howner
      subst howner
      exact absurd hregisters (hnone sessionKey spendLimit)
  | revoked tx hact hsender hrecord => rw [hrecord]
  | paid tx recipient amount jobId deadline signature hok hcall hsigned hrecord =>
      rw [hrecord] at howner ⊢
      exact h howner

/-! ## Along every run -/

variable {guard guard' : Guard (State τ) (Action τ)} {s₀ : State τ}
  {past after : List (VaultStep τ)}

theorem keysListed_run {token : τ} {deployer feeRecipient : Address} {timestamp : Nat}
    (hrun : Run (step V) guard (deployed token deployer feeRecipient timestamp) past s) :
    KeysListed s :=
  hrun.always ⟨fun _ => rfl, fun _ h => Bool.noConfusion h⟩
    fun _ s a s' h _ hs => KeysListed.step (r := ⟨s, a, s'⟩) h hs

private theorem userSessionKeys_kept (hrun : Run (step V) guard s₀ after s)
    (hnone : ∀ r ∈ after, ∀ key spendLimit, ¬ Registers V r wallet key spendLimit) :
    s.userSessionKeys wallet = s₀.userSessionKeys wallet := by
  induction hrun with
  | nil => rfl
  | @snoc after s s' a hrun _ hs ih =>
      rw [← ih fun r hr => hnone r (List.mem_append_left _ hr)]
      cases listing (r := ⟨s, a, s'⟩) hs wallet with
      | kept hlist => exact hlist
      | added key spendLimit hregisters =>
          exact absurd hregisters (hnone _ (by simp) key spendLimit)

theorem cutOff_run (hrun : Run (step V) guard s₀ after s)
    (hnone : ∀ r ∈ after, ∀ key spendLimit, ¬ Registers V r wallet key spendLimit)
    {now : Nat} (hr : r ∈ after) (hact : r.act = .tx ⟨wallet, now, .revokeSessionKey sessionKey⟩) :
    CutOff wallet sessionKey s := by
  obtain ⟨before, later, rfl⟩ := List.append_of_mem hr
  apply hrun.since (I := CutOff wallet sessionKey)
  · have hstep := hrun.step_of_mem hr
    rw [hact] at hstep
    exact cutOff_of_revocation hstep
  · intro r' hr' hs hpre
    exact hpre.step hs (hnone r' (by simp [hr']))

/--
In every run of a deployed vault a wallet's list is what the log tells, and has
every key that is active for it.  From any state of it on, a wallet that sends a
revocation for each key it has listed then has no active key at all, whatever else
is called in between, unless something is registered for it anew.
-/
theorem session_keys_listed {token : τ} {deployer feeRecipient : Address} {timestamp : Nat}
    (hrun : Run (step V) guard (deployed token deployer feeRecipient timestamp) past s₀) :
    (∀ wallet, s₀.userSessionKeys wallet = loggedKeys wallet s₀.log) ∧
    (∀ sessionKey, (s₀.sessionKeys sessionKey).isActive = true →
      sessionKey ∈ s₀.userSessionKeys (s₀.sessionKeys sessionKey).mainWallet) ∧
    ∀ wallet after s, Run (step V) guard' s₀ after s →
      (∀ sessionKey ∈ s₀.userSessionKeys wallet, ∃ r ∈ after, ∃ now,
        r.act = .tx ⟨wallet, now, .revokeSessionKey sessionKey⟩) →
      (∀ r ∈ after, ∀ key spendLimit, ¬ Registers V r wallet key spendLimit) →
      ∀ sessionKey, (s.sessionKeys sessionKey).mainWallet = wallet →
        (s.sessionKeys sessionKey).isActive = false := by
  have hlisted := keysListed_run hrun
  refine ⟨hlisted.logged, hlisted.active, ?_⟩
  intro wallet after s hlater hrevoked hnone sessionKey howner
  by_contra hstill
  have hactive : (s.sessionKeys sessionKey).isActive = true := by simpa using hstill
  have hafter : KeysListed s :=
    hlater.always hlisted fun _ s a s' h _ hs => KeysListed.step (r := ⟨s, a, s'⟩) h hs
  have hmem := hafter.active sessionKey hactive
  rw [howner, userSessionKeys_kept hlater hnone] at hmem
  obtain ⟨r, hr, now, hact⟩ := hrevoked sessionKey hmem
  exact hstill (cutOff_run hlater hnone hr hact howner)

/-! ## Two keys of one wallet -/

def twoKeys : State ERC20 :=
  ((trace (step sampleVault) sampleState [.tx ⟨1, 10, .registerSessionKey 2 500 3600⟩,
    .tx ⟨1, 11, .registerSessionKey 3 500 3600⟩]).get rfl).2

/-- The wallet's second key goes to another wallet before it is revoked. -/
theorem session_keys_listed_sample :
    twoKeys.userSessionKeys 1 = [2, 3] ∧ ∃ s : State ERC20,
      (s.sessionKeys 2).mainWallet = 1 ∧ (s.sessionKeys 2).isActive = false ∧
      (s.sessionKeys 3).mainWallet = 5 ∧ (s.sessionKeys 3).isActive = true := by
  have hsecond : Run (step sampleVault) anyStep sampleState _ twoKeys := Run.of_isSome rfl
  have hrevoked := (Run.nil : Run (step sampleVault) anyStep twoKeys [] _).take
    (.tx ⟨1, 20, .revokeSessionKey 2⟩) trivial rfl
  have htaken := hrevoked.take (.tx ⟨5, 21, .registerSessionKey 3 500 3600⟩) trivial rfl
  have hrefused := htaken.take (.tx ⟨1, 22, .revokeSessionKey 3⟩) trivial rfl
  obtain ⟨-, -, hcut⟩ := session_keys_listed hsecond
  refine ⟨rfl, _, rfl, hcut 1 _ _ hrefused ?_ ?_ 2 rfl, rfl, rfl⟩
  · intro sessionKey hkey
    have hlisted : sessionKey ∈ [2, 3] := hkey
    rcases List.mem_pair.mp hlisted with rfl | rfl
    · exact ⟨_, List.mem_append_left _ (List.mem_append_left _
        (List.mem_append_right _ (List.mem_singleton_self _))), 20, rfl⟩
    · exact ⟨_, List.mem_append_right _ (List.mem_singleton_self _), 22, rfl⟩
  · intro r hr key spendLimit hregisters
    have hnothing {tx : Tx} {revoked : Address} (hact : r.act = .tx tx)
        (hcall : tx.call = .revokeSessionKey revoked) : False := by
      cases hregisters with
      | direct tx' duration hok hsender hcall' =>
          cases hok.act.symm.trans hact
          cases hcall.symm.trans hcall'
      | signed tx' expiry signature hok hcall' =>
          cases hok.act.symm.trans hact
          cases hcall.symm.trans hcall'
    have haction := hregisters.actionOf
    simp only [List.nil_append, List.cons_append, List.mem_cons, List.not_mem_nil,
      or_false] at hr
    rcases hr with rfl | rfl | rfl
    · exact hnothing rfl rfl
    · cases haction
    · exact hnothing rfl rfl

end WorldlandBroker.Vault
