import WorldlandBroker.Vault.Settlement

/-!
# Who rules the vault

The owner, the platform fee and its recipient.  They change by the owner's calls
only, the log names the owner, and once the ownership has been renounced they stay.
-/

namespace WorldlandBroker.Vault

open Foundation

variable {τ : Type} {V : GPUVault τ} {s s' : State τ} {r : VaultStep τ}
  {past before after : List (VaultStep τ)}

structure Rules where
  owner : Address
  platformFeeBps : Nat
  feeRecipient : Address
  deriving DecidableEq

def State.rules (s : State τ) : Rules := ⟨s.owner, s.platformFeeBps, s.feeRecipient⟩

/-- The address zero sends no transaction. -/
def sentBySomeone : Guard (State τ) (Action τ) := fun _ _ a =>
  ∀ tx, a = .tx tx → tx.sender ≠ 0

structure Governs (V : GPUVault τ) (account : Address) (r : VaultStep τ) (tx : Tx) : Prop
    extends Succeeds V r tx where
  sender : tx.sender = account
  call : tx.call.administrative

def Event.ownerAfter (owner : Address) : Event → Address
  | .ownershipTransferred _ newOwner => newOwner
  | _ => owner

def loggedOwner (log : List Event) : Address := log.foldl Event.ownerAfter 0

/-! ## One step -/

private theorem loggedOwner_append (log events : List Event) :
    loggedOwner (log ++ events) = events.foldl Event.ownerAfter (loggedOwner log) :=
  List.foldl_append

/-- An ordinary call leaves the rules, and an administrative one comes from the owner. -/
theorem Done.rules {sender : Address} {call : Call} (h : Done V s sender call s') :
    s'.rules = s.rules ∨ sender = s.owner ∧ call.administrative := by
  cases h with
  | setPlatformFee howner | setFeeRecipient howner | transferOwnership howner
  | renounceOwnership howner => exact .inr ⟨howner.symm, trivial⟩
  | _ => exact .inl rfl

private theorem feeTransfer_ownerAfter (recipient owner : Address) (fee : Nat) :
    (feeTransfer recipient fee).foldl Event.ownerAfter owner = owner := by
  unfold feeTransfer
  split <;> rfl

theorem Done.loggedOwner {sender : Address} {call : Call} (h : Done V s sender call s')
    (hlogged : loggedOwner s.log = s.owner) : loggedOwner s'.log = s'.owner := by
  cases h with
  | @endRentalPaid rentalId token hactive hstart hfits hsettles =>
      have hlog : (s.settled rentalId token).log = s.log ++ _ := List.append_assoc s.log _ _
      rw [hlog, loggedOwner_append, List.cons_append, List.foldl_cons, List.foldl_append,
        feeTransfer_ownerAfter]
      exact hlogged
  | endRentalFree | setPlatformFee | setFeeRecipient => exact hlogged
  | transferOwnership | renounceOwnership =>
      rw [assignOwner, State.emit, loggedOwner_append]
      rfl
  | registerSessionKey | registerSessionKeyWithSignature =>
      rw [State.emit, loggedOwner_append]
      exact hlogged
  | _ =>
      rw [loggedOwner_append]
      exact hlogged

private theorem step_rules {a : Action τ} (h : step V s a = some s') :
    s'.rules = s.rules ∨ ∃ tx, Governs V s.owner ⟨s, a, s'⟩ tx := by
  cases step_effect h with
  | @done tx _ htime hok hdone =>
      rcases hdone.rules with hsame | ⟨hsender, hcall⟩
      · exact .inl hsame
      · exact .inr ⟨tx, ⟨rfl, hok⟩, hsender, hcall⟩
  | reverted => exact .inl rfl
  | token => exact .inl rfl

private theorem step_loggedOwner {a : Action τ} (h : step V s a = some s')
    (hlogged : loggedOwner s.log = s.owner) : loggedOwner s'.log = s'.owner := by
  cases step_effect h with
  | done htime hok hdone => exact hdone.loggedOwner hlogged
  | reverted => exact hlogged
  | token => exact hlogged

/-! ## Whole runs -/

variable {guard : Guard (State τ) (Action τ)} {s₀ : State τ}

private theorem rules_frozen (hrun : Run (step V) sentBySomeone s₀ (before ++ r :: after) s)
    (hrenounced : r.post.owner = 0) : s.rules = r.post.rules := by
  apply hrun.sinceRecorded (I := fun _ s => s.rules = r.post.rules) rfl
  intro earlier s a s' _ _ hkept hsent hs
  have howner : s.owner = 0 := (congrArg Rules.owner hkept).trans hrenounced
  rcases step_rules hs with hsame | ⟨tx, hgoverns⟩
  · exact hsame.trans hkept
  · exact absurd (hgoverns.sender.trans howner) (hsent tx hgoverns.act)

theorem loggedOwner_run {token : τ} {deployer feeRecipient : Address} {timestamp : Nat}
    (hrun : Run (step V) guard (deployed token deployer feeRecipient timestamp) past s) :
    loggedOwner s.log = s.owner :=
  hrun.always (I := fun s => loggedOwner s.log = s.owner) rfl
    fun _ _ _ _ hlogged _ hs => step_loggedOwner hs hlogged

/--
Over every run of a deployed vault: a step changes the owner, the fee or its
recipient only as a successful administrative call of the owner before it; the log
names the owner; the fee takes at most a tenth; and from the step on that renounces
the ownership nothing of all this ever changes.
-/
theorem vault_governed {token : τ} {deployer feeRecipient : Address} {timestamp : Nat}
    (hrun : Run (step V) sentBySomeone (deployed token deployer feeRecipient timestamp) past s) :
    loggedOwner s.log = s.owner ∧ (∀ cost, s.fee cost ≤ cost / 10) ∧
      ∀ before r after, past = before ++ r :: after →
        (r.post.rules = r.pre.rules ∨ ∃ tx, Governs V r.pre.owner r tx) ∧
          (r.post.owner = 0 → s.rules = r.post.rules) := by
  refine ⟨loggedOwner_run hrun, fee_le_tenth (feeBps_run hrun), ?_⟩
  rintro before r after rfl
  exact ⟨step_rules (hrun.step_of_mem (by simp)), rules_frozen hrun⟩

/-- The owner raises the fee and leaves; the fee stays raised. -/
theorem vault_governed_sample :
    ∃ (past : List (VaultStep ERC20)) (s : State ERC20),
      Run (step sampleVault) sentBySomeone sampleState past s ∧ past.length = 3 ∧
      loggedOwner s.log = s.owner ∧ s.rules = ⟨0, 1000, 91⟩ := by
  have hsent (tx : Tx) (hsender : tx.sender ≠ 0) (past : List (VaultStep ERC20))
      (s : State ERC20) : sentBySomeone past s (.tx tx) := by
    rintro _ ⟨⟩
    exact hsender
  have hraised := (Run.nil : Run (step sampleVault) sentBySomeone sampleState [] _).take
    (.tx ⟨90, 10, .setPlatformFee 1000⟩) (hsent _ (by decide) _ _) rfl
  have hleft := hraised.take (.tx ⟨90, 20, .renounceOwnership⟩) (hsent _ (by decide) _ _) rfl
  have hrefused := hleft.take (.tx ⟨90, 30, .setPlatformFee 0⟩) (hsent _ (by decide) _ _) rfl
  obtain ⟨hlogged, -, hsteps⟩ := vault_governed hrefused
  exact ⟨_, _, hrefused, rfl, hlogged, (hsteps [_] _ [_] rfl).2 rfl⟩

end WorldlandBroker.Vault
