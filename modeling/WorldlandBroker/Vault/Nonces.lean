import WorldlandBroker.Vault.Rentals

/-!
# Nonces and signed messages

One `nonces` mapping serves wallets, which sign registrations, and session
keys, which sign payments.  A nonce moves only when a message of its account is
accepted, so it counts these messages and none of them is accepted twice.
-/

namespace WorldlandBroker.Vault

open Foundation

variable {τ : Type}

inductive Message where
  | registration (mainWallet sessionKey : Address)
      (spendLimit expiry nonce : Nat)
  | payment (mainWallet recipient : Address) (amount : Nat) (jobId : String)
      (nonce deadline : Nat)
  deriving DecidableEq

def Message.typedData : Message → TypedData
  | .registration mainWallet sessionKey spendLimit expiry nonce =>
      registrationData mainWallet sessionKey spendLimit expiry nonce
  | .payment mainWallet recipient amount jobId nonce deadline =>
      paymentData mainWallet recipient amount jobId nonce deadline

def Message.nonce : Message → Nat
  | .registration _ _ _ _ nonce => nonce
  | .payment _ _ _ _ nonce _ => nonce

theorem Message.typedData_injective :
    Function.Injective Message.typedData := by
  intro message message' h
  cases message with
  | registration =>
      cases message' with
      | registration =>
          simpa [Message.typedData, registrationData] using h
      | payment =>
          simp [Message.typedData, registrationData, paymentData] at h
  | payment =>
      cases message' with
      | registration =>
          simp [Message.typedData, registrationData, paymentData] at h
      | payment =>
          simpa [Message.typedData, paymentData] using h

/--
The account whose signature a call must carry, the message it must be over, and
the signature the call carries.
-/
def Call.signed (s : State τ) : Call → Option (Address × Message × Bytes)
  | .registerSessionKeyWithSignature mainWallet sessionKey spendLimit expiry
      signature =>
      some (mainWallet, .registration mainWallet sessionKey spendLimit expiry
        (s.nonces mainWallet), signature)
  | .processPaymentWithSessionKey sessionKey recipient amount jobId deadline
      signature =>
      some (sessionKey, .payment (s.sessionKeys sessionKey).mainWallet recipient
        amount jobId (s.nonces sessionKey) deadline, signature)
  | _ => none

structure Accepts (V : GPUVault τ) (r : VaultStep τ) (signer : Address)
    (message : Message) (signature : Bytes) : Prop where
  succeeds : ∃ tx, Succeeds V r tx ∧
    tx.call.signed (r.pre.at tx.timestamp) = some (signer, message, signature)

def Call.registersFor (account : Address) : Call → Bool
  | .registerSessionKeyWithSignature mainWallet _ _ _ _ => mainWallet == account
  | _ => false

def Call.paysWith (account : Address) : Call → Bool
  | .processPaymentWithSessionKey sessionKey _ _ _ _ _ => sessionKey == account
  | _ => false

def succeeded (V : GPUVault τ) (p : Call → Bool) (r : VaultStep τ) : Bool :=
  match r.act with
  | .tx tx =>
      p tx.call && (execute V (r.pre.at tx.timestamp) tx.sender tx.call).isOk
  | .token _ => false

def successes (V : GPUVault τ) (p : Call → Bool) (past : List (VaultStep τ)) :
    Nat :=
  past.countP (succeeded V p)

variable {V : GPUVault τ} {s s' : State τ} {r : VaultStep τ} {signer : Address}
  {message : Message} {signature : Bytes}

/-! ## One step -/

theorem Done.nonces_of_signed {sender : Address} {call : Call}
    (h : Done V s sender call s')
    (hsigned : call.signed s = some (signer, message, signature)) :
    message.nonce = s.nonces signer ∧
      V.recover (V.hashTypedDataV4 message.typedData) signature = some signer ∧
      s'.nonces = Function.update s.nonces signer (s.nonces signer + 1) := by
  cases h with
  | registerSessionKeyWithSignature hkey hexpiry hnonce hsigner =>
      cases hsigned
      exact ⟨rfl, hsigner, rfl⟩
  | processPaymentWithSessionKey _ _ _ _ _ _ hsigner _ _ =>
      cases hsigned
      exact ⟨rfl, hsigner, rfl⟩
  | _ => simp [Call.signed] at hsigned

private theorem nonces_bump (nonces : Address → Nat) (signer account : Address) :
    Function.update nonces signer (nonces signer + 1) account =
      nonces account + (signer == account).toNat := by
  by_cases hsigner : signer = account
  · subst hsigner
    simp
  · have hne : account ≠ signer := fun heq => hsigner heq.symm
    simp [hsigner, hne]

theorem Done.nonces_apply {sender : Address} {call : Call}
    (h : Done V s sender call s') (account : Address) :
    s'.nonces account = s.nonces account +
      ((call.registersFor account).toNat + (call.paysWith account).toNat) := by
  cases h with
  | registerSessionKeyWithSignature =>
      exact nonces_bump s.nonces _ account
  | processPaymentWithSessionKey =>
      simpa [Call.registersFor] using! nonces_bump s.nonces _ account
  | _ => rfl

private theorem nonces_step (h : step V r.pre r.act = some r.post) (account : Address) :
    r.post.nonces account = r.pre.nonces account +
      ((succeeded V (Call.registersFor account) r).toNat +
        (succeeded V (Call.paysWith account) r).toNat) := by
  obtain ⟨s, a, s'⟩ := r
  have heffect : Effect V s a s' := step_effect h
  cases heffect with
  | token => rfl
  | reverted htime herror =>
      simp [succeeded, herror, Except.isOk, Except.toBool]
  | done htime hok hdone =>
      have hnonces := hdone.nonces_apply account
      simpa [succeeded, hok, Except.isOk, Except.toBool] using hnonces

theorem Accepts.step (h : Accepts V r signer message signature) :
    message.nonce = r.pre.nonces signer ∧
      V.recover (V.hashTypedDataV4 message.typedData) signature = some signer ∧
      r.post.nonces signer = r.pre.nonces signer + 1 := by
  obtain ⟨tx, hsucceeds, hsigned⟩ := h
  have hdone := execute_eq_ok hsucceeds.ok
  obtain ⟨hnonce, hsigner, hnonces⟩ := hdone.nonces_of_signed hsigned
  refine ⟨hnonce, hsigner, ?_⟩
  rw [hnonces]
  simp

/-! ## Runs -/

variable {guard : Guard (State τ) (Action τ)} {token : τ}
  {deployer feeRecipient : Address} {timestamp : Nat} {past : List (VaultStep τ)}

private theorem successes_snoc (p : Call → Bool) :
    successes V p (past ++ [r]) = successes V p past + (succeeded V p r).toNat := by
  simp only [successes, List.countP_append, List.countP_singleton]
  cases succeeded V p r <;> rfl

private theorem nonces_count
    (hrun : Run (step V) guard (deployed token deployer feeRecipient timestamp)
      past s) (account : Address) :
    s.nonces account = successes V (Call.registersFor account) past +
      successes V (Call.paysWith account) past := by
  induction hrun with
  | nil => rfl
  | @snoc past s s' a _ _ h ih =>
      have hstep := nonces_step (r := ⟨s, a, s'⟩) h account
      change s'.nonces account = s.nonces account + _ at hstep
      rw [successes_snoc, successes_snoc]
      omega

/-- Every message accepted so far carries a nonce that its signer has passed. -/
theorem accepted_below
    (hrun : Run (step V) guard (deployed token deployer feeRecipient timestamp)
      past s) :
    ∀ r ∈ past, ∀ signer message signature,
      Accepts V r signer message signature → message.nonce < s.nonces signer := by
  induction hrun with
  | nil => simp
  | @snoc past s s' a _ _ h ih =>
      intro r hr signer message signature haccepts
      have hmono : s.nonces signer ≤ s'.nonces signer := by
        have hstep := nonces_step (r := ⟨s, a, s'⟩) h signer
        change s'.nonces signer = s.nonces signer + _ at hstep
        omega
      rcases List.mem_append.mp hr with hr | hr
      · exact (ih r hr signer message signature haccepts).trans_le hmono
      · obtain rfl := List.mem_singleton.mp hr
        obtain ⟨hnonce, -, hnext⟩ := haccepts.step
        change s'.nonces signer = s.nonces signer + 1 at hnext
        change message.nonce = s.nonces signer at hnonce
        omega

/--
No account has one digest accepted by both steps.  A payment tuple does not name
the key that signs it: under two keys it makes two signed messages.
-/
def Unrepeated (V : GPUVault τ) (r r' : VaultStep τ) : Prop :=
  ∀ signer message signature message' signature',
    Accepts V r signer message signature →
    Accepts V r' signer message' signature' →
    V.hashTypedDataV4 message.typedData ≠ V.hashTypedDataV4 message'.typedData

private theorem accepted_once (hhash : Function.Injective V.hashTypedDataV4)
    (hrun : Run (step V) guard (deployed token deployer feeRecipient timestamp)
      past s) : past.Pairwise (Unrepeated V) := by
  induction hrun with
  | nil => exact .nil
  | @snoc past s s' a hrun _ h ih =>
      refine List.pairwise_append.mpr ⟨ih, List.pairwise_singleton _ _, ?_⟩
      intro r hr r' hr' signer message signature message' signature' haccepts
        haccepts' hdigest
      obtain rfl := List.mem_singleton.mp hr'
      have hbelow := accepted_below hrun r hr signer message signature haccepts
      obtain ⟨hnonce, -, -⟩ := haccepts'.step
      have hmessage : message = message' :=
        Message.typedData_injective (hhash hdigest)
      subst hmessage
      change message.nonce = s.nonces signer at hnonce
      omega

/--
A nonce counts the registrations and payments accepted under signatures of its
account, and no account has a message accepted twice.
-/
theorem signed_messages_once (hhash : Function.Injective V.hashTypedDataV4)
    (hrun : Run (step V) guard (deployed token deployer feeRecipient timestamp)
      past s) :
    (∀ account, s.nonces account =
      successes V (Call.registersFor account) past +
        successes V (Call.paysWith account) past) ∧
      past.Pairwise (Unrepeated V) :=
  ⟨nonces_count hrun, accepted_once hhash hrun⟩

/-- Key 2 has its one signed payment accepted; sending it again reverts. -/
theorem signed_messages_once_replay :
    ∃ (past : List (VaultStep ERC20)) (s : State ERC20),
      successes sampleVault (Call.paysWith 2) past = 1 ∧ s.nonces 2 = 1 ∧
      past.Pairwise (Unrepeated sampleVault) := by
  let payment : Action ERC20 :=
    .tx ⟨90, 30, .processPaymentWithSessionKey 2 92 7 "job-2" 100 [27]⟩
  have hrun := Run.of_isSome (show (trace (step sampleVault) sampleState
    [.tx ⟨1, 10, .deposit 1000⟩, .tx ⟨1, 20, .registerSessionKey 2 10 3600⟩,
      payment, payment]).isSome = true by decide)
  obtain ⟨hcount, honce⟩ :=
    signed_messages_once Function.injective_id hrun
  exact ⟨_, _, by decide, by rw [hcount 2]; decide, honce⟩

end WorldlandBroker.Vault
