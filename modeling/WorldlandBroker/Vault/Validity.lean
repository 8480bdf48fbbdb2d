import WorldlandBroker.Vault.KeyRecords

/-!
# The terms of keys and rentals

`registerSessionKey` bounds the spend limit and the duration and `startRental`
the price.  Their delegated siblings check neither, so the terms of a record
hold along a run exactly when no delegated call that passes its checks asks for
others.
-/

namespace WorldlandBroker.Vault

open Foundation

variable {τ : Type} {V : GPUVault τ}

def LastRegisteredBy (V : GPUVault τ) (past : List (VaultStep τ))
    (sessionKey : Address) : VaultStep τ → Prop :=
  LastWith (fun r => ∃ wallet spendLimit, Registers V r wallet sessionKey spendLimit) past

/-- What the direct functions demand, of every record whoever made it. -/
structure ValidRecords (V : GPUVault τ) (past : List (VaultStep τ)) (s : State τ) :
    Prop where
  spendLimit : ∀ sessionKey r, LastRegisteredBy V past sessionKey r →
    0 < (s.sessionKeys sessionKey).spendLimit
  expiry : ∀ sessionKey r, LastRegisteredBy V past sessionKey r →
    r.post.timestamp < (s.sessionKeys sessionKey).expiry ∧
      (s.sessionKeys sessionKey).expiry ≤ r.post.timestamp + maxDuration
  price : ∀ rentalId < s.rentalCount, 0 < (s.rentals rentalId).pricePerSecond

/--
A delegated call that passes every check it makes, on terms that its direct
sibling refuses.
-/
inductive UncheckedTerms (V : GPUVault τ) (s : State τ) : Action τ → Prop where
  | registration (caller : Address) (now : Nat) (wallet sessionKey : Address)
      (spendLimit expiry : Nat) (signature : Bytes)
      (hkey : sessionKey ≠ 0) (hexpiry : now < expiry)
      (hnonce : s.nonces wallet + 1 < wordSize)
      (hsigned : V.recover (V.hashTypedDataV4 (registrationData wallet
        sessionKey spendLimit expiry (s.nonces wallet))) signature = some wallet)
      (hterms : spendLimit = 0 ∨ now + maxDuration < expiry) :
      UncheckedTerms V s (.tx ⟨caller, now, .registerSessionKeyWithSignature wallet
        sessionKey spendLimit expiry signature⟩)
  | rental (caller : Address) (now : Nat) (sessionKey provider : Address)
      (jobId : String) (hactive : (s.sessionKeys sessionKey).isActive = true)
      (hexpiry : now ≤ (s.sessionKeys sessionKey).expiry)
      (hdeposit : 0 < s.deposits (s.sessionKeys sessionKey).mainWallet)
      (hfits : s.rentalCount + 1 < wordSize) :
      UncheckedTerms V s
        (.tx ⟨caller, now, .startRentalWithSessionKey sessionKey provider 0 jobId⟩)

variable {r : VaultStep τ} {sessionKey wallet : Address} {spendLimit : Nat}

/-! ## One registration -/

theorem Succeeds.of_ok {s s' last : State τ} {tx : Tx} (h : step V s (.tx tx) = some s')
    (hok : execute V (s.at tx.timestamp) tx.sender tx.call = .ok last) :
    Succeeds V ⟨s, .tx tx, s'⟩ tx := by
  refine ⟨rfl, ?_⟩
  rw [hok, step_of_execute h hok]

theorem Registers.terms (h : Registers V r wallet sessionKey spendLimit) :
    ∃ expiry, r.post.sessionKeys sessionKey = ⟨wallet, spendLimit, 0, expiry, true⟩ ∧
      r.post.timestamp < expiry ∧
      (¬ UncheckedTerms V r.pre r.act →
        0 < spendLimit ∧ expiry ≤ r.post.timestamp + maxDuration) := by
  obtain ⟨s, a, s'⟩ := r
  cases h with
  | direct tx duration hok hsender hcall =>
      obtain ⟨caller, now, call⟩ := tx
      obtain ⟨rfl, hok⟩ := hok
      cases hcall
      cases hsender
      have hdone : Done V (s.at now) caller _ s' := execute_eq_ok hok
      cases hdone with
      | registerSessionKey hkey hlimit hduration hfits =>
          refine ⟨now + duration, Function.update_self .., ?_, fun _ => ⟨hlimit, ?_⟩⟩
          · exact Nat.lt_add_of_pos_right hduration.1
          · exact Nat.add_le_add_left hduration.2 now
  | signed tx expiry signature hok hcall hsigned =>
      obtain ⟨caller, now, call⟩ := tx
      obtain ⟨rfl, hok⟩ := hok
      cases hcall
      have hdone : Done V (s.at now) caller _ s' := execute_eq_ok hok
      cases hdone with
      | registerSessionKeyWithSignature hkey hexpiry hnonce =>
          refine ⟨expiry, Function.update_self .., hexpiry, fun hchecked => ?_⟩
          by_contra hterms
          refine hchecked (.registration caller now wallet sessionKey spendLimit expiry
            signature hkey hexpiry hnonce hsigned ?_)
          change ¬ (0 < spendLimit ∧ expiry ≤ now + maxDuration) at hterms
          omega

theorem KeyChange.terms_kept (h : KeyChange V r sessionKey)
    (hnot : ¬ ∃ wallet spendLimit, Registers V r wallet sessionKey spendLimit) :
    (r.post.sessionKeys sessionKey).spendLimit =
        (r.pre.sessionKeys sessionKey).spendLimit ∧
      (r.post.sessionKeys sessionKey).expiry = (r.pre.sessionKeys sessionKey).expiry := by
  cases h with
  | registered wallet spendLimit _ hregisters => exact absurd ⟨_, _, hregisters⟩ hnot
  | kept hrecord => simp [hrecord]
  | revoked _ _ _ hrecord => simp [hrecord]
  | paid _ _ _ _ _ _ _ _ _ hrecord => simp [hrecord]

/-! ## One rental -/

theorem Issues.price {rentalId : Nat} {tx : Tx} {rental : Rental}
    (h : Issues V r rentalId tx rental) (hchecked : ¬ UncheckedTerms V r.pre r.act) :
    0 < rental.pricePerSecond := by
  obtain ⟨⟨hact, hok⟩, hrental, -⟩ := h
  obtain ⟨caller, now, call⟩ := tx
  obtain ⟨s, a, s'⟩ := r
  cases hact
  have hdone : Done V (s.at now) caller call s' := execute_eq_ok hok
  cases hdone with
  | startRental _ hprice =>
      cases hrental
      exact hprice
  | @startRentalWithSessionKey key provider price jobId hactive hexpiry hdeposit hfits =>
      cases hrental
      rcases Nat.eq_zero_or_pos price with rfl | hprice
      · exact absurd (.rental caller now key provider jobId hactive hexpiry hdeposit hfits)
          hchecked
      · exact hprice
  | _ => simp [Call.rental] at hrental

/-! ## Runs -/

variable {past : List (VaultStep τ)} {s : State τ}

theorem ValidRecords.step (h : ValidRecords V past r.pre)
    (hstep : step V r.pre r.act = some r.post)
    (hchecked : ¬ UncheckedTerms V r.pre r.act) : ValidRecords V (past ++ [r]) r.post := by
  refine ⟨fun sessionKey r₀ hlast => ?_, fun sessionKey r₀ hlast => ?_,
    fun rentalId hid => ?_⟩
  · rcases hlast.of_snoc with ⟨⟨wallet, limit, hregisters⟩, rfl⟩ | ⟨hnot, hlast⟩
    · obtain ⟨expiry, hrecord, -, hterms⟩ := hregisters.terms
      rw [hrecord]
      exact (hterms hchecked).1
    · rw [((keyChange hstep sessionKey).terms_kept hnot).1]
      exact h.spendLimit sessionKey r₀ hlast
  · rcases hlast.of_snoc with ⟨⟨wallet, limit, hregisters⟩, rfl⟩ | ⟨hnot, hlast⟩
    · obtain ⟨expiry, hrecord, hlater, hterms⟩ := hregisters.terms
      rw [hrecord]
      exact ⟨hlater, (hterms hchecked).2⟩
    · rw [((keyChange hstep sessionKey).terms_kept hnot).2]
      exact h.expiry sessionKey r₀ hlast
  · cases rentalChange hstep with
    | kept hcount hcontinues =>
        rw [(hcontinues rentalId).pricePerSecond]
        exact h.price rentalId (hcount ▸ hid)
    | opened tx rental hissues =>
        obtain ⟨hcount, hrentals⟩ := hissues.post
        rw [hrentals]
        by_cases hnew : rentalId = r.pre.rentalCount
        · rw [hnew, Function.update_self]
          exact hissues.price hchecked
        · rw [Function.update_of_ne hnew]
          exact h.price rentalId (by omega)

theorem UncheckedTerms.breaks (h : UncheckedTerms V r.pre r.act)
    (hstep : step V r.pre r.act = some r.post) :
    ¬ ValidRecords V (past ++ [r]) r.post := by
  obtain ⟨s, a, s'⟩ := r
  intro hvalid
  cases h with
  | registration caller now wallet key limit expiry signature hkey hexpiry hnonce
      hsigned hterms =>
      obtain ⟨last, hok, -⟩ := registerSessionKeyWithSignature_passes (s := s.at now)
        hkey hexpiry hnonce hsigned
      have hsucceeds := Succeeds.of_ok hstep hok
      have hregisters : Registers V _ wallet key limit :=
        .signed _ expiry signature hsucceeds rfl hsigned
      have hlast : LastRegisteredBy V (past ++ [_]) key _ :=
        LastWith.last past ⟨wallet, limit, hregisters⟩
      have hlimit := hvalid.spendLimit key _ hlast
      have hbound := (hvalid.expiry key _ hlast).2
      have hdone : Done V (s.at now) caller _ s' := execute_eq_ok hsucceeds.ok
      cases hdone
      simp only [State.recordSessionKey, State.emit, Function.update_self] at hlimit hbound
      change expiry ≤ now + maxDuration at hbound
      omega
  | rental caller now key provider jobId hactive hexpiry hdeposit hfits =>
      have hpasses : ∃ last, startRentalWithSessionKey (s.at now) key provider 0 jobId =
          .ok last := by
        simp only [startRentalWithSessionKey, bind_eq_ok, ensure_eq_ok, openRental_eq_ok,
          pure_eq_ok]
        exact ⟨_, (), hactive, (), hexpiry, (), hdeposit, _, ⟨hfits, rfl⟩, rfl⟩
      obtain ⟨last, hok⟩ := hpasses
      have hdone : Done V (s.at now) caller _ s' :=
        execute_eq_ok (Succeeds.of_ok hstep hok).ok
      have hprice := hvalid.price s.rentalCount
      cases hdone
      simp at hprice

section Runs

variable {guard : Guard (State τ) (Action τ)} {token : τ}
  {deployer feeRecipient : Address} {timestamp : Nat}

theorem validRecords_run
    (hrun : Run (step V) guard (deployed token deployer feeRecipient timestamp) past s)
    (hchecked : ∀ r ∈ past, ¬ UncheckedTerms V r.pre r.act) : ValidRecords V past s := by
  induction hrun with
  | nil =>
      refine ⟨fun _ r hlast => ?_, fun _ r hlast => ?_, fun id hid => ?_⟩
      · obtain ⟨before, after, hsplit, -⟩ := hlast
        simp at hsplit
      · obtain ⟨before, after, hsplit, -⟩ := hlast
        simp at hsplit
      · exact absurd hid (Nat.not_lt_zero id)
  | @snoc past s s' a hrun hguard hstep ih =>
      have hpre := ih fun r hr => hchecked r (List.mem_append_left _ hr)
      exact hpre.step (r := ⟨s, a, s'⟩) hstep (hchecked _ (by simp))

/--
The records are valid in every state a run reaches exactly when none of its
calls asked for unchecked terms.
-/
theorem records_valid_iff
    (hrun : Run (step V) guard (deployed token deployer feeRecipient timestamp) past s) :
    (∀ before r, OccursAfter past before r → ValidRecords V (before ++ [r]) r.post) ↔
      ∀ r ∈ past, ¬ UncheckedTerms V r.pre r.act := by
  constructor
  · intro hvalid r hr hunchecked
    obtain ⟨before, after, hsplit⟩ := List.append_of_mem hr
    exact hunchecked.breaks (hrun.of_split hsplit).2.2
      (hvalid before r ⟨after, hsplit⟩)
  · intro hchecked before r ⟨after, hsplit⟩
    obtain ⟨hbefore, -, hstep⟩ := hrun.of_split hsplit
    have hpre := validRecords_run hbefore fun r hr => hchecked r (by simp [hsplit, hr])
    exact hpre.step hstep (hchecked r (by simp [hsplit]))

end Runs

/-- Account 1 registers key 2 and rents, both by the direct functions. -/
theorem records_valid_direct :
    ∃ (past : List (VaultStep ERC20)) (s : State ERC20),
      Run (step sampleVault) anyStep sampleState past s ∧ s.rentalCount = 1 ∧
      ∀ before r, OccursAfter past before r →
        ValidRecords sampleVault (before ++ [r]) r.post := by
  have hdeposit := (Run.nil : Run (step sampleVault) anyStep sampleState [] _).take
    (.tx ⟨1, 10, .deposit 100⟩) trivial rfl
  have hkey := hdeposit.take (.tx ⟨1, 20, .registerSessionKey 2 10 3600⟩) trivial rfl
  have hstart := hkey.take (.tx ⟨1, 20, .startRental 50 2 "job-1"⟩) trivial rfl
  refine ⟨_, _, hstart, rfl, (records_valid_iff hstart).mpr fun r hr hunchecked => ?_⟩
  simp only [List.nil_append, List.cons_append, List.mem_cons, List.not_mem_nil,
    or_false] at hr
  rcases hr with rfl | rfl | rfl <;> cases hunchecked

/-! ## The delegated functions -/

def delegationVault : GPUVault ERC20 where
  self := sampleVault.self
  self_ne_zero := sampleVault.self_ne_zero
  paymentToken := ERC20.paymentToken
  Digest := TypedData
  hashTypedDataV4 := id
  recover := fun digest signature =>
    if digest = registrationData 1 2 0 34560000 0 ∧ signature = [27] then some 1
    else none

/--
The signed registration goes through, and the key rents at the price 0 from the
wallet's deposit.
-/
theorem delegated_terms_unchecked :
    ∃ (past : List (VaultStep ERC20)) (s : State ERC20) (r : VaultStep ERC20),
      Run (step delegationVault) anyStep sampleState past s ∧
      LastRegisteredBy delegationVault past 2 r ∧ r.post.timestamp = 10 ∧
      s.sessionKeys 2 = ⟨1, 0, 0, 34560000, true⟩ ∧ s.rentalCount = 1 ∧
      (s.rentals 0).pricePerSecond = 0 ∧ ¬ ValidRecords delegationVault past s := by
  have hkey := (Run.nil : Run (step delegationVault) anyStep sampleState [] _).take
    (.tx ⟨7, 10, .registerSessionKeyWithSignature 1 2 0 34560000 [27]⟩) trivial rfl
  have hdeposit := hkey.take (.tx ⟨1, 20, .deposit 100⟩) trivial rfl
  have hstart := hdeposit.take
    (.tx ⟨7, 30, .startRentalWithSessionKey 2 50 0 "job-1"⟩) trivial rfl
  refine ⟨_, _, _, hstart, ⟨[], [_, _], rfl, ?_, ?_⟩, rfl, rfl, rfl, rfl, fun h => ?_⟩
  · exact ⟨1, 0, .signed _ 34560000 [27] ⟨rfl, rfl⟩ rfl rfl⟩
  · intro r' hr' ⟨wallet, limit, hregisters⟩
    simp only [List.mem_cons, List.not_mem_nil, or_false] at hr'
    rcases hr' with rfl | rfl <;> cases hregisters.passing
  · have hprice := h.price 0 Nat.zero_lt_one
    revert hprice
    decide

end WorldlandBroker.Vault
