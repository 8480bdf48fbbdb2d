import WorldlandBroker.Wallet.SpendLimit

/-!
# Requests of other wallets

Sessions are filed under a key string that the caller chooses.  A revocation
compares the wallet of the stored session with its own before it goes on; a
registration writes without looking.  Which accesses of another wallet's
requests change the session of a key, and which never do.
-/

namespace WorldlandBroker.Wallet

open Foundation

/-! ## What is stored and cached -/

structure Terms where
  mainWallet : String
  spendLimit : ℚ≥0
  spentAmount : ℚ≥0
  expiresAt : ℤ
  isActive : Bool
  deriving DecidableEq

def Session.terms (session : Session ℚ≥0) : Terms :=
  ⟨session.mainWallet, session.spendLimit, session.spentAmount, session.expiresAt,
    session.isActive⟩

def Store.storedTerms (s : Store) (key : String) : Option Terms :=
  (s.loadSession key).map Session.terms

def Store.termsAt (s : Store) (ref : ℕ) : Option Terms :=
  (s.objects[ref]?).map Session.terms

def Store.cachedTerms (s : Store) (p : ℕ) (key : String) : Option Terms :=
  (s.caches p key).bind s.termsAt

structure SessionKept (s s' : Store) (key : String) : Prop where
  stored : s'.storedTerms key = s.storedTerms key
  cached : ∀ p, s'.cachedTerms p key = s.cachedTerms p key

/-! ## Whose request it is -/

def Op.wallet : Op → Option String
  | .registerSession req => some req.mainWallet
  | .revokeSession mainWallet _ => some mainWallet
  | _ => none

/--
The step is an access of `call`, a request of `wallet`, while the active session
stored under `key` is that of a different wallet.
-/
structure Foreign (eth : Ethereum) (r : Transition State Action) (call : Call)
    (wallet key : String) : Prop where
  hmoving : moving r.pre r.act = some call
  hwallet : call.op.wallet = some wallet
  hstored : ∃ session, r.pre.store.loadSession key = some session ∧
    session.isActive = true ∧
    eth.hexToAddress session.mainWallet ≠ eth.hexToAddress wallet

/--
The accesses that replace or drop what is stored or cached under the key: a
registration's two writes, and those of a revocation that found its own session
there before.
-/
def TakesOver (s : Store) (key : String) : Call → Prop
  | ⟨_, .registerSession req, .counted _⟩ => req.sessionKey = key
  | ⟨p, .registerSession req, .stored ref⟩ =>
      req.sessionKey = key ∧ s.termsAt ref ≠ s.cachedTerms p key
  | ⟨_, .revokeSession _ sessionKey, .owned _⟩ => sessionKey = key
  | ⟨p, .revokeSession _ sessionKey, .revoked⟩ =>
      sessionKey = key ∧ s.cachedTerms p key ≠ none
  | _ => False

instance (s : Store) (key : String) : DecidablePred (TakesOver s key) := fun call => by
  obtain ⟨p, op, stage⟩ := call
  cases op <;> cases stage <;>
    first
    | exact instDecidableFalse
    | exact instDecidableEqString _ _
    | exact instDecidableAnd

theorem TakesOver.key {s : Store} {key : String} {call : Call} (h : TakesOver s key call) :
    call.op.sessionKey = key := by
  unfold TakesOver at h
  split at h
  · exact h
  · exact h.1
  · exact h
  · exact h.1
  · exact h.elim

section Moves

variable {eth : Ethereum} {s s' : Store} {p : ℕ} {op : Op} {stage stage' : Stage}
  {key : String}

theorem SessionKept.of_caches (hnow : s'.now = s.now)
    (hrecords : s'.records key = s.records key) (hcaches : ∀ p, s'.caches p key = s.caches p key)
    (hobjects : ∀ p ref, s.caches p key = some ref → s'.objects[ref]? = s.objects[ref]?) :
    SessionKept s s' key := by
  constructor
  · simp only [Store.storedTerms, Store.loadSession, hnow, hrecords]
  · intro p
    simp only [Store.cachedTerms, hcaches]
    cases hcached : s.caches p key with
    | none => rfl
    | some ref => simp only [Option.bind_some, Store.termsAt, hobjects p ref hcached]

theorem Store.Keyed.kept_of_agrees (hs : s.Keyed) (h : s.Agrees s' key) :
    SessionKept s s' key := by
  refine .of_caches h.now h.records h.caches fun p ref hcached => ?_
  obtain ⟨session, hobject, hkey⟩ := hs.caches p key ref hcached
  rw [hobject, h.objects ref session hobject hkey]

theorem Store.storedTerms_store {session : Session ℚ≥0} (hkey : session.sessionKey = key) :
    (s.storeSession session).storedTerms key = some session.terms := by
  have hlater : s.now < s.now + s.timeToLive session := by
    unfold Store.timeToLive
    split
    · unfold hour second
      omega
    · omega
  subst hkey
  simp [Store.storedTerms, Store.loadSession, Store.storeSession, hlater, Store.set]

theorem Store.cachedTerms_cache_self (p ref : ℕ) (key : String) :
    (s.cache p key ref).cachedTerms p key = s.termsAt ref := by
  simp only [Store.cachedTerms, Store.cache_self, Option.bind_some]
  rfl

theorem Store.cachedTerms_cache_of_ne {q : ℕ} (h : q ≠ p) (ref : ℕ) (key : String) :
    (s.cache p key ref).cachedTerms q key = s.cachedTerms q key := by
  simp only [Store.cachedTerms, Store.cache_of_ne fun heq => absurd heq h]
  rfl

theorem Store.cachedTerms_uncache_self (p : ℕ) (key : String) :
    (s.uncache p key).cachedTerms p key = none := by
  simp [Store.cachedTerms]

theorem Store.cachedTerms_uncache_of_ne {q : ℕ} (h : q ≠ p) (key : String) :
    (s.uncache p key).cachedTerms q key = s.cachedTerms q key := by
  simp only [Store.cachedTerms, Store.uncache_of_ne fun heq => absurd heq h]
  rfl

theorem Op.wallet_of_validates (h : op.Validates) : op.wallet = none := by
  cases op with
  | validateSession | validateAndCharge => rfl
  | registerSession | revokeSession => exact h.elim

theorem Moves.kept_of_not_takesOver (h : Moves eth s p op stage s' stage') (hs : s.Keyed)
    (hstage : stage.Keyed s op.sessionKey) (hwallet : op.wallet ≠ none)
    (hnot : ¬ TakesOver s key ⟨p, op, stage⟩) : SessionKept s s' key := by
  by_cases hkey : op.sessionKey = key
  · subst hkey
    cases h with
    | register => exact absurd rfl hnot
    | deactivate => exact absurd rfl hnot
    | @publish op ref hop =>
        cases op with
        | registerSession req =>
            have hterms : s.termsAt ref = s.cachedTerms p req.sessionKey := by
              by_contra hne
              exact hnot ⟨rfl, hne⟩
            refine ⟨rfl, fun q => ?_⟩
            rcases eq_or_ne q p with rfl | hq
            · exact (Store.cachedTerms_cache_self q ref _).trans hterms
            · exact Store.cachedTerms_cache_of_ne hq ref _
        | validateAndCharge => exact absurd rfl hwallet
        | _ => exact hop.elim
    | @forget mainWallet key =>
        have hnone : s.cachedTerms p key = none := by
          by_contra hne
          exact hnot ⟨rfl, hne⟩
        refine ⟨rfl, fun q => ?_⟩
        rcases eq_or_ne q p with rfl | hq
        · exact (Store.cachedTerms_uncache_self q key).trans hnone.symm
        · exact Store.cachedTerms_uncache_of_ne hq key
    | load hop | cacheLoaded hop => exact absurd (Op.wallet_of_validates hop) hwallet
    | charge | writeBack => simp [Op.wallet] at hwallet
    | _ => exact ⟨rfl, fun _ => rfl⟩
  · exact hs.kept_of_agrees (h.agrees hstage hkey)

private theorem not_kept_of_takesOver (h : advance eth s p op stage = some (s', stage'))
    (hstage : stage.Keyed s op.sessionKey) {wallet : String} (hwallet : op.wallet = some wallet)
    (hstored : ∃ session, s.loadSession key = some session ∧ session.isActive = true ∧
      eth.hexToAddress session.mainWallet ≠ eth.hexToAddress wallet)
    (htakes : TakesOver s key ⟨p, op, stage⟩) : ¬ SessionKept s s' key := by
  obtain ⟨session, hloaded, hactive, hwallets⟩ := hstored
  have hterms : s.storedTerms key = some session.terms := by
    rw [Store.storedTerms, hloaded]
    rfl
  intro hkept
  unfold TakesOver at htakes
  split at htakes
  · rename_i req message heq
    cases heq
    cases h
    cases hwallet
    have hnew : some (newSession s.now req).terms = _ :=
      (Store.storedTerms_store htakes).symm.trans hkept.stored
    rw [hterms] at hnew
    have hsame : req.mainWallet = session.mainWallet :=
      congrArg Terms.mainWallet (Option.some.inj hnew)
    rw [hsame] at hwallets
    exact hwallets rfl
  · rename_i req ref heq
    obtain ⟨rfl, hne⟩ := htakes
    cases heq
    cases h
    exact hne ((Store.cachedTerms_cache_self p ref _).symm.trans (hkept.cached p))
  · rename_i wallet' key' old heq
    subst htakes
    cases heq
    cases h
    let inactive : Session ℚ≥0 := { old with isActive := false }
    have hkey : inactive.sessionKey = key' := hstage
    have hnew : some inactive.terms = _ :=
      (Store.storedTerms_store hkey).symm.trans hkept.stored
    rw [hterms] at hnew
    have hsame : false = session.isActive :=
      congrArg Terms.isActive (Option.some.inj hnew)
    rw [← hsame] at hactive
    contradiction
  · rename_i wallet' key' heq
    obtain ⟨rfl, hcached⟩ := htakes
    cases heq
    cases h
    exact hcached ((hkept.cached p).symm.trans (Store.cachedTerms_uncache_self p _))
  · exact htakes

end Moves

/-! ## Runs -/

section Runs

variable {eth : Ethereum} {guard : Guard State Action} {now : ℤ}
  {past : List (Transition State Action)} {s : State}

theorem Foreign.moves {r : Transition State Action} {call : Call} {wallet key : String}
    (h : Foreign eth r call wallet key) (hstep : step eth r.pre r.act = some r.post) :
    ∃ c : ℕ, r.pre.calls[c]? = some call ∧ ∃ stage,
      advance eth r.pre.store call.process call.op call.stage =
        some (r.post.store, stage) := by
  obtain ⟨s, a, s'⟩ := r
  have hmoving := h.hmoving
  cases a with
  | advance c =>
      have hcall : s.calls[c]? = some call := hmoving
      simp only [step, hcall] at hstep
      split at hstep
      · contradiction
      · rename_i store stage hadvance
        cases hstep
        exact ⟨c, hcall, stage, hadvance⟩
  | _ => cases hmoving

/--
Along every run, the requests of other wallets leave a wallet's active session
alone exactly when none of their accesses is one that takes over.
-/
theorem sessions_kept_iff (hrun : Run (step eth) guard (initial now) past s) :
    (∀ r ∈ past, ∀ call wallet key, Foreign eth r call wallet key →
        SessionKept r.pre.store r.post.store key) ↔
      ∀ r ∈ past, ∀ call wallet key, Foreign eth r call wallet key →
        ¬ TakesOver r.pre.store key call := by
  have haccess : ∀ r ∈ past, ∀ call wallet key, Foreign eth r call wallet key →
      (SessionKept r.pre.store r.post.store key ↔ ¬ TakesOver r.pre.store key call) := by
    intro r hr call wallet key hforeign
    obtain ⟨before, after, hsplit⟩ := List.append_of_mem hr
    obtain ⟨hbefore, -, hstep⟩ := hrun.of_split hsplit
    obtain ⟨c, hcall, stage, hadvance⟩ := hforeign.moves hstep
    have hkeyed := keyedState_run hbefore
    have hstage := hkeyed.2 c call hcall
    constructor
    · intro hkept htakes
      exact not_kept_of_takesOver hadvance hstage hforeign.hwallet hforeign.hstored htakes
        hkept
    · have hwallet : call.op.wallet ≠ none := by simp [hforeign.hwallet]
      exact (advance_moves hadvance).kept_of_not_takesOver hkeyed.1 hstage hwallet
  constructor
  · intro hkept r hr call wallet key hforeign
    exact (haccess r hr call wallet key hforeign).mp (hkept r hr call wallet key hforeign)
  · intro hnot r hr call wallet key hforeign
    exact (haccess r hr call wallet key hforeign).mpr (hnot r hr call wallet key hforeign)

end Runs

/-! ## Two wallets -/

def otherRequest : SessionKeyRequest :=
  { sampleRequest with mainWallet := "0x1111111111111111111111111111111111111111" }

def twoWallets : Ethereum :=
  signer [sampleMessage,
    { sampleMessage with mainWallet := 0x1111111111111111111111111111111111111111 }]

def foreignRevocation : List Action :=
  registerActions ++
    [.request 1 (.revokeSession otherRequest.mainWallet sampleRequest.sessionKey), .advance 1]

def foreignRegistration : List Action :=
  registerActions ++ .request 1 (.registerSession otherRequest) :: List.replicate 4 (.advance 1)

private theorem foreignRevocation_checked :
    ∃ run ∈ trace (step twoWallets) (initial 0) foreignRevocation,
      (∀ r ∈ run.1, ∀ call ∈ moving r.pre r.act, ∀ wallet ∈ call.op.wallet,
        ∀ session ∈ r.pre.store.loadSession call.op.sessionKey,
          twoWallets.hexToAddress session.mainWallet ≠ twoWallets.hexToAddress wallet →
            ¬ TakesOver r.pre.store call.op.sessionKey call) ∧
      ∃ r ∈ run.1[7]?, ∃ call ∈ moving r.pre r.act,
        call.op.wallet = some otherRequest.mainWallet ∧
        ∃ session ∈ r.pre.store.loadSession sampleRequest.sessionKey,
          session.isActive = true ∧ twoWallets.hexToAddress session.mainWallet ≠
            twoWallets.hexToAddress otherRequest.mainWallet := by
  decide +kernel

theorem sessions_kept_revocation :
    ∃ run ∈ trace (step twoWallets) (initial 0) foreignRevocation, ∃ r ∈ run.1, ∃ call,
      Foreign twoWallets r call otherRequest.mainWallet sampleRequest.sessionKey ∧
        SessionKept r.pre.store r.post.store sampleRequest.sessionKey := by
  obtain ⟨run, htrace, hnot, r, hr, call, hmoving, hwallet, session, hloaded, hactive,
    hwallets⟩ := foreignRevocation_checked
  have hrun : Run (step twoWallets) anyStep (initial 0) run.1 run.2 := Run.of_trace htrace
  have hforeign : Foreign twoWallets r call otherRequest.mainWallet
      sampleRequest.sessionKey :=
    ⟨hmoving, hwallet, session, hloaded, hactive, hwallets⟩
  have hmem : r ∈ run.1 := List.mem_of_getElem? hr
  refine ⟨run, htrace, r, hmem, call, hforeign, ?_⟩
  refine (sessions_kept_iff hrun).mpr ?_ r hmem call _ _ hforeign
  rintro r' hr' call' wallet key ⟨hmoving', hwallet', session', hloaded', -, hwallets'⟩ htakes
  obtain rfl := htakes.key
  exact hnot r' hr' call' hmoving' wallet hwallet' session' hloaded' hwallets' htakes

private theorem foreignRegistration_checked :
    ∃ run ∈ trace (step twoWallets) (initial 0) foreignRegistration,
      ∃ r ∈ run.1[10]?, ∃ call ∈ moving r.pre r.act,
        call.op.wallet = some otherRequest.mainWallet ∧
        (∃ session ∈ r.pre.store.loadSession sampleRequest.sessionKey,
          session.isActive = true ∧ twoWallets.hexToAddress session.mainWallet ≠
            twoWallets.hexToAddress otherRequest.mainWallet) ∧
        (r.pre.store.storedTerms sampleRequest.sessionKey).map Terms.mainWallet =
          some sampleRequest.mainWallet ∧
        (r.post.store.storedTerms sampleRequest.sessionKey).map Terms.mainWallet =
          some otherRequest.mainWallet := by
  decide +kernel

/-- A registration under the key string of another wallet's session replaces it. -/
theorem registration_takes_session :
    ∃ run ∈ trace (step twoWallets) (initial 0) foreignRegistration, ∃ r ∈ run.1, ∃ call,
      Foreign twoWallets r call otherRequest.mainWallet sampleRequest.sessionKey ∧
        ¬ SessionKept r.pre.store r.post.store sampleRequest.sessionKey := by
  obtain ⟨run, htrace, r, hr, call, hmoving, hwallet, ⟨session, hloaded, hactive, hwallets⟩,
    hbefore, hafter⟩ := foreignRegistration_checked
  refine ⟨run, htrace, r, List.mem_of_getElem? hr, call,
    ⟨hmoving, hwallet, session, hloaded, hactive, hwallets⟩, fun hkept => ?_⟩
  rw [hkept.stored, hbefore] at hafter
  revert hafter
  decide

end WorldlandBroker.Wallet
