import WorldlandBroker.Wallet.Memory

/-!
# Finality of off-chain revocation

Revoking clears the record and the revoking process's own cache.  The session
stays dead when at that moment no other process has it cached and no call is
about to cache it or to write it back.
-/

namespace WorldlandBroker.Wallet

open Foundation

def Store.Live (s : Store) (p : ℕ) (key : String) : Prop :=
  ∃ ref ∈ s.caches p key, ∃ session ∈ s.objects[ref]?,
    session.isActive = true ∧ s.now < session.expiresAt

instance (s : Store) (p : ℕ) (key : String) : Decidable (s.Live p key) := by
  unfold Store.Live
  infer_instance

def republishing : Op → Stage → Bool
  | .validateSession _, .loaded _ => true
  | .validateAndCharge _ _, .loaded _ => true
  | .validateAndCharge _ _, .held _ => true
  | .validateAndCharge _ _, .allowed _ => true
  | .validateAndCharge _ _, .charged _ => true
  | .validateAndCharge _ _, .marshalled _ _ _ => true
  | .validateAndCharge _ _, .stored _ => true
  | .registerSession _, .stored _ => true
  | _, _ => false

/--
A revocation that is about to return finds the record inactive, no live copy in
another process's cache, and no call that would bring one back.
-/
def Settled (s : State) : Call → Prop
  | ⟨p, .revokeSession _ key, .revoked⟩ =>
      (∀ record ∈ s.store.records key, record.session.isActive = false) ∧
        ∀ call ∈ s.calls, (call.process ≠ p → ¬ s.store.Live call.process key) ∧
          (call.op.sessionKey = key → republishing call.op call.stage = false)
  | _ => True

instance (s : State) (call : Call) : Decidable (Settled s call) := by
  unfold Settled
  split <;> infer_instance

def settled : Guard State Action :=
  fun _ s a => ∀ call ∈ moving s a, Settled s call

def revokes (s : State) (a : Action) : Option String :=
  match moving s a with
  | some ⟨_, .revokeSession _ key, .revoked⟩ => some key
  | _ => none

def accepted (key : String) : Op → Stage → Bool
  | .validateSession k, .returned true => k = key
  | .validateAndCharge k _, .returned true => k = key
  | _, _ => false

private theorem accepted_eq_true {key : String} {op : Op} {stage : Stage}
    (h : accepted key op stage = true) :
    op.sessionKey = key ∧ op.Validates ∧ stage = .returned true := by
  cases op with
  | registerSession | revokeSession => contradiction
  | _ =>
      cases stage with
      | returned ok =>
          cases ok with
          | true => exact ⟨by simpa [accepted] using h, trivial, rfl⟩
          | false => contradiction
      | _ => contradiction

/-! ## Only processes that served a call cache anything -/

def CachedByCalls (s : State) : Prop :=
  ∀ p key ref, s.store.caches p key = some ref → p ∈ s.calls.map Call.process

theorem Moves.caches_of_ne {eth : Ethereum} {s s' : Store} {p q : ℕ} {op : Op}
    {stage stage' : Stage} (h : Moves eth s p op stage s' stage') (hne : q ≠ p)
    (key : String) : s'.caches q key = s.caches q key := by
  cases h with
  | publish | cacheLoaded => exact Store.cache_of_ne (fun hq => absurd hq hne) _
  | forget => exact Store.uncache_of_ne fun hq => absurd hq hne
  | _ => rfl

theorem CachedByCalls.step {eth : Ethereum} {s s' : State} {a : Action}
    (h : CachedByCalls s) (hstep : step eth s a = some s') : CachedByCalls s' := by
  intro q key ref hcached
  cases step_progress hstep with
  | request p op =>
      rw [List.map_append]
      exact List.mem_append_left _ (h q key ref hcached)
  | @advance c call store stage hcall hmove =>
      rw [map_set_stage hcall _ fun _ _ => rfl]
      rcases eq_or_ne q call.process with rfl | hne
      · exact List.mem_map_of_mem (List.mem_of_getElem? hcall)
      · rw [hmove.caches_of_ne hne] at hcached
        exact h q key ref hcached
  | redisError hcall =>
      rw [map_set_stage hcall _ fun _ _ => rfl]
      exact h q key ref hcached
  | tick => exact h q key ref hcached

theorem cachedByCalls_run {eth : Ethereum} {guard : Guard State Action} {now : ℤ}
    {past : List (Transition State Action)} {s : State}
    (hrun : Run (step eth) guard (initial now) past s) : CachedByCalls s := by
  apply hrun.always
  · intro p key ref hcached
    simp [initial] at hcached
  · intro _ s a s' hs _ hstep
    exact hs.step hstep

/-! ## A dead session -/

/-- What a call on a dead session may have done; `fresh` says it began after the revocation. -/
def Powerless (fresh : Prop) (op : Op) (stage : Stage) : Prop :=
  republishing op stage = false ∧
    (fresh → op.Validates → stage ≠ .returned true ∧ ∀ ref, stage ≠ .held ref)

structure Dead (key : String) (n : ℕ) (s : State) : Prop where
  begun : n ≤ s.calls.length
  record : ∀ record, s.store.records key = some record → record.session.isActive = false
  caches : ∀ p, ¬ s.store.Live p key
  calls : ∀ (c : ℕ) call, s.calls[c]? = some call → call.op.sessionKey = key →
    Powerless (n ≤ c) call.op call.stage

private theorem powerless_returned_false (fresh : Prop) (op : Op) :
    Powerless fresh op (.returned false) := by
  constructor
  · cases op <;> rfl
  · intro _ _
    exact ⟨by simp, by simp⟩

private theorem republishing_stored {op : Op} (hop : op.Stores) (ref : ℕ) :
    republishing op (.stored ref) = true := by
  cases op with
  | validateSession | revokeSession => contradiction
  | _ => rfl

private theorem republishing_loaded {op : Op} (hop : op.Validates) (ref : ℕ) :
    republishing op (.loaded ref) = true := by
  cases op with
  | registerSession | revokeSession => contradiction
  | _ => rfl

section Moves

variable {eth : Ethereum} {s s' : Store} {p : ℕ} {op : Op} {stage stage' : Stage}
  {key : String}

/-- The record of a dead session stays inactive, unless the key is registered again. -/
theorem Moves.record_inactive (h : Moves eth s p op stage s' stage')
    (hstage : stage.Keyed s op.sessionKey)
    (hinactive : ∀ record, s.records key = some record → record.session.isActive = false)
    (hquiet : op.sessionKey = key → republishing op stage = false)
    (hlast : ∀ req message, op = .registerSession req → stage = .counted message →
      req.sessionKey ≠ key) :
    ∀ record, s'.records key = some record → record.session.isActive = false := by
  by_cases hkey : op.sessionKey = key
  · cases h with
    | register => exact absurd hkey (hlast _ _ rfl rfl)
    | writeBack => exact absurd (hquiet hkey) (by simp [republishing])
    | @deactivate wallet k session =>
        intro record hrecord
        have hsession : Session.sessionKey { session with isActive := false } = key :=
          hstage.trans hkey
        rw [← hsession, Store.storeSession, Store.set_records_self] at hrecord
        cases hrecord
        rfl
    | _ => exact hinactive
  · rw [(h.agrees hstage hkey).records]
    exact hinactive

theorem Moves.uncached (h : Moves eth s p op stage s' stage')
    (hquiet : op.sessionKey = key → republishing op stage = false) {q ref : ℕ}
    (hcached : s'.caches q key = some ref) : s.caches q key = some ref := by
  cases h with
  | publish hop =>
      rw [Store.cache_of_ne] at hcached
      · exact hcached
      · rintro rfl rfl
        simp [republishing_stored hop] at hquiet
  | cacheLoaded hop =>
      rw [Store.cache_of_ne] at hcached
      · exact hcached
      · rintro rfl rfl
        simp [republishing_loaded hop] at hquiet
  | forget => exact Store.cached_of_uncache hcached
  | _ => exact hcached

theorem Moves.not_live (h : Moves eth s p op stage s' stage') (hs : s.Keyed)
    (hlive : ∀ q, ¬ s.Live q key)
    (hquiet : op.sessionKey = key → republishing op stage = false) :
    ∀ q, ¬ s'.Live q key := by
  rintro q ⟨ref, hcached', session', hobject', hactive, hunexpired⟩
  have hcached := h.uncached hquiet hcached'
  obtain ⟨session, hobject, -⟩ := hs.caches q key ref hcached
  obtain ⟨session'', hobject'', hcontinues⟩ := h.object hobject
  cases hobject'.symm.trans hobject''
  rw [hcontinues.isActive] at hactive
  rw [h.now, hcontinues.expiresAt] at hunexpired
  exact hlive q ⟨ref, hcached, session, hobject, hactive, hunexpired⟩

/-- A call on a dead session gets no further than a failed look-up. -/
theorem Moves.powerless (h : Moves eth s p op stage s' stage') {fresh : Prop}
    (hkey : op.sessionKey = key) (hpowerless : Powerless fresh op stage)
    (hinactive : ∀ record, s.records key = some record → record.session.isActive = false)
    (hlive : ¬ s.Live p key)
    (hlast : ∀ req message, op = .registerSession req → stage = .counted message →
      req.sessionKey ≠ key) :
    Powerless fresh op stage' := by
  cases h with
  | fail => exact powerless_returned_false fresh op
  | register => exact absurd hkey (hlast _ _ rfl rfl)
  | publish hop => exact absurd hpowerless.1 (by simp [republishing_stored hop])
  | hit hop hcached hobject hactive =>
      subst hkey
      exact absurd ⟨_, hcached, _, hobject, hactive⟩ hlive
  | miss =>
      constructor
      · cases op <;> rfl
      · intro _ _
        exact ⟨by simp, by simp⟩
  | load hop hloaded hactive =>
      obtain ⟨record, hrecord, rfl⟩ := loadSession_eq_some hloaded
      subst hkey
      rw [hinactive record hrecord] at hactive
      contradiction
  | cacheLoaded hop => exact absurd hpowerless.1 (by simp [republishing_loaded hop])
  | validated =>
      refine ⟨rfl, fun hfresh hop => ?_⟩
      exact absurd rfl ((hpowerless.2 hfresh hop).2 _)
  | allow | charge | marshal | writeBack => exact absurd hpowerless.1 (by simp [republishing])
  | _ => exact ⟨rfl, fun _ hop => absurd hop (by simp [Op.Validates])⟩

end Moves

theorem Dead.step {eth : Ethereum} {s s' : State} {a : Action} {key : String} {n : ℕ}
    (h : Dead key n s) (hkeyed : KeyedState s) (hstep : step eth s a = some s')
    (hlast : ∀ req, registered s a = some req → req.sessionKey ≠ key) : Dead key n s' := by
  cases step_progress hstep with
  | request p op =>
      refine ⟨by simpa using Nat.le_succ_of_le h.begun, h.record, h.caches, ?_⟩
      apply forall_append h.calls
      intro _
      constructor
      · cases op <;> rfl
      · intro _ _
        exact ⟨by simp, by simp⟩
  | @advance c call store stage hcall hmove =>
      have hquiet : call.op.sessionKey = key → republishing call.op call.stage = false :=
        fun hkey => (h.calls c call hcall hkey).1
      have hfirst : ∀ req message, call.op = .registerSession req →
          call.stage = .counted message → req.sessionKey ≠ key := by
        intro req message hop hstage
        obtain ⟨p, op, stage⟩ := call
        cases hop
        cases hstage
        exact hlast req (by simp only [registered, moving, hcall])
      refine ⟨by simpa using h.begun,
        hmove.record_inactive (hkeyed.2 c call hcall) h.record hquiet hfirst,
        hmove.not_live hkeyed.1 h.caches hquiet, ?_⟩
      apply forall_set h.calls
      intro hkey
      exact hmove.powerless hkey (h.calls c call hcall hkey) h.record (h.caches _) hfirst
  | @redisError c call hcall hstage =>
      refine ⟨by simpa using h.begun, h.record, h.caches, ?_⟩
      apply forall_set h.calls
      intro _
      exact powerless_returned_false _ call.op
  | tick nanoseconds =>
      refine ⟨h.begun, h.record, ?_, h.calls⟩
      rintro p ⟨ref, hcached, session, hobject, hactive, hunexpired⟩
      refine h.caches p ⟨ref, hcached, session, hobject, hactive, ?_⟩
      simp only at hunexpired
      omega

private theorem dead_of_revokes {eth : Ethereum} {s s' : State} {a : Action} {key : String}
    (hrevokes : revokes s a = some key) (hstep : step eth s a = some s')
    (hserved : CachedByCalls s) (hguard : ∀ call ∈ moving s a, Settled s call) :
    Dead key s'.calls.length s' := by
  simp only [revokes] at hrevokes
  split at hrevokes
  · rename_i p wallet k hmoving
    cases hrevokes
    obtain ⟨hrecord, hothers⟩ := hguard _ hmoving
    cases a with
    | advance c =>
        have hcall : s.calls[c]? = some ⟨p, .revokeSession wallet key, .revoked⟩ := hmoving
        simp only [step, hcall, advance, revokeSession, Option.some.injEq] at hstep
        subst hstep
        refine ⟨le_rfl, hrecord, ?_, ?_⟩
        · rintro q ⟨ref, hcached, hlive⟩
          rcases eq_or_ne q p with rfl | hne
          · simp at hcached
          · have hold : s.store.caches q key = some ref :=
              (Store.uncache_of_ne fun hq => absurd hq hne).symm.trans hcached
            obtain ⟨call, hmem, rfl⟩ := List.mem_map.mp (hserved q key ref hold)
            exact (hothers call hmem).1 hne ⟨ref, hold, hlive⟩
        · apply forall_set
          · intro i call hcall' hkey
            refine ⟨(hothers call (List.mem_of_getElem? hcall')).2 hkey, fun hfresh => ?_⟩
            have hlength := (List.getElem?_eq_some_iff.mp hcall').1
            rw [List.length_set] at hfresh
            omega
          · intro _
            exact ⟨rfl, fun _ hop => absurd hop (by simp [Op.Validates])⟩
    | _ => cases hmoving
  · contradiction

theorem revocation_final {eth : Ethereum} {now : ℤ}
    {before after : List (Transition State Action)} {r : Transition State Action}
    {s : State} {key : String}
    (hrun : Run (step eth) settled (initial now) (before ++ r :: after) s)
    (hrevokes : revokes r.pre r.act = some key)
    (hlast : ∀ r' ∈ after, ∀ req, registered r'.pre r'.act = some req →
      req.sessionKey ≠ key) :
    (∀ (c : ℕ) call, r.post.calls.length ≤ c → s.calls[c]? = some call →
        accepted key call.op call.stage = false) ∧
      ∀ record, s.store.records key = some record → record.session.isActive = false := by
  have hdead : Dead key r.post.calls.length s := by
    apply hrun.sinceRecorded (I := fun _ s => Dead key r.post.calls.length s)
    · obtain ⟨hbefore, hguard, hstep⟩ := hrun.of_split rfl
      exact dead_of_revokes hrevokes hstep (cachedByCalls_run hbefore) hguard
    · intro earlier s a s' hmem hrun hpre _ hstep
      exact hpre.step (keyedState_run hrun) hstep (hlast _ hmem)
  refine ⟨?_, hdead.record⟩
  intro c call hc hcall
  by_contra haccepted
  obtain ⟨hkey, hop, hstage⟩ := accepted_eq_true (by simpa using haccepted)
  exact ((hdead.calls c call hcall hkey).2 hc hop).1 hstage

def revokedAt (r : Transition State Action) : Option (String × ℕ) :=
  (revokes r.pre r.act).map fun key => (key, r.post.calls.length)

theorem revokedAt_eq_some {r : Transition State Action} {key : String} {n : ℕ}
    (h : revokedAt r = some (key, n)) :
    revokes r.pre r.act = some key ∧ r.post.calls.length = n := by
  obtain ⟨k, hrevokes, hpair⟩ := Option.map_eq_some_iff.mp h
  cases hpair
  exact ⟨hrevokes, rfl⟩

def revokeActions : List Action :=
  .request 0 (.registerSession sampleRequest) :: List.replicate 5 (.advance 0) ++
    .request 0 (.revokeSession sampleRequest.mainWallet sampleRequest.sessionKey) ::
      List.replicate 3 (.advance 1) ++
    .request 1 (.validateSession sampleRequest.sessionKey) :: List.replicate 2 (.advance 2)

private theorem revokeActions_checked :
    ∃ run ∈ trace (step sampleEthereum) (initial 0) revokeActions,
      run.1.map revokedAt =
          List.replicate 9 none ++ some (sampleRequest.sessionKey, 2) ::
            List.replicate 3 none ∧
        (∀ r ∈ run.1.drop 10, registered r.pre r.act = none) ∧
        (∀ r ∈ run.1, ∀ call ∈ moving r.pre r.act, Settled r.pre call) ∧
        (run.2.calls[2]?).isSome := by
  decide +kernel

theorem revocation_final_sample :
    ∃ run ∈ trace (step sampleEthereum) (initial 0) revokeActions,
      ∃ call, run.2.calls[2]? = some call ∧
        accepted sampleRequest.sessionKey call.op call.stage = false := by
  obtain ⟨run, htrace, hmap, hnone, hguard, hcall⟩ := revokeActions_checked
  obtain ⟨before, r, hsplit, hrevoked, -⟩ := split_once hmap
  obtain ⟨hrevokes, hlength⟩ := revokedAt_eq_some hrevoked
  obtain ⟨call, hcall⟩ := Option.isSome_iff_exists.mp hcall
  have hrun : Run (step sampleEthereum) settled (initial 0) run.1 run.2 :=
    (Run.of_trace htrace).guarded hguard
  rw [hsplit] at hrun
  have hfinal := revocation_final hrun hrevokes fun r' hr' req hreq =>
    absurd ((hnone r' hr').symm.trans hreq) (by simp)
  exact ⟨run, htrace, call, hcall, hfinal.1 2 call hlength.le hcall⟩

def cachedElsewhereActions : List Action :=
  .request 0 (.registerSession sampleRequest) :: List.replicate 5 (.advance 0) ++
    .request 1 (.revokeSession sampleRequest.mainWallet sampleRequest.sessionKey) ::
      List.replicate 3 (.advance 1) ++
    .request 0 (.validateSession sampleRequest.sessionKey) :: List.replicate 2 (.advance 2)

private theorem cachedElsewhereActions_checked :
    ∃ run ∈ trace (step sampleEthereum) (initial 0) cachedElsewhereActions,
      run.1.map revokedAt =
          List.replicate 9 none ++ some (sampleRequest.sessionKey, 2) ::
            List.replicate 3 none ∧
        (∀ r ∈ run.1.drop 10, registered r.pre r.act = none) ∧
        ∃ call ∈ run.2.calls[2]?,
          accepted sampleRequest.sessionKey call.op call.stage = true := by
  decide +kernel

theorem cached_session_survives_revocation :
    ¬ ∀ (eth : Ethereum) (now : ℤ) (before after : List (Transition State Action))
        (r : Transition State Action) (s : State) (key : String),
      Run (step eth) anyStep (initial now) (before ++ r :: after) s →
      revokes r.pre r.act = some key →
      (∀ r' ∈ after, ∀ req, registered r'.pre r'.act = some req → req.sessionKey ≠ key) →
      (∀ (c : ℕ) call, r.post.calls.length ≤ c → s.calls[c]? = some call →
          accepted key call.op call.stage = false) ∧
        ∀ record, s.store.records key = some record → record.session.isActive = false := by
  intro hclaim
  obtain ⟨run, htrace, hmap, hnone, call, hcall, haccepted⟩ := cachedElsewhereActions_checked
  obtain ⟨before, r, hsplit, hrevoked, -⟩ := split_once hmap
  obtain ⟨hrevokes, hlength⟩ := revokedAt_eq_some hrevoked
  have hrun : Run (step sampleEthereum) anyStep (initial 0) run.1 run.2 :=
    Run.of_trace htrace
  rw [hsplit] at hrun
  have hfinal := hclaim _ _ _ _ _ _ _ hrun hrevokes fun r' hr' req hreq =>
    absurd ((hnone r' hr').symm.trans hreq) (by simp)
  have hrejected := hfinal.1 2 call hlength.le hcall
  exact Bool.false_ne_true (hrejected.symm.trans haccepted)

end WorldlandBroker.Wallet
