import WorldlandBroker.Foundation.Slots
import WorldlandBroker.Wallet.Moves

/-!
# Session objects, records and caches

What the memory operations do to one object, record or cache entry, and the
invariant that a pointer or record filed under a session key is about that key.
-/

namespace WorldlandBroker.Wallet

open Foundation

section Memory

variable {s : Store}

@[simp]
theorem Store.set_records_self (session : Session ℚ≥0) (ttl : ℤ) :
    (s.set session ttl).records session.sessionKey = some ⟨session, s.now + ttl⟩ :=
  Function.update_self ..

@[simp]
theorem Store.set_records_of_ne {session : Session ℚ≥0} {key : String}
    (h : session.sessionKey ≠ key) (ttl : ℤ) :
    (s.set session ttl).records key = s.records key :=
  Function.update_of_ne h.symm ..

@[simp]
theorem Store.cache_self (p : ℕ) (key : String) (ref : ℕ) :
    (s.cache p key ref).caches p key = some ref := by
  simp [Store.cache]

@[simp]
theorem Store.cache_of_ne {p q : ℕ} {key key' : String} (h : q = p → key' ≠ key) (ref : ℕ) :
    (s.cache p key ref).caches q key' = s.caches q key' := by
  rcases eq_or_ne q p with rfl | hq
  · simp [Store.cache, Function.update_of_ne (h rfl)]
  · simp [Store.cache, Function.update_of_ne hq]

@[simp]
theorem Store.uncache_self (p : ℕ) (key : String) :
    (s.uncache p key).caches p key = none := by
  simp [Store.uncache]

@[simp]
theorem Store.uncache_of_ne {p q : ℕ} {key key' : String} (h : q = p → key' ≠ key) :
    (s.uncache p key).caches q key' = s.caches q key' := by
  rcases eq_or_ne q p with rfl | hq
  · simp [Store.uncache, Function.update_of_ne (h rfl)]
  · simp [Store.uncache, Function.update_of_ne hq]

theorem Store.cached_of_uncache {p q ref : ℕ} {key key' : String}
    (h : (s.uncache p key).caches q key' = some ref) : s.caches q key' = some ref := by
  by_cases hsame : q = p ∧ key' = key
  · obtain ⟨rfl, rfl⟩ := hsame
    rw [Store.uncache_self] at h
    contradiction
  · rw [Store.uncache_of_ne fun hq hkey => hsame ⟨hq, hkey⟩] at h
    exact h

theorem loadSession_eq_some {key : String} {session : Session ℚ≥0}
    (h : s.loadSession key = some session) :
    ∃ record, s.records key = some record ∧ record.session = session := by
  simp only [Store.loadSession] at h
  split at h
  · contradiction
  · rename_i record hrecord
    split at h
    · cases h
      exact ⟨record, hrecord, rfl⟩
    · contradiction

theorem Store.charge_object {ref ref' : ℕ} {amount : ℚ≥0} {session : Session ℚ≥0}
    (h : s.objects[ref]? = some session) :
    (s.charge ref' amount).objects[ref]? = some
      (if ref' = ref then
        { session with spentAmount := session.spentAmount + amount, lastUsedAt := s.now }
      else session) := by
  simp only [Store.charge, List.getElem?_modify, h]
  split <;> rfl

theorem Store.alloc_object {ref : ℕ} {session session' : Session ℚ≥0}
    (h : s.objects[ref]? = some session) :
    (s.alloc session').objects[ref]? = some session := by
  rw [← h]
  exact List.getElem?_append_left (List.getElem?_eq_some_iff.mp h).1

theorem Store.alloc_new (session : Session ℚ≥0) :
    (s.alloc session).objects[s.objects.length]? = some session := by
  simp [Store.alloc]

end Memory

def Store.Names (s : Store) (ref : ℕ) (key : String) : Prop :=
  ∃ session, s.objects[ref]? = some session ∧ session.sessionKey = key

def Stage.Keyed (s : Store) (key : String) : Stage → Prop
  | .loaded ref | .held ref | .allowed ref | .charged ref | .stored ref => s.Names ref key
  | .marshalled ref data _ => s.Names ref key ∧ data.sessionKey = key
  | .owned session => session.sessionKey = key
  | _ => True

structure Store.Keyed (s : Store) : Prop where
  records : ∀ key record, s.records key = some record → record.session.sessionKey = key
  caches : ∀ p key ref, s.caches p key = some ref → s.Names ref key

def KeyedState (s : State) : Prop :=
  s.store.Keyed ∧
    ∀ (c : ℕ) call, s.calls[c]? = some call → call.stage.Keyed s.store call.op.sessionKey

theorem Stage.Keyed.mono {s s' : Store} {key : String} {stage : Stage}
    (h : stage.Keyed s key) (hnames : ∀ ref, s.Names ref key → s'.Names ref key) :
    stage.Keyed s' key := by
  cases stage with
  | marshalled ref data ttl => exact ⟨hnames _ h.1, h.2⟩
  | owned session => exact h
  | loaded | held | allowed | charged | stored => exact hnames _ h
  | _ => trivial

structure Session.Continues (session session' : Session ℚ≥0) : Prop where
  sessionKey : session'.sessionKey = session.sessionKey
  expiresAt : session'.expiresAt = session.expiresAt
  isActive : session'.isActive = session.isActive

section Moves

variable {eth : Ethereum} {s s' : Store} {p : ℕ} {op : Op} {stage stage' : Stage}

theorem Moves.object (h : Moves eth s p op stage s' stage') {ref : ℕ} {session : Session ℚ≥0}
    (hobject : s.objects[ref]? = some session) :
    ∃ session', s'.objects[ref]? = some session' ∧ session.Continues session' := by
  cases h with
  | register | load => exact ⟨session, Store.alloc_object hobject, rfl, rfl, rfl⟩
  | charge =>
      refine ⟨_, Store.charge_object hobject, ?_, ?_, ?_⟩
      · split <;> rfl
      · split <;> rfl
      · split <;> rfl
  | _ => exact ⟨session, hobject, rfl, rfl, rfl⟩

theorem Moves.now (h : Moves eth s p op stage s' stage') : s'.now = s.now := by
  cases h <;> rfl

theorem Moves.names (h : Moves eth s p op stage s' stage') {ref : ℕ} {key : String}
    (hnames : s.Names ref key) : s'.Names ref key := by
  obtain ⟨session, hobject, hkey⟩ := hnames
  obtain ⟨session', hobject', hcontinues⟩ := h.object hobject
  exact ⟨session', hobject', hcontinues.sessionKey.trans hkey⟩

theorem Store.Keyed.set (h : s.Keyed) (session : Session ℚ≥0) (ttl : ℤ) :
    (s.set session ttl).Keyed := by
  constructor
  · intro key record hrecord
    rcases eq_or_ne session.sessionKey key with rfl | hne
    · rw [Store.set_records_self] at hrecord
      cases hrecord
      rfl
    · rw [Store.set_records_of_ne hne] at hrecord
      exact h.records key record hrecord
  · exact h.caches

theorem Store.Keyed.alloc (h : s.Keyed) (session : Session ℚ≥0) : (s.alloc session).Keyed := by
  constructor
  · exact h.records
  · intro q key ref hcached
    obtain ⟨session', hobject, hkey⟩ := h.caches q key ref hcached
    exact ⟨session', Store.alloc_object hobject, hkey⟩

theorem Store.Keyed.cache (h : s.Keyed) {key : String} {ref : ℕ} (hnames : s.Names ref key)
    (p : ℕ) : (s.cache p key ref).Keyed := by
  constructor
  · exact h.records
  · intro q key' ref' hcached
    by_cases hsame : q = p ∧ key' = key
    · obtain ⟨rfl, rfl⟩ := hsame
      rw [Store.cache_self] at hcached
      cases hcached
      exact hnames
    · rw [Store.cache_of_ne fun hq hkey => hsame ⟨hq, hkey⟩] at hcached
      exact h.caches q key' ref' hcached

theorem Store.Keyed.uncache (h : s.Keyed) (p : ℕ) (key : String) : (s.uncache p key).Keyed := by
  constructor
  · exact h.records
  · intro q key' ref hcached
    exact h.caches q key' ref (Store.cached_of_uncache hcached)

theorem Moves.keyedStore (h : Moves eth s p op stage s' stage') (hs : s.Keyed)
    (hstage : stage.Keyed s op.sessionKey) : s'.Keyed := by
  have hkept : ∀ {ref key}, s.Names ref key → s'.Names ref key := h.names
  cases h with
  | count => exact ⟨hs.records, hs.caches⟩
  | register => exact (hs.set _ _).alloc _
  | publish | cacheLoaded => exact hs.cache hstage _
  | load => exact hs.alloc _
  | charge => exact ⟨hs.records, fun q key ref hcached => hkept (hs.caches q key ref hcached)⟩
  | writeBack | deactivate => exact hs.set _ _
  | forget => exact hs.uncache _ _
  | _ => exact hs

theorem Moves.keyedStage (h : Moves eth s p op stage s' stage') (hs : s.Keyed)
    (hstage : stage.Keyed s op.sessionKey) : stage'.Keyed s' op.sessionKey := by
  have hkept : ∀ {ref key}, s.Names ref key → s'.Names ref key := h.names
  cases h with
  | register => exact ⟨_, Store.alloc_new _, rfl⟩
  | hit hop hcached => exact hs.caches _ _ _ hcached
  | load hop hloaded =>
      obtain ⟨record, hrecord, rfl⟩ := loadSession_eq_some hloaded
      exact ⟨_, Store.alloc_new _, hs.records _ record hrecord⟩
  | cacheLoaded | allow => exact hstage
  | charge => exact hkept hstage
  | marshal hobject =>
      obtain ⟨session, hobject', hkey⟩ := hstage
      cases hobject.symm.trans hobject'
      exact ⟨⟨_, hobject, hkey⟩, hkey⟩
  | writeBack => exact hstage.1
  | own hloaded =>
      obtain ⟨record, hrecord, rfl⟩ := loadSession_eq_some hloaded
      exact hs.records _ record hrecord
  | _ => trivial

/-- All that calls on `key` can see is the same, apart from objects added. -/
structure Store.Agrees (s s' : Store) (key : String) : Prop where
  now : s'.now = s.now
  records : s'.records key = s.records key
  caches : ∀ p, s'.caches p key = s.caches p key
  objects : ∀ (ref : ℕ) session, s.objects[ref]? = some session →
    session.sessionKey = key → s'.objects[ref]? = some session

theorem Store.agrees_set {session : Session ℚ≥0} {key : String} (h : session.sessionKey ≠ key)
    (ttl : ℤ) : s.Agrees (s.set session ttl) key :=
  ⟨rfl, Store.set_records_of_ne h ttl, fun _ => rfl, fun _ _ hobject _ => hobject⟩

theorem Moves.agrees (h : Moves eth s p op stage s' stage')
    (hstage : stage.Keyed s op.sessionKey) {key : String} (hne : op.sessionKey ≠ key) :
    s.Agrees s' key := by
  have hcaches : ∀ {q : ℕ}, q = p → key ≠ op.sessionKey := fun _ => hne.symm
  cases h with
  | register =>
      have hset : (newSession s.now _ : Session ℚ≥0).sessionKey ≠ key := hne
      exact ⟨rfl, Store.set_records_of_ne hset _, fun _ => rfl,
        fun _ _ hobject _ => Store.alloc_object hobject⟩
  | publish | cacheLoaded =>
      exact ⟨rfl, rfl, fun _ => Store.cache_of_ne hcaches _, fun _ _ hobject _ => hobject⟩
  | load =>
      exact ⟨rfl, rfl, fun _ => rfl, fun _ _ hobject _ => Store.alloc_object hobject⟩
  | charge =>
      refine ⟨rfl, rfl, fun _ => rfl, fun ref session hobject hkey => ?_⟩
      obtain ⟨session', hobject', hkey'⟩ := hstage
      rw [Store.charge_object hobject, if_neg]
      rintro rfl
      cases hobject.symm.trans hobject'
      exact hne (hkey'.symm.trans hkey)
  | writeBack => exact Store.agrees_set (hstage.2 ▸ hne) _
  | deactivate =>
      apply Store.agrees_set
      exact ne_of_eq_of_ne hstage hne
  | forget =>
      exact ⟨rfl, rfl, fun _ => Store.uncache_of_ne hcaches, fun _ _ hobject _ => hobject⟩
  | _ => exact ⟨rfl, rfl, fun _ => rfl, fun _ _ hobject _ => hobject⟩

end Moves

theorem map_set_stage {α : Type*} {f : Call → α} {calls : List Call} {c : ℕ} {call : Call}
    (hcall : calls[c]? = some call) (stage : Stage)
    (hf : ∀ call stage, f { call with stage := stage } = f call) :
    (calls.set c { call with stage := stage }).map f = calls.map f := by
  obtain ⟨hc, rfl⟩ := List.getElem?_eq_some_iff.mp hcall
  rw [List.map_set, hf, ← List.getElem_map f (h := by simpa using hc), List.set_getElem_self]

theorem KeyedState.step {eth : Ethereum} {s s' : State} {a : Action} (h : KeyedState s)
    (hstep : step eth s a = some s') : KeyedState s' := by
  cases step_progress hstep with
  | request p op => exact ⟨h.1, forall_append h.2 trivial⟩
  | @advance c call store stage hcall hmove =>
      have hothers : ∀ (c : ℕ) call, s.calls[c]? = some call →
          call.stage.Keyed store call.op.sessionKey :=
        fun c call hcall => (h.2 c call hcall).mono fun ref => hmove.names
      exact ⟨hmove.keyedStore h.1 (h.2 c call hcall),
        forall_set hothers (hmove.keyedStage h.1 (h.2 c call hcall))⟩
  | redisError => exact ⟨h.1, forall_set h.2 trivial⟩
  | tick => exact ⟨⟨h.1.records, h.1.caches⟩, h.2⟩

theorem keyedState_run {eth : Ethereum} {guard : Guard State Action} {now : ℤ}
    {past : List (Transition State Action)} {s : State}
    (hrun : Run (step eth) guard (initial now) past s) : KeyedState s := by
  apply hrun.always
  · exact ⟨⟨by simp [initial], by simp [initial]⟩, by simp [initial]⟩
  · intro _ s a s' hs _ hstep
    exact hs.step hstep

end WorldlandBroker.Wallet
