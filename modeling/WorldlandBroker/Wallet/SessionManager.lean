import WorldlandBroker.Wallet.Session
import Mathlib.Algebra.Order.Ring.Rat

/-!
# One session manager

A session manager that handles its calls one after the other.  Time passes before
every access of a call, and any Redis command of a call may fail, which leaves Redis
as it was.  Charges are exact numbers of either sign.  Calls side by side, and several
managers, are in `Wallet.Session`.
-/

namespace WorldlandBroker.Wallet

/-- A pointer to a session is an index into `objects`; the records are in Redis. -/
structure SessionManager where
  now : ℤ
  records : String → Option (Record ℚ)
  nonces : String → ℕ
  objects : List (Session ℚ)
  cache : String → Option ℕ

/-- The nanoseconds before each access of a call, and which Redis commands succeed. -/
structure Course where
  ticks : ℕ → ℕ
  get : Bool
  incr : Bool
  set : Bool

namespace SessionManager

/-! ## Memory, cache and Redis -/

def elapse (sm : SessionManager) (nanoseconds : ℕ) : SessionManager :=
  { sm with now := sm.now + nanoseconds }

def alloc (sm : SessionManager) (session : Session ℚ) : SessionManager :=
  { sm with objects := sm.objects ++ [session] }

def setCache (sm : SessionManager) (sessionKey : String) (ref : Option ℕ) : SessionManager :=
  { sm with cache := Function.update sm.cache sessionKey ref }

/-- The session is changed where it lies, for the cache as well. -/
def spend (sm : SessionManager) (ref : ℕ) (amount : ℚ) : SessionManager :=
  { sm with objects := sm.objects.modify ref fun session =>
      { session with spentAmount := session.spentAmount + amount, lastUsedAt := sm.now } }

def loadSession (sm : SessionManager) (sessionKey : String) (answered : Bool) :
    Option (Session ℚ) :=
  if answered then
    ((sm.records sessionKey).filter fun record => sm.now < record.deadline).map
      Record.session
  else none

/-- The time to live is computed before the command is sent. -/
def storeSession (sm : SessionManager) (session : Session ℚ) (wait : ℕ) (answered : Bool) :
    SessionManager :=
  let ttl := if session.expiresAt - sm.now ≤ 0 then hour else session.expiresAt - sm.now
  let sm := sm.elapse wait
  if answered then
    { sm with records :=
        Function.update sm.records session.sessionKey (some ⟨session, sm.now + ttl⟩) }
  else sm

def incrementNonce (sm : SessionManager) (wallet : String) : SessionManager :=
  { sm with nonces := Function.update sm.nonces wallet (sm.nonces wallet + 1) }

/-! ## Calls -/

/-- Every call returns a pointer, or nothing where it returns an error. -/
def registerSession (eth : Ethereum) (sm : SessionManager) (req : SessionKeyRequest)
    (c : Course) : Option ℕ × SessionManager :=
  let sm := sm.elapse (c.ticks 0)
  if c.get = false then (none, sm)
  else
    let nonce := sm.nonces req.mainWallet
    let sm := sm.elapse (c.ticks 1)
    match verifySessionKeySignature eth sm.now req nonce with
    | none => (none, sm)
    | some _ =>
        let sm := sm.elapse (c.ticks 2)
        if c.incr = false then (none, sm)
        else
          let sm := (sm.incrementNonce req.mainWallet).elapse (c.ticks 3)
          let session := newSession sm.now req
          let sm := sm.storeSession session (c.ticks 4) c.set
          if c.set = false then (none, sm)
          else (some sm.objects.length,
            (sm.alloc session).setCache req.sessionKey (some sm.objects.length))

def cached (sm : SessionManager) (sessionKey : String) : Option ℕ :=
  (sm.cache sessionKey).filter fun ref =>
    (sm.objects[ref]?).any fun session => session.isActive && sm.now < session.expiresAt

def validateSession (sm : SessionManager) (sessionKey : String) (c : Course) :
    Option ℕ × SessionManager :=
  let sm := sm.elapse (c.ticks 0)
  match sm.cached sessionKey with
  | some ref => (some ref, sm)
  | none =>
      let sm := sm.elapse (c.ticks 1)
      match sm.loadSession sessionKey c.get with
      | none => (none, sm)
      | some session =>
          let sm := sm.elapse (c.ticks 2)
          if session.isActive = false then (none, sm)
          else if session.expiresAt < sm.now then (none, sm)
          else (some sm.objects.length,
            (sm.alloc session).setCache sessionKey (some sm.objects.length))

def validateAndCharge (sm : SessionManager) (sessionKey : String) (amount : ℚ) (c : Course) :
    Option ℕ × SessionManager :=
  match sm.validateSession sessionKey c with
  | (none, sm) => (none, sm)
  | (some ref, sm) =>
      match sm.objects[ref]? with
      | none => (none, sm)
      | some session =>
          if session.spendLimit < session.spentAmount + amount then (none, sm)
          else
            let sm := (sm.elapse (c.ticks 3)).spend ref amount
            let session := { session with
              spentAmount := session.spentAmount + amount
              lastUsedAt := sm.now }
            let sm := (sm.elapse (c.ticks 4)).storeSession session (c.ticks 5) c.set
            if c.set = false then (none, sm)
            else (some ref, sm.setCache sessionKey (some ref))

def revokeSession (sm : SessionManager) (mainWallet sessionKey : String) (c : Course) :
    Bool × SessionManager :=
  let sm := sm.elapse (c.ticks 0)
  match sm.loadSession sessionKey c.get with
  | none => (false, sm)
  | some session =>
      if session.mainWallet ≠ mainWallet then (false, sm)
      else
        let sm := (sm.elapse (c.ticks 1)).storeSession { session with isActive := false }
          (c.ticks 2) c.set
        if c.set = false then (false, sm)
        else (true, sm.setCache sessionKey none)

def getRemainingQuota (sm : SessionManager) (sessionKey : String) (c : Course) :
    Option ℚ × SessionManager :=
  match sm.validateSession sessionKey c with
  | (none, sm) => (none, sm)
  | (some ref, sm) =>
      ((sm.objects[ref]?).map fun session => session.spendLimit - session.spentAmount, sm)

/-- The session that a `ValidateSession` made now would return. -/
def seen (sm : SessionManager) (sessionKey : String) (c : Course) :
    Option (Session ℚ) :=
  match sm.validateSession sessionKey c with
  | (none, _) => none
  | (some ref, sm) => sm.objects[ref]?

/-! ## Runs -/

inductive SessionCall where
  | registerSession (req : SessionKeyRequest)
  | validateSession (sessionKey : String)
  | validateAndCharge (sessionKey : String) (amount : ℚ)
  | revokeSession (mainWallet sessionKey : String)
  | getRemainingQuota (sessionKey : String)

def handle (eth : Ethereum) (sm : SessionManager) (c : Course) :
    SessionCall → Bool × SessionManager
  | .registerSession req =>
      ((sm.registerSession eth req c).1.isSome, (sm.registerSession eth req c).2)
  | .validateSession key => ((sm.validateSession key c).1.isSome, (sm.validateSession key c).2)
  | .validateAndCharge key amount =>
      ((sm.validateAndCharge key amount c).1.isSome, (sm.validateAndCharge key amount c).2)
  | .revokeSession wallet key => sm.revokeSession wallet key c
  | .getRemainingQuota key =>
      ((sm.getRemainingQuota key c).1.isSome, (sm.getRemainingQuota key c).2)

/-- What each key has been charged since its session was registered. -/
def tally (total : String → ℚ) (call : SessionCall) (ok : Bool) : String → ℚ :=
  match call, ok with
  | .registerSession req, true => Function.update total req.sessionKey 0
  | .validateAndCharge key amount, true => Function.update total key (total key + amount)
  | _, _ => total

def sessionRun (eth : Ethereum) (sm : SessionManager) (total : String → ℚ) :
    List (SessionCall × Course) → SessionManager × (String → ℚ)
  | [] => (sm, total)
  | (call, c) :: calls =>
      sessionRun eth (sm.handle eth c call).2 (tally total call (sm.handle eth c call).1) calls

def newSessionManager (now : ℤ) : SessionManager where
  now := now
  records := fun _ => none
  nonces := fun _ => 0
  objects := []
  cache := fun _ => none

/-! ## What memory and Redis hold -/

variable {sm : SessionManager} {key : String} {ref : ℕ} {session : Session ℚ}

@[simp]
theorem setCache_self (key : String) (ref : Option ℕ) : (sm.setCache key ref).cache key = ref :=
  Function.update_self ..

theorem setCache_setCache (sm : SessionManager) (key : String) (ref ref' : Option ℕ) :
    (sm.setCache key ref).setCache key ref' = sm.setCache key ref' := by
  simp only [setCache, Function.update_idem]

theorem setCache_same (h : sm.cache key = some ref) : sm.setCache key (some ref) = sm := by
  rw [setCache, ← h, Function.update_eq_self]

@[simp]
theorem setCache_of_ne {other : String} (h : other ≠ key) (ref : Option ℕ) :
    (sm.setCache key ref).cache other = sm.cache other :=
  Function.update_of_ne h ..

theorem setCache_none {other : String} (h : (sm.setCache key none).cache other = some ref) :
    other ≠ key ∧ sm.cache other = some ref := by
  by_cases hother : other = key
  · subst hother
    rw [setCache_self] at h
    contradiction
  · rw [setCache_of_ne hother] at h
    exact ⟨hother, h⟩

theorem setCache_some {other : String} {new : ℕ}
    (h : (sm.setCache key (some new)).cache other = some ref) :
    (other = key ∧ ref = new) ∨ (other ≠ key ∧ sm.cache other = some ref) := by
  by_cases hother : other = key
  · subst hother
    rw [setCache_self] at h
    exact .inl ⟨rfl, (Option.some.inj h).symm⟩
  · rw [setCache_of_ne hother] at h
    exact .inr ⟨hother, h⟩

theorem alloc_self (sm : SessionManager) (session : Session ℚ) :
    (sm.alloc session).objects[sm.objects.length]? = some session := by
  simp [alloc]

theorem alloc_of_object {old : Session ℚ} (h : sm.objects[ref]? = some old) (session : Session ℚ) :
    (sm.alloc session).objects[ref]? = some old := by
  rw [← h]
  exact List.getElem?_append_left (List.getElem?_eq_some_iff.mp h).1

theorem storeSession_records {record : Record ℚ} {wait : ℕ}
    (h : (sm.storeSession session wait true).records key = some record) :
    (key = session.sessionKey ∧ record.session = session) ∨
      (key ≠ session.sessionKey ∧ sm.records key = some record) := by
  by_cases hkey : key = session.sessionKey
  · subst hkey
    have hstored : (sm.storeSession session wait true).records session.sessionKey = _ :=
      Function.update_self ..
    cases hstored.symm.trans h
    exact .inl ⟨rfl, rfl⟩
  · have hkept : (sm.storeSession session wait true).records key = sm.records key :=
      Function.update_of_ne hkey ..
    exact .inr ⟨hkey, hkept.symm.trans h⟩

theorem storeSession_refused (wait : ℕ) :
    sm.storeSession session wait false = sm.elapse wait := rfl

theorem loadSession_eq_session {answered : Bool}
    (h : sm.loadSession key answered = some session) :
    ∃ record, sm.records key = some record ∧ record.session = session := by
  unfold loadSession at h
  split at h
  · obtain ⟨record, hrecord, rfl⟩ := Option.map_eq_some_iff.mp h
    exact ⟨record, (Option.filter_eq_some_iff.mp hrecord).1, rfl⟩
  · contradiction

theorem cached_eq_some (h : sm.cached key = some ref) : sm.cache key = some ref ∧
    ∃ session, sm.objects[ref]? = some session ∧ session.isActive = true ∧
      sm.now < session.expiresAt := by
  obtain ⟨hcached, hlive⟩ := Option.filter_eq_some_iff.mp h
  cases hobject : sm.objects[ref]? with
  | none =>
      rw [hobject] at hlive
      contradiction
  | some session =>
      rw [hobject] at hlive
      exact ⟨hcached, session, rfl, by simpa using hlive⟩

theorem spend_self (hobject : sm.objects[ref]? = some session) (amount : ℚ) :
    (sm.spend ref amount).objects[ref]? = some { session with
      spentAmount := session.spentAmount + amount, lastUsedAt := sm.now } := by
  simp only [spend, List.getElem?_modify, hobject, if_true, Option.map_eq_map,
    Option.map_some]

theorem spend_of_ne {other : ℕ} (h : ref ≠ other) (amount : ℚ) :
    (sm.spend ref amount).objects[other]? = sm.objects[other]? := by
  simp only [spend, List.getElem?_modify, if_neg h, Option.map_eq_map, Option.map_id_fun',
    id_eq]

theorem sessionRun_append (eth : Ethereum) (sm : SessionManager) (total : String → ℚ)
    (calls later : List (SessionCall × Course)) :
    sessionRun eth sm total (calls ++ later) =
      sessionRun eth (sessionRun eth sm total calls).1 (sessionRun eth sm total calls).2 later := by
  induction calls generalizing sm total with
  | nil => rfl
  | cons first calls ih => exact ih ..

end SessionManager

end WorldlandBroker.Wallet
