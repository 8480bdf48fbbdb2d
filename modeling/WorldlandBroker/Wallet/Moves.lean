import WorldlandBroker.Wallet.Session

/-!
# What a call's next access can do

`Moves` lists the accesses once, each with its guard and its effect on the
shared store; every invariant of the session manager is proved by cases on it.
-/

namespace WorldlandBroker.Wallet

open Foundation

@[simp]
def Op.sessionKey : Op → String
  | .registerSession req => req.sessionKey
  | .validateSession sessionKey => sessionKey
  | .validateAndCharge sessionKey _ => sessionKey
  | .revokeSession _ sessionKey => sessionKey

def Op.Stores : Op → Prop
  | .registerSession _ => True
  | .validateAndCharge _ _ => True
  | _ => False

def Op.Validates : Op → Prop
  | .validateSession _ => True
  | .validateAndCharge _ _ => True
  | _ => False

def Stage.Fallible : Stage → Prop
  | .begun | .nonceRead _ | .verified _ | .counted _ | .missed | .held _ => True
  | .marshalled _ _ _ | .owned _ => True
  | _ => False

inductive Moves (eth : Ethereum) (s : Store) (p : ℕ) :
    Op → Stage → Store → Stage → Prop where
  | fail {op : Op} {stage : Stage} (hstage : stage.Fallible) :
      Moves eth s p op stage s (.returned false)
  | readNonce {req : SessionKeyRequest} :
      Moves eth s p (.registerSession req) .begun s
        (.nonceRead (s.nonces req.mainWallet))
  | verify {req : SessionKeyRequest} {nonce : ℕ} {message : RegisterSessionKey}
      (hverified : verifySessionKeySignature eth s.now req nonce = some message) :
      Moves eth s p (.registerSession req) (.nonceRead nonce) s (.verified message)
  | count {req : SessionKeyRequest} {message : RegisterSessionKey} :
      Moves eth s p (.registerSession req) (.verified message)
        (s.incrementNonce req.mainWallet) (.counted message)
  | register {req : SessionKeyRequest} {message : RegisterSessionKey} :
      Moves eth s p (.registerSession req) (.counted message)
        ((s.storeSession (newSession s.now req)).alloc (newSession s.now req))
        (.stored s.objects.length)
  | publish {op : Op} {ref : ℕ} (hop : op.Stores) :
      Moves eth s p op (.stored ref) (s.cache p op.sessionKey ref) (.returned true)
  | hit {op : Op} {ref : ℕ} {session : Session ℚ≥0} (hop : op.Validates)
      (hcached : s.caches p op.sessionKey = some ref)
      (hobject : s.objects[ref]? = some session)
      (hlive : session.isActive = true ∧ s.now < session.expiresAt) :
      Moves eth s p op .begun s (.held ref)
  | miss {op : Op} (hop : op.Validates) : Moves eth s p op .begun s .missed
  | load {op : Op} {session : Session ℚ≥0} (hop : op.Validates)
      (hloaded : s.loadSession op.sessionKey = some session)
      (hactive : session.isActive = true) :
      Moves eth s p op .missed (s.alloc session) (.loaded s.objects.length)
  | cacheLoaded {op : Op} {ref : ℕ} (hop : op.Validates) :
      Moves eth s p op (.loaded ref) (s.cache p op.sessionKey ref) (.held ref)
  | validated {key : String} {ref : ℕ} :
      Moves eth s p (.validateSession key) (.held ref) s (.returned true)
  | allow {key : String} {amount : ℚ≥0} {ref : ℕ} {session : Session ℚ≥0}
      (hobject : s.objects[ref]? = some session)
      (hlimit : session.spentAmount + amount ≤ session.spendLimit) :
      Moves eth s p (.validateAndCharge key amount) (.held ref) s (.allowed ref)
  | charge {key : String} {amount : ℚ≥0} {ref : ℕ} :
      Moves eth s p (.validateAndCharge key amount) (.allowed ref)
        (s.charge ref amount) (.charged ref)
  | marshal {key : String} {amount : ℚ≥0} {ref : ℕ} {session : Session ℚ≥0}
      (hobject : s.objects[ref]? = some session) :
      Moves eth s p (.validateAndCharge key amount) (.charged ref) s
        (.marshalled ref session (s.timeToLive session))
  | writeBack {key : String} {amount : ℚ≥0} {ref : ℕ} {data : Session ℚ≥0} {ttl : ℤ} :
      Moves eth s p (.validateAndCharge key amount) (.marshalled ref data ttl)
        (s.set data ttl) (.stored ref)
  | own {mainWallet key : String} {session : Session ℚ≥0}
      (hloaded : s.loadSession key = some session)
      (howner : session.mainWallet = mainWallet) :
      Moves eth s p (.revokeSession mainWallet key) .begun s (.owned session)
  | deactivate {mainWallet key : String} {session : Session ℚ≥0} :
      Moves eth s p (.revokeSession mainWallet key) (.owned session)
        (s.storeSession { session with isActive := false }) .revoked
  | forget {mainWallet key : String} :
      Moves eth s p (.revokeSession mainWallet key) .revoked
        (s.uncache p key) (.returned true)

section Inversion

variable {eth : Ethereum} {s s' : Store} {p : ℕ} {stage stage' : Stage}

private theorem registerSession_moves {req : SessionKeyRequest}
    (h : registerSession eth s p req stage = some (s', stage')) :
    Moves eth s p (.registerSession req) stage s' stage' := by
  cases stage with
  | begun =>
      cases h
      exact .readNonce
  | nonceRead nonce =>
      simp only [registerSession] at h
      split at h
      · cases h
        exact .fail trivial
      · cases h
        exact .verify ‹_›
  | verified message =>
      cases h
      exact .count
  | counted message =>
      cases h
      exact .register
  | stored ref =>
      cases h
      exact .publish trivial
  | _ => cases h

private theorem validateSession_moves (op : Op) (hop : op.Validates)
    (h : validateSession s p op.sessionKey stage = some (s', stage')) :
    Moves eth s p op stage s' stage' := by
  cases stage with
  | begun =>
      simp only [validateSession] at h
      split at h
      · cases h
        exact .miss hop
      · rename_i ref hcached
        split at h
        · contradiction
        · rename_i session hobject
          split at h
          · rename_i hlive
            cases h
            exact .hit hop hcached hobject hlive
          · cases h
            exact .miss hop
  | missed =>
      simp only [validateSession] at h
      split at h
      · cases h
        exact .fail trivial
      · rename_i session hloaded
        split at h
        · cases h
          exact .fail trivial
        · rename_i hactive
          split at h
          · cases h
            exact .fail trivial
          · cases h
            exact .load hop hloaded (by simpa using hactive)
  | loaded ref =>
      cases h
      exact .cacheLoaded hop
  | _ => cases h

private theorem validateAndCharge_moves {key : String} {amount : ℚ≥0}
    (h : validateAndCharge s p key amount stage = some (s', stage')) :
    Moves eth s p (.validateAndCharge key amount) stage s' stage' := by
  cases stage with
  | held ref =>
      simp only [validateAndCharge] at h
      split at h
      · contradiction
      · rename_i session hobject
        split at h
        · cases h
          exact .fail trivial
        · rename_i hlimit
          cases h
          exact .allow hobject (not_lt.mp hlimit)
  | allowed ref =>
      cases h
      exact .charge
  | charged ref =>
      simp only [validateAndCharge] at h
      split at h
      · contradiction
      · cases h
        exact .marshal ‹_›
  | marshalled ref data ttl =>
      cases h
      exact .writeBack
  | stored ref =>
      cases h
      exact .publish trivial
  | _ => exact validateSession_moves (.validateAndCharge key amount) trivial h

private theorem revokeSession_moves {mainWallet key : String}
    (h : revokeSession s p mainWallet key stage = some (s', stage')) :
    Moves eth s p (.revokeSession mainWallet key) stage s' stage' := by
  cases stage with
  | begun =>
      simp only [revokeSession] at h
      split at h
      · cases h
        exact .fail trivial
      · rename_i session hloaded
        split at h
        · cases h
          exact .fail trivial
        · rename_i howner
          cases h
          exact .own hloaded (not_not.mp howner)
  | owned session =>
      cases h
      exact .deactivate
  | revoked =>
      cases h
      exact .forget
  | _ => cases h

theorem advance_moves {op : Op} (h : advance eth s p op stage = some (s', stage')) :
    Moves eth s p op stage s' stage' := by
  cases op with
  | registerSession req => exact registerSession_moves h
  | validateSession key =>
      cases stage with
      | held ref =>
          cases h
          exact .validated
      | _ => exact validateSession_moves (.validateSession key) trivial h
  | validateAndCharge key amount => exact validateAndCharge_moves h
  | revokeSession mainWallet key => exact revokeSession_moves h

private theorem fallible_of_usesRedis {op : Op} (h : usesRedis op stage = true) :
    stage.Fallible := by
  cases op <;> cases stage <;> trivial

end Inversion

/-- The call that an action moves on; a failing Redis command moves none on. -/
def moving (s : State) : Action → Option Call
  | .advance c => s.calls[c]?
  | _ => none

def registered (s : State) (a : Action) : Option SessionKeyRequest :=
  match moving s a with
  | some ⟨_, .registerSession req, .counted _⟩ => some req
  | _ => none

inductive Progress (eth : Ethereum) (s : State) : Action → State → Prop where
  | request (p : ℕ) (op : Op) :
      Progress eth s (.request p op) { s with calls := s.calls ++ [⟨p, op, .begun⟩] }
  | advance {c : ℕ} {call : Call} {store : Store} {stage : Stage}
      (hcall : s.calls[c]? = some call)
      (hmove : Moves eth s.store call.process call.op call.stage store stage) :
      Progress eth s (.advance c) ⟨store, s.calls.set c { call with stage := stage }⟩
  | redisError {c : ℕ} {call : Call} (hcall : s.calls[c]? = some call)
      (hstage : call.stage.Fallible) :
      Progress eth s (.redisError c)
        ⟨s.store, s.calls.set c { call with stage := .returned false }⟩
  | tick (nanoseconds : ℕ) :
      Progress eth s (.tick nanoseconds)
        { s with store := { s.store with now := s.store.now + nanoseconds } }

theorem step_progress {eth : Ethereum} {s s' : State} {a : Action}
    (h : step eth s a = some s') : Progress eth s a s' := by
  cases a with
  | request p op =>
      cases h
      exact .request p op
  | advance c =>
      simp only [step] at h
      split at h
      · contradiction
      · rename_i call hcall
        split at h
        · contradiction
        · rename_i store stage hadvance
          cases h
          exact .advance hcall (advance_moves hadvance)
  | redisError c =>
      simp only [step] at h
      split at h
      · contradiction
      · rename_i call hcall
        split at h
        · rename_i hredis
          cases h
          exact .redisError hcall (fallible_of_usesRedis hredis)
        · contradiction
  | tick nanoseconds =>
      cases h
      exact .tick nanoseconds

end WorldlandBroker.Wallet
