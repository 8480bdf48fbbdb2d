import WorldlandBroker.Wallet.Identity

/-!
# Requests with a session key

The middleware of session_auth.go in front of a session manager.  Abstractly a table
says which registration stands for each key: the one accepted last, until its session
is revoked.  A request comes in by its session key exactly where one stands and has
not expired; without one, the header for developers names any user.
-/

namespace WorldlandBroker.Wallet

open SessionManager

/-! ## The middleware -/

/-- `GetHeader`; a missing header reads as the empty text. -/
abbrev Headers := String → String

structure RequestContext where
  userID : Option String
  sessionKey : Option String
  session : Option (Session ℚ)
  spendLimit : Option ℚ
  remainingQuota : Option ℚ
  authMethod : Option String
  deriving DecidableEq

def noContext : RequestContext := ⟨none, none, none, none, none, none⟩

/-- A refusal is the status 401 with its text; details of an error are left out. -/
abbrev Passed := Except String RequestContext

def sessionKeyScheme : String := "SessionKey "

/-- The header of its own goes before the authorization header. -/
def requestSessionKey (headers : Headers) : String :=
  if headers "X-Session-Key" = "" then
    if sessionKeyScheme.toList.isPrefixOf (headers "Authorization").toList then
      String.ofList ((headers "Authorization").toList.drop sessionKeyScheme.length)
    else ""
  else headers "X-Session-Key"

def validated (sm : SessionManager) (sessionKey : String) (c : Course) :
    Option (Session ℚ) × SessionManager :=
  match sm.validateSession sessionKey c with
  | (none, sm) => (none, sm)
  | (some ref, sm) => (sm.objects[ref]?, sm)

def sessionContext (session : Session ℚ) : RequestContext :=
  { noContext with
    userID := some session.mainWallet
    sessionKey := some session.sessionKey
    session := some session
    spendLimit := some session.spendLimit
    remainingQuota := some (session.spendLimit - session.spentAmount) }

def sessionKeyAuthMiddleware (sm : SessionManager) (headers : Headers) (c : Course) :
    Passed × SessionManager :=
  if requestSessionKey headers = "" then
    (.error ("Session key required. Use X-Session-Key header or " ++
      "'Authorization: SessionKey <key>'"), sm)
  else
    match validated sm (requestSessionKey headers) c with
    | (none, sm) => (.error "Invalid or expired session key", sm)
    | (some session, sm) => (.ok (sessionContext session), sm)

/-- The header for developers is asked where there is no valid session. -/
def developerHeader (headers : Headers) : Passed :=
  if headers "X-User-ID" ≠ "" then
    .ok { noContext with
      userID := some (headers "X-User-ID")
      authMethod := some "dev_header" }
  else
    .error ("Authentication required. Use X-Session-Key, 'Authorization: SessionKey <key>', " ++
      "or X-User-ID (dev only)")

def walletOrSessionKeyMiddleware (sm : SessionManager) (headers : Headers) (c : Course) :
    Passed × SessionManager :=
  if requestSessionKey headers = "" then (developerHeader headers, sm)
  else
    match validated sm (requestSessionKey headers) c with
    | (none, sm) => (developerHeader headers, sm)
    | (some session, sm) =>
        (.ok { noContext with
          userID := some session.mainWallet
          sessionKey := some session.sessionKey
          session := some session
          authMethod := some "session_key" }, sm)

/-! ## Which registration stands -/

abbrev Standing := String → Option (SessionKeyRequest × ℤ)

def registeredAt (sm : SessionManager) (c : Course) : ℤ :=
  sm.now + c.ticks 0 + c.ticks 1 + c.ticks 2 + c.ticks 3

def expiry (standing : SessionKeyRequest × ℤ) : ℤ :=
  standing.2 + Job.wrapInt64 (standing.1.duration * second)

def stand (sm : SessionManager) (c : Course) (standing : Standing) (call : SessionCall)
    (ok : Bool) : Standing :=
  match call, ok with
  | .registerSession req, true =>
      Function.update standing req.sessionKey (some (req, registeredAt sm c))
  | .revokeSession _ key, true => Function.update standing key none
  | _, _ => standing

def standingRun (eth : Ethereum) (sm : SessionManager) (standing : Standing) :
    List (SessionCall × Course) → SessionManager × Standing
  | [] => (sm, standing)
  | (call, c) :: calls =>
      standingRun eth (sm.handle eth c call).2
        (stand sm c standing call (sm.handle eth c call).1) calls

/-! ## What the calls do to memory, cache and Redis -/

variable {eth : Ethereum} {sm sm' : SessionManager} {key wallet : String} {ref : ℕ}
  {session : Session ℚ} {standing : Standing} {req : SessionKeyRequest}
  {c : Course}

/-- The two managers hold the same sessions; time may have passed. -/
structure SameSessions (sm sm' : SessionManager) : Prop where
  records : sm'.records = sm.records
  objects : sm'.objects = sm.objects
  cache : sm'.cache = sm.cache

theorem SameSessions.elapse (h : SameSessions sm sm') (n : ℕ) :
    SameSessions sm (sm'.elapse n) :=
  ⟨h.records, h.objects, h.cache⟩

theorem SameSessions.refl (sm : SessionManager) : SameSessions sm sm := ⟨rfl, rfl, rfl⟩

def cacheNew (sm : SessionManager) (key : String) (session : Session ℚ) :
    SessionManager :=
  (sm.alloc session).setCache key (some sm.objects.length)

theorem registerSession_cases (eth : Ethereum) (sm : SessionManager) (req : SessionKeyRequest)
    (c : Course) :
    ((sm.registerSession eth req c).1 = none ∧
        SameSessions sm (sm.registerSession eth req c).2) ∨
      ∃ counted, SameSessions sm counted ∧ counted.now = registeredAt sm c ∧
        (∃ now nonce, (verifySessionKeySignature eth now req nonce).isSome) ∧
        (sm.registerSession eth req c).1.isSome = true ∧
        (sm.registerSession eth req c).2 = cacheNew
          (counted.storeSession (newSession counted.now req) (c.ticks 4) true)
          req.sessionKey (newSession counted.now req) := by
  unfold SessionManager.registerSession
  simp only []
  split
  · exact .inl ⟨rfl, (SameSessions.refl sm).elapse _⟩
  split
  · exact .inl ⟨rfl, ((SameSessions.refl sm).elapse _).elapse _⟩
  rename_i message hverified
  split
  · exact .inl ⟨rfl, (((SameSessions.refl sm).elapse _).elapse _).elapse _⟩
  cases hset : c.set with
  | false => exact .inl ⟨rfl, rfl, rfl, rfl⟩
  | true =>
      exact .inr ⟨((((sm.elapse (c.ticks 0)).elapse (c.ticks 1)).elapse
        (c.ticks 2)).incrementNonce req.mainWallet).elapse (c.ticks 3), ⟨rfl, rfl, rfl⟩, rfl,
        ⟨_, _, Option.isSome_iff_exists.mpr ⟨message, hverified⟩⟩, rfl, rfl⟩

theorem revokeSession_cases (sm : SessionManager) (wallet key : String) (c : Course) :
    ((sm.revokeSession wallet key c).1 = false ∧
        SameSessions sm (sm.revokeSession wallet key c).2) ∨
      ∃ asked record, SameSessions sm asked ∧ sm.records key = some record ∧
        (sm.revokeSession wallet key c).1 = true ∧
        (sm.revokeSession wallet key c).2 =
          (asked.storeSession { record.session with isActive := false } (c.ticks 2)
            true).setCache key none := by
  unfold SessionManager.revokeSession
  simp only []
  split
  · exact .inl ⟨rfl, (SameSessions.refl sm).elapse _⟩
  rename_i session hloaded
  obtain ⟨record, hrecord, rfl⟩ := loadSession_eq_session hloaded
  split
  · exact .inl ⟨rfl, (SameSessions.refl sm).elapse _⟩
  cases hset : c.set with
  | false => exact .inl ⟨rfl, rfl, rfl, rfl⟩
  | true =>
      exact .inr ⟨(sm.elapse (c.ticks 0)).elapse (c.ticks 1), record, ⟨rfl, rfl, rfl⟩, hrecord,
        rfl, rfl⟩

inductive Validation (sm : SessionManager) (key : String) (c : Course) :
    Option ℕ × SessionManager → Prop where
  | cached (ref : ℕ) (session : Session ℚ) :
      sm.cache key = some ref → sm.objects[ref]? = some session → session.isActive = true →
      sm.now + c.ticks 0 < session.expiresAt →
      Validation sm key c (some ref, sm.elapse (c.ticks 0))
  | refused (asked : SessionManager) : SameSessions sm asked → Validation sm key c (none, asked)
  | loaded (asked : SessionManager) (record : Record ℚ) : SameSessions sm asked →
      sm.records key = some record → record.session.isActive = true →
      asked.now ≤ record.session.expiresAt →
      Validation sm key c (some sm.objects.length, cacheNew asked key record.session)

theorem validateSession_cases (sm : SessionManager) (key : String) (c : Course) :
    Validation sm key c (sm.validateSession key c) := by
  unfold SessionManager.validateSession
  simp only []
  split
  · rename_i ref hhit
    obtain ⟨hcache, session, hobject, hactive, hlive⟩ := cached_eq_some hhit
    exact .cached ref session hcache hobject hactive hlive
  · split
    · exact .refused _ ⟨rfl, rfl, rfl⟩
    rename_i session hloaded
    obtain ⟨record, hrecord, rfl⟩ := loadSession_eq_session hloaded
    split
    · exact .refused _ ⟨rfl, rfl, rfl⟩
    rename_i hactive
    split
    · exact .refused _ ⟨rfl, rfl, rfl⟩
    rename_i hlive
    exact .loaded _ record ⟨rfl, rfl, rfl⟩ hrecord (by simpa using hactive) (not_lt.mp hlive)

/-! ## The table and the sessions -/

def Fits (standing : Standing) (key : String) (session : Session ℚ) : Prop :=
  session.sessionKey = key ∧
    match standing key with
    | none => session.isActive = false
    | some made => session.mainWallet = made.1.mainWallet ∧ session.expiresAt = expiry made

private theorem fits_lasting (standing : Standing) : Lasting (Fits standing) where
  sessionKey _ _ h := h.1
  charged key session amount now h := h
  revoked key session h := by
    refine ⟨h.1, ?_⟩
    have hfits := h.2
    split at hfits
    · rfl
    · exact hfits

theorem Fits.active (h : Fits standing key session) (hactive : session.isActive = true) :
    ∃ made, standing key = some made ∧ session.mainWallet = made.1.mainWallet ∧
      session.expiresAt = expiry made := by
  have hfits := h.2
  split at hfits
  · rw [hactive] at hfits
    contradiction
  · rename_i made hmade
    exact ⟨made, hmade, hfits⟩

def Served (sm : SessionManager) (key : String) : Prop :=
  ∃ ref session, sm.cache key = some ref ∧ sm.objects[ref]? = some session ∧
    session.isActive = true

theorem Served.same (h : Served sm key) (hsame : SameSessions sm sm') : Served sm' key := by
  obtain ⟨ref, session, hcache, hobject, hactive⟩ := h
  exact ⟨ref, session, by rw [hsame.cache, hcache], by rw [hsame.objects, hobject], hactive⟩

theorem Served.storeSession (h : Served sm key) (session : Session ℚ) (wait : ℕ)
    (answered : Bool) : Served (sm.storeSession session wait answered) key := by
  obtain ⟨ref, other, hcache, hobject, hactive⟩ := h
  cases answered <;> exact ⟨ref, other, hcache, hobject, hactive⟩

theorem Served.uncache (h : Served sm key) {other : String} (hother : key ≠ other) :
    Served (sm.setCache other none) key := by
  obtain ⟨ref, session, hcache, hobject, hactive⟩ := h
  exact ⟨ref, session, (setCache_of_ne hother none).trans hcache, hobject, hactive⟩

private theorem served_cacheNew (hactive : session.isActive = true) :
    Served (cacheNew sm key session) key :=
  ⟨sm.objects.length, session, setCache_self .., alloc_self sm session, hactive⟩

theorem Served.cacheNew {other : String} (h : Served sm key) (hactive : session.isActive = true) :
    Served (cacheNew sm other session) key := by
  by_cases hother : key = other
  · subst hother
    exact served_cacheNew hactive
  · obtain ⟨ref, session', hcache, hobject, hactive'⟩ := h
    exact ⟨ref, session', (setCache_of_ne hother _).trans hcache,
      alloc_of_object hobject session, hactive'⟩

theorem Served.spend (h : Served sm key) (ref : ℕ) (amount : ℚ) :
    Served (sm.spend ref amount) key := by
  obtain ⟨ref', session, hcache, hobject, hactive⟩ := h
  by_cases href : ref = ref'
  · subst href
    exact ⟨ref, _, hcache, spend_self hobject amount, hactive⟩
  · exact ⟨ref', session, hcache, (spend_of_ne href amount).trans hobject, hactive⟩

theorem Served.validateSession (h : Served sm key) (other : String) (c : Course) :
    Served (sm.validateSession other c).2 key := by
  cases hcase : sm.validateSession other c with
  | mk found after =>
      have hcases := validateSession_cases sm other c
      rw [hcase] at hcases
      cases hcases with
      | cached => exact h.same ((SameSessions.refl sm).elapse _)
      | refused asked hsame => exact h.same hsame
      | loaded asked record hsame _ hactive => exact (h.same hsame).cacheNew hactive

theorem Served.validateAndCharge (hfiled : Filed (Fits standing) sm) (h : Served sm key)
    (other : String) (amount : ℚ) (c : Course) :
    Served (sm.validateAndCharge other amount c).2 key := by
  have hserved := h.validateSession other c
  have hcache := (hfiled.validateSession other c).2
  unfold SessionManager.validateAndCharge
  split
  · rename_i after heq
    rw [heq] at hserved
    exact hserved
  rename_i ref after heq
  rw [heq] at hserved hcache
  split
  · exact hserved
  split
  · exact hserved
  rename_i session hobject hwithin
  have hspent := ((hserved.same ((SameSessions.refl _).elapse (c.ticks 3))).spend ref
    amount).same ((SameSessions.refl _).elapse (c.ticks 4))
  have hstored (charged : Session ℚ) :=
    hspent.storeSession charged (c.ticks 5) c.set
  split
  · exact hstored _
  · change Served (SessionManager.setCache _ other (some ref)) key
    rw [setCache_same]
    · exact hstored _
    · have href : after.cache other = some ref := hcache ref rfl
      cases c.set <;> exact href

structure Decided (standing : Standing) (sm : SessionManager) : Prop where
  filed : Filed (Fits standing) sm
  served : ∀ key, (standing key).isSome → Served sm key

private theorem decided_new (now : ℤ) : Decided (fun _ => none) (newSessionManager now) :=
  ⟨⟨nofun, nofun⟩, nofun⟩

theorem SessionManager.Filed.same {Q : String → Session ℚ → Prop} (h : Filed Q sm)
    (hsame : SameSessions sm sm') : Filed Q sm' := by
  refine ⟨?_, ?_⟩
  · rw [hsame.records]
    exact h.records
  · rw [hsame.cache, hsame.objects]
    exact h.cached

theorem Decided.same (h : Decided standing sm) (hsame : SameSessions sm sm') :
    Decided standing sm' :=
  ⟨h.filed.same hsame, fun key hkey => (h.served key hkey).same hsame⟩

theorem Fits.of_ne {other : String} {made : Option (SessionKeyRequest × ℤ)}
    (h : Fits standing key session) (hkey : key ≠ other) :
    Fits (Function.update standing other made) key session := by
  unfold Fits
  rwa [Function.update_of_ne hkey]

theorem Decided.registerSession (h : Decided standing sm) (eth : Ethereum)
    (req : SessionKeyRequest) (c : Course) :
    Decided (stand sm c standing (.registerSession req)
      (sm.registerSession eth req c).1.isSome) (sm.registerSession eth req c).2 := by
  rcases registerSession_cases eth sm req c with
    ⟨hnone, hsame⟩ | ⟨counted, hsame, htime, -, hsome, hafter⟩
  · rw [hnone]
    exact h.same hsame
  rw [hsome, hafter]
  have hcounted := h.same hsame
  have hnew : Fits (Function.update standing req.sessionKey (some (req, registeredAt sm c)))
      req.sessionKey (newSession counted.now req) := by
    refine ⟨rfl, ?_⟩
    rw [Function.update_self, htime]
    exact ⟨rfl, rfl⟩
  refine ⟨?_, ?_⟩
  · refine Filed.cacheNew ?_ ?_ hnew
    · intro key record hrecord
      rcases storeSession_records hrecord with ⟨rfl, hsession⟩ | ⟨hkey, hbefore⟩
      · rw [hsession]
        exact hnew
      · exact (hcounted.filed.records key record hbefore).of_ne hkey
    · intro other ref hother hcache
      obtain ⟨session, hobject, hfits⟩ := hcounted.filed.cached other ref hcache
      exact ⟨session, hobject, hfits.of_ne hother⟩
  · intro key hkey
    by_cases hown : key = req.sessionKey
    · subst hown
      exact served_cacheNew rfl
    · have hbefore : (standing key).isSome := by
        simpa only [stand, Function.update_of_ne hown] using hkey
      exact ((hcounted.served key hbefore).storeSession _ _ _).cacheNew rfl

theorem Decided.revokeSession (h : Decided standing sm) (wallet key : String) (c : Course) :
    Decided (stand sm c standing (.revokeSession wallet key)
      (sm.revokeSession wallet key c).1) (sm.revokeSession wallet key c).2 := by
  rcases revokeSession_cases sm wallet key c with
    ⟨hfalse, hsame⟩ | ⟨asked, record, hsame, hrecord, htrue, hafter⟩
  · rw [hfalse]
    exact h.same hsame
  rw [htrue, hafter]
  have hasked := h.same hsame
  have hkey : record.session.sessionKey = key := (h.filed.records key record hrecord).1
  have hrevoked : stand sm c standing (.revokeSession wallet key) true key = none :=
    Function.update_self ..
  refine ⟨⟨?_, ?_⟩, ?_⟩
  · intro other record' hrecord'
    rcases storeSession_records hrecord' with ⟨rfl, hsession⟩ | ⟨hother, hbefore⟩
    · rw [hsession]
      refine ⟨rfl, ?_⟩
      rw [show ({ record.session with isActive := false } :
        Session ℚ).sessionKey = key from hkey, hrevoked]
    · have hne : other ≠ key := fun heq => hother (heq.trans hkey.symm)
      exact (hasked.filed.records other record' hbefore).of_ne hne
  · intro other ref hcache
    obtain ⟨hother, hbefore⟩ := setCache_none hcache
    obtain ⟨session, hobject, hfits⟩ := hasked.filed.cached other ref hbefore
    exact ⟨session, hobject, hfits.of_ne hother⟩
  · intro other hother
    have hne : other ≠ key := by
      rintro rfl
      simp [stand] at hother
    have hbefore : (standing other).isSome := by
      simpa only [stand, Function.update_of_ne hne] using hother
    exact ((hasked.served other hbefore).storeSession _ _ _).uncache hne

theorem Decided.handle (h : Decided standing sm) (eth : Ethereum) (call : SessionCall)
    (c : Course) :
    Decided (stand sm c standing call (sm.handle eth c call).1) (sm.handle eth c call).2 := by
  cases call with
  | registerSession req => exact h.registerSession eth req c
  | validateSession key =>
      exact ⟨(h.filed.validateSession key c).1, fun other hother =>
        (h.served other hother).validateSession key c⟩
  | validateAndCharge key amount =>
      exact ⟨h.filed.validateAndCharge (fits_lasting standing) key amount c,
        fun other hother => (h.served other hother).validateAndCharge h.filed key amount c⟩
  | revokeSession wallet key => exact h.revokeSession wallet key c
  | getRemainingQuota key =>
      refine ⟨h.filed.getRemainingQuota key c, fun other hother => ?_⟩
      have hserved := (h.served other hother).validateSession key c
      change Served (sm.getRemainingQuota key c).2 other
      unfold SessionManager.getRemainingQuota
      split
      all_goals
        rename_i heq
        rw [heq] at hserved
        exact hserved

def Signed (eth : Ethereum) (standing : Standing) : Prop :=
  ∀ key made, standing key = some made →
    ∃ now nonce, (verifySessionKeySignature eth now made.1 nonce).isSome

theorem Signed.stand (h : Signed eth standing) (sm : SessionManager) (c : Course)
    (call : SessionCall) : Signed eth (stand sm c standing call (sm.handle eth c call).1) := by
  intro key made hmade
  cases call with
  | registerSession req =>
      rcases registerSession_cases eth sm req c with ⟨hnone, -⟩ | ⟨counted, -, -, hsigned, hsome, -⟩
      · simp only [handle, hnone] at hmade
        exact h key made hmade
      · by_cases hkey : key = req.sessionKey
        · subst hkey
          simp only [handle, hsome, Wallet.stand, Function.update_self] at hmade
          cases hmade
          exact hsigned
        · simp only [handle, hsome, Wallet.stand, Function.update_of_ne hkey] at hmade
          exact h key made hmade
  | validateSession other => exact h key made hmade
  | validateAndCharge other amount => exact h key made hmade
  | getRemainingQuota other => exact h key made hmade
  | revokeSession wallet other =>
      cases hok : (sm.revokeSession wallet other c).1 with
      | false =>
          simp only [handle, hok] at hmade
          exact h key made hmade
      | true =>
          by_cases hkey : key = other
          · subst hkey
            simp only [handle, hok, Wallet.stand, Function.update_self] at hmade
            contradiction
          · simp only [handle, hok, Wallet.stand, Function.update_of_ne hkey] at hmade
            exact h key made hmade

theorem Signed.run (h : Signed eth standing) (calls : List (SessionCall × Course)) :
    Signed eth (standingRun eth sm standing calls).2 := by
  induction calls generalizing sm standing with
  | nil => exact h
  | cons first calls ih => exact ih (h.stand sm first.2 first.1)

theorem Decided.run (h : Decided standing sm) (eth : Ethereum)
    (calls : List (SessionCall × Course)) :
    Decided (standingRun eth sm standing calls).2 (standingRun eth sm standing calls).1 := by
  induction calls generalizing sm standing with
  | nil => exact h
  | cons first calls ih => exact ih (h.handle eth first.1 first.2)

/-! ## Which requests come in -/

theorem Decided.of_validated (h : Decided standing sm) {key : String}
    (hsession : (validated sm key c).1 = some session) :
    ∃ made, standing key = some made ∧ session.sessionKey = key ∧
      session.mainWallet = made.1.mainWallet ∧ (validated sm key c).2.now ≤ expiry made := by
  have hcases := validateSession_cases sm key c
  unfold Wallet.validated at hsession ⊢
  cases hcase : sm.validateSession key c with
  | mk found after =>
      rw [hcase] at hcases hsession
      cases hcases with
      | refused => contradiction
      | cached ref session' hcache hobject hactive hlive =>
          obtain ⟨session'', hobject', hfits⟩ := h.filed.cached key ref hcache
          cases hobject.symm.trans hobject'
          cases hobject.symm.trans hsession
          obtain ⟨made, hmade, hwallet, hexpires⟩ := hfits.active hactive
          exact ⟨made, hmade, hfits.1, hwallet, hexpires ▸ hlive.le⟩
      | loaded asked record hsame hrecord hactive hlive =>
          have hfits := h.filed.records key record hrecord
          have hobject : (cacheNew asked key record.session).objects[sm.objects.length]? =
              some record.session := by
            rw [← hsame.objects]
            exact alloc_self asked record.session
          cases hobject.symm.trans hsession
          obtain ⟨made, hmade, hwallet, hexpires⟩ := hfits.active hactive
          exact ⟨made, hmade, hfits.1, hwallet, hexpires ▸ hlive⟩

private theorem sessionKeyAuthMiddleware_ok {headers : Headers} {context : RequestContext} :
    (sessionKeyAuthMiddleware sm headers c).1 = .ok context ↔
      requestSessionKey headers ≠ "" ∧ ∃ session,
        (validated sm (requestSessionKey headers) c).1 = some session ∧
          context = sessionContext session := by
  unfold sessionKeyAuthMiddleware
  split
  · rename_i hkey
    simp [hkey]
  · rename_i hkey
    cases hcase : validated sm (requestSessionKey headers) c with
    | mk found after => cases found <;> simp [hkey, eq_comm]

private theorem sessionKeyAuthMiddleware_after {headers : Headers}
    (hkey : requestSessionKey headers ≠ "") :
    (sessionKeyAuthMiddleware sm headers c).2 =
      (validated sm (requestSessionKey headers) c).2 := by
  rw [sessionKeyAuthMiddleware, if_neg hkey]
  cases hcase : validated sm (requestSessionKey headers) c with
  | mk found after => cases found <;> rfl

private theorem walletOrSessionKeyMiddleware_ok {headers : Headers} {context : RequestContext} :
    (walletOrSessionKeyMiddleware sm headers c).1 = .ok context ↔
      (∃ strict, (sessionKeyAuthMiddleware sm headers c).1 = .ok strict ∧
        context = { strict with
          spendLimit := none, remainingQuota := none, authMethod := some "session_key" }) ∨
      ((∀ strict, (sessionKeyAuthMiddleware sm headers c).1 ≠ .ok strict) ∧
        developerHeader headers = .ok context) := by
  unfold walletOrSessionKeyMiddleware sessionKeyAuthMiddleware
  split
  · simp
  · cases hcase : validated sm (requestSessionKey headers) c with
    | mk found after => cases found <;> simp [sessionContext, noContext, eq_comm]

private theorem developerHeader_ok {headers : Headers} {context : RequestContext} :
    developerHeader headers = .ok context ↔ headers "X-User-ID" ≠ "" ∧
      context = { noContext with
        userID := some (headers "X-User-ID"), authMethod := some "dev_header" } := by
  unfold developerHeader
  split
  · rename_i hheader
    simp [hheader, eq_comm]
  · rename_i hheader
    simp [not_not.mp hheader]

def afterCalls (eth : Ethereum) (now : ℤ) (calls : List (SessionCall × Course)) :
    SessionManager × Standing :=
  standingRun eth (newSessionManager now) (fun _ => none) calls

private theorem decided_afterCalls (eth : Ethereum) (now : ℤ)
    (calls : List (SessionCall × Course)) :
    Decided (afterCalls eth now calls).2 (afterCalls eth now calls).1 :=
  (decided_new now).run eth calls

theorem Decided.admitted {standing : Standing} {headers : Headers} {context : RequestContext}
    (h : Decided standing sm) (hok : (sessionKeyAuthMiddleware sm headers c).1 = .ok context) :
    ∃ made, standing (requestSessionKey headers) = some made ∧
      context.userID = some made.1.mainWallet ∧
      context.sessionKey = some (requestSessionKey headers) ∧
      (sessionKeyAuthMiddleware sm headers c).2.now ≤ expiry made := by
  obtain ⟨hkey, session, hsession, rfl⟩ := sessionKeyAuthMiddleware_ok.mp hok
  obtain ⟨made, hmade, hown, hwallet, htime⟩ := h.of_validated hsession
  rw [sessionKeyAuthMiddleware_after hkey]
  exact ⟨made, hmade, congrArg some hwallet, congrArg some hown, htime⟩

/--
After every run, `WalletOrSessionKeyMiddleware` lets a request in by its session
key exactly where the strict middleware does, as the same user.  Any other request,
one with a revoked, expired or invented key too, comes in as whomever its header
`X-User-ID` names, and only one without that header is turned away.
-/
theorem wallet_or_session_key_admits (eth : Ethereum) (now : ℤ)
    (calls : List (SessionCall × Course)) (headers : Headers) (c : Course) (user : String) :
    let (sm, standing) := afterCalls eth now calls
    (∃ context, (walletOrSessionKeyMiddleware sm headers c).1 = .ok context ∧
        context.userID = some user) ↔
      (∃ context, (sessionKeyAuthMiddleware sm headers c).1 = .ok context ∧
        context.userID = some user ∧
        ∃ made, standing (requestSessionKey headers) = some made ∧ user = made.1.mainWallet) ∨
      ((∀ context, (sessionKeyAuthMiddleware sm headers c).1 ≠ .ok context) ∧
        user ≠ "" ∧ headers "X-User-ID" = user) := by
  have hdecided := decided_afterCalls eth now calls
  constructor
  · rintro ⟨context, hok, huser⟩
    rcases walletOrSessionKeyMiddleware_ok.mp hok with ⟨strict, hstrict, rfl⟩ | ⟨hnone, hheader⟩
    · obtain ⟨made, hmade, hwallet, -⟩ := hdecided.admitted hstrict
      exact .inl ⟨strict, hstrict, huser, made, hmade,
        Option.some.inj (huser.symm.trans hwallet)⟩
    · obtain ⟨hsent, rfl⟩ := developerHeader_ok.mp hheader
      obtain rfl := Option.some.inj huser
      exact .inr ⟨hnone, hsent, rfl⟩
  · rintro (⟨context, hstrict, huser, -⟩ | ⟨hnone, hsent, rfl⟩)
    · exact ⟨_, walletOrSessionKeyMiddleware_ok.mpr (.inl ⟨context, hstrict, rfl⟩), huser⟩
    · exact ⟨_, walletOrSessionKeyMiddleware_ok.mpr
        (.inr ⟨hnone, developerHeader_ok.mpr ⟨hsent, rfl⟩⟩), rfl⟩

end WorldlandBroker.Wallet
