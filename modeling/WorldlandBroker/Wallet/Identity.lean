import WorldlandBroker.Wallet.Login
import WorldlandBroker.Wallet.SessionManager

/-!
# One wallet, several spellings

A session carries its wallet as it was spelled at registration, and a login carries
it as it was spelled there.  Signatures are checked against the decoded address,
and whose session it is by comparing the texts.
-/

namespace WorldlandBroker.Wallet

namespace SessionManager

/-! ## What is filed under a key -/

structure Filed (Q : String → Session ℚ → Prop) (sm : SessionManager) : Prop where
  records : ∀ key record, sm.records key = some record → Q key record.session
  cached : ∀ key ref, sm.cache key = some ref →
    ∃ session, sm.objects[ref]? = some session ∧ Q key session

structure Lasting (Q : String → Session ℚ → Prop) : Prop where
  sessionKey : ∀ key session, Q key session → session.sessionKey = key
  charged : ∀ key session amount now, Q key session →
    Q key { session with spentAmount := amount, lastUsedAt := now }
  revoked : ∀ key session, Q key session → Q key { session with isActive := false }

variable {Q Q' : String → Session ℚ → Prop} {sm : SessionManager}
  {key : String} {session : Session ℚ}

namespace Filed

theorem elapse (h : Filed Q sm) (n : ℕ) : Filed Q (sm.elapse n) := ⟨h.records, h.cached⟩

theorem storeSession (hlasting : Lasting Q) (h : Filed Q sm) (hQ : Q key session) (wait : ℕ)
    (answered : Bool) : Filed Q (sm.storeSession session wait answered) := by
  obtain rfl := hlasting.sessionKey key session hQ
  cases answered with
  | false => exact h.elapse wait
  | true =>
      refine ⟨?_, h.cached⟩
      intro key record hrecord
      rcases storeSession_records hrecord with ⟨rfl, rfl⟩ | ⟨-, hbefore⟩
      · exact hQ
      · exact h.records key record hbefore

theorem cacheNew (hrecords : ∀ key record, sm.records key = some record → Q key record.session)
    (hcached : ∀ other ref, other ≠ key → sm.cache other = some ref →
      ∃ session, sm.objects[ref]? = some session ∧ Q other session)
    (hQ : Q key session) :
    Filed Q ((sm.alloc session).setCache key (some sm.objects.length)) := by
  refine ⟨hrecords, ?_⟩
  intro other ref hcache
  rcases setCache_some hcache with ⟨rfl, rfl⟩ | ⟨hother, hbefore⟩
  · exact ⟨session, alloc_self sm session, hQ⟩
  · obtain ⟨old, hobject, hold⟩ := hcached other ref hother hbefore
    exact ⟨old, alloc_of_object hobject session, hold⟩

theorem uncache (h : Filed Q sm) (key : String) : Filed Q (sm.setCache key none) := by
  refine ⟨h.records, ?_⟩
  intro other ref hcache
  exact h.cached other ref (setCache_none hcache).2

theorem spend (hlasting : Lasting Q) (h : Filed Q sm) (ref : ℕ) (amount : ℚ) :
    Filed Q (sm.spend ref amount) := by
  refine ⟨h.records, ?_⟩
  intro key ref' hcache
  obtain ⟨session, hobject, hQ⟩ := h.cached key ref' hcache
  by_cases href : ref = ref'
  · subst href
    exact ⟨_, spend_self hobject amount, hlasting.charged _ _ _ _ hQ⟩
  · exact ⟨session, (spend_of_ne href amount).trans hobject, hQ⟩

theorem validateSession (h : Filed Q sm) (key : String) (c : Course) :
    Filed Q (sm.validateSession key c).2 ∧
      ∀ ref, (sm.validateSession key c).1 = some ref →
        (sm.validateSession key c).2.cache key = some ref := by
  have hstart := h.elapse (c.ticks 0)
  unfold SessionManager.validateSession
  simp only []
  split
  · rename_i ref hhit
    refine ⟨hstart, ?_⟩
    rintro _ ⟨⟩
    exact (cached_eq_some hhit).1
  · split
    · exact ⟨hstart.elapse (c.ticks 1), nofun⟩
    rename_i session hloaded
    obtain ⟨record, hrecord, rfl⟩ := loadSession_eq_session hloaded
    have hread := (hstart.elapse (c.ticks 1)).elapse (c.ticks 2)
    split
    · exact ⟨hread, nofun⟩
    split
    · exact ⟨hread, nofun⟩
    · refine ⟨cacheNew hread.records (fun other ref _ => hread.cached other ref)
        (hread.records key record hrecord), ?_⟩
      rintro _ ⟨⟩
      exact setCache_self ..

theorem validateAndCharge (hlasting : Lasting Q) (h : Filed Q sm) (key : String) (amount : ℚ)
    (c : Course) : Filed Q (sm.validateAndCharge key amount c).2 := by
  obtain ⟨hfiled, hcache⟩ := h.validateSession key c
  unfold SessionManager.validateAndCharge
  split
  · rename_i sm' heq
    rw [heq] at hfiled
    exact hfiled
  rename_i ref sm' heq
  rw [heq] at hfiled hcache
  have href : sm'.cache key = some ref := hcache ref rfl
  obtain ⟨session, hobject, hQ⟩ := hfiled.cached key ref href
  dsimp only at hfiled hobject
  simp only [hobject]
  split
  · exact hfiled
  have hspent := ((hfiled.elapse (c.ticks 3)).spend hlasting ref amount).elapse (c.ticks 4)
  have hcharged := hlasting.charged key session (session.spentAmount + amount)
    (sm'.now + c.ticks 3) hQ
  have hstored := hspent.storeSession hlasting hcharged (c.ticks 5) c.set
  split
  · exact hstored
  · rw [setCache_same]
    · exact hstored
    · cases c.set <;> exact href

theorem revokeSession (hlasting : Lasting Q) (h : Filed Q sm) (wallet key : String)
    (c : Course) : Filed Q (sm.revokeSession wallet key c).2 := by
  have hstart := h.elapse (c.ticks 0)
  unfold SessionManager.revokeSession
  simp only []
  split
  · exact hstart
  rename_i session hloaded
  obtain ⟨record, hrecord, rfl⟩ := loadSession_eq_session hloaded
  have hQ := hstart.records key record hrecord
  have hstored := (hstart.elapse (c.ticks 1)).storeSession hlasting
    (hlasting.revoked _ _ hQ) (c.ticks 2) c.set
  split
  · exact hstart
  split
  · exact hstored
  · exact hstored.uncache key

theorem getRemainingQuota (h : Filed Q sm) (key : String) (c : Course) :
    Filed Q (sm.getRemainingQuota key c).2 := by
  have hfiled := (h.validateSession key c).1
  unfold SessionManager.getRemainingQuota
  split
  all_goals
    rename_i heq
    rw [heq] at hfiled
    exact hfiled

theorem registerSession (h : Filed Q sm) (eth : Ethereum) (req : SessionKeyRequest)
    (hnew : ∀ now, Q' req.sessionKey (newSession now req))
    (hothers : ∀ key session, key ≠ req.sessionKey → Q key session → Q' key session)
    (c : Course) :
    if (sm.registerSession eth req c).1.isSome then Filed Q' (sm.registerSession eth req c).2
    else Filed Q (sm.registerSession eth req c).2 := by
  have hstart := h.elapse (c.ticks 0)
  unfold SessionManager.registerSession
  simp only []
  split
  · exact hstart
  split
  · exact hstart.elapse (c.ticks 1)
  have hverified := (hstart.elapse (c.ticks 1)).elapse (c.ticks 2)
  split
  · exact hverified
  have hcounted : Filed Q (((((sm.elapse (c.ticks 0)).elapse (c.ticks 1)).elapse
      (c.ticks 2)).incrementNonce req.mainWallet).elapse (c.ticks 3)) :=
    ⟨hverified.records, hverified.cached⟩
  generalize ((((sm.elapse (c.ticks 0)).elapse (c.ticks 1)).elapse
    (c.ticks 2)).incrementNonce req.mainWallet).elapse (c.ticks 3) = counted at hcounted ⊢
  cases hset : c.set with
  | false => exact hcounted.elapse (c.ticks 4)
  | true =>
      refine cacheNew ?_ (fun other ref hother hcache => ?_) (hnew _)
      · intro key record hrecord
        rcases storeSession_records hrecord with ⟨rfl, hsession⟩ | ⟨hkey, hbefore⟩
        · rw [hsession]
          exact hnew _
        · exact hothers key _ hkey (hcounted.records key record hbefore)
      · obtain ⟨session, hobject, hQ⟩ := hcounted.cached other ref hcache
        exact ⟨session, hobject, hothers other session hother hQ⟩

theorem handle (hlasting : Lasting Q) (h : Filed Q sm) (eth : Ethereum) {call : SessionCall}
    (hnew : ∀ req, call = .registerSession req → ∀ now, Q req.sessionKey (newSession now req))
    (c : Course) : Filed Q (sm.handle eth c call).2 := by
  cases call with
  | registerSession req =>
      have hregistered := h.registerSession eth req (hnew req rfl)
        (fun _ _ _ hQ => hQ) c
      split at hregistered
      · exact hregistered
      · exact hregistered
  | validateSession key => exact (h.validateSession key c).1
  | validateAndCharge key amount => exact h.validateAndCharge hlasting key amount c
  | revokeSession wallet key => exact h.revokeSession hlasting wallet key c
  | getRemainingQuota key => exact h.getRemainingQuota key c

theorem run (hlasting : Lasting Q) (h : Filed Q sm) (eth : Ethereum)
    {calls : List (SessionCall × Course)}
    (hnew : ∀ call ∈ calls, ∀ req, call.1 = .registerSession req →
      ∀ now, Q req.sessionKey (newSession now req)) (total : String → ℚ) :
    Filed Q (sessionRun eth sm total calls).1 := by
  induction calls generalizing sm total with
  | nil => exact h
  | cons first calls ih =>
      have hfirst := h.handle hlasting eth (hnew first List.mem_cons_self) first.2
      exact ih hfirst (fun call hcall => hnew call (List.mem_cons_of_mem _ hcall)) _

end Filed

end SessionManager

open SessionManager

/-! ## Logins and their sessions -/

structure UserClaims where
  sub : String
  deriving DecidableEq

/-- A login without one of its fields is refused; the name is the first ten bytes. -/
def walletLogin (v : LoginVerifier) (now : ℤ) (req : LoginRequest) : Option UserClaims :=
  if req.walletAddress = "" ∨ req.message = "" ∨ req.signature = "" ∨ req.timestamp = 0 then none
  else
    match v.verifyLoginSignature now req with
    | some (.ok true) =>
        if req.walletAddress.utf8ByteSize < 10 then none else some ⟨req.walletAddress⟩
    | _ => none

def maxDuration : ℤ := 30 * 24 * 60 * 60

def registerSessionKey (eth : Ethereum) (sm : SessionManager) (req : SessionKeyRequest)
    (c : Course) : Option ℕ × SessionManager :=
  if req.mainWallet = "" ∨ req.sessionKey = "" ∨ req.spendLimit = 0 ∨ req.duration = 0 ∨
      req.signature = "" then (none, sm)
  else if req.duration ≤ 0 ∨ maxDuration < req.duration then (none, sm)
  else sm.registerSession eth req c

def revokeSessionKey (sm : SessionManager) (claims : UserClaims) (sessionKey : String)
    (c : Course) : Bool × SessionManager :=
  if sessionKey = "" then (false, sm) else sm.revokeSession claims.sub sessionKey c

/-- `keys` are the keys Redis lists, if it does; one whose `GET` fails is passed over. -/
def getSessionsByWallet (sm : SessionManager) (keys : Option (List String))
    (answered : String → Bool) (mainWallet : String) : Option (List (Session ℚ)) :=
  keys.map fun keys =>
    (keys.filterMap fun key => sm.loadSession key (answered key)).filter fun session =>
      session.mainWallet = mainWallet

def getMySessions (sm : SessionManager) (claims : UserClaims) (keys : Option (List String))
    (answered : String → Bool) : Option (List (Session ℚ)) :=
  getSessionsByWallet sm keys answered claims.sub

/--
The one who logged in as `claims'` may revoke the session that `claims` registered,
finds it in the list, and is the same user.
-/
structure SameWallet (sm : SessionManager) (key : String) (claims claims' : UserClaims) :
    Prop where
  revokes : ∀ c : Course, c.get = true → c.set = true →
    (sm.elapse (c.ticks 0)).loadSession key true ≠ none →
      (revokeSessionKey sm claims' key c).1 = true
  lists : ∀ keys answered, key ∈ keys → answered key = true → sm.loadSession key true ≠ none →
    ∃ sessions, getMySessions sm claims' (some keys) answered = some sessions ∧
      ∃ session ∈ sessions, session.sessionKey = key
  identity : claims' = claims

def OfWallet (key wallet : String) (other : String) (session : Session ℚ) : Prop :=
  session.sessionKey = other ∧ (other = key → session.mainWallet = wallet)

variable {sm : SessionManager} {key wallet : String} {claims : UserClaims}

private theorem ofWallet_lasting (key wallet : String) : Lasting (OfWallet key wallet) :=
  ⟨fun _ _ h => h.1, fun _ _ _ _ h => h, fun _ _ h => h⟩

theorem walletLogin_eq_some {v : LoginVerifier} {now : ℤ} {req : LoginRequest}
    (h : walletLogin v now req = some claims) : claims.sub = req.walletAddress := by
  unfold walletLogin at h
  split at h
  · contradiction
  split at h
  · split at h
    · contradiction
    · cases h
      rfl
  · contradiction

theorem revokeSessionKey_iff (h : Filed (OfWallet key wallet) sm) (hkey : key ≠ "")
    {c : Course} (hget : c.get = true) (hset : c.set = true)
    (hstored : (sm.elapse (c.ticks 0)).loadSession key true ≠ none) :
    (revokeSessionKey sm claims key c).1 = true ↔ wallet = claims.sub := by
  obtain ⟨session, hloaded⟩ := Option.ne_none_iff_exists'.mp hstored
  obtain ⟨record, hrecord, rfl⟩ := loadSession_eq_session hloaded
  have howner : record.session.mainWallet = wallet :=
    ((h.elapse _).records key record hrecord).2 rfl
  rw [revokeSessionKey, if_neg hkey]
  unfold SessionManager.revokeSession
  simp only [hget, hset, hloaded, howner]
  split
  · rename_i hother
    simpa using hother
  · rename_i hsame
    simpa using hsame

theorem getMySessions_iff (h : Filed (OfWallet key wallet) sm) {keys : List String}
    {answered : String → Bool} (hkeys : key ∈ keys) (hanswered : answered key = true)
    (hstored : sm.loadSession key true ≠ none) :
    (∃ sessions, getMySessions sm claims (some keys) answered = some sessions ∧
      ∃ session ∈ sessions, session.sessionKey = key) ↔ wallet = claims.sub := by
  constructor
  · rintro ⟨sessions, hsessions, session, hmem, hkey⟩
    cases hsessions
    obtain ⟨hfound, hwallet⟩ := List.mem_filter.mp hmem
    obtain ⟨other, -, hloaded⟩ := List.mem_filterMap.mp hfound
    obtain ⟨record, hrecord, rfl⟩ := loadSession_eq_session hloaded
    obtain ⟨hother, howner⟩ := h.records other record hrecord
    rw [← howner (hother.symm.trans hkey)]
    simpa using hwallet
  · rintro rfl
    obtain ⟨session, hloaded⟩ := Option.ne_none_iff_exists'.mp hstored
    have hfound := hloaded
    obtain ⟨record, hrecord, rfl⟩ := loadSession_eq_session hloaded
    obtain ⟨hkey, howner⟩ := h.records key record hrecord
    refine ⟨_, rfl, record.session, List.mem_filter.mpr ⟨?_, by simpa using howner rfl⟩, hkey⟩
    exact List.mem_filterMap.mpr ⟨key, hkeys, by rw [hanswered, hfound]⟩

def registeredRun (eth : Ethereum) (now : ℤ) (before : List (SessionCall × Course))
    (req : SessionKeyRequest) (c : Course) (after : List (SessionCall × Course)) :
    SessionManager :=
  (sessionRun eth (registerSessionKey eth
    (sessionRun eth (newSessionManager now) (fun _ => 0) before).1 req c).2 (fun _ => 0) after).1

private theorem filed_of_registered {eth : Ethereum} {now : ℤ}
    {before after : List (SessionCall × Course)} {req : SessionKeyRequest} {c : Course}
    (hregistered : (registerSessionKey eth
      (sessionRun eth (newSessionManager now) (fun _ => 0) before).1 req c).1.isSome = true)
    (hafter : ∀ call ∈ after, ∀ req', call.1 = .registerSession req' →
      req'.sessionKey ≠ req.sessionKey) :
    req.sessionKey ≠ "" ∧
      Filed (OfWallet req.sessionKey req.mainWallet)
        (registeredRun eth now before req c after) := by
  have hkeyed : Lasting fun key (session : Session ℚ) => session.sessionKey = key :=
    ⟨fun _ _ h => h, fun _ _ _ _ h => h, fun _ _ h => h⟩
  have hstart : Filed (fun key session => session.sessionKey = key) (newSessionManager now) :=
    ⟨nofun, nofun⟩
  have hbefore : Filed _ (sessionRun eth (newSessionManager now) (fun _ => 0) before).1 :=
    hstart.run hkeyed eth (fun _ _ _ _ _ => rfl) _
  unfold registeredRun
  unfold registerSessionKey at hregistered ⊢
  split at hregistered
  · contradiction
  rename_i hfields
  split at hregistered
  · contradiction
  rename_i hduration
  rw [if_neg hfields, if_neg hduration]
  have hnew : ∀ now, OfWallet req.sessionKey req.mainWallet req.sessionKey
      (newSession now req) := fun _ => ⟨rfl, fun _ => rfl⟩
  have hsession := hbefore.registerSession eth req hnew
    (fun key session hother hkey => ⟨hkey, fun hsame => absurd hsame hother⟩) c
  rw [if_pos hregistered] at hsession
  refine ⟨fun hempty => hfields (.inr (.inl hempty)), ?_⟩
  refine hsession.run (ofWallet_lasting ..) eth ?_ _
  intro call hcall req' hreq' _
  exact ⟨rfl, fun hsame => absurd hsame (hafter call hcall req' hreq')⟩

/--
For every wallet and any two accepted spellings of it, a session registered under
the first is revoked by, and listed for, a user logged in under the second, and the
two logins are one user, exactly where the spellings are the same text.
-/
theorem same_wallet_iff {eth : Ethereum} {v : LoginVerifier} {now : ℤ}
    {before after : List (SessionCall × Course)} {req : SessionKeyRequest} {c : Course}
    {login login' : LoginRequest} {loginTime loginTime' : ℤ} {claims claims' : UserClaims}
    (hregistered : (registerSessionKey eth
      (sessionRun eth (newSessionManager now) (fun _ => 0) before).1 req c).1.isSome = true)
    (hafter : ∀ call ∈ after, ∀ req', call.1 = .registerSession req' →
      req'.sessionKey ≠ req.sessionKey)
    (hspelling : login.walletAddress = req.mainWallet)
    (hlogin : walletLogin v loginTime login = some claims)
    (hlogin' : walletLogin v loginTime' login' = some claims') :
    SameWallet (registeredRun eth now before req c after) req.sessionKey claims claims' ↔
      req.mainWallet = login'.walletAddress := by
  have hsub := walletLogin_eq_some hlogin
  have hsub' := walletLogin_eq_some hlogin'
  obtain ⟨hkey, hfiled⟩ := filed_of_registered hregistered hafter
  constructor
  · intro hsame
    rw [← hspelling, ← hsub, ← hsub', hsame.identity]
  · intro hwallet
    rw [← hsub'] at hwallet
    refine ⟨?_, ?_, ?_⟩
    · intro c hget hset hstored
      exact (revokeSessionKey_iff hfiled hkey hget hset hstored).mpr hwallet
    · intro keys answered hkeys hanswered hstored
      exact (getMySessions_iff hfiled hkeys hanswered hstored).mpr hwallet
    · obtain ⟨sub⟩ := claims
      obtain ⟨sub'⟩ := claims'
      rw [UserClaims.mk.injEq]
      exact hwallet.symm.trans (hspelling.symm.trans hsub.symm)

/-! ## Upper and lower case -/

def loginAs (walletAddress : String) : LoginRequest where
  walletAddress := walletAddress
  message := sampleLogin.expectedMessage walletAddress 1767225600
  signature := sampleSignature
  timestamp := 1767225600

private theorem loginAs_accepted {walletAddress : String} (hlong : 10 ≤ walletAddress.utf8ByteSize)
    (haddress : sampleLogin.hexToAddress walletAddress = sampleMessage.mainWallet) :
    walletLogin sampleLogin 1767225600 (loginAs walletAddress) = some ⟨walletAddress⟩ := by
  have hbytes : hexToBytes sampleSignature = some (List.replicate 64 17 ++ [27]) := by
    decide +kernel
  have hadjust : adjustV (List.replicate 64 17 ++ [27]) = some (List.replicate 64 17 ++ [0]) := by
    simp [adjustV]
  have hverified : sampleLogin.verifyLoginSignature 1767225600 (loginAs walletAddress) =
      some (.ok true) := verifyLoginSignature_signed hbytes hadjust (by rw [haddress]; rfl)
  have hwallet : walletAddress ≠ "" := by
    rintro rfl
    exact absurd hlong (by decide)
  have hfields : ¬ ((loginAs walletAddress).walletAddress = "" ∨
      (loginAs walletAddress).message = "" ∨ (loginAs walletAddress).signature = "" ∨
        (loginAs walletAddress).timestamp = 0) := by
    rintro (hempty | hempty | hempty | hzero)
    · exact hwallet hempty
    · exact expectedMessage_ne_empty _ _ _ hempty
    · have hsignature : sampleSignature ≠ "" := by decide +kernel
      exact hsignature hempty
    · exact absurd hzero (show (1767225600 : ℤ) ≠ 0 by decide)
  rw [walletLogin, if_neg hfields, hverified]
  exact if_neg (not_lt.mpr hlong)

theorem lowerCase_accepted :
    walletLogin sampleLogin 1767225600 (loginAs sampleWallet) = some ⟨sampleWallet⟩ :=
  loginAs_accepted (by decide) (by decide +kernel)

private theorem upperCase_accepted :
    walletLogin sampleLogin 1767225600 (loginAs sampleRequest.mainWallet) =
      some ⟨sampleRequest.mainWallet⟩ :=
  loginAs_accepted (by decide) (by decide +kernel)

private theorem sampleRequest_registered : (registerSessionKey sampleEthereum
    (sessionRun sampleEthereum (newSessionManager 0) (fun _ => 0) []).1 sampleRequest
      ⟨fun _ => 0, true, true, true⟩).1.isSome = true := by
  decide +kernel

theorem same_wallet_sample :
    SameWallet (registeredRun sampleEthereum 0 [] sampleRequest ⟨fun _ => 0, true, true, true⟩ [])
      sampleRequest.sessionKey ⟨sampleRequest.mainWallet⟩ ⟨sampleRequest.mainWallet⟩ :=
  (same_wallet_iff sampleRequest_registered (by simp) rfl upperCase_accepted
    upperCase_accepted).mpr rfl

/-- The wallet registers in upper case and logs in in lower case. -/
theorem respelled_login_not_recognised :
    sampleLogin.hexToAddress sampleRequest.mainWallet = sampleLogin.hexToAddress sampleWallet ∧
    walletLogin sampleLogin 1767225600 (loginAs sampleWallet) = some ⟨sampleWallet⟩ ∧
    (revokeSessionKey (registeredRun sampleEthereum 0 [] sampleRequest
      ⟨fun _ => 0, true, true, true⟩ []) ⟨sampleWallet⟩ sampleRequest.sessionKey
        ⟨fun _ => 0, true, true, true⟩).1 = false ∧
    getMySessions (registeredRun sampleEthereum 0 [] sampleRequest
      ⟨fun _ => 0, true, true, true⟩ []) ⟨sampleWallet⟩ (some [sampleRequest.sessionKey])
        (fun _ => true) = some [] ∧
    ¬ SameWallet (registeredRun sampleEthereum 0 [] sampleRequest
      ⟨fun _ => 0, true, true, true⟩ []) sampleRequest.sessionKey
        ⟨sampleRequest.mainWallet⟩ ⟨sampleWallet⟩ := by
  refine ⟨by decide +kernel, lowerCase_accepted, ?_⟩
  rw [← and_assoc]
  refine ⟨by decide +kernel, ?_⟩
  intro hsame
  exact absurd hsame.identity (by decide)

end WorldlandBroker.Wallet
