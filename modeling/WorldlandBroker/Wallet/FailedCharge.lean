import WorldlandBroker.Wallet.SessionManager

/-!
# Charges that fail

What a session was charged is kept twice, in its record and in memory, and a charge
changes the memory first.  The two agree until a write of such a charge fails.
-/

namespace WorldlandBroker.Wallet

namespace SessionManager

structure Shows (sm : SessionManager) (total : String → ℚ) : Prop where
  validateSession : ∀ key c session, sm.seen key c = some session →
    session.spentAmount = total key
  getRemainingQuota : ∀ key c, (sm.getRemainingQuota key c).1 =
    (sm.seen key c).map fun session => session.spendLimit - total key
  validateAndCharge : ∀ key amount c, c.set = true →
    ((sm.validateAndCharge key amount c).1.isSome = true ↔
      ∃ session, sm.seen key c = some session ∧ total key + amount ≤ session.spendLimit)

structure FailedChargesCostNothing (eth : Ethereum) (sm : SessionManager)
    (calls : List (SessionCall × Course)) : Prop where
  shows : ∀ before after, calls = before ++ after →
    Shows (sessionRun eth sm (fun _ => 0) before).1 (sessionRun eth sm (fun _ => 0) before).2
  unchanged : ∀ before key amount c after,
    calls = before ++ (.validateAndCharge key amount, c) :: after →
    ((sessionRun eth sm (fun _ => 0) before).1.validateAndCharge key amount c).1 = none →
    ∀ other c₁ c₂ session session',
      (sessionRun eth sm (fun _ => 0) before).1.seen other c₁ = some session →
      ((sessionRun eth sm (fun _ => 0) before).1.validateAndCharge key amount c).2.seen
        other c₂ = some session' →
      session'.spentAmount = session.spentAmount

/--
A charge of some amount that is allowed, whose session has not expired when its
write to Redis fails.
-/
def ChargesInVain (sm : SessionManager) (c : Course) : SessionCall → Prop
  | .validateAndCharge key amount =>
      c.set = false ∧ amount ≠ 0 ∧ ∃ ref sm' session,
        sm.validateSession key c = (some ref, sm') ∧ sm'.objects[ref]? = some session ∧
          session.spentAmount + amount ≤ session.spendLimit ∧
          sm'.now + c.ticks 3 + c.ticks 4 + c.ticks 5 < session.expiresAt
  | _ => False

/-! ## The record and the cached session -/

structure Tallies (sm : SessionManager) (total : String → ℚ) : Prop where
  records : ∀ key record, sm.records key = some record →
    record.session.sessionKey = key ∧ record.session.spentAmount = total key
  cached : ∀ key ref, sm.cache key = some ref → ∃ session, sm.objects[ref]? = some session ∧
    session.sessionKey = key ∧ session.isActive = true ∧
      (sm.now < session.expiresAt → session.spentAmount = total key)

structure Held (sm : SessionManager) (total : String → ℚ) (key : String) (ref : ℕ)
    (session : Session ℚ) : Prop where
  cache : sm.cache key = some ref
  object : sm.objects[ref]? = some session
  sessionKey : session.sessionKey = key
  active : session.isActive = true
  spent : session.spentAmount = total key

variable {eth : Ethereum} {sm sm' : SessionManager} {total : String → ℚ} {key : String}
  {ref : ℕ} {session : Session ℚ} {amount : ℚ} {c : Course}

theorem Tallies.elapse (h : Tallies sm total) (n : ℕ) : Tallies (sm.elapse n) total := by
  refine ⟨h.records, ?_⟩
  intro key ref hcached
  obtain ⟨session, hobject, hkey, hactive, hspent⟩ := h.cached key ref hcached
  refine ⟨session, hobject, hkey, hactive, ?_⟩
  intro hlive
  apply hspent
  have hnow : (sm.elapse n).now = sm.now + n := rfl
  omega

theorem Tallies.uncache (h : Tallies sm total) (key : String) :
    Tallies (sm.setCache key none) total := by
  refine ⟨h.records, ?_⟩
  intro other ref hcached
  exact h.cached other ref (setCache_none hcached).2

theorem Tallies.incrementNonce (h : Tallies sm total) (wallet : String) :
    Tallies (sm.incrementNonce wallet) total := ⟨h.records, h.cached⟩

theorem Held.elapse (h : Held sm total key ref session) (n : ℕ) :
    Held (sm.elapse n) total key ref session :=
  ⟨h.cache, h.object, h.sessionKey, h.active, h.spent⟩

theorem Tallies.cacheNew (h : Tallies sm total) (hkey : session.sessionKey = key)
    (hactive : session.isActive = true) (hspent : session.spentAmount = total key) :
    Tallies ((sm.alloc session).setCache key (some sm.objects.length)) total ∧
      Held ((sm.alloc session).setCache key (some sm.objects.length)) total key
        sm.objects.length session := by
  refine ⟨⟨h.records, ?_⟩, ?_⟩
  · intro other ref hcached
    rcases setCache_some hcached with ⟨rfl, rfl⟩ | ⟨-, hbefore⟩
    · exact ⟨session, alloc_self sm session, hkey, hactive, fun _ => hspent⟩
    · obtain ⟨old, hobject, hold⟩ := h.cached other ref hbefore
      exact ⟨old, alloc_of_object hobject session, hold⟩
  · exact ⟨Function.update_self .., alloc_self sm session, hkey, hactive, hspent⟩

theorem tallies_store {total' : String → ℚ}
    (hrecords : ∀ key record, sm.records key = some record →
      record.session.sessionKey = key ∧ record.session.spentAmount = total key)
    (hspent : session.spentAmount = total' session.sessionKey)
    (hothers : ∀ key, key ≠ session.sessionKey → total' key = total key)
    (hcached : ∀ key ref, sm.cache key = some ref → ∃ session, sm.objects[ref]? = some session ∧
      session.sessionKey = key ∧ session.isActive = true ∧
        (sm.now < session.expiresAt → session.spentAmount = total' key)) (wait : ℕ) :
    Tallies (sm.storeSession session wait true) total' := by
  refine ⟨?_, ?_⟩
  · intro key record hrecord
    rcases storeSession_records hrecord with ⟨rfl, rfl⟩ | ⟨hkey, hbefore⟩
    · exact ⟨rfl, hspent⟩
    · rw [hothers key hkey]
      exact hrecords key record hbefore
  · intro key ref hstored
    obtain ⟨session', hobject, hkey, hactive, hspent'⟩ := hcached key ref hstored
    refine ⟨session', hobject, hkey, hactive, ?_⟩
    intro hlive
    apply hspent'
    have hnow : (sm.storeSession session wait true).now = sm.now + wait := rfl
    omega

/-- A new session starts from zero, whatever was stored and cached for its key. -/
theorem Tallies.storeNew (h : Tallies sm total) (hactive : session.isActive = true)
    (hspent : session.spentAmount = 0) (wait : ℕ) :
    Tallies (((sm.storeSession session wait true).alloc session).setCache session.sessionKey
      (some sm.objects.length)) (Function.update total session.sessionKey 0) := by
  have hcleared := h.uncache session.sessionKey
  have hothers : ∀ key, key ≠ session.sessionKey →
      Function.update total session.sessionKey 0 key = total key :=
    fun key hkey => Function.update_of_ne hkey ..
  have hself : session.spentAmount =
      Function.update total session.sessionKey 0 session.sessionKey := by
    rw [Function.update_self, hspent]
  have hstored := tallies_store hcleared.records hself hothers (by
    intro key ref hcache
    rw [hothers key (setCache_none hcache).1]
    exact hcleared.cached key ref hcache) wait
  have hcached := (hstored.cacheNew rfl hactive hself).1
  have hreplaced : (((sm.setCache session.sessionKey none).storeSession session wait
      true).alloc session).setCache session.sessionKey (some sm.objects.length) =
        ((sm.storeSession session wait true).alloc session).setCache session.sessionKey
          (some sm.objects.length) :=
    setCache_setCache ((sm.storeSession session wait true).alloc session) ..
  rwa [← hreplaced]

/-! ## Validating -/

theorem Tallies.validateSession (h : Tallies sm total) (key : String) (c : Course) :
    Tallies (sm.validateSession key c).2 total ∧
      ∀ ref, (sm.validateSession key c).1 = some ref →
        ∃ session, Held (sm.validateSession key c).2 total key ref session := by
  have hstart := h.elapse (c.ticks 0)
  unfold SessionManager.validateSession
  simp only []
  split
  · rename_i ref hhit
    refine ⟨hstart, ?_⟩
    rintro _ ⟨⟩
    obtain ⟨hcache, session, hobject, hactive, hlive⟩ := cached_eq_some hhit
    obtain ⟨session', hobject', hkey, -, hspent⟩ := hstart.cached key ref hcache
    cases hobject.symm.trans hobject'
    exact ⟨session, hcache, hobject, hkey, hactive, hspent hlive⟩
  · have hmissed := hstart.elapse (c.ticks 1)
    split
    · exact ⟨hmissed, nofun⟩
    rename_i session hloaded
    obtain ⟨record, hrecord, rfl⟩ := loadSession_eq_session hloaded
    obtain ⟨hkey, hspent⟩ := hmissed.records key record hrecord
    have hread := hmissed.elapse (c.ticks 2)
    split
    · exact ⟨hread, nofun⟩
    rename_i hactive
    split
    · exact ⟨hread, nofun⟩
    · obtain ⟨htallies, hheld⟩ := hread.cacheNew hkey (by simpa using hactive) hspent
      refine ⟨htallies, ?_⟩
      rintro _ ⟨⟩
      exact ⟨_, hheld⟩

theorem Tallies.seen (h : Tallies sm total) (key : String) (c : Course) (session : Session ℚ)
    (hseen : sm.seen key c = some session) : session.spentAmount = total key := by
  have hvalidated := (h.validateSession key c).2
  unfold SessionManager.seen at hseen
  split at hseen
  · contradiction
  · rename_i ref sm' heq
    rw [heq] at hvalidated
    obtain ⟨session', hheld⟩ := hvalidated ref rfl
    cases hseen.symm.trans hheld.object
    exact hheld.spent

/-! ## Charging -/

theorem Tallies.spend (h : Tallies sm total) (hheld : Held sm total key ref session)
    (amount : ℚ) (other : String) (ref' : ℕ) (hcache : sm.cache other = some ref') :
    ∃ session', (sm.spend ref amount).objects[ref']? = some session' ∧
      session'.sessionKey = other ∧ session'.isActive = true ∧
      (sm.now < session'.expiresAt →
        session'.spentAmount = Function.update total key (total key + amount) other) := by
  by_cases hother : other = key
  · subst hother
    cases hcache.symm.trans hheld.cache
    refine ⟨_, spend_self hheld.object amount, hheld.sessionKey, hheld.active, ?_⟩
    intro _
    rw [Function.update_self, ← hheld.spent]
  · obtain ⟨session', hobject, hkey, hactive, hspent⟩ := h.cached other ref' hcache
    have href : ref ≠ ref' := by
      rintro rfl
      cases hobject.symm.trans hheld.object
      exact hother (hkey.symm.trans hheld.sessionKey)
    rw [spend_of_ne href, Function.update_of_ne hother]
    exact ⟨session', hobject, hkey, hactive, hspent⟩

theorem Tallies.validateAndCharge (h : Tallies sm total)
    (hkeeps : ¬ ChargesInVain sm c (.validateAndCharge key amount)) :
    Tallies (sm.validateAndCharge key amount c).2
      (tally total (.validateAndCharge key amount)
        (sm.validateAndCharge key amount c).1.isSome) := by
  obtain ⟨htallies, hheld⟩ := h.validateSession key c
  unfold SessionManager.validateAndCharge
  split
  · rename_i sm' heq
    rw [heq] at htallies
    exact htallies
  rename_i ref sm' heq
  rw [heq] at htallies hheld
  obtain ⟨session, hheld⟩ := hheld ref rfl
  dsimp only at htallies hheld
  have hobject : sm'.objects[ref]? = some session := hheld.object
  simp only [hobject]
  split
  · exact htallies
  rename_i hallowed
  have hwaited := hheld.elapse (c.ticks 3)
  have hspent := (htallies.elapse (c.ticks 3)).spend hwaited amount
  cases hset : c.set with
  | true =>
      simp only [Bool.true_eq_false, if_false]
      rw [setCache_same]
      · have hrecords : ∀ key record, (((sm'.elapse (c.ticks 3)).spend ref amount).elapse
            (c.ticks 4)).records key = some record →
              record.session.sessionKey = key ∧ record.session.spentAmount = total key :=
          htallies.records
        refine tallies_store hrecords ?_ ?_ ?_ _
        · change session.spentAmount + amount = Function.update total key _ session.sessionKey
          rw [hheld.sessionKey, hheld.spent, Function.update_self]
        · intro other hother
          apply Function.update_of_ne
          rwa [← hheld.sessionKey]
        · intro other ref' hcache
          obtain ⟨session', hobject', hkey, hactive, hspent'⟩ := hspent other ref' hcache
          refine ⟨session', hobject', hkey, hactive, fun hlive => hspent' ?_⟩
          change (sm'.elapse (c.ticks 3)).now + (c.ticks 4 : ℤ) < _ at hlive
          omega
      · exact hheld.cache
  | false =>
      simp only [if_true]
      refine ⟨htallies.records, ?_⟩
      intro other ref' hcache
      obtain ⟨session', hobject', hkey, hactive, hspent'⟩ := hspent other ref' hcache
      refine ⟨session', hobject', hkey, hactive, fun hlive => ?_⟩
      change sm'.now + (c.ticks 3 : ℤ) + c.ticks 4 + c.ticks 5 < _ at hlive
      rw [hspent' (by change sm'.now + (c.ticks 3 : ℤ) < _; omega)]
      by_cases hother : other = key
      · subst hother
        rw [Function.update_self]
        have hzero : amount = 0 := by
          by_contra hnonzero
          apply hkeeps
          refine ⟨hset, hnonzero, ref, sm', session, heq, hobject, not_lt.mp hallowed, ?_⟩
          cases hcache.symm.trans hheld.cache
          have hcharged := hobject'.symm.trans (spend_self hwaited.object amount)
          cases hcharged
          exact hlive
        rw [hzero]
        exact add_zero _
      · exact Function.update_of_ne hother ..

/-! ## The other calls -/

theorem Tallies.registerSession (h : Tallies sm total) (req : SessionKeyRequest) :
    Tallies (sm.registerSession eth req c).2
      (tally total (.registerSession req) (sm.registerSession eth req c).1.isSome) := by
  have hstart := h.elapse (c.ticks 0)
  unfold SessionManager.registerSession
  simp only []
  split
  · exact hstart
  have hread := hstart.elapse (c.ticks 1)
  split
  · exact hread
  have hverified := hread.elapse (c.ticks 2)
  split
  · exact hverified
  have hcounted := (hverified.incrementNonce req.mainWallet).elapse (c.ticks 3)
  cases hset : c.set with
  | false =>
      simp only [if_true]
      exact hcounted.elapse (c.ticks 4)
  | true =>
      simp only [Bool.true_eq_false, if_false]
      exact hcounted.storeNew rfl rfl (c.ticks 4)

theorem Tallies.revokeSession (h : Tallies sm total) (wallet key : String) :
    Tallies (sm.revokeSession wallet key c).2 total := by
  have hstart := h.elapse (c.ticks 0)
  unfold SessionManager.revokeSession
  simp only []
  split
  · exact hstart
  rename_i session hloaded
  split
  · exact hstart
  have hread := hstart.elapse (c.ticks 1)
  cases hset : c.set with
  | false =>
      simp only [if_true]
      exact hread.elapse (c.ticks 2)
  | true =>
      simp only [Bool.true_eq_false, if_false]
      obtain ⟨record, hrecord, rfl⟩ := loadSession_eq_session hloaded
      obtain ⟨hkey, hspent⟩ := hstart.records key record hrecord
      apply Tallies.uncache
      apply tallies_store hread.records
      · rw [← hkey] at hspent
        exact hspent
      · intro _ _
        rfl
      · exact hread.cached

theorem Tallies.getRemainingQuota (h : Tallies sm total) (key : String) :
    Tallies (sm.getRemainingQuota key c).2 total := by
  have htallies := (h.validateSession key c).1
  unfold SessionManager.getRemainingQuota
  split
  all_goals
    rename_i heq
    rw [heq] at htallies
    exact htallies

theorem Tallies.handle (h : Tallies sm total) (eth : Ethereum) {call : SessionCall}
    (hkeeps : ¬ ChargesInVain sm c call) :
    Tallies (sm.handle eth c call).2 (tally total call (sm.handle eth c call).1) := by
  cases call with
  | registerSession req => exact h.registerSession req
  | validateSession key => exact (h.validateSession key c).1
  | validateAndCharge key amount => exact h.validateAndCharge hkeeps
  | revokeSession wallet key => exact h.revokeSession wallet key
  | getRemainingQuota key => exact h.getRemainingQuota key

/-! ## What is seen -/

theorem Tallies.shows (h : Tallies sm total) : Shows sm total := by
  refine ⟨h.seen, ?_, ?_⟩
  · intro key c
    have hspent := h.seen key c
    unfold SessionManager.seen at hspent ⊢
    unfold SessionManager.getRemainingQuota
    split
    · rfl
    · rename_i ref sm' heq
      rw [heq] at hspent
      apply Option.map_congr
      intro session hobject
      rw [hspent session hobject]
  · intro key amount c hset
    have hspent := h.seen key c
    unfold SessionManager.seen at hspent ⊢
    unfold SessionManager.validateAndCharge
    split
    · simp
    · rename_i ref sm' heq
      rw [heq] at hspent
      cases hobject : sm'.objects[ref]? with
      | none => simp
      | some session =>
          have hlimit := hspent session hobject
          simp only [hset, Bool.true_eq_false, if_false, Option.some.injEq,
            exists_eq_left', ← hlimit, ← not_lt]
          split
          · simp_all
          · simp_all

def atOnce : Course := ⟨fun _ => 0, true, true, true⟩

theorem seen_of_live (hcache : sm.cache key = some ref) (hobject : sm.objects[ref]? = some session)
    (hactive : session.isActive = true) (hlive : sm.now < session.expiresAt) :
    sm.seen key atOnce = some session := by
  have hsame : sm.elapse (atOnce.ticks 0) = sm := by
    change sm.elapse 0 = sm
    rw [elapse, Nat.cast_zero, add_zero]
  have hhit : sm.cached key = some ref := by
    simp [cached, hcache, hobject, hactive, hlive]
  unfold SessionManager.seen SessionManager.validateSession
  simp only [hsame, hhit, hobject]

/-- The session in memory has been charged, and the call has returned an error. -/
theorem ChargesInVain.not_shows (h : Tallies sm total)
    (hvain : ChargesInVain sm c (.validateAndCharge key amount)) :
    (sm.validateAndCharge key amount c).1 = none ∧
      ¬ Shows (sm.validateAndCharge key amount c).2 total := by
  obtain ⟨hset, hamount, ref, sm', session, heq, hobject, hallowed, hlive⟩ := hvain
  obtain ⟨-, hheld⟩ := h.validateSession key c
  rw [heq] at hheld
  obtain ⟨session', hheld⟩ := hheld ref rfl
  cases hobject.symm.trans hheld.object
  have hcharge : sm.validateAndCharge key amount c =
      (none, (((sm'.elapse (c.ticks 3)).spend ref amount).elapse (c.ticks 4)).elapse
        (c.ticks 5)) := by
    unfold SessionManager.validateAndCharge
    simp only [heq, hobject, if_neg (not_lt.mpr hallowed), hset, if_true]
    rw [storeSession_refused]
  rw [hcharge]
  refine ⟨rfl, fun hshows => hamount ?_⟩
  have hcharged := spend_self (hheld.elapse (c.ticks 3)).object amount
  have hspent := hshows.validateSession key atOnce _
    (seen_of_live hheld.cache hcharged hheld.active hlive)
  change session.spentAmount + amount = total key at hspent
  rw [hheld.spent] at hspent
  exact add_eq_left.mp hspent

theorem shows_along_iff (eth : Ethereum) (h : Tallies sm total)
    (calls : List (SessionCall × Course)) :
    (∀ before after, calls = before ++ after →
      Shows (sessionRun eth sm total before).1 (sessionRun eth sm total before).2) ↔
    ∀ before call c after, calls = before ++ (call, c) :: after →
      ¬ ChargesInVain (sessionRun eth sm total before).1 c call := by
  induction calls generalizing sm total with
  | nil =>
      constructor
      · intro _ before call c after hsplit
        simp at hsplit
      · intro _ before after hsplit
        obtain ⟨rfl, -⟩ := List.append_eq_nil_iff.mp hsplit.symm
        exact h.shows
  | cons first calls ih =>
      obtain ⟨call, c⟩ := first
      by_cases hvain : ChargesInVain sm c call
      · refine iff_of_false ?_ fun hkeeps => hkeeps [] call c calls rfl hvain
        intro hshows
        cases call with
        | validateAndCharge key amount =>
            obtain ⟨hfailed, hnot⟩ := ChargesInVain.not_shows h hvain
            have hafter := hshows [(.validateAndCharge key amount, c)] calls rfl
            simp only [sessionRun, SessionManager.handle, hfailed] at hafter
            exact hnot hafter
        | _ => exact hvain
      · have hnext := ih (h.handle eth hvain)
        constructor
        · intro hshows before call' c' after hsplit
          cases before with
          | nil =>
              cases hsplit
              exact hvain
          | cons first before =>
              cases hsplit
              exact hnext.mp (fun before after hsplit =>
                hshows ((call, c) :: before) after (congrArg _ hsplit)) before call' c' after rfl
        · intro hkeeps before after hsplit
          cases before with
          | nil => exact h.shows
          | cons first before =>
              cases hsplit
              exact hnext.mpr (fun before call' c' after hsplit =>
                hkeeps ((call, c) :: before) call' c' after (congrArg _ hsplit)) before after rfl

/-- A failed charge adds nothing to the total, so it must not change what is seen. -/
theorem unchanged_of_shows {calls : List (SessionCall × Course)}
    (hshows : ∀ before after, calls = before ++ after →
      Shows (sessionRun eth sm (fun _ => 0) before).1 (sessionRun eth sm (fun _ => 0) before).2) :
    FailedChargesCostNothing eth sm calls := by
  refine ⟨hshows, ?_⟩
  rintro before key amount c after hsplit hfailed other c₁ c₂ session session' hseen hseen'
  have hbefore := hshows before _ hsplit
  have hafter := hshows (before ++ [(.validateAndCharge key amount, c)]) after (by simp [hsplit])
  rw [sessionRun_append] at hafter
  simp only [sessionRun, SessionManager.handle, hfailed] at hafter
  exact (hafter.validateSession other c₂ session' hseen').trans
    (hbefore.validateSession other c₁ session hseen).symm

theorem tallies_new (now : ℤ) : Tallies (newSessionManager now) fun _ => 0 := ⟨nofun, nofun⟩

/--
In every run of calls, whatever Redis commands fail, a charge that returns an error
leaves the spent amounts alone, and what is spent is the sum of the successful charges,
exactly where no write of an allowed charge of some amount fails before its session
has expired.
-/
theorem failed_charges_cost_nothing_iff (eth : Ethereum) (now : ℤ)
    (calls : List (SessionCall × Course)) :
    FailedChargesCostNothing eth (newSessionManager now) calls ↔
      ∀ before call c after, calls = before ++ (call, c) :: after →
        ¬ ChargesInVain (sessionRun eth (newSessionManager now) (fun _ => 0) before).1 c call := by
  rw [← shows_along_iff eth (tallies_new now)]
  exact ⟨FailedChargesCostNothing.shows, unchanged_of_shows⟩

def refusedCharge : List (SessionCall × Course) :=
  [(.registerSession sampleRequest, atOnce),
    (.validateAndCharge sampleRequest.sessionKey 6, { atOnce with set := false })]

theorem refusedCharge_checked :
    ((sessionRun sampleEthereum (newSessionManager 0) (fun _ => 0) refusedCharge).1.seen
      sampleRequest.sessionKey atOnce).map Session.spentAmount = some 6 ∧
    (sessionRun sampleEthereum (newSessionManager 0) (fun _ => 0) refusedCharge).2
      sampleRequest.sessionKey = 0 := by
  decide +kernel

theorem refused_charge_is_spent :
    ¬ FailedChargesCostNothing sampleEthereum (newSessionManager 0) refusedCharge := by
  intro hclaim
  obtain ⟨hseen, htotal⟩ := refusedCharge_checked
  obtain ⟨session, hsession, hspent⟩ := Option.map_eq_some_iff.mp hseen
  have hshown := (hclaim.shows refusedCharge [] (List.append_nil _).symm).validateSession
    sampleRequest.sessionKey atOnce session hsession
  rw [hspent, htotal] at hshown
  exact absurd hshown (by decide)

end SessionManager

end WorldlandBroker.Wallet
