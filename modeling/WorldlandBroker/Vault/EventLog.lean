import WorldlandBroker.Vault.Rentals
import Mathlib.Algebra.BigOperators.Group.List.Basic
import Mathlib.Algebra.Ring.Int.Defs

/-!
# What the event log says

An indexer that reads nothing but the vault's events: its deposits, rentals and
session keys, and when they are the vault's.  `endRental` logs its end only
where the rental has cost something, so a rental that was free stays open for
the indexer.
-/

namespace WorldlandBroker.Vault

open Foundation

variable {τ : Type} {V : GPUVault τ}

/-! ## The indexer -/

def Event.startedBy (rentalId : Nat) : Event → Option Address
  | .rentalStarted id renter _ _ _ => if id = rentalId then some renter else none
  | _ => none

def Event.ends (rentalId : Nat) : Event → Bool
  | .rentalEnded id _ _ => id = rentalId
  | _ => false

def Event.keyStatus (sessionKey : Address) : Event → Option Bool
  | .sessionKeyRegistered _ key _ _ => if key = sessionKey then some true else none
  | .sessionKeyRevoked _ key => if key = sessionKey then some false else none
  | _ => none

def Event.depositChange (renter : Nat → Option Address) (user : Address) :
    Event → ℤ
  | .deposited account amount => if account = user then amount else 0
  | .withdrawn account amount => if account = user then -amount else 0
  | .paymentProcessed owner _ amount _ => if owner = user then -amount else 0
  | .rentalEnded rentalId totalCost _ =>
      if renter rentalId = some user then -totalCost else 0
  | _ => 0

def renterOf (log : List Event) (rentalId : Nat) : Option Address :=
  log.findSome? (Event.startedBy rentalId)

def hasEnded (log : List Event) (rentalId : Nat) : Bool :=
  log.any (Event.ends rentalId)

def lastKeyStatus (log : List Event) (sessionKey : Address) : Option Bool :=
  (log.filterMap (Event.keyStatus sessionKey)).getLast?

def indexedDeposit (log : List Event) (user : Address) : ℤ :=
  (log.map (Event.depositChange (renterOf log) user)).sum

structure Reproduced (s : State τ) : Prop where
  deposits : ∀ user, (s.deposits user : ℤ) = indexedDeposit s.log user
  rentals : ∀ rentalId, (s.rentals rentalId).isActive = true ↔
    (renterOf s.log rentalId).isSome ∧ hasEnded s.log rentalId = false
  keys : ∀ sessionKey, (s.sessionKeys sessionKey).isActive = true ↔
    lastKeyStatus s.log sessionKey = some true

/--
The call ends an active rental that has cost nothing: in the block it started
in, or at the price 0.
-/
def ClosesFree (r : VaultStep τ) (rentalId : Nat) : Prop :=
  ∃ caller now, r.act = .tx ⟨caller, now, .endRental rentalId⟩ ∧
    (r.pre.rentals rentalId).isActive = true ∧
    ((r.pre.rentals rentalId).startTime = now ∨
      (r.pre.rentals rentalId).pricePerSecond = 0)

/-! ## Longer logs -/

variable {log events : List Event} {rentalId : Nat} {user sessionKey : Address}

private theorem renterOf_append (log events : List Event) (rentalId : Nat) :
    renterOf (log ++ events) rentalId =
      (renterOf log rentalId).or (renterOf events rentalId) :=
  List.findSome?_append

private theorem hasEnded_append (log events : List Event) (rentalId : Nat) :
    hasEnded (log ++ events) rentalId =
      (hasEnded log rentalId || hasEnded events rentalId) :=
  List.any_append

private theorem lastKeyStatus_append (log events : List Event) (sessionKey : Address) :
    lastKeyStatus (log ++ events) sessionKey =
      (lastKeyStatus events sessionKey).or (lastKeyStatus log sessionKey) := by
  rw [lastKeyStatus, List.filterMap_append, List.getLast?_append]
  rfl

/-- A rental's end is only logged after its start, whose renter then stands. -/
theorem indexedDeposit_append
    (hstarted : ∀ id, hasEnded log id = true → (renterOf log id).isSome)
    (events : List Event) (user : Address) :
    indexedDeposit (log ++ events) user = indexedDeposit log user +
      (events.map (Event.depositChange (renterOf (log ++ events)) user)).sum := by
  have hkept : log.map (Event.depositChange (renterOf (log ++ events)) user) =
      log.map (Event.depositChange (renterOf log) user) := by
    apply List.map_congr_left
    intro event hevent
    cases event with
    | rentalEnded id cost fee =>
        have hended : hasEnded log id = true :=
          List.any_eq_true.mpr ⟨_, hevent, by simp [Event.ends]⟩
        obtain ⟨renter, hrenter⟩ := Option.isSome_iff_exists.mp (hstarted id hended)
        simp [Event.depositChange, renterOf_append, hrenter]
    | _ => rfl
  rw [indexedDeposit, List.map_append, List.sum_append, hkept]
  rfl

/-! ## What a step keeps -/

def DepositsIndexed (s : State τ) : Prop :=
  ∀ user, (s.deposits user : ℤ) = indexedDeposit s.log user

def KeysIndexed (s : State τ) : Prop :=
  ∀ sessionKey, (s.sessionKeys sessionKey).isActive = true ↔
    lastKeyStatus s.log sessionKey = some true

structure RentalsIndexed (past : List (VaultStep τ)) (s : State τ) : Prop where
  renter : ∀ id, renterOf s.log id =
    if id < s.rentalCount then some (s.rentals id).renter else none
  ended : ∀ id, hasEnded s.log id = true → id < s.rentalCount
  active : ∀ id, (s.rentals id).isActive = true ↔
    id < s.rentalCount ∧ hasEnded s.log id = false ∧ ∀ r ∈ past, ¬ ClosesFree r id
  free : ∀ r ∈ past, ∀ id, ClosesFree r id →
    id < s.rentalCount ∧ hasEnded s.log id = false

variable {s s' : State τ} {past : List (VaultStep τ)}

theorem RentalsIndexed.started (h : RentalsIndexed past s) (id : Nat) :
    (renterOf s.log id).isSome ↔ id < s.rentalCount := by
  rw [h.renter]
  split <;> simp [*]

theorem RentalsIndexed.renterOf_active (h : RentalsIndexed past s)
    (hactive : (s.rentals rentalId).isActive = true) :
    renterOf s.log rentalId = some (s.rentals rentalId).renter := by
  have hid := ((h.active rentalId).mp hactive).1
  rw [h.renter, if_pos hid]

private theorem sum_settlement {renter : Nat → Option Address} {account : Address}
    (hrenter : renter rentalId = some account) (user provider recipient : Address)
    (payment cost fee : Nat) :
    ((Event.transfer provider payment :: feeTransfer recipient fee ++
      [Event.rentalEnded rentalId cost fee]).map (Event.depositChange renter user)).sum =
        if account = user then -(cost : ℤ) else 0 := by
  have hfee : ((feeTransfer recipient fee).map (Event.depositChange renter user)).sum =
      0 := by
    unfold feeTransfer
    split <;> simp [Event.depositChange]
  simp [hfee, Event.depositChange, hrenter]

private theorem renterOf_settlement (rentalId id payment cost fee : Nat)
    (provider recipient : Address) :
    renterOf (Event.transfer provider payment :: feeTransfer recipient fee ++
      [Event.rentalEnded rentalId cost fee]) id = none := by
  unfold feeTransfer
  split <;> simp [renterOf, Event.startedBy]

private theorem hasEnded_settlement (rentalId id payment cost fee : Nat)
    (provider recipient : Address) :
    hasEnded (Event.transfer provider payment :: feeTransfer recipient fee ++
      [Event.rentalEnded rentalId cost fee]) id = decide (rentalId = id) := by
  unfold feeTransfer
  split <;> simp [hasEnded, Event.ends]

theorem DepositsIndexed.append (h : DepositsIndexed s) (hrentals : RentalsIndexed past s)
    (hlog : s'.log = s.log ++ events)
    (hchange : ∀ user, (s'.deposits user : ℤ) = s.deposits user +
      (events.map (Event.depositChange (renterOf s'.log) user)).sum) :
    DepositsIndexed s' := by
  intro user
  have hstarted : ∀ id, hasEnded s.log id = true → (renterOf s.log id).isSome :=
    fun id hended => (hrentals.started id).mpr (hrentals.ended id hended)
  rw [hchange, hlog, indexedDeposit_append hstarted, h user]

theorem DepositsIndexed.debited (h : DepositsIndexed s) (hrentals : RentalsIndexed past s)
    (hlog : s'.log = s.log ++ events) {account : Address} {amount : Nat}
    (hcovered : amount ≤ s.deposits account)
    (hdeposits : s'.deposits =
      Function.update s.deposits account (s.deposits account - amount))
    (hsum : ∀ user, (events.map (Event.depositChange (renterOf s'.log) user)).sum =
      if account = user then -(amount : ℤ) else 0) :
    DepositsIndexed s' := by
  apply h.append hrentals hlog
  intro user
  rw [hsum, hdeposits]
  by_cases huser : account = user
  · subst huser
    simp [Nat.cast_sub hcovered, sub_eq_add_neg]
  · simp [huser, Function.update_of_ne (Ne.symm huser)]

theorem DepositsIndexed.step {r : VaultStep τ} (h : DepositsIndexed r.pre)
    (hrentals : RentalsIndexed past r.pre) (hstep : step V r.pre r.act = some r.post) :
    DepositsIndexed r.post := by
  obtain ⟨s, a, s'⟩ := r
  have heffect : Effect V s a s' := step_effect hstep
  cases heffect with
  | token => exact h
  | reverted => exact h
  | @done tx _ htime hok hdone =>
      obtain ⟨caller, now, call⟩ := tx
      cases hdone with
      | deposit =>
          refine h.append hrentals rfl fun user => ?_
          by_cases huser : caller = user
          · subst huser
            simp [Event.depositChange]
          · simp [Event.depositChange, huser, Function.update_of_ne (Ne.symm huser)]
      | @withdraw amount _ hamount hcovered =>
          exact h.debited hrentals rfl hcovered rfl fun user => by simp [Event.depositChange]
      | @processPaymentWithSessionKey key recipient amount jobId deadline signature
          token _ _ _ _ _ _ _ hcovered =>
          have hcovered : amount ≤ s.deposits (s.sessionKeys key).mainWallet := hcovered
          exact h.debited hrentals rfl hcovered rfl fun user => by simp [Event.depositChange]
      | @endRentalPaid id token hactive hstart hfits hsettles =>
          have hrenter := hrentals.renterOf_active hactive
          have hnamed : renterOf ((s.at now).settled id token).log id =
              some (s.rentals id).renter := by
            change renterOf (_ ++ _) id = _
            rw [List.append_assoc, renterOf_append, State.at_log, hrenter]
            rfl
          exact h.debited hrentals (List.append_assoc ..) hsettles.covered rfl fun user =>
            sum_settlement hnamed user _ _ _ _ _
      | startRental | startRentalWithSessionKey =>
          exact h.append hrentals rfl fun user => by simp [Event.depositChange]
      | registerSessionKey | registerSessionKeyWithSignature | revokeSessionKey =>
          exact h.append hrentals rfl fun user => by
            simp [Event.depositChange, State.recordSessionKey, State.emit]
      | transferOwnership | renounceOwnership =>
          exact h.append hrentals rfl fun user => by
            simp [Event.depositChange, State.emit, assignOwner]
      | endRentalFree | setPlatformFee | setFeeRecipient => exact h

theorem KeysIndexed.append (h : KeysIndexed s) (hlog : s'.log = s.log ++ events)
    (hchange : ∀ sessionKey, (s'.sessionKeys sessionKey).isActive =
      (lastKeyStatus events sessionKey).getD (s.sessionKeys sessionKey).isActive) :
    KeysIndexed s' := by
  intro sessionKey
  rw [hlog, lastKeyStatus_append, hchange]
  cases lastKeyStatus events sessionKey with
  | none => simpa using h sessionKey
  | some status => simp

theorem KeysIndexed.step {r : VaultStep τ} (h : KeysIndexed r.pre)
    (hstep : step V r.pre r.act = some r.post) : KeysIndexed r.post := by
  obtain ⟨s, a, s'⟩ := r
  have heffect : Effect V s a s' := step_effect hstep
  cases heffect with
  | token => exact h
  | reverted => exact h
  | @done tx _ htime hok hdone =>
      obtain ⟨caller, now, call⟩ := tx
      cases hdone with
      | @registerSessionKey key | @registerSessionKeyWithSignature owner key
      | @revokeSessionKey key =>
          refine h.append rfl fun sessionKey => ?_
          by_cases hkey : key = sessionKey
          · subst hkey
            simp [lastKeyStatus, Event.keyStatus, State.recordSessionKey, State.emit]
          · simp [lastKeyStatus, Event.keyStatus, State.recordSessionKey, State.emit, hkey,
              Function.update_of_ne (Ne.symm hkey)]
      | @processPaymentWithSessionKey key =>
          refine h.append rfl fun sessionKey => ?_
          by_cases hkey : key = sessionKey
          · subst hkey
            simp [lastKeyStatus, Event.keyStatus, List.findSome?_cons]
          · simp [lastKeyStatus, Event.keyStatus, List.findSome?_cons,
              Function.update_of_ne (Ne.symm hkey)]
      | endRentalPaid =>
          refine h.append (List.append_assoc ..) fun sessionKey => ?_
          unfold feeTransfer
          split <;> simp [lastKeyStatus, Event.keyStatus, List.findSome?_cons, State.settled]
      | deposit | withdraw | startRental | startRentalWithSessionKey =>
          exact h.append rfl fun sessionKey => by
            simp [lastKeyStatus, Event.keyStatus, List.findSome?_cons]
      | transferOwnership | renounceOwnership =>
          exact h.append rfl fun sessionKey => by
            simp [lastKeyStatus, Event.keyStatus, List.findSome?_cons, assignOwner, State.emit]
      | endRentalFree | setPlatformFee | setFeeRecipient => exact h

private theorem not_closesFree {r : VaultStep τ} {tx : Tx} (hact : r.act = .tx tx)
    (hcall : ∀ id, tx.call ≠ .endRental id) (id : Nat) : ¬ ClosesFree r id := by
  rintro ⟨caller, now, hends, -⟩
  cases hact.symm.trans hends
  exact hcall id rfl

theorem accrued_eq_zero_iff {now : Nat} (hstart : (s.rentals rentalId).startTime ≤ now) :
    (s.at now).accrued rentalId = 0 ↔ (s.rentals rentalId).startTime = now ∨
      (s.rentals rentalId).pricePerSecond = 0 := by
  change (now - (s.rentals rentalId).startTime) * _ = 0 ↔ _
  rw [Nat.mul_eq_zero]
  exact or_congr_left (by omega)

private theorem endRental_ok_of_free {now : Nat} (hactive : (s.rentals rentalId).isActive = true)
    (hstart : (s.rentals rentalId).startTime ≤ now)
    (hfree : (s.at now).accrued rentalId = 0) :
    endRental V (s.at now) rentalId = .ok ((s.at now).closeRental rentalId) :=
  endRental_eq_ok.mpr ⟨hactive, hstart, hfree ▸ Nat.two_pow_pos 256, .inl ⟨hfree, rfl⟩⟩

theorem RentalsIndexed.kept {r : VaultStep τ} (h : RentalsIndexed past r.pre)
    (hlog : r.post.log = r.pre.log ++ events)
    (hquiet : ∀ event ∈ events, ∀ id, event.startedBy id = none ∧ event.ends id = false)
    (hrentals : r.post.rentals = r.pre.rentals)
    (hcount : r.post.rentalCount = r.pre.rentalCount)
    (hfree : ∀ id, ¬ ClosesFree r id) : RentalsIndexed (past ++ [r]) r.post := by
  have hrenter : ∀ id, renterOf r.post.log id = renterOf r.pre.log id := by
    intro id
    have hnone : renterOf events id = none :=
      List.findSome?_eq_none_iff.mpr fun event hevent => (hquiet event hevent id).1
    rw [hlog, renterOf_append, hnone, Option.or_none]
  have hended : ∀ id, hasEnded r.post.log id = hasEnded r.pre.log id := by
    intro id
    have hnone : hasEnded events id = false :=
      List.any_eq_false.mpr fun event hevent => by simp [(hquiet event hevent id).2]
    rw [hlog, hasEnded_append, hnone, Bool.or_false]
  constructor
  · simpa [hrenter, hrentals, hcount] using h.renter
  · simpa [hended, hcount] using h.ended
  · simpa [hended, hrentals, hcount, or_imp, forall_and, hfree] using h.active
  · simpa [hended, hcount, or_imp, forall_and, hfree] using h.free

theorem RentalsIndexed.opened {r : VaultStep τ} {rental : Rental} {provider : Address}
    {jobId : String} {price : Nat} (h : RentalsIndexed past r.pre)
    (hlog : r.post.log = r.pre.log ++
      [.rentalStarted r.pre.rentalCount rental.renter provider jobId price])
    (hactive : rental.isActive = true)
    (hrentals : r.post.rentals = Function.update r.pre.rentals r.pre.rentalCount rental)
    (hcount : r.post.rentalCount = r.pre.rentalCount + 1)
    (hfree : ∀ id, ¬ ClosesFree r id) : RentalsIndexed (past ++ [r]) r.post := by
  have hended : ∀ id, hasEnded r.post.log id = hasEnded r.pre.log id := by
    intro id
    simp [hlog, hasEnded, Event.ends]
  have hopen : hasEnded r.pre.log r.pre.rentalCount = false := by
    by_contra hne
    exact absurd (h.ended _ (by simpa using hne)) (lt_irrefl _)
  constructor
  · intro id
    rw [hlog, renterOf_append, h.renter, hrentals, hcount]
    by_cases hnew : id = r.pre.rentalCount
    · subst hnew
      simp [renterOf, Event.startedBy]
    · have hnone : renterOf [.rentalStarted r.pre.rentalCount rental.renter provider
          jobId price] id = none := by
        simp [renterOf, Event.startedBy, Ne.symm hnew]
      rw [hnone, Option.or_none, Function.update_of_ne hnew]
      exact if_congr (by omega) rfl rfl
  · intro id hid
    rw [hended] at hid
    have hlt := h.ended id hid
    omega
  · intro id
    rw [hended, hrentals, hcount]
    simp only [List.mem_append, List.mem_singleton, or_imp, forall_and, forall_eq, hfree,
      not_false_eq_true, and_true]
    by_cases hnew : id = r.pre.rentalCount
    · subst hnew
      rw [Function.update_self]
      refine iff_of_true hactive ⟨Nat.lt_succ_self _, hopen, fun r' hr' hcloses => ?_⟩
      exact absurd (h.free r' hr' _ hcloses).1 (lt_irrefl _)
    · rw [Function.update_of_ne hnew, h.active]
      exact and_congr_left fun _ => by omega
  · intro r' hr' id hcloses
    rcases List.mem_append.mp hr' with hr' | hr'
    · obtain ⟨hid, hopen⟩ := h.free r' hr' id hcloses
      rw [hended, hcount]
      exact ⟨by omega, hopen⟩
    · exact absurd (List.mem_singleton.mp hr' ▸ hcloses) (hfree id)

theorem RentalsIndexed.closed {r : VaultStep τ} (free : Prop) (h : RentalsIndexed past r.pre)
    (hactive : (r.pre.rentals rentalId).isActive = true)
    (hrentals : r.post.rentals = Function.update r.pre.rentals rentalId
      { r.pre.rentals rentalId with isActive := false })
    (hcount : r.post.rentalCount = r.pre.rentalCount)
    (hrenter : ∀ id, renterOf r.post.log id = renterOf r.pre.log id)
    (hended : ∀ id, hasEnded r.post.log id = true ↔
      hasEnded r.pre.log id = true ∨ id = rentalId ∧ ¬ free)
    (hfree : ∀ id, ClosesFree r id ↔ id = rentalId ∧ free) :
    RentalsIndexed (past ++ [r]) r.post := by
  obtain ⟨hid, hopen, hpast⟩ := (h.active rentalId).mp hactive
  have hopen_of : ∀ id, hasEnded r.pre.log id = false → (id = rentalId → free) →
      hasEnded r.post.log id = false := by
    intro id hpre hfree
    rw [Bool.eq_false_iff, Ne, hended, hpre]
    rintro (hend | ⟨hsame, hpaid⟩)
    · contradiction
    · exact hpaid (hfree hsame)
  constructor
  · intro id
    rw [hrenter, h.renter, hrentals, hcount]
    by_cases hsame : id = rentalId
    · subst hsame
      rw [Function.update_self]
    · rw [Function.update_of_ne hsame]
  · intro id hend
    rw [hcount]
    rcases (hended id).mp hend with hend | ⟨rfl, -⟩
    · exact h.ended id hend
    · exact hid
  · intro id
    rw [hrentals, hcount]
    simp only [List.mem_append, List.mem_singleton, or_imp, forall_and, forall_eq]
    by_cases hsame : id = rentalId
    · subst hsame
      rw [Function.update_self]
      refine iff_of_false Bool.false_ne_true ?_
      rintro ⟨-, hnone, -, hnot⟩
      have hpaid : ¬ free := fun hf => hnot ((hfree id).mpr ⟨rfl, hf⟩)
      rw [(hended id).mpr (.inr ⟨rfl, hpaid⟩)] at hnone
      contradiction
    · have hkept : hasEnded r.post.log id = false ↔ hasEnded r.pre.log id = false := by
        rw [Bool.eq_false_iff, Bool.eq_false_iff, not_iff_not, hended]
        simp [hsame]
      have hnot : ¬ ClosesFree r id := fun hcloses => hsame ((hfree id).mp hcloses).1
      rw [Function.update_of_ne hsame, h.active, hkept]
      simp [hnot]
  · intro r' hr' id hcloses
    rw [hcount]
    rcases List.mem_append.mp hr' with hr' | hr'
    · obtain ⟨hlt, hnone⟩ := h.free r' hr' id hcloses
      refine ⟨hlt, hopen_of id hnone fun hsame => ?_⟩
      exact absurd (hsame ▸ hcloses) (hpast r' hr')
    · rw [List.mem_singleton.mp hr', hfree] at hcloses
      obtain ⟨rfl, hf⟩ := hcloses
      exact ⟨hid, hopen_of id hopen fun _ => hf⟩

theorem closesFree_tx_iff {caller : Address} {now id : Nat} :
    ClosesFree ⟨s, .tx ⟨caller, now, .endRental rentalId⟩, s'⟩ id ↔
      id = rentalId ∧ (s.rentals rentalId).isActive = true ∧
        ((s.rentals rentalId).startTime = now ∨
          (s.rentals rentalId).pricePerSecond = 0) := by
  constructor
  · rintro ⟨caller', now', hact, hfree⟩
    cases hact
    exact ⟨rfl, hfree⟩
  · rintro ⟨rfl, hfree⟩
    exact ⟨caller, now, rfl, hfree⟩

theorem RentalsIndexed.step {r : VaultStep τ} (h : RentalsIndexed past r.pre)
    (hstarted : ∀ id, (r.pre.rentals id).startTime ≤ r.pre.timestamp)
    (hstep : step V r.pre r.act = some r.post) : RentalsIndexed (past ++ [r]) r.post := by
  obtain ⟨s, a, s'⟩ := r
  have heffect : Effect V s a s' := step_effect hstep
  cases heffect with
  | token next =>
      refine h.kept (List.append_nil _).symm (by simp) rfl rfl ?_
      rintro id ⟨caller, now, hact, -⟩
      cases hact
  | @reverted tx error htime herror =>
      obtain ⟨caller, now, call⟩ := tx
      refine h.kept (List.append_nil _).symm (by simp) rfl rfl ?_
      rintro id ⟨caller', now', hact, hactive, hcost⟩
      cases hact
      have hstart := (hstarted id).trans htime
      have hok := endRental_ok_of_free (V := V) hactive hstart
        ((accrued_eq_zero_iff hstart).mpr hcost)
      change endRental V (s.at now) id = _ at herror
      rw [hok] at herror
      contradiction
  | @done tx _ htime hok hdone =>
      obtain ⟨caller, now, call⟩ := tx
      cases hdone with
      | startRental =>
          exact h.opened rfl rfl rfl rfl (not_closesFree rfl (by simp))
      | startRentalWithSessionKey =>
          exact h.opened rfl rfl rfl rfl (not_closesFree rfl (by simp))
      | @endRentalFree id hactive _ hfree =>
          have hcost := (accrued_eq_zero_iff ((hstarted id).trans htime)).mp hfree
          refine h.closed True hactive rfl rfl (fun _ => rfl) ?_ ?_
          · simp [State.closeRental]
          · intro id'
            rw [closesFree_tx_iff]
            exact and_congr_right fun _ => iff_of_true ⟨hactive, hcost⟩ trivial
      | @endRentalPaid id token hactive _ _ hsettles =>
          have hpaid := hsettles.positive.ne'
          rw [Ne, accrued_eq_zero_iff ((hstarted id).trans htime)] at hpaid
          refine h.closed False hactive rfl rfl ?_ ?_ ?_
          · intro id'
            change renterOf (_ ++ _ ++ _) id' = _
            rw [List.append_assoc, renterOf_append, renterOf_settlement, Option.or_none]
            rfl
          · intro id'
            change hasEnded (_ ++ _ ++ _) id' = true ↔ _
            rw [List.append_assoc, hasEnded_append, hasEnded_settlement, Bool.or_eq_true,
              decide_eq_true_eq, eq_comm (a := id), not_false_eq_true, and_true]
            rfl
          · intro id'
            rw [closesFree_tx_iff]
            simp [hpaid]
      | deposit | withdraw | registerSessionKey | registerSessionKeyWithSignature
      | revokeSessionKey | processPaymentWithSessionKey | transferOwnership
      | renounceOwnership =>
          exact h.kept rfl (by simp [Event.startedBy, Event.ends]) rfl rfl
            (not_closesFree rfl (by simp))
      | setPlatformFee | setFeeRecipient =>
          exact h.kept (List.append_nil _).symm (by simp) rfl rfl
            (not_closesFree rfl (by simp))

/-! ## Runs -/

section Runs

variable {guard : Guard (State τ) (Action τ)} {token : τ}
  {deployer feeRecipient : Address} {timestamp : Nat}

theorem indexed_run
    (hrun : Run (step V) guard (deployed token deployer feeRecipient timestamp) past s) :
    DepositsIndexed s ∧ KeysIndexed s ∧ RentalsIndexed past s := by
  apply hrun.invariant
  · refine ⟨fun user => rfl, fun sessionKey => ?_, ?_⟩
    · simp [deployed, lastKeyStatus, Event.keyStatus]
    · constructor <;> simp [deployed, renterOf, hasEnded, Event.startedBy, Event.ends]
  · rintro past s a s' hrun ⟨hdeposits, hkeys, hrentals⟩ - hstep
    have hbook := rentalBook_run hrun
    let r : VaultStep τ := ⟨s, a, s'⟩
    have hdeposits' : DepositsIndexed r.post := hdeposits.step hrentals hstep
    have hkeys' : KeysIndexed r.post := hkeys.step hstep
    have hrentals' : RentalsIndexed (past ++ [r]) r.post :=
      hrentals.step hbook.started hstep
    exact ⟨hdeposits', hkeys', hrentals'⟩

/--
Along every run the events reproduce the vault exactly when no call has ended a
rental that was free.
-/
theorem log_reproduces_iff
    (hrun : Run (step V) guard (deployed token deployer feeRecipient timestamp) past s) :
    Reproduced s ↔ ∀ r ∈ past, ∀ rentalId, ¬ ClosesFree r rentalId := by
  obtain ⟨hdeposits, hkeys, hrentals⟩ := indexed_run hrun
  constructor
  · intro h r hr id hcloses
    obtain ⟨hid, hopen⟩ := hrentals.free r hr id hcloses
    have hactive := (h.rentals id).mpr ⟨(hrentals.started id).mpr hid, hopen⟩
    exact ((hrentals.active id).mp hactive).2.2 r hr hcloses
  · intro hnone
    refine ⟨hdeposits, fun id => ?_, hkeys⟩
    rw [hrentals.active, hrentals.started]
    constructor
    · rintro ⟨hid, hopen, -⟩
      exact ⟨hid, hopen⟩
    · rintro ⟨hid, hopen⟩
      exact ⟨hid, hopen, fun r hr => hnone r hr id⟩

end Runs

/-- Account 1 rents for ten seconds and is charged. -/
theorem log_reproduces_paid_rental :
    ∃ (past : List (VaultStep ERC20)) (s : State ERC20),
      Run (step sampleVault) anyStep sampleState past s ∧
      indexedDeposit s.log 1 = 80 ∧ Reproduced s := by
  have hdeposit := (Run.nil : Run (step sampleVault) anyStep sampleState [] _).take
    (.tx ⟨1, 10, .deposit 100⟩) trivial rfl
  have hstart := hdeposit.take (.tx ⟨1, 20, .startRental 50 2 "job-1"⟩) trivial rfl
  have hend := hstart.take (.tx ⟨1, 30, .endRental 0⟩) trivial rfl
  refine ⟨_, _, hend, by decide, (log_reproduces_iff hend).mpr ?_⟩
  rintro r hr id ⟨caller, now, hact, -, hfree⟩
  simp only [List.nil_append, List.cons_append, List.mem_cons, List.not_mem_nil,
    or_false] at hr
  rcases hr with rfl | rfl | rfl
  · cases hact
  · cases hact
  · cases hact
    revert hfree
    decide

/-- A rental that ends in the block it started in is closed without an event. -/
theorem free_end_leaves_no_event :
    ∃ (past : List (VaultStep ERC20)) (s : State ERC20),
      Run (step sampleVault) anyStep sampleState past s ∧
      (s.rentals 0).isActive = false ∧ (renterOf s.log 0).isSome ∧
      hasEnded s.log 0 = false ∧ ¬ Reproduced s := by
  have hdeposit := (Run.nil : Run (step sampleVault) anyStep sampleState [] _).take
    (.tx ⟨1, 10, .deposit 100⟩) trivial rfl
  have hstart := hdeposit.take (.tx ⟨1, 20, .startRental 50 2 "job-1"⟩) trivial rfl
  have hend := hstart.take (.tx ⟨1, 20, .endRental 0⟩) trivial rfl
  refine ⟨_, _, hend, by decide, by decide, by decide, fun h => ?_⟩
  have hactive := (h.rentals 0).mpr ⟨by decide, by decide⟩
  revert hactive
  decide

end WorldlandBroker.Vault
