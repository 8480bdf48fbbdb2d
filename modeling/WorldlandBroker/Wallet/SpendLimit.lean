import WorldlandBroker.Wallet.Memory
import Mathlib.Algebra.Order.BigOperators.Group.List
import Mathlib.Algebra.Order.Ring.Rat

/-!
# The off-chain spend limit

The record of a session always holds what its charges have returned success for
plus what they have written back and not yet returned, provided that charges
of the session spend from the record's own figures and one at a time.
-/

namespace WorldlandBroker.Wallet

open Foundation

/-! ## Figures -/

def Session.budget (session : Session ℚ≥0) : ℚ≥0 × ℚ≥0 :=
  (session.spentAmount, session.spendLimit)

def Store.budget (s : Store) (key : String) : Option (ℚ≥0 × ℚ≥0) :=
  (s.records key).map fun record => record.session.budget

def Store.budgetAt (s : Store) (ref : ℕ) : Option (ℚ≥0 × ℚ≥0) :=
  (s.objects[ref]?).map Session.budget

def charging (key : String) : Op → Stage → Bool
  | .validateAndCharge k _, .allowed _ => k = key
  | .validateAndCharge k _, .charged _ => k = key
  | .validateAndCharge k _, .marshalled _ _ _ => k = key
  | _, _ => false

def Op.amount (key : String) : Op → ℚ≥0
  | .validateAndCharge k amount => if k = key then amount else 0
  | _ => 0

/-- What a charge on the key has written back and not yet returned. -/
def written (key : String) (op : Op) : Stage → ℚ≥0
  | .stored _ => op.amount key
  | _ => 0

def returned (key : String) (op : Op) : Stage → ℚ≥0
  | .returned true => op.amount key
  | _ => 0

def State.written (s : State) (key : String) : ℚ≥0 :=
  (s.calls.map fun call => Wallet.written key call.op call.stage).sum

def paid (key : String) (r : Transition State Action) : ℚ≥0 :=
  match r.act with
  | .advance c =>
      match r.post.calls[c]? with
      | some call => returned key call.op call.stage
      | none => 0
  | _ => 0

def totalPaid (key : String) (past : List (Transition State Action)) : ℚ≥0 :=
  (past.map (paid key)).sum

/-! ## Undisturbed charges -/

/--
A charge that passes its check spends from an object with the record's figures
while no other charge of the session is under way; a revocation writes back the
figures it finds; a registration replaces no record under a charge.
-/
def Undisturbed (s : State) : Call → Prop
  | ⟨_, .validateAndCharge key amount, .held ref⟩ =>
      ∀ session ∈ s.store.objects[ref]?,
        session.spentAmount + amount ≤ session.spendLimit →
          s.store.budget key = some session.budget ∧
            ∀ call ∈ s.calls, charging key call.op call.stage = false
  | ⟨_, .revokeSession _ key, .owned session⟩ => s.store.budget key = some session.budget
  | ⟨_, .registerSession req, .counted _⟩ =>
      ∀ call ∈ s.calls, charging req.sessionKey call.op call.stage = false ∧
        written req.sessionKey call.op call.stage = 0
  | _ => True

instance (s : State) (call : Call) : Decidable (Undisturbed s call) := by
  unfold Undisturbed
  split <;> infer_instance

def undisturbed : Guard State Action :=
  fun _ s a => ∀ call ∈ moving s a, Undisturbed s call

/-! ## The invariant -/

def Promised (key : String) (limit spent : ℚ≥0) (s : Store) : Op → Stage → Prop
  | .validateAndCharge k amount, .allowed ref =>
      k = key → s.budgetAt ref = some (spent, limit) ∧ spent + amount ≤ limit
  | .validateAndCharge k amount, .charged ref =>
      k = key → s.budgetAt ref = some (spent + amount, limit) ∧ spent + amount ≤ limit
  | .validateAndCharge k amount, .marshalled _ data _ =>
      k = key → data.budget = (spent + amount, limit) ∧ spent + amount ≤ limit
  | _, _ => True

structure Tallied (key : String) (limit spent : ℚ≥0) (s : State) : Prop where
  record : s.store.budget key = some (spent, limit)
  within : spent ≤ limit
  promised : ∀ (c : ℕ) call, s.calls[c]? = some call →
    Promised key limit spent s.store call.op call.stage
  alone : ∀ (c c' : ℕ) call call', s.calls[c]? = some call → s.calls[c']? = some call' →
    charging key call.op call.stage = true → charging key call'.op call'.stage = true →
      c = c'

private theorem promised_of_not_charging {key : String} {limit spent : ℚ≥0} {s : Store} {op : Op}
    {stage : Stage} (h : charging key op stage = false) :
    Promised key limit spent s op stage := by
  cases op with
  | validateAndCharge k amount =>
      cases stage with
      | allowed | charged | marshalled => exact fun hkey => by simp [charging, hkey] at h
      | _ => trivial
  | _ => trivial

private theorem charging_key {key : String} {op : Op} {stage : Stage}
    (h : charging key op stage = true) : op.sessionKey = key := by
  cases op with
  | validateAndCharge k amount =>
      cases stage with
      | allowed | charged | marshalled => simpa [charging] using h
      | _ => contradiction
  | _ => contradiction

private theorem charging_of_committed (key : String) (op : Op) {stage : Stage}
    (h : ∀ k amount, charging key (.validateAndCharge k amount) stage = false) :
    charging key op stage = false := by
  cases op with
  | validateAndCharge k amount => exact h k amount
  | _ => cases stage <;> rfl

private theorem amount_of_ne {key : String} {op : Op} (h : op.sessionKey ≠ key) :
    op.amount key = 0 := by
  cases op with
  | validateAndCharge k amount => exact if_neg h
  | _ => rfl

private theorem written_of_ne {key : String} {op : Op} (h : op.sessionKey ≠ key) (stage : Stage) :
    written key op stage = 0 := by
  cases stage with
  | stored => exact amount_of_ne h
  | _ => rfl

private theorem returned_of_ne {key : String} {op : Op} (h : op.sessionKey ≠ key) (stage : Stage) :
    returned key op stage = 0 := by
  cases stage with
  | returned ok =>
      cases ok with
      | true => exact amount_of_ne h
      | false => rfl
  | _ => rfl

structure Store.KeepsFigures (s s' : Store) (key : String) : Prop where
  record : s'.budget key = s.budget key
  objects : ∀ ref, s.Names ref key → s'.budgetAt ref = s.budgetAt ref

theorem Store.Agrees.keepsFigures {s s' : Store} {key : String} (h : s.Agrees s' key) :
    s.KeepsFigures s' key := by
  constructor
  · simp only [Store.budget, h.records]
  · rintro ref ⟨session, hobject, hkey⟩
    simp only [Store.budgetAt, hobject, h.objects ref session hobject hkey]

theorem Promised.keep {key : String} {limit spent : ℚ≥0} {s s' : Store} {op : Op}
    {stage : Stage} (h : Promised key limit spent s op stage)
    (hstage : stage.Keyed s op.sessionKey) (hkeep : s.KeepsFigures s' key) :
    Promised key limit spent s' op stage := by
  cases op with
  | validateAndCharge k amount =>
      cases stage with
      | allowed | charged =>
          intro hkey
          rw [hkeep.objects _ (hkey ▸ hstage)]
          exact h hkey
      | marshalled => exact h
      | _ => trivial
  | _ => trivial

section Slots

variable {key : String} {limit spent : ℚ≥0} {s : State} {c : ℕ} {call : Call}
  {store : Store} {stage : Stage}

theorem Tallied.quiet (h : Tallied key limit spent s) (hkeyed : KeyedState s)
    (hkeep : s.store.KeepsFigures store key)
    (hstage : charging key call.op stage = false) :
    Tallied key limit spent ⟨store, s.calls.set c { call with stage := stage }⟩ := by
  have hothers : ∀ (c : ℕ) call, s.calls[c]? = some call →
      Promised key limit spent store call.op call.stage :=
    fun c call hcall => (h.promised c call hcall).keep (hkeyed.2 c call hcall) hkeep
  refine ⟨hkeep.record.trans h.record, h.within,
    forall_set hothers (promised_of_not_charging hstage), ?_⟩
  intro i j callᵢ callⱼ hi hj hchargingᵢ hchargingⱼ
  rcases slot_of_set hi with ⟨-, rfl⟩ | ⟨-, hi⟩
  · simp [hstage] at hchargingᵢ
  · rcases slot_of_set hj with ⟨-, rfl⟩ | ⟨-, hj⟩
    · simp [hstage] at hchargingⱼ
    · exact h.alone i j callᵢ callⱼ hi hj hchargingᵢ hchargingⱼ

theorem Tallied.begun (h : Tallied key limit spent s) (p : ℕ) (op : Op) :
    Tallied key limit spent { s with calls := s.calls ++ [⟨p, op, .begun⟩] } := by
  have hbegun : charging key op .begun = false :=
    charging_of_committed key op fun _ _ => rfl
  refine ⟨h.record, h.within, forall_append h.promised (promised_of_not_charging hbegun), ?_⟩
  intro i j callᵢ callⱼ hi hj hchargingᵢ hchargingⱼ
  rcases slot_of_append hi with hi | ⟨-, rfl⟩
  · rcases slot_of_append hj with hj | ⟨-, rfl⟩
    · exact h.alone i j callᵢ callⱼ hi hj hchargingᵢ hchargingⱼ
    · simp [hbegun] at hchargingⱼ
  · simp [hbegun] at hchargingᵢ

/-- With no other charge under way only the moving call has a promise to keep. -/
theorem Tallied.focus (call : Call) (hrecord : store.budget key = some (spent, limit))
    (hwithin : spent ≤ limit)
    (hothers : ∀ (i : ℕ) call', i ≠ c → s.calls[i]? = some call' →
      charging key call'.op call'.stage = false)
    (hpromised : Promised key limit spent store call.op stage) :
    Tallied key limit spent ⟨store, s.calls.set c { call with stage := stage }⟩ := by
  refine ⟨hrecord, hwithin, ?_, ?_⟩
  · intro i call' hcall'
    rcases slot_of_set hcall' with ⟨-, rfl⟩ | ⟨hne, hcall'⟩
    · exact hpromised
    · exact promised_of_not_charging (hothers i call' hne hcall')
  · intro i j callᵢ callⱼ hi hj hchargingᵢ hchargingⱼ
    rcases slot_of_set hi with ⟨rfl, rfl⟩ | ⟨hne, hi⟩
    · rcases slot_of_set hj with ⟨rfl, rfl⟩ | ⟨hne, hj⟩
      · rfl
      · simp [hothers j callⱼ hne hj] at hchargingⱼ
    · simp [hothers i callᵢ hne hi] at hchargingᵢ

theorem Tallied.others (h : Tallied key limit spent s) (hcall : s.calls[c]? = some call)
    (hcharging : charging key call.op call.stage = true) (i : ℕ) (call' : Call)
    (hne : i ≠ c) (hcall' : s.calls[i]? = some call') :
    charging key call'.op call'.stage = false := by
  by_contra hcharging'
  apply hne
  exact h.alone i c call' call hcall' hcall (by simpa using hcharging') hcharging

private theorem written_set (key : String) (store : Store) (stage : Stage)
    (hcall : s.calls[c]? = some call) :
    State.written ⟨store, s.calls.set c { call with stage := stage }⟩ key +
        written key call.op call.stage =
      s.written key + written key call.op stage :=
  sum_set (fun call : Call => written key call.op call.stage) hcall

private theorem written_eq_zero (h : ∀ call ∈ s.calls, written key call.op call.stage = 0) :
    s.written key = 0 := by
  apply List.sum_eq_zero
  intro amount hamount
  obtain ⟨call, hcall, rfl⟩ := List.mem_map.mp hamount
  exact h call hcall

end Slots

/-! ## Steps -/

private theorem written_of_fallible (key : String) (op : Op) {stage : Stage} (h : stage.Fallible) :
    written key op stage = 0 := by
  cases stage with
  | stored => contradiction
  | _ => rfl

theorem Store.KeepsFigures.of_eq {s s' : Store} (key : String)
    (hrecords : s'.records = s.records) (hobjects : s'.objects = s.objects) :
    s.KeepsFigures s' key := by
  constructor
  · simp only [Store.budget, hrecords]
  · intro ref _
    simp only [Store.budgetAt, hobjects]

theorem Store.KeepsFigures.alloc (s : Store) (key : String) (session : Session ℚ≥0) :
    s.KeepsFigures (s.alloc session) key := by
  constructor
  · rfl
  · rintro ref ⟨session', hobject, -⟩
    simp only [Store.budgetAt, hobject, Store.alloc_object hobject]

theorem Store.budget_set {s : Store} {session : Session ℚ≥0} {key : String}
    (h : session.sessionKey = key) (ttl : ℤ) :
    (s.set session ttl).budget key = some session.budget := by
  subst h
  rw [Store.budget, Store.set_records_self, Option.map_some]

section Moves

variable {eth : Ethereum} {key : String} {limit total : ℚ≥0} {s : State} {c : ℕ}
  {call : Call} {store : Store} {stage : Stage}

theorem Tallied.settle (h : Tallied key limit (total + s.written key) s)
    (hkeyed : KeyedState s) (hcall : s.calls[c]? = some call)
    (hkeep : s.store.KeepsFigures store key)
    (hstage : charging key call.op stage = false)
    (hbalance : written key call.op call.stage =
      returned key call.op stage + written key call.op stage) :
    Tallied key limit
      (total + returned key call.op stage +
        State.written ⟨store, s.calls.set c { call with stage := stage }⟩ key)
      ⟨store, s.calls.set c { call with stage := stage }⟩ := by
  have hsum := written_set key store stage hcall
  have hwritten : returned key call.op stage +
      State.written ⟨store, s.calls.set c { call with stage := stage }⟩ key =
        s.written key := by
    apply add_right_cancel (b := written key call.op stage)
    rw [← hsum, hbalance, add_assoc, add_left_comm]
  rw [add_assoc, hwritten]
  exact h.quiet hkeyed hkeep hstage

theorem Tallied.proceed (h : Tallied key limit (total + s.written key) s)
    (hcall : s.calls[c]? = some call) (hrecord : store.budget key = s.store.budget key)
    (hothers : ∀ (i : ℕ) call', i ≠ c → s.calls[i]? = some call' →
      charging key call'.op call'.stage = false)
    (hpromised : Promised key limit (total + s.written key) store call.op stage)
    (hold : written key call.op call.stage = 0) (hnew : written key call.op stage = 0)
    (hreturned : returned key call.op stage = 0) :
    Tallied key limit
      (total + returned key call.op stage +
        State.written ⟨store, s.calls.set c { call with stage := stage }⟩ key)
      ⟨store, s.calls.set c { call with stage := stage }⟩ := by
  have hsum := written_set key store stage hcall
  rw [hold, hnew, add_zero, add_zero] at hsum
  rw [hreturned, add_zero, hsum]
  exact Tallied.focus call (hrecord.trans h.record) h.within hothers hpromised

theorem Tallied.writeBack {p : ℕ} {amount : ℚ≥0} {ref : ℕ} {data : Session ℚ≥0} {ttl : ℤ}
    (h : Tallied key limit (total + s.written key) s) (hkeyed : KeyedState s)
    (hcall : s.calls[c]? =
      some ⟨p, .validateAndCharge key amount, .marshalled ref data ttl⟩) :
    Tallied key limit
      (total + 0 +
        State.written ⟨s.store.set data ttl, s.calls.set c
          ⟨p, .validateAndCharge key amount, .stored ref⟩⟩ key)
      ⟨s.store.set data ttl, s.calls.set c
        ⟨p, .validateAndCharge key amount, .stored ref⟩⟩ := by
  have hsum := written_set key (s.store.set data ttl) (.stored ref) hcall
  simp only [Wallet.written, Op.amount, if_true, add_zero] at hsum
  obtain ⟨hdata, hlimit⟩ := h.promised c _ hcall rfl
  have hcharging : charging key (.validateAndCharge key amount) (.marshalled ref data ttl) =
      true := decide_eq_true rfl
  rw [add_zero, hsum, ← add_assoc]
  apply Tallied.focus ⟨p, .validateAndCharge key amount, .marshalled ref data ttl⟩
  · have hkey : data.sessionKey = key := (hkeyed.2 c _ hcall).2
    rw [Store.budget_set hkey, hdata]
  · exact hlimit
  · exact h.others hcall hcharging
  · trivial

theorem Tallied.move (h : Tallied key limit (total + s.written key) s)
    (hkeyed : KeyedState s) (hcall : s.calls[c]? = some call)
    (hmove : Moves eth s.store call.process call.op call.stage store stage)
    (hguard : Undisturbed s call)
    (hlast : ∀ req message, call.op = .registerSession req →
      call.stage = .counted message → req.sessionKey ≠ key) :
    Tallied key limit
      (total + returned key call.op stage +
        State.written ⟨store, s.calls.set c { call with stage := stage }⟩ key)
      ⟨store, s.calls.set c { call with stage := stage }⟩ := by
  obtain ⟨p, op, stage₀⟩ := call
  have hstage := hkeyed.2 c _ hcall
  by_cases hkey : op.sessionKey = key
  · cases hmove with
    | fail hfallible =>
        apply h.settle hkeyed hcall (.of_eq key rfl rfl)
        · exact charging_of_committed key op fun _ _ => rfl
        · exact (written_of_fallible key op hfallible).trans (add_zero 0).symm
    | readNonce | verify | count | validated | own | forget =>
        exact h.settle hkeyed hcall (.of_eq key rfl rfl) rfl (add_zero _).symm
    | register => exact absurd hkey (hlast _ _ rfl rfl)
    | publish | hit | miss | cacheLoaded =>
        refine h.settle hkeyed hcall (.of_eq key rfl rfl) ?_ ?_
        · exact charging_of_committed key op fun _ _ => rfl
        · exact (add_zero _).symm
    | load =>
        apply h.settle hkeyed hcall (.alloc s.store key _)
        · exact charging_of_committed key op fun _ _ => rfl
        · exact (add_zero _).symm
    | @allow k amount ref session hobject hlimit =>
        obtain rfl : k = key := hkey
        obtain ⟨hfresh, hidle⟩ := hguard session hobject hlimit
        have hfigures : session.budget = (total + s.written k, limit) :=
          Option.some_injective _ (hfresh.symm.trans h.record)
        refine h.proceed hcall rfl ?_ (fun _ => ⟨?_, ?_⟩) rfl rfl rfl
        · intro i call' _ hcall'
          exact hidle call' (List.mem_of_getElem? hcall')
        · simp only [Store.budgetAt, hobject, Option.map_some, hfigures]
        · simp only [Session.budget, Prod.mk.injEq] at hfigures
          rw [← hfigures.1, ← hfigures.2]
          exact hlimit
    | @charge k amount ref =>
        obtain rfl : k = key := hkey
        obtain ⟨hfigures, hlimit⟩ := h.promised c _ hcall rfl
        obtain ⟨session, hobject, hsession⟩ := Option.map_eq_some_iff.mp hfigures
        refine h.proceed hcall rfl (h.others hcall ?_) (fun _ => ⟨?_, hlimit⟩) rfl rfl rfl
        · exact decide_eq_true rfl
        · rw [Store.budgetAt, Store.charge_object hobject, if_pos rfl, Option.map_some]
          simp only [Session.budget, Prod.mk.injEq] at hsession
          simp only [Session.budget, hsession.1, hsession.2]
    | @marshal k amount ref session hobject =>
        obtain rfl : k = key := hkey
        obtain ⟨hfigures, hlimit⟩ := h.promised c _ hcall rfl
        simp only [Store.budgetAt, hobject, Option.map_some, Option.some.injEq] at hfigures
        refine h.proceed hcall rfl (h.others hcall ?_) (fun _ => ⟨hfigures, hlimit⟩) rfl rfl rfl
        exact decide_eq_true rfl
    | @writeBack k amount ref data ttl =>
        obtain rfl : k = key := hkey
        simpa [returned] using h.writeBack hkeyed hcall
    | @deactivate wallet k session =>
        obtain rfl : k = key := hkey
        have hsession : session.sessionKey = k := hstage
        have hfigures : s.store.budget k = some session.budget := hguard
        refine h.settle hkeyed hcall ⟨?_, fun _ _ => rfl⟩ rfl (add_zero _).symm
        have hdeactivated : Session.sessionKey { session with isActive := false } = k :=
          hsession
        exact (Store.budget_set hdeactivated _).trans hfigures.symm
  · apply h.settle hkeyed hcall (hmove.agrees hstage hkey).keepsFigures
    · by_contra hcharging
      exact hkey (charging_key (by simpa using hcharging))
    · rw [written_of_ne hkey, written_of_ne hkey, returned_of_ne hkey, add_zero]

theorem Tallied.step {s' : State} {a : Action}
    (h : Tallied key limit (total + s.written key) s) (hkeyed : KeyedState s)
    (hstep : step eth s a = some s') (hguard : ∀ call ∈ moving s a, Undisturbed s call)
    (hlast : ∀ req, registered s a = some req → req.sessionKey ≠ key) :
    Tallied key limit (total + paid key ⟨s, a, s'⟩ + s'.written key) s' := by
  cases step_progress hstep with
  | request p op =>
      have hwritten : State.written { s with calls := s.calls ++ [⟨p, op, .begun⟩] } key =
          s.written key := by
        simp [State.written, Wallet.written]
      rw [hwritten, paid, add_zero]
      exact h.begun p op
  | @advance c call store stage hcall hmove =>
      have hpaid : paid key ⟨s, .advance c,
          ⟨store, s.calls.set c { call with stage := stage }⟩⟩ =
            returned key call.op stage := by
        simp only [paid, set_slot hcall]
      rw [hpaid]
      apply h.move hkeyed hcall hmove (hguard call hcall)
      intro req message hop hstage
      obtain ⟨p, op, stage⟩ := call
      cases hop
      cases hstage
      exact hlast req (by simp only [registered, moving, hcall])
  | @redisError c call hcall hstage =>
      have hbalance : written key call.op call.stage = returned key call.op (.returned false) +
          written key call.op (.returned false) :=
        (written_of_fallible key call.op hstage).trans (add_zero 0).symm
      refine h.settle hkeyed hcall (.of_eq key rfl rfl) ?_ hbalance
      exact charging_of_committed key call.op fun _ _ => rfl
  | tick nanoseconds =>
      rw [paid, add_zero]
      exact ⟨h.record, h.within, h.promised, h.alone⟩

private theorem tallied_of_registered {s' : State} {a : Action} {req : SessionKeyRequest}
    (hregistered : registered s a = some req) (hstep : step eth s a = some s')
    (hguard : ∀ call ∈ moving s a, Undisturbed s call) :
    Tallied req.sessionKey req.spendLimit (0 + s'.written req.sessionKey) s' := by
  simp only [registered] at hregistered
  split at hregistered
  · rename_i p req' message hmoving
    cases hregistered
    have hidle := hguard _ hmoving
    cases a with
    | advance c =>
        have hcall : s.calls[c]? = some ⟨p, .registerSession req, .counted message⟩ := hmoving
        simp only [step, hcall, advance, registerSession, Option.some.injEq] at hstep
        subst hstep
        have hnone : s.written req.sessionKey = 0 :=
          written_eq_zero fun call hcall => (hidle call hcall).2
        have hwritten := written_set req.sessionKey
          ((s.store.storeSession (newSession s.store.now req)).alloc
            (newSession s.store.now req)) (.stored s.store.objects.length) hcall
        simp only [Wallet.written, Op.amount, hnone, add_zero] at hwritten
        rw [hwritten, add_zero]
        apply Tallied.focus ⟨p, .registerSession req, .counted message⟩
        · exact Store.budget_set (rfl : (newSession s.store.now req).sessionKey = _) _
        · exact zero_le
        · intro i call' _ hcall'
          exact (hidle call' (List.mem_of_getElem? hcall')).1
        · trivial
    | _ => cases hmoving
  · contradiction

end Moves

def Quiescent (key : String) (s : State) : Prop :=
  ∀ call ∈ s.calls, call.op.sessionKey = key → ∃ ok, call.stage = .returned ok

theorem charges_within_limit {eth : Ethereum} {now : ℤ}
    {before after : List (Transition State Action)} {r : Transition State Action}
    {s : State} {req : SessionKeyRequest}
    (hrun : Run (step eth) undisturbed (initial now) (before ++ r :: after) s)
    (hregistered : registered r.pre r.act = some req)
    (hlast : ∀ r' ∈ after, ∀ req', registered r'.pre r'.act = some req' →
      req'.sessionKey ≠ req.sessionKey) :
    totalPaid req.sessionKey after ≤ req.spendLimit ∧
      (Quiescent req.sessionKey s →
        ∃ record, s.store.records req.sessionKey = some record ∧
          record.session.spentAmount = totalPaid req.sessionKey after) := by
  have htally : Tallied req.sessionKey req.spendLimit
      (totalPaid req.sessionKey after + s.written req.sessionKey) s := by
    apply hrun.sinceRecorded (I := fun after s => Tallied req.sessionKey req.spendLimit
      (totalPaid req.sessionKey after + s.written req.sessionKey) s)
    · obtain ⟨-, hguard, hstep⟩ := hrun.of_split rfl
      exact tallied_of_registered hregistered hstep hguard
    · intro earlier s a s' hmem hrun hpre hguard hstep
      have hnext := hpre.step (keyedState_run hrun) hstep hguard (hlast _ hmem)
      rwa [totalPaid, List.map_append, List.sum_append, List.map_singleton,
        List.sum_singleton]
  constructor
  · exact le_trans le_self_add htally.within
  · intro hquiescent
    have hnone : s.written req.sessionKey = 0 := by
      apply written_eq_zero
      intro call hcall
      by_cases hkey : call.op.sessionKey = req.sessionKey
      · obtain ⟨ok, hreturned⟩ := hquiescent call hcall hkey
        rw [hreturned]
        rfl
      · exact written_of_ne hkey call.stage
    have hrecord := htally.record
    rw [hnone, add_zero] at hrecord
    obtain ⟨record, hstored, hbudget⟩ := Option.map_eq_some_iff.mp hrecord
    exact ⟨record, hstored, congrArg Prod.fst hbudget⟩

def registerActions : List Action :=
  .request 0 (.registerSession sampleRequest) :: List.replicate 5 (.advance 0)

/-- Process 0 charges 6 of 10, then process 1 charges 3, and 6 more are refused. -/
def chargeActions : List Action :=
  registerActions ++
    .request 0 (.validateAndCharge sampleRequest.sessionKey 6) ::
      List.replicate 6 (.advance 1) ++
    .request 1 (.validateAndCharge sampleRequest.sessionKey 3) ::
      List.replicate 8 (.advance 2) ++
    .request 0 (.validateAndCharge sampleRequest.sessionKey 6) ::
      List.replicate 2 (.advance 3)

def hasReturned (call : Call) : Bool :=
  match call.stage with
  | .returned _ => true
  | _ => false

private theorem quiescent_of_hasReturned {key : String} {s : State}
    (h : ∀ call ∈ s.calls, hasReturned call = true) : Quiescent key s := by
  intro call hcall _
  have hreturned := h call hcall
  unfold hasReturned at hreturned
  split at hreturned
  · exact ⟨_, by assumption⟩
  · contradiction

private theorem chargeActions_checked :
    ∃ run ∈ trace (step sampleEthereum) (initial 0) chargeActions,
      run.1.map (fun r => registered r.pre r.act) =
          List.replicate 4 none ++ some sampleRequest :: List.replicate 20 none ∧
        (∀ r ∈ run.1, ∀ call ∈ moving r.pre r.act, Undisturbed r.pre call) ∧
        (∀ call ∈ run.2.calls, hasReturned call = true) ∧
        totalPaid sampleRequest.sessionKey (run.1.drop 5) = 9 := by
  decide +kernel

theorem charges_within_limit_sample :
    ∃ run ∈ trace (step sampleEthereum) (initial 0) chargeActions,
      totalPaid sampleRequest.sessionKey (run.1.drop 5) = 9 ∧
        totalPaid sampleRequest.sessionKey (run.1.drop 5) ≤ sampleRequest.spendLimit ∧
        ∃ record, run.2.store.records sampleRequest.sessionKey = some record ∧
          record.session.spentAmount = 9 := by
  obtain ⟨run, htrace, hmap, hguard, hrest, hpaid⟩ := chargeActions_checked
  obtain ⟨before, r, hsplit, hregistered, hlater⟩ := split_once hmap
  have hrun : Run (step sampleEthereum) undisturbed (initial 0) run.1 run.2 :=
    (Run.of_trace htrace).guarded hguard
  rw [hsplit] at hrun
  have hlast : ∀ r' ∈ run.1.drop 5, ∀ req', registered r'.pre r'.act = some req' →
      req'.sessionKey ≠ sampleRequest.sessionKey := by
    intro r' hr' req' hreq'
    simp [hlater r' hr'] at hreq'
  obtain ⟨hwithin, hspent⟩ := charges_within_limit hrun hregistered hlast
  obtain ⟨record, hrecord, htotal⟩ := hspent (quiescent_of_hasReturned hrest)
  exact ⟨run, htrace, hpaid, hwithin, record, hrecord, htotal.trans hpaid⟩

/-- Process 1 charges 6 of 10; process 0 still holds the session with nothing spent. -/
def staleCacheActions : List Action :=
  registerActions ++
    .request 1 (.validateAndCharge sampleRequest.sessionKey 6) ::
      List.replicate 8 (.advance 1) ++
    .request 0 (.validateAndCharge sampleRequest.sessionKey 6) ::
      List.replicate 6 (.advance 2)

private theorem staleCacheActions_checked :
    ∃ run ∈ trace (step sampleEthereum) (initial 0) staleCacheActions,
      run.1.map (fun r => registered r.pre r.act) =
          List.replicate 4 none ++ some sampleRequest :: List.replicate 17 none ∧
        ¬ totalPaid sampleRequest.sessionKey (run.1.drop 5) ≤ sampleRequest.spendLimit := by
  decide +kernel

theorem stale_cache_overspends :
    ¬ ∀ (eth : Ethereum) (now : ℤ) (before after : List (Transition State Action))
        (r : Transition State Action) (s : State) (req : SessionKeyRequest),
      Run (step eth) anyStep (initial now) (before ++ r :: after) s →
      registered r.pre r.act = some req →
      (∀ r' ∈ after, ∀ req', registered r'.pre r'.act = some req' →
        req'.sessionKey ≠ req.sessionKey) →
      totalPaid req.sessionKey after ≤ req.spendLimit ∧
        (Quiescent req.sessionKey s →
          ∃ record, s.store.records req.sessionKey = some record ∧
            record.session.spentAmount = totalPaid req.sessionKey after) := by
  intro hclaim
  obtain ⟨run, htrace, hmap, hexceeded⟩ := staleCacheActions_checked
  obtain ⟨before, r, hsplit, hregistered, hlater⟩ := split_once hmap
  have hrun : Run (step sampleEthereum) anyStep (initial 0) run.1 run.2 :=
    Run.of_trace htrace
  rw [hsplit] at hrun
  apply hexceeded
  apply (hclaim _ _ _ _ _ _ _ hrun hregistered ?_).1
  intro r' hr' req' hreq'
  simp [hlater r' hr'] at hreq'

end WorldlandBroker.Wallet
