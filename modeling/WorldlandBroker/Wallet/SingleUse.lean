import WorldlandBroker.Wallet.Memory

/-!
# Single use of registration signatures

A registration reads a counter filed under the spelling of its wallet, checks
a signature over the decoded wallet and that nonce, and only then increments.
No message is accepted twice when a nonce is read only while no registration
for the same terms holds one, and while no other spelling of the wallet has
counted further.
-/

namespace WorldlandBroker.Wallet

open Foundation

def accepts (s : State) (a : Action) : Option RegisterSessionKey :=
  match moving s a with
  | some ⟨_, .registerSession _, .counted message⟩ => some message
  | _ => none

def Stage.readNonce : Stage → Option ℕ
  | .nonceRead nonce => some nonce
  | .verified message => some message.nonce
  | _ => none

def sameAddress (eth : Ethereum) (s t : String) : Bool :=
  (eth.hexToAddress s).isSome && eth.hexToAddress s = eth.hexToAddress t

/-- The requests can be signed by one message, given one nonce and one expiry. -/
def sameTerms (eth : Ethereum) (req req' : SessionKeyRequest) : Bool :=
  sameAddress eth req.mainWallet req'.mainWallet &&
    sameAddress eth req.sessionKey req'.sessionKey &&
    toWei req.spendLimit = toWei req'.spendLimit

/--
Another registration that keeps a nonce read now from being fresh: it went by a
spelling of the wallet that has counted further, or it holds a nonce for the
same terms.
-/
def interferes (eth : Ethereum) (s : Store) (req : SessionKeyRequest) :
    Op → Stage → Bool
  | .registerSession req', stage =>
      (sameAddress eth req'.mainWallet req.mainWallet &&
          s.nonces req.mainWallet < s.nonces req'.mainWallet) ||
        (sameTerms eth req' req && stage.readNonce.isSome)
  | _, _ => false

def ReadsFresh (eth : Ethereum) (s : State) : Call → Prop
  | ⟨_, .registerSession req, .begun⟩ =>
      ∀ call ∈ s.calls, interferes eth s.store req call.op call.stage = false
  | _ => True

instance (eth : Ethereum) (s : State) (call : Call) : Decidable (ReadsFresh eth s call) := by
  unfold ReadsFresh
  split <;> infer_instance

structure Matches (eth : Ethereum) (req : SessionKeyRequest)
    (message : RegisterSessionKey) : Prop where
  mainWallet : eth.hexToAddress req.mainWallet = some message.mainWallet
  sessionKey : eth.hexToAddress req.sessionKey = some message.sessionKey
  spendLimit : toWei req.spendLimit = message.spendLimit

theorem uint256_natCast {n m : ℕ} (h : uint256 n = some m) : n = m := by
  simp only [uint256] at h
  split at h
  · simpa using h
  · contradiction

theorem verified_matches {eth : Ethereum} {now : ℤ} {req : SessionKeyRequest} {nonce : ℕ}
    {message : RegisterSessionKey}
    (h : verifySessionKeySignature eth now req nonce = some message) :
    Matches eth req message ∧ message.nonce = nonce := by
  simp only [verifySessionKeySignature, Option.bind_eq_bind, Option.bind_eq_some_iff] at h
  obtain ⟨message', htyped, sig, -, sig', -, recovered, -, hrecovered⟩ := h
  split at hrecovered
  · cases hrecovered
    simp only [typedData, Option.bind_eq_bind, Option.bind_eq_some_iff] at htyped
    obtain ⟨wallet, hwallet, key, hkey, limit, hlimit, expiry, -, n, hn, hmessage⟩ := htyped
    cases hmessage
    exact ⟨⟨hwallet, hkey, uint256_natCast hlimit⟩, (uint256_natCast hn).symm⟩
  · contradiction

theorem Matches.sameTerms {eth : Ethereum} {req req' : SessionKeyRequest}
    {message : RegisterSessionKey} (h : Matches eth req message)
    (h' : Matches eth req' message) : sameTerms eth req req' = true := by
  simp [Wallet.sameTerms, sameAddress, h.mainWallet, h'.mainWallet, h.sessionKey,
    h'.sessionKey, h.spendLimit, h'.spendLimit]

/-! ## The invariant -/

def Reads (s : State) (c : ℕ) (req : SessionKeyRequest) (nonce : ℕ) : Prop :=
  ∃ p stage, s.calls[c]? = some ⟨p, .registerSession req, stage⟩ ∧ nonce ∈ stage.readNonce

def Counted (s : State) (c : ℕ) (message : RegisterSessionKey) : Prop :=
  ∃ call, s.calls[c]? = some call ∧ call.stage = .counted message

def Used (accepted : List RegisterSessionKey) (s : State) (message : RegisterSessionKey) :
    Prop :=
  message ∈ accepted ∨ ∃ c, Counted s c message

structure SingleUse (eth : Ethereum) (accepted : List RegisterSessionKey) (s : State) :
    Prop where
  nodup : accepted.Nodup
  below : ∀ message, Used accepted s message → ∃ req : SessionKeyRequest,
    .registerSession req ∈ s.calls.map Call.op ∧
      eth.hexToAddress req.mainWallet = some message.mainWallet ∧
      message.nonce < s.store.nonces req.mainWallet
  bounded : ∀ c req nonce, Reads s c req nonce → nonce ≤ s.store.nonces req.mainWallet
  fresh : ∀ c req nonce message, Reads s c req nonce → Used accepted s message →
    Matches eth req message → message.nonce < nonce
  signed : ∀ (c : ℕ) p req message,
    s.calls[c]? = some ⟨p, .registerSession req, .verified message⟩ → Matches eth req message
  apart : ∀ c c' req req' nonce nonce', Reads s c req nonce → Reads s c' req' nonce' →
    sameTerms eth req req' = true → c = c'
  pending : ∀ c message, Counted s c message → message ∉ accepted
  once : ∀ c c' message, Counted s c message → Counted s c' message → c = c'

variable {eth : Ethereum} {accepted : List RegisterSessionKey} {s s' : State}

theorem Used.mono {message : RegisterSessionKey} (h : Used accepted s' message)
    (hcounted : ∀ c message, Counted s' c message → Counted s c message) :
    Used accepted s message := by
  rcases h with h | ⟨c, h⟩
  · exact .inl h
  · exact .inr ⟨c, hcounted c message h⟩

/-- A step on which no registration gains a nonce or a message. -/
theorem SingleUse.shrink (h : SingleUse eth accepted s)
    (hnonces : ∀ wallet, s.store.nonces wallet ≤ s'.store.nonces wallet)
    (hops : s.calls.map Call.op ⊆ s'.calls.map Call.op)
    (hreads : ∀ c req nonce, Reads s' c req nonce → Reads s c req nonce)
    (hcounted : ∀ c message, Counted s' c message → Counted s c message)
    (hsigned : ∀ (c : ℕ) p req message,
      s'.calls[c]? = some ⟨p, .registerSession req, .verified message⟩ →
        Matches eth req message) : SingleUse eth accepted s' where
  nodup := h.nodup
  below message hused := by
    obtain ⟨req, hop, hwallet, hbelow⟩ := h.below message (hused.mono hcounted)
    exact ⟨req, hops hop, hwallet, hbelow.trans_le (hnonces _)⟩
  bounded c req nonce hreading :=
    (h.bounded c req nonce (hreads c req nonce hreading)).trans (hnonces _)
  fresh c req nonce message hreading hused :=
    h.fresh c req nonce message (hreads c req nonce hreading) (hused.mono hcounted)
  signed := hsigned
  apart c c' req req' nonce nonce' hreading hreading' :=
    h.apart c c' req req' nonce nonce' (hreads _ _ _ hreading) (hreads _ _ _ hreading')
  pending c message hc := h.pending c message (hcounted c message hc)
  once c c' message hc hc' := h.once c c' message (hcounted _ _ hc) (hcounted _ _ hc')

section Slots

variable {c : ℕ} {call : Call} {store : Store} {stage : Stage}

private theorem reads_set {p i nonce : ℕ} {op : Op} {req : SessionKeyRequest}
    (h : Reads ⟨store, s.calls.set c ⟨p, op, stage⟩⟩ i req nonce) :
    (i = c ∧ op = .registerSession req ∧ nonce ∈ stage.readNonce) ∨
      (i ≠ c ∧ Reads s i req nonce) := by
  obtain ⟨p', stage', hcall, hread⟩ := h
  rcases slot_of_set hcall with ⟨rfl, heq⟩ | ⟨hne, hcall⟩
  · cases heq
    exact .inl ⟨rfl, rfl, hread⟩
  · exact .inr ⟨hne, p', stage', hcall, hread⟩

private theorem counted_set {p i : ℕ} {op : Op} {message : RegisterSessionKey}
    (h : Counted ⟨store, s.calls.set c ⟨p, op, stage⟩⟩ i message) :
    (i = c ∧ stage = .counted message) ∨ (i ≠ c ∧ Counted s i message) := by
  obtain ⟨call', hcall, hstage⟩ := h
  rcases slot_of_set hcall with ⟨rfl, rfl⟩ | ⟨hne, hcall⟩
  · exact .inl ⟨rfl, hstage⟩
  · exact .inr ⟨hne, call', hcall, hstage⟩

private theorem ops_set (hcall : s.calls[c]? = some call) :
    (s.calls.set c { call with stage := stage }).map Call.op = s.calls.map Call.op :=
  map_set_stage hcall stage fun _ _ => rfl

theorem SingleUse.keep (h : SingleUse eth accepted s) (hcall : s.calls[c]? = some call)
    (hnonces : store.nonces = s.store.nonces)
    (hread : ∀ nonce ∈ stage.readNonce, nonce ∈ call.stage.readNonce)
    (hstage : ∀ message, stage ≠ .counted message)
    (hsigned : ∀ req message, call.op = .registerSession req → stage = .verified message →
      Matches eth req message) :
    SingleUse eth accepted ⟨store, s.calls.set c { call with stage := stage }⟩ := by
  apply h.shrink
  · intro wallet
    rw [hnonces]
  · rw [ops_set hcall]
    exact List.Subset.refl _
  · intro i req nonce hreading
    rcases reads_set hreading with ⟨rfl, hop, hnonce⟩ | ⟨-, hold⟩
    · obtain ⟨p, op, stage'⟩ := call
      cases hop
      exact ⟨p, stage', hcall, hread nonce hnonce⟩
    · exact hold
  · intro i message hcounted
    rcases counted_set hcounted with ⟨-, hnew⟩ | ⟨-, hold⟩
    · exact absurd hnew (hstage message)
    · exact hold
  · intro i p req message hslot
    rcases slot_of_set hslot with ⟨rfl, heq⟩ | ⟨-, hold⟩
    · injection heq with _ hop hstage
      exact hsigned req message hop.symm hstage.symm
    · exact h.signed i p req message hold

private theorem not_interferes {req req' : SessionKeyRequest} {op : Op} {stage : Stage}
    (h : interferes eth s.store req op stage = false) (hop : op = .registerSession req') :
    (sameAddress eth req'.mainWallet req.mainWallet = true →
        s.store.nonces req'.mainWallet ≤ s.store.nonces req.mainWallet) ∧
      (sameTerms eth req' req = true → stage.readNonce = none) := by
  subst hop
  simp only [interferes, Bool.or_eq_false_iff, Bool.and_eq_false_imp, decide_eq_false_iff_not,
    not_lt, Option.isSome_eq_false_iff, Option.isNone_iff_eq_none] at h
  exact h

private theorem sameAddress_comm (s t : String) : sameAddress eth s t = sameAddress eth t s := by
  rw [Bool.eq_iff_iff]
  simp only [sameAddress, Bool.and_eq_true, decide_eq_true_eq]
  constructor
  · rintro ⟨hvalid, heq⟩
    exact ⟨heq ▸ hvalid, heq.symm⟩
  · rintro ⟨hvalid, heq⟩
    exact ⟨heq ▸ hvalid, heq.symm⟩

private theorem sameTerms_comm (req req' : SessionKeyRequest) :
    sameTerms eth req req' = sameTerms eth req' req := by
  rw [sameTerms, sameTerms, sameAddress_comm, sameAddress_comm req.sessionKey,
    decide_eq_decide.mpr eq_comm]

theorem SingleUse.readNonce {p : ℕ} {req : SessionKeyRequest} (h : SingleUse eth accepted s)
    (hcall : s.calls[c]? = some ⟨p, .registerSession req, .begun⟩)
    (hguard : ∀ call ∈ s.calls, interferes eth s.store req call.op call.stage = false) :
    SingleUse eth accepted ⟨s.store, s.calls.set c
      ⟨p, .registerSession req, .nonceRead (s.store.nonces req.mainWallet)⟩⟩ := by
  have hcounted : ∀ i message, Counted ⟨s.store, s.calls.set c
      ⟨p, .registerSession req, .nonceRead (s.store.nonces req.mainWallet)⟩⟩ i message →
        Counted s i message := by
    intro i message hi
    rcases counted_set hi with ⟨-, hnew⟩ | ⟨-, hold⟩
    · contradiction
    · exact hold
  have hold : ∀ i req' nonce, Reads s i req' nonce → sameTerms eth req' req = false := by
    rintro i req' nonce ⟨p', stage, hslot, hread⟩
    by_contra hsame
    have hnone := (not_interferes (hguard _ (List.mem_of_getElem? hslot)) rfl).2
      (by simpa using hsame)
    rw [hnone] at hread
    contradiction
  constructor
  · exact h.nodup
  · intro message hused
    obtain ⟨req', hop, hwallet, hbelow⟩ := h.below message (hused.mono hcounted)
    refine ⟨req', ?_, hwallet, hbelow⟩
    rw [ops_set hcall]
    exact hop
  · intro i req' nonce hreading
    rcases reads_set hreading with ⟨-, hop, hnonce⟩ | ⟨-, hreading⟩
    · cases hop
      cases hnonce
      exact le_rfl
    · exact h.bounded i req' nonce hreading
  · intro i req' nonce message hreading hused hmatches
    rcases reads_set hreading with ⟨-, hop, hnonce⟩ | ⟨-, hreading⟩
    · cases hop
      cases hnonce
      obtain ⟨req', hop, hwallet, hbelow⟩ := h.below message (hused.mono hcounted)
      obtain ⟨call, hmem, hop⟩ := List.mem_map.mp hop
      have hsame : sameAddress eth req'.mainWallet req.mainWallet = true := by
        simp [sameAddress, hwallet, hmatches.mainWallet]
      exact hbelow.trans_le ((not_interferes (hguard call hmem) hop).1 hsame)
    · exact h.fresh i req' nonce message hreading (hused.mono hcounted) hmatches
  · intro i p' req' message hslot
    rcases slot_of_set hslot with ⟨-, heq⟩ | ⟨-, hslot⟩
    · cases heq
    · exact h.signed i p' req' message hslot
  · intro i j req₁ req₂ nonce₁ nonce₂ hreading₁ hreading₂ hsame
    rcases reads_set hreading₁ with ⟨hi, hop₁, -⟩ | ⟨-, hold₁⟩
    · rcases reads_set hreading₂ with ⟨hj, -, -⟩ | ⟨-, hold₂⟩
      · exact hi.trans hj.symm
      · cases hop₁
        rw [sameTerms_comm, hold j req₂ nonce₂ hold₂] at hsame
        contradiction
    · rcases reads_set hreading₂ with ⟨-, hop₂, -⟩ | ⟨-, hold₂⟩
      · cases hop₂
        rw [hold i req₁ nonce₁ hold₁] at hsame
        contradiction
      · exact h.apart i j req₁ req₂ nonce₁ nonce₂ hold₁ hold₂ hsame
  · intro i message hi
    exact h.pending i message (hcounted i message hi)
  · intro i j message hi hj
    exact h.once i j message (hcounted i message hi) (hcounted j message hj)

theorem SingleUse.count {p : ℕ} {req : SessionKeyRequest} {message : RegisterSessionKey}
    (h : SingleUse eth accepted s)
    (hcall : s.calls[c]? = some ⟨p, .registerSession req, .verified message⟩) :
    SingleUse eth accepted ⟨s.store.incrementNonce req.mainWallet, s.calls.set c
      ⟨p, .registerSession req, .counted message⟩⟩ := by
  have hmatches : Matches eth req message := h.signed c p req message hcall
  have hreading : Reads s c req message.nonce := ⟨p, _, hcall, rfl⟩
  have hunused : ¬ Used accepted s message := fun hused =>
    lt_irrefl _ (h.fresh c req message.nonce message hreading hused hmatches)
  have hnonces : ∀ wallet, s.store.nonces wallet ≤
      (s.store.incrementNonce req.mainWallet).nonces wallet := by
    intro wallet
    rcases eq_or_ne wallet req.mainWallet with rfl | hne
    · simp [Store.incrementNonce]
    · simp [Store.incrementNonce, Function.update_of_ne hne]
  have hreads : ∀ i req' nonce, Reads ⟨s.store.incrementNonce req.mainWallet, s.calls.set c
      ⟨p, .registerSession req, .counted message⟩⟩ i req' nonce →
        i ≠ c ∧ Reads s i req' nonce := by
    intro i req' nonce hreading
    rcases reads_set hreading with ⟨-, -, hnonce⟩ | hold
    · contradiction
    · exact hold
  have hused : ∀ message', Used accepted ⟨s.store.incrementNonce req.mainWallet,
      s.calls.set c ⟨p, .registerSession req, .counted message⟩⟩ message' →
        message' = message ∨ Used accepted s message' := by
    rintro message' (hmem | ⟨i, hi⟩)
    · exact .inr (.inl hmem)
    · rcases counted_set hi with ⟨-, hnew⟩ | ⟨-, hold⟩
      · cases hnew
        exact .inl rfl
      · exact .inr (.inr ⟨i, hold⟩)
  constructor
  · exact h.nodup
  · intro message' hused'
    rw [ops_set hcall]
    rcases hused message' hused' with rfl | hused'
    · refine ⟨req, List.mem_map.mpr ⟨_, List.mem_of_getElem? hcall, rfl⟩,
        hmatches.mainWallet, ?_⟩
      have hbound := h.bounded c req message'.nonce hreading
      simpa [Store.incrementNonce] using Nat.lt_succ_of_le hbound
    · obtain ⟨req', hop, hwallet, hbelow⟩ := h.below message' hused'
      exact ⟨req', hop, hwallet, hbelow.trans_le (hnonces _)⟩
  · intro i req' nonce hi
    exact (h.bounded i req' nonce (hreads i req' nonce hi).2).trans (hnonces _)
  · intro i req' nonce message' hi hused' hmatches'
    obtain ⟨hne, hold⟩ := hreads i req' nonce hi
    rcases hused message' hused' with rfl | hbefore
    · apply absurd (h.apart i c req' req nonce _ hold hreading ?_) hne
      exact hmatches'.sameTerms hmatches
    · exact h.fresh i req' nonce message' hold hbefore hmatches'
  · intro i p' req' message' hslot
    rcases slot_of_set hslot with ⟨-, heq⟩ | ⟨-, hslot⟩
    · cases heq
    · exact h.signed i p' req' message' hslot
  · intro i j req₁ req₂ nonce₁ nonce₂ hi hj
    exact h.apart i j req₁ req₂ nonce₁ nonce₂ (hreads _ _ _ hi).2 (hreads _ _ _ hj).2
  · intro i message' hi
    rcases counted_set hi with ⟨-, hnew⟩ | ⟨-, hold⟩
    · cases hnew
      exact fun hmem => hunused (.inl hmem)
    · exact h.pending i message' hold
  · intro i j message' hi hj
    rcases counted_set hi with ⟨heqᵢ, hnew⟩ | ⟨-, holdᵢ⟩
    · rcases counted_set hj with ⟨heqⱼ, -⟩ | ⟨-, holdⱼ⟩
      · exact heqᵢ.trans heqⱼ.symm
      · cases hnew
        exact absurd (.inr ⟨j, holdⱼ⟩) hunused
    · rcases counted_set hj with ⟨-, hnew⟩ | ⟨-, holdⱼ⟩
      · cases hnew
        exact absurd (.inr ⟨i, holdᵢ⟩) hunused
      · exact h.once i j message' holdᵢ holdⱼ

theorem SingleUse.accept {message : RegisterSessionKey} (h : SingleUse eth accepted s)
    (hcall : s.calls[c]? = some call) (hmessage : call.stage = .counted message)
    (hnonces : store.nonces = s.store.nonces) (hread : stage.readNonce = none)
    (hstage : ∀ message, stage ≠ .counted message)
    (hverified : ∀ message, stage ≠ .verified message) :
    SingleUse eth (accepted ++ [message])
      ⟨store, s.calls.set c { call with stage := stage }⟩ := by
  have hcounted : Counted s c message := ⟨call, hcall, hmessage⟩
  have hkeep : SingleUse eth accepted ⟨store, s.calls.set c { call with stage := stage }⟩ := by
    apply h.keep hcall hnonces
    · simp [hread]
    · exact hstage
    · intro req message' _ hnew
      exact absurd hnew (hverified message')
  have hused : ∀ message', Used (accepted ++ [message])
      ⟨store, s.calls.set c { call with stage := stage }⟩ message' →
        Used accepted s message' := by
    rintro message' (hmem | ⟨i, hi⟩)
    · rcases List.mem_append.mp hmem with hmem | hmem
      · exact .inl hmem
      · rw [List.mem_singleton.mp hmem]
        exact .inr ⟨c, hcounted⟩
    · rcases counted_set hi with ⟨-, hnew⟩ | ⟨-, hold⟩
      · exact absurd hnew (hstage message')
      · exact .inr ⟨i, hold⟩
  constructor
  · apply List.nodup_append.mpr
    refine ⟨h.nodup, List.nodup_singleton message, ?_⟩
    rintro message' hmem _ hlast rfl
    rw [List.mem_singleton.mp hlast] at hmem
    exact h.pending c message hcounted hmem
  · intro message' hused'
    rw [ops_set hcall, hnonces]
    exact h.below message' (hused message' hused')
  · exact hkeep.bounded
  · intro i req nonce message' hreading hused'
    rcases reads_set hreading with ⟨-, -, hnonce⟩ | ⟨-, hold⟩
    · rw [hread] at hnonce
      contradiction
    · exact h.fresh i req nonce message' hold (hused message' hused')
  · exact hkeep.signed
  · exact hkeep.apart
  · intro i message' hi hmem
    rcases counted_set hi with ⟨-, hnew⟩ | ⟨hne, hold⟩
    · exact hstage message' hnew
    · rcases List.mem_append.mp hmem with hmem | hmem
      · exact h.pending i message' hold hmem
      · rw [List.mem_singleton.mp hmem] at hold
        exact hne (h.once i c message hold hcounted)
  · exact hkeep.once

end Slots

/-! ## Runs -/

theorem accepts_eq_some {a : Action} {message : RegisterSessionKey}
    (h : accepts s a = some message) :
    ∃ c call, a = .advance c ∧ s.calls[c]? = some call ∧ call.stage = .counted message := by
  simp only [accepts] at h
  split at h
  · rename_i p req message' hmoving
    cases h
    cases a with
    | advance c => exact ⟨c, _, rfl, hmoving, rfl⟩
    | _ => cases hmoving
  · contradiction

theorem SingleUse.move {c : ℕ} {call : Call} {store : Store} {stage : Stage}
    (h : SingleUse eth accepted s) (hcall : s.calls[c]? = some call)
    (hmove : Moves eth s.store call.process call.op call.stage store stage)
    (hguard : ReadsFresh eth s call) (hnone : accepts s (.advance c) = none) :
    SingleUse eth accepted ⟨store, s.calls.set c { call with stage := stage }⟩ := by
  obtain ⟨p, op, stage₀⟩ := call
  cases hmove with
  | readNonce => exact h.readNonce hcall hguard
  | @verify req nonce message hverified =>
      obtain ⟨hmatches, hnonce⟩ := verified_matches hverified
      apply h.keep hcall rfl
      · intro n hn
        cases hn
        exact congrArg some hnonce.symm
      · intro _ hcounted
        cases hcounted
      · intro req' message' hop hstage
        cases hop
        cases hstage
        exact hmatches
  | count => exact h.count hcall
  | register => simp [accepts, moving, hcall] at hnone
  | _ =>
      exact h.keep hcall rfl (by simp [Stage.readNonce]) (by simp) (by simp)

theorem SingleUse.step {a : Action} (h : SingleUse eth accepted s)
    (hstep : step eth s a = some s') (hguard : ∀ call ∈ moving s a, ReadsFresh eth s call) :
    SingleUse eth (accepted ++ (accepts s a).toList) s' := by
  cases haccepts : accepts s a with
  | some message =>
      obtain ⟨c, call, rfl, hcall, hmessage⟩ := accepts_eq_some haccepts
      cases step_progress hstep with
      | @advance _ call' store stage hcall' hmove =>
          cases hcall.symm.trans hcall'
          obtain ⟨p, op, stage₀⟩ := call
          cases hmessage
          cases hmove with
          | fail | register => exact h.accept hcall rfl rfl rfl (by simp) (by simp)
  | none =>
      rw [Option.toList_none, List.append_nil]
      cases step_progress hstep with
      | request p op =>
          apply h.shrink
          · intro wallet
            exact le_rfl
          · simp
          · rintro c req nonce ⟨p', stage, hslot, hread⟩
            rcases slot_of_append hslot with hold | ⟨-, heq⟩
            · exact ⟨p', stage, hold, hread⟩
            · cases heq
              contradiction
          · rintro c message ⟨call, hslot, hstage⟩
            rcases slot_of_append hslot with hold | ⟨-, rfl⟩
            · exact ⟨call, hold, hstage⟩
            · contradiction
          · intro c p' req message hslot
            rcases slot_of_append hslot with hold | ⟨-, heq⟩
            · exact h.signed c p' req message hold
            · cases heq
      | advance hcall hmove => exact h.move hcall hmove (hguard _ hcall) haccepts
      | redisError hcall hstage =>
          exact h.keep hcall rfl (by simp [Stage.readNonce]) (by simp) (by simp)
      | tick =>
          exact h.shrink (fun _ => le_rfl) (List.Subset.refl _) (fun _ _ _ hread => hread)
            (fun _ _ hcounted => hcounted) h.signed

end WorldlandBroker.Wallet
