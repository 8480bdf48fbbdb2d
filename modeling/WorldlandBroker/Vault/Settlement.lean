import WorldlandBroker.Vault.Solvency

/-!
# Settling a rental

When `endRental` succeeds, and what a rental has cost once it has.
-/

namespace WorldlandBroker.Vault

open Foundation

variable {τ : Type} {V : GPUVault τ} {s s' : State τ}

/-! ## The platform fee -/

theorem Done.feeBps_le {sender : Address} {call : Call}
    (h : Done V s sender call s') (hcapped : s.platformFeeBps ≤ 1000) :
    s'.platformFeeBps ≤ 1000 := by
  cases h with
  | setPlatformFee howner hcap => exact hcap
  | _ => exact hcapped

theorem feeBps_run {guard : Guard (State τ) (Action τ)} {token : τ}
    {deployer feeRecipient : Address} {timestamp : Nat}
    {past : List (VaultStep τ)}
    (hrun : Run (step V) guard (deployed token deployer feeRecipient timestamp)
      past s) : s.platformFeeBps ≤ 1000 := by
  induction hrun with
  | nil => exact Nat.le_of_ble_eq_true rfl
  | snoc _ _ h hcapped =>
      cases step_effect h with
      | done _ _ hdone => exact hdone.feeBps_le hcapped
      | reverted => exact hcapped
      | token => exact hcapped

theorem fee_le_tenth (hcapped : s.platformFeeBps ≤ 1000) (cost : Nat) :
    s.fee cost ≤ cost / 10 := by
  have hscaled : cost * s.platformFeeBps ≤ cost * 1000 :=
    Nat.mul_le_mul_left cost hcapped
  simp only [State.fee]
  omega

/-! ## When a settlement goes through -/

private theorem settles_of_covered (hT : StandardToken V.paymentToken)
    (hsolvent : Solvent V s) (hcapped : s.platformFeeBps ≤ 1000)
    {rentalId : Nat} (hprovider : (s.rentals rentalId).provider ≠ 0)
    (hrecipient : s.feeRecipient ≠ 0) (hpositive : 0 < s.accrued rentalId)
    (hcovered : s.accrued rentalId ≤ s.deposits (s.rentals rentalId).renter)
    (hscaled : s.accrued rentalId * s.platformFeeBps < wordSize) :
    ∃ token, Settles V s rentalId token := by
  have hfee : s.fee (s.accrued rentalId) ≤ s.accrued rentalId :=
    (fee_le_tenth hcapped _).trans (Nat.div_le_self _ _)
  have hheld : s.accrued rentalId ≤ V.paymentToken.balanceOf s.token V.self :=
    hcovered.trans ((le_totalDeposits _).trans hsolvent.covered)
  obtain ⟨paid, hpaid⟩ := hT.transfer_succeeds V.self_ne_zero hprovider
    ((Nat.sub_le _ (s.fee (s.accrued rentalId))).trans hheld)
  have hleft := (transfer_balance hT hpaid).1
  obtain ⟨token, htoken⟩ : ∃ token, feePaid V paid s.feeRecipient
      (s.fee (s.accrued rentalId)) = some token := by
    unfold feePaid
    split
    · exact hT.transfer_succeeds V.self_ne_zero hrecipient (by omega)
    · exact ⟨paid, rfl⟩
  exact ⟨token, hpositive, hcovered, hscaled, hfee, paid, hpaid, htoken⟩

/--
`endRental` goes through, and a rental that cost something pays its provider all
but the fee.
-/
def Collects (V : GPUVault τ) (s : State τ) (rentalId : Nat) : Prop :=
  ∃ s', endRental V s rentalId = .ok s' ∧
    (0 < s.accrued rentalId →
      .transfer (s.rentals rentalId).provider
        (s.accrued rentalId - s.fee (s.accrued rentalId)) ∈
          s'.log.drop s.log.length)

theorem collects_iff (hT : StandardToken V.paymentToken)
    (hsolvent : Solvent V s) (hcapped : s.platformFeeBps ≤ 1000)
    {rentalId : Nat} (hactive : (s.rentals rentalId).isActive = true)
    (hstarted : (s.rentals rentalId).startTime ≤ s.timestamp)
    (hprovider : (s.rentals rentalId).provider ≠ 0)
    (hrecipient : s.feeRecipient ≠ 0)
    (hfits : s.accrued rentalId < wordSize) :
    Collects V s rentalId ↔
      s.accrued rentalId ≤ s.deposits (s.rentals rentalId).renter ∧
      s.accrued rentalId * s.platformFeeBps < wordSize := by
  simp only [Collects, endRental_eq_ok]
  constructor
  · rintro ⟨s', ⟨-, -, -, ⟨hfree, -⟩ | ⟨token, hsettles, -⟩⟩, -⟩
    · rw [hfree, Nat.zero_mul]
      exact ⟨Nat.zero_le _, Nat.two_pow_pos 256⟩
    · exact ⟨hsettles.covered, hsettles.scaled_lt⟩
  · rintro ⟨hcovered, hscaled⟩
    rcases Nat.eq_zero_or_pos (s.accrued rentalId) with hfree | hpositive
    · exact ⟨_, ⟨hactive, hstarted, hfits, .inl ⟨hfree, rfl⟩⟩, by omega⟩
    · obtain ⟨token, hsettles⟩ := settles_of_covered hT hsolvent hcapped
        hprovider hrecipient hpositive hcovered hscaled
      refine ⟨_, ⟨hactive, hstarted, hfits, .inr ⟨token, hsettles, rfl⟩⟩, ?_⟩
      simp [State.settled]

/--
In every reachable state an active rental can be settled, with payment to its
provider, exactly when the renter's deposit of that moment covers the cost and
the fee computation fits a word.
-/
theorem rent_collectible_iff (hT : StandardToken V.paymentToken) {token : τ}
    {deployer feeRecipient : Address} {timestamp : Nat}
    {past : List (VaultStep τ)}
    (hnew : ∀ spender, V.paymentToken.allowance token V.self spender = 0)
    (hrun : Run (step V) (outsideToken V)
      (deployed token deployer feeRecipient timestamp) past s)
    {now rentalId : Nat} (hnow : s.timestamp ≤ now)
    (hactive : (s.rentals rentalId).isActive = true)
    (hprovider : (s.rentals rentalId).provider ≠ 0)
    (hrecipient : s.feeRecipient ≠ 0)
    (hfits : (s.at now).accrued rentalId < wordSize) :
    Collects V (s.at now) rentalId ↔
      (s.at now).accrued rentalId ≤ s.deposits (s.rentals rentalId).renter ∧
      (s.at now).accrued rentalId * s.platformFeeBps < wordSize := by
  have hsolvent := solvent_run hT hnew hrun
  have hat : Solvent V (s.at now) :=
    ⟨hsolvent.covered, hsolvent.noZero, hsolvent.noSelf, hsolvent.unapproved⟩
  have hcapped := feeBps_run hrun
  exact collects_iff hT hat hcapped hactive
    (((rentalBook_run hrun).started rentalId).trans hnow) hprovider hrecipient
    hfits

/-- A rental of 50 units is paid out of a deposit of 1000. -/
theorem rent_collectible_covered :
    ∃ (past : List (VaultStep ERC20)) (s : State ERC20),
      Run (step sampleVault) (outsideToken sampleVault) sampleState past s ∧
      Collects sampleVault (s.at 40) 0 := by
  have hnew : ∀ spender, sampleVault.paymentToken.allowance sampleToken
      sampleVault.self spender = 0 := fun _ => rfl
  have hdeposit := (Run.nil : Run (step sampleVault) (outsideToken sampleVault)
    sampleState [] _).take (.tx ⟨1, 10, .deposit 1000⟩)
    (outsideToken_tx _ _ _ _) rfl
  have hopen := hdeposit.take (.tx ⟨1, 30, .startRental 92 5 "job-1"⟩)
    (outsideToken_tx _ _ _ _) rfl
  refine ⟨_, _, hopen, ?_⟩
  rw [rent_collectible_iff ERC20.standard hnew hopen (by decide) (by decide)
    (by decide) (by decide) (by decide)]
  decide

/-- The renter withdraws everything, and its rental can no longer be settled. -/
theorem rent_uncollectible :
    ∃ (past : List (VaultStep ERC20)) (s : State ERC20),
      Run (step sampleVault) (outsideToken sampleVault) sampleState past s ∧
      s.timestamp ≤ 40 ∧ (s.rentals 0).isActive = true ∧
      (s.rentals 0).provider ≠ 0 ∧ s.feeRecipient ≠ 0 ∧
      (s.at 40).accrued 0 < wordSize ∧ ¬ Collects sampleVault (s.at 40) 0 := by
  have hdeposit := (Run.nil : Run (step sampleVault) (outsideToken sampleVault)
    sampleState [] _).take (.tx ⟨1, 10, .deposit 1000⟩)
    (outsideToken_tx _ _ _ _) rfl
  have hopen := hdeposit.take (.tx ⟨1, 30, .startRental 92 5 "job-1"⟩)
    (outsideToken_tx _ _ _ _) rfl
  have hempty := hopen.take (.tx ⟨1, 35, .withdraw 1000⟩)
    (outsideToken_tx _ _ _ _) rfl
  refine ⟨_, _, hempty, by decide, by decide, by decide, by decide, by decide,
    ?_⟩
  rintro ⟨s', hok, -⟩
  obtain ⟨-, -, -, ⟨hfree, -⟩ | ⟨token, hsettles, -⟩⟩ := endRental_eq_ok.mp hok
  · revert hfree
    decide
  · have hcovered := hsettles.covered
    revert hcovered
    decide

/-! ## What a rental costs over its life -/

def rentalDebit (rentalId : Nat) (r : VaultStep τ) : Nat :=
  match r.act with
  | .tx ⟨_, _, .endRental ended⟩ =>
      if ended = rentalId then
        r.pre.deposits (r.pre.rentals rentalId).renter -
          r.post.deposits (r.pre.rentals rentalId).renter
      else 0
  | _ => 0

def Event.transfer? : Event → Option (Address × Nat)
  | .transfer recipient amount => some (recipient, amount)
  | _ => none

def rentalTransfers (rentalId : Nat) (r : VaultStep τ) : List (Address × Nat) :=
  match r.act with
  | .tx ⟨_, _, .endRental ended⟩ =>
      if ended = rentalId then
        (r.post.log.drop r.pre.log.length).filterMap Event.transfer?
      else []
  | _ => []

def endsRental (rentalId : Nat) (r : VaultStep τ) : Bool :=
  (r.pre.rentals rentalId).isActive && !(r.post.rentals rentalId).isActive

def totalDebited (rentalId : Nat) (past : List (VaultStep τ)) : Nat :=
  (past.map (rentalDebit rentalId)).sum

def allTransfers (rentalId : Nat) (past : List (VaultStep τ)) :
    List (Address × Nat) :=
  past.flatMap (rentalTransfers rentalId)

private theorem totalDebited_snoc (rentalId : Nat) (past : List (VaultStep τ))
    (r : VaultStep τ) :
    totalDebited rentalId (past ++ [r]) =
      totalDebited rentalId past + rentalDebit rentalId r := by
  simp [totalDebited]

private theorem allTransfers_snoc (rentalId : Nat) (past : List (VaultStep τ))
    (r : VaultStep τ) :
    allTransfers rentalId (past ++ [r]) =
      allTransfers rentalId past ++ rentalTransfers rentalId r := by
  simp [allTransfers]

/-- The transfers that settle `cost`: nothing is issued for a zero share. -/
def settlementTransfers (provider feeRecipient : Address) (cost fee : Nat) :
    List (Address × Nat) :=
  if cost = 0 then []
  else (provider, cost - fee) :: if 0 < fee then [(feeRecipient, fee)] else []

inductive RentalStep (V : GPUVault τ) (rentalId : Nat) (r : VaultStep τ) :
    Prop where
  | quiet (hdebit : rentalDebit rentalId r = 0)
      (htransfers : rentalTransfers rentalId r = [])
      (hsame : r.post.rentals rentalId = r.pre.rentals rentalId)
      (hcount : rentalId < r.post.rentalCount ↔ rentalId < r.pre.rentalCount)
  | issued (hdebit : rentalDebit rentalId r = 0)
      (htransfers : rentalTransfers rentalId r = [])
      (hnew : rentalId = r.pre.rentalCount)
      (hactive : (r.post.rentals rentalId).isActive = true)
  | ended (tx : Tx) (hok : Succeeds V r tx)
      (hcall : tx.call = .endRental rentalId)
      (hactive : (r.pre.rentals rentalId).isActive = true)
      (hclosed : r.post.rentals rentalId =
        { r.pre.rentals rentalId with isActive := false })
      (hdebit : rentalDebit rentalId r =
        (r.pre.at tx.timestamp).accrued rentalId)
      (htransfers : rentalTransfers rentalId r = settlementTransfers
        (r.pre.rentals rentalId).provider r.pre.feeRecipient
        ((r.pre.at tx.timestamp).accrued rentalId)
        (r.pre.fee ((r.pre.at tx.timestamp).accrued rentalId)))
      (hcount : r.post.rentalCount = r.pre.rentalCount)

theorem RentalStep.of_start {rentalId : Nat} {r : VaultStep τ}
    (hdebit : rentalDebit rentalId r = 0)
    (htransfers : rentalTransfers rentalId r = [])
    (hcount : r.post.rentalCount = r.pre.rentalCount + 1)
    (hrentals : ∃ rental : Rental, rental.isActive = true ∧
      r.post.rentals = Function.update r.pre.rentals r.pre.rentalCount rental) :
    RentalStep V rentalId r := by
  obtain ⟨rental, hactive, hrentals⟩ := hrentals
  by_cases hnew : rentalId = r.pre.rentalCount
  · refine .issued hdebit htransfers hnew ?_
    rw [hrentals, hnew, Function.update_self]
    exact hactive
  · refine .quiet hdebit htransfers ?_ (by omega)
    rw [hrentals, Function.update_of_ne hnew]

private theorem settled_transfers {rentalId : Nat} {token : τ}
    (hpositive : 0 < s.accrued rentalId) :
    ((s.settled rentalId token).log.drop s.log.length).filterMap
        Event.transfer? =
      settlementTransfers (s.rentals rentalId).provider s.feeRecipient
        (s.accrued rentalId) (s.fee (s.accrued rentalId)) := by
  have hcost : s.accrued rentalId ≠ 0 := Nat.pos_iff_ne_zero.mp hpositive
  simp only [State.settled, settlementTransfers, feeTransfer, if_neg hcost,
    List.append_assoc, List.drop_left]
  split <;> simp [Event.transfer?]

private theorem rentalStep {r : VaultStep τ} (h : step V r.pre r.act = some r.post)
    (rentalId : Nat) : RentalStep V rentalId r := by
  obtain ⟨s, a, s'⟩ := r
  have heffect : Effect V s a s' := step_effect h
  cases heffect with
  | token => exact .quiet rfl rfl rfl .rfl
  | reverted =>
      refine .quiet ?_ ?_ rfl .rfl
      · unfold rentalDebit
        split <;> simp
      · unfold rentalTransfers
        split <;> simp
  | @done tx _ htime hok hdone =>
      obtain ⟨caller, now, call⟩ := tx
      cases hdone with
      | startRental => exact .of_start rfl rfl rfl ⟨_, rfl, rfl⟩
      | startRentalWithSessionKey => exact .of_start rfl rfl rfl ⟨_, rfl, rfl⟩
      | @endRentalFree ended hactive hstart hfree =>
          by_cases hid : ended = rentalId
          · subst hid
            refine .ended _ ⟨rfl, hok⟩ rfl hactive ?_ ?_ ?_ rfl
            · simp [State.closeRental]
            · change _ = (s.at now).accrued ended
              rw [hfree]
              simp [rentalDebit, State.closeRental]
            · change _ = settlementTransfers _ _ ((s.at now).accrued ended) _
              rw [hfree]
              simp [rentalTransfers, settlementTransfers, State.closeRental]
          · refine .quiet ?_ ?_ ?_ .rfl
            · simp [rentalDebit, hid]
            · simp [rentalTransfers, hid]
            · exact Function.update_of_ne (fun heq => hid heq.symm) _ _
      | @endRentalPaid ended token hactive hstart hfits hsettles =>
          by_cases hid : ended = rentalId
          · subst hid
            refine .ended _ ⟨rfl, hok⟩ rfl hactive ?_ ?_ ?_ rfl
            · simp [State.settled]
            · have hcovered := hsettles.covered
              simp only [State.at_deposits, State.at_rentals] at hcovered
              simp [rentalDebit, State.settled, Nat.sub_sub_self hcovered]
            · simp only [rentalTransfers, if_pos]
              exact settled_transfers hsettles.positive
          · refine .quiet ?_ ?_ ?_ .rfl
            · simp [rentalDebit, hid]
            · simp [rentalTransfers, hid]
            · exact Function.update_of_ne (fun heq => hid heq.symm) _ _
      | _ => exact .quiet rfl rfl rfl .rfl

structure Unpaid (rentalId : Nat) (past : List (VaultStep τ)) : Prop where
  ends : past.countP (endsRental rentalId) = 0
  debited : totalDebited rentalId past = 0
  transfers : allTransfers rentalId past = []

/--
The rental was ended by the successful call `tx` of transition `r`, and what was
ever debited and transferred for it is the settlement made there.
-/
structure PaidBy (V : GPUVault τ) (rentalId : Nat) (past : List (VaultStep τ))
    (rental : Rental) (r : VaultStep τ) (tx : Tx) (cost fee : Nat) : Prop
    extends Succeeds V r tx where
  occurs : r ∈ past
  call : tx.call = .endRental rentalId
  cost_eq : cost = (tx.timestamp - rental.startTime) * rental.pricePerSecond
  fee_eq : fee = cost * r.pre.platformFeeBps / 10000
  fee_le : fee ≤ cost / 10
  ends : past.countP (endsRental rentalId) = 1
  debited : totalDebited rentalId past = cost
  transfers : allTransfers rentalId past =
    settlementTransfers rental.provider r.pre.feeRecipient cost fee

def Accounted (V : GPUVault τ) (rentalId : Nat) (past : List (VaultStep τ))
    (s : State τ) : Prop :=
  ((s.rentals rentalId).isActive = true ∨ s.rentalCount ≤ rentalId →
      Unpaid rentalId past) ∧
    (rentalId < s.rentalCount → (s.rentals rentalId).isActive = false →
      ∃ r tx cost fee,
        PaidBy V rentalId past (s.rentals rentalId) r tx cost fee)

theorem Unpaid.snoc {rentalId : Nat} {past : List (VaultStep τ)}
    {r : VaultStep τ} (h : Unpaid rentalId past)
    (hends : endsRental rentalId r = false)
    (hdebit : rentalDebit rentalId r = 0)
    (htransfers : rentalTransfers rentalId r = []) :
    Unpaid rentalId (past ++ [r]) where
  ends := by simp [List.countP_append, h.ends, hends]
  debited := by rw [totalDebited_snoc, h.debited, hdebit]
  transfers := by rw [allTransfers_snoc, h.transfers, htransfers, List.nil_append]

theorem PaidBy.snoc {rentalId : Nat} {past : List (VaultStep τ)}
    {rental : Rental} {ending r : VaultStep τ} {tx : Tx} {cost fee : Nat}
    (h : PaidBy V rentalId past rental ending tx cost fee)
    (hends : endsRental rentalId r = false)
    (hdebit : rentalDebit rentalId r = 0)
    (htransfers : rentalTransfers rentalId r = []) :
    PaidBy V rentalId (past ++ [r]) rental ending tx cost fee :=
  { h with
    occurs := List.mem_append_left _ h.occurs
    ends := by simp [List.countP_append, h.ends, hends]
    debited := by rw [totalDebited_snoc, h.debited, hdebit, Nat.add_zero]
    transfers := by
      rw [allTransfers_snoc, h.transfers, htransfers, List.append_nil] }

theorem Unpaid.ended {rentalId : Nat} {past : List (VaultStep τ)}
    {r : VaultStep τ} {tx : Tx} (h : Unpaid rentalId past)
    (hcapped : r.pre.platformFeeBps ≤ 1000) (hok : Succeeds V r tx)
    (hcall : tx.call = .endRental rentalId)
    (hends : endsRental rentalId r = true)
    (hdebit : rentalDebit rentalId r =
      (r.pre.at tx.timestamp).accrued rentalId)
    (htransfers : rentalTransfers rentalId r = settlementTransfers
      (r.pre.rentals rentalId).provider r.pre.feeRecipient
      ((r.pre.at tx.timestamp).accrued rentalId)
      (r.pre.fee ((r.pre.at tx.timestamp).accrued rentalId))) :
    PaidBy V rentalId (past ++ [r])
      { r.pre.rentals rentalId with isActive := false } r tx
      ((r.pre.at tx.timestamp).accrued rentalId)
      (r.pre.fee ((r.pre.at tx.timestamp).accrued rentalId)) :=
  { hok with
    occurs := by simp
    call := hcall
    cost_eq := rfl
    fee_eq := rfl
    fee_le := fee_le_tenth hcapped _
    ends := by simp [List.countP_append, h.ends, hends]
    debited := by rw [totalDebited_snoc, h.debited, hdebit, Nat.zero_add]
    transfers := by
      rw [allTransfers_snoc, h.transfers, htransfers, List.nil_append] }

theorem Accounted.step {rentalId : Nat} {past : List (VaultStep τ)}
    {r : VaultStep τ} (hacc : Accounted V rentalId past r.pre)
    (hbook : RentalBook V past r.pre) (hcapped : r.pre.platformFeeBps ≤ 1000)
    (h : step V r.pre r.act = some r.post) :
    Accounted V rentalId (past ++ [r]) r.post := by
  cases rentalStep h rentalId with
  | quiet hdebit htransfers hsame hcount =>
      have hends : endsRental rentalId r = false := by
        simp [endsRental, hsame]
      refine ⟨fun hopen => ?_, fun hid hinactive => ?_⟩
      · rw [hsame] at hopen
        exact (hacc.1 (hopen.imp_right fun hle => by omega)).snoc hends hdebit htransfers
      · rw [hsame] at hinactive ⊢
        obtain ⟨ending, tx, cost, fee, hpaid⟩ :=
          hacc.2 (hcount.mp hid) hinactive
        exact ⟨ending, tx, cost, fee, hpaid.snoc hends hdebit htransfers⟩
  | issued hdebit htransfers hnew hactive =>
      have hends : endsRental rentalId r = false := by
        simp [endsRental, hactive]
      refine ⟨fun _ => ?_, fun _ hinactive => ?_⟩
      · exact (hacc.1 (.inr hnew.ge)).snoc hends hdebit htransfers
      · rw [hactive] at hinactive
        contradiction
  | ended tx hok hcall hactive hclosed hdebit htransfers hcount =>
      have hends : endsRental rentalId r = true := by
        simp [endsRental, hactive, hclosed]
      have hpaid := (hacc.1 (.inl hactive)).ended hcapped hok hcall hends hdebit
        htransfers
      refine ⟨fun hopen => ?_, fun _ _ => ?_⟩
      · rcases hopen with hstill | hunissued
        · rw [hclosed] at hstill
          contradiction
        · have hfresh := hbook.fresh rentalId (hcount ▸ hunissued)
          rw [hactive] at hfresh
          contradiction
      · rw [hclosed]
        exact ⟨r, tx, _, _, hpaid⟩

theorem accounted_run {guard : Guard (State τ) (Action τ)} {token : τ}
    {deployer feeRecipient : Address} {timestamp : Nat}
    {past : List (VaultStep τ)}
    (hrun : Run (step V) guard (deployed token deployer feeRecipient timestamp)
      past s) (rentalId : Nat) : Accounted V rentalId past s :=
  hrun.invariant
    ⟨fun _ => ⟨rfl, rfl, rfl⟩, fun hid => absurd hid (Nat.not_lt_zero _)⟩
    fun _ _ _ _ hbefore hacc _ h =>
      hacc.step (rentalBook_run hbefore) (feeBps_run hbefore) h

private theorem settlementTransfers_sum {provider feeRecipient : Address}
    {cost fee : Nat} (hfee : fee ≤ cost / 10) :
    ((settlementTransfers provider feeRecipient cost fee).map Prod.snd).sum =
      cost := by
  unfold settlementTransfers
  split
  · simp [*]
  · split
    · simp
      omega
    · simp
      omega

private theorem issued_once {s₀ : State τ} {guard : Guard (State τ) (Action τ)}
    {past before before' : List (VaultStep τ)} {r r' : VaultStep τ}
    {rentalId : Nat} {tx tx' : Tx} {rental rental' : Rental}
    (hrun : Run (step V) guard s₀ past s)
    (hocc : OccursAfter past before r) (hocc' : OccursAfter past before' r')
    (hissues : Issues V r rentalId tx rental)
    (hissues' : Issues V r' rentalId tx' rental') : before = before' := by
  have hlater : ∀ {before r r' tx tx' rental rental'},
      OccursAfter past before r → r' ∈ before →
      Issues V r rentalId tx rental → Issues V r' rentalId tx' rental' →
      False := by
    rintro before r r' tx tx' rental rental' ⟨after, hsplit⟩ hr' hissues
      hissues'
    obtain ⟨hbefore, -, -⟩ := hrun.of_split hsplit
    have hcount : r'.post.rentalCount ≤ r.pre.rentalCount :=
      Run.relates (fun s s' => s.rentalCount ≤ s'.rentalCount) hbefore
        (fun _ => le_rfl) (fun _ _ _ => le_trans)
        (fun _ _ _ h => rentalCount_le h) r' hr'
    rw [hissues'.post.1, hissues.id] at hcount
    omega
  rcases hocc.compare hocc' with heq | hr | hr'
  · exact heq
  · exact (hlater hocc' hr hissues' hissues).elim
  · exact (hlater hocc hr' hissues hissues').elim

structure Life (V : GPUVault τ) (rentalId : Nat) (past : List (VaultStep τ))
    (s : State τ) : Prop where
  /-- Exactly one successful start call issued the id; it wrote the terms. -/
  issued : ∃ before r tx rental, OccursAfter past before r ∧
    Issues V r rentalId tx rental ∧ rental.Continues (s.rentals rentalId)
  once : ∀ {before before' r r' tx tx' rental rental'},
    OccursAfter past before r → Issues V r rentalId tx rental →
    OccursAfter past before' r' → Issues V r' rentalId tx' rental' →
    before = before'
  /-- The terms never change, and an ended rental stays ended. -/
  terms : ∀ r ∈ past, rentalId < r.pre.rentalCount →
    (r.pre.rentals rentalId).Continues (r.post.rentals rentalId)
  /-- Nothing is paid while it is active; once it has ended, exactly its cost. -/
  active : (s.rentals rentalId).isActive = true → Unpaid rentalId past
  ended : (s.rentals rentalId).isActive = false →
    ∃ r tx cost fee,
      PaidBy V rentalId past (s.rentals rentalId) r tx cost fee ∧
      ((allTransfers rentalId past).map Prod.snd).sum = cost
  /-- A reverted `endRental` changes nothing but the time. -/
  failed : ∀ r ∈ past, ∀ tx, r.act = .tx tx → tx.call = .endRental rentalId →
    ¬ Succeeds V r tx → r.post = r.pre.at tx.timestamp

private theorem reverted_unchanged {r : VaultStep τ} {tx : Tx}
    (h : step V r.pre r.act = some r.post) (hact : r.act = .tx tx)
    (hfailed : ¬ Succeeds V r tx) : r.post = r.pre.at tx.timestamp := by
  obtain ⟨s, a, s'⟩ := r
  cases hact
  have heffect : Effect V s (.tx tx) s' := step_effect h
  cases heffect with
  | done _ hok => exact absurd ⟨rfl, hok⟩ hfailed
  | reverted => rfl

/-- Every id that was ever issued lives such a life, in every run. -/
theorem rental_life {token : τ} {deployer feeRecipient : Address}
    {timestamp : Nat} {past : List (VaultStep τ)} {rentalId : Nat}
    (hrun : Run (step V) anyStep
      (deployed token deployer feeRecipient timestamp) past s)
    (hid : rentalId < s.rentalCount) : Life V rentalId past s where
  issued := (rentalBook_run hrun).issued rentalId hid
  once hocc hissues hocc' hissues' :=
    issued_once hrun hocc hocc' hissues hissues'
  terms r hr hissued := rental_continues (hrun.step_of_mem hr) hissued
  active hactive := (accounted_run hrun rentalId).1 (.inl hactive)
  ended hinactive := by
    obtain ⟨r, tx, cost, fee, hpaid⟩ :=
      (accounted_run hrun rentalId).2 hid hinactive
    refine ⟨r, tx, cost, fee, hpaid, ?_⟩
    rw [hpaid.transfers]
    exact settlementTransfers_sum hpaid.fee_le
  failed r hr tx hact _ hfailed :=
    reverted_unchanged (hrun.step_of_mem hr) hact hfailed

/-- Rental 0 runs for ten seconds at five units and ends. -/
theorem rental_life_ended :
    ∃ (past : List (VaultStep ERC20)) (s : State ERC20),
      Life sampleVault 0 past s ∧ (s.rentals 0).isActive = false ∧
      allTransfers 0 past = [(92, 48), (91, 2)] := by
  have hdeposit := (Run.nil : Run (step sampleVault) anyStep sampleState
    [] _).take (.tx ⟨1, 10, .deposit 1000⟩) trivial rfl
  have hopen := hdeposit.take (.tx ⟨1, 30, .startRental 92 5 "job-1"⟩) trivial
    rfl
  have hend := hopen.take (.tx ⟨1, 40, .endRental 0⟩) trivial rfl
  exact ⟨_, _, rental_life hend (by decide), by decide, by decide⟩

/-- A cost of 10 units carries no fee: one transfer settles it, not two. -/
theorem single_transfer_settles :
    ∃ (past : List (VaultStep ERC20)) (s : State ERC20),
      Run (step sampleVault) anyStep sampleState past s ∧ 0 < s.rentalCount ∧
      (s.rentals 0).isActive = false ∧ totalDebited 0 past = 10 ∧
      allTransfers 0 past = [(92, 10)] := by
  have hdeposit := (Run.nil : Run (step sampleVault) anyStep sampleState
    [] _).take (.tx ⟨1, 10, .deposit 1000⟩) trivial rfl
  have hopen := hdeposit.take (.tx ⟨1, 30, .startRental 92 1 "job-1"⟩) trivial
    rfl
  have hend := hopen.take (.tx ⟨1, 40, .endRental 0⟩) trivial rfl
  exact ⟨_, _, hend, by decide, by decide, by decide, by decide⟩

end WorldlandBroker.Vault
