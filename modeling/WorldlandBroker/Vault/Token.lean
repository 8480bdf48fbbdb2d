import Mathlib.Data.BitVec
import Mathlib.Algebra.BigOperators.Ring.Finset
import Mathlib.Algebra.BigOperators.Group.Finset.Piecewise
import Mathlib.Algebra.Order.BigOperators.Group.Finset
import Mathlib.Data.Fintype.Basic
import Mathlib.Data.FinEnum
import Mathlib.Tactic.Ring

/-!
# The payment token

`GPUVault` moves money through an ERC-20 it did not write.  `PaymentToken` is
the part of the ERC-20 surface the vault calls, over the token's own state `τ`;
`StandardToken` is what a standard token without callbacks or transfer fees
guarantees.  `ERC20` is the OpenZeppelin token that `MockUSDT` extends, and it
satisfies those guarantees.
-/

namespace WorldlandBroker.Vault

abbrev Address := BitVec 160

def wordSize : Nat := 2 ^ 256

/--
The ERC-20 calls the vault makes.  `none` stands for a revert or a `false`
return value, which `SafeERC20` turns into a revert.
-/
structure PaymentToken (τ : Type) where
  balanceOf : τ → Address → Nat
  allowance : τ → Address → Address → Nat
  transfer : τ → Address → Address → Nat → Option τ
  transferFrom : τ → Address → Address → Address → Nat → Option τ

def moveBalance (balances : Address → Nat) (owner recipient : Address)
    (value : Nat) : Address → Nat :=
  let debited := Function.update balances owner (balances owner - value)
  Function.update debited recipient (debited recipient + value)

/-- A standard ERC-20: a transfer moves exactly the amount or reverts. -/
structure StandardToken {τ : Type} (T : PaymentToken τ) : Prop where
  transfer_exact : ∀ {t t' : τ} {owner recipient : Address} {value : Nat},
    T.transfer t owner recipient value = some t' →
      value ≤ T.balanceOf t owner ∧
      T.balanceOf t' = moveBalance (T.balanceOf t) owner recipient value ∧
      T.allowance t' = T.allowance t
  transfer_succeeds : ∀ {t : τ} {owner recipient : Address} {value : Nat},
    owner ≠ 0 → recipient ≠ 0 → value ≤ T.balanceOf t owner →
      ∃ t', T.transfer t owner recipient value = some t'
  transferFrom_exact : ∀ {t t' : τ} {spender owner recipient : Address}
    {value : Nat}, T.transferFrom t spender owner recipient value = some t' →
      owner ≠ 0 ∧ value ≤ T.allowance t owner spender ∧
      value ≤ T.balanceOf t owner ∧
      T.balanceOf t' = moveBalance (T.balanceOf t) owner recipient value ∧
      ∀ a b, T.allowance t' a b ≤ T.allowance t a b

/--
A change of the token's state that did not come from `self`: nobody else takes
`self`'s tokens away or approves spending in its name.
-/
def PaymentToken.Outside {τ : Type} (T : PaymentToken τ) (self : Address)
    (t t' : τ) : Prop :=
  T.balanceOf t self ≤ T.balanceOf t' self ∧
    ∀ b, T.allowance t' self b ≤ T.allowance t self b

/-! ## Moving a balance -/

private theorem moveBalance_self {balances : Address → Nat} {owner : Address}
    {value : Nat} (h : value ≤ balances owner) :
    moveBalance balances owner owner value = balances := by
  funext a
  by_cases ha : a = owner
  · subst ha
    simp [moveBalance, Nat.sub_add_cancel h]
  · simp [moveBalance, ha]

theorem moveBalance_owner_add_le {balances : Address → Nat}
    {owner recipient : Address} {value : Nat} (h : value ≤ balances owner) :
    balances owner ≤ moveBalance balances owner recipient value owner + value := by
  by_cases hto : recipient = owner
  · subst hto
    rw [moveBalance_self h]
    omega
  · have hne : owner ≠ recipient := fun heq => hto heq.symm
    simp [moveBalance, hne, Nat.sub_add_cancel h]

theorem moveBalance_recipient {balances : Address → Nat}
    {owner recipient : Address} {value : Nat} (hne : recipient ≠ owner) :
    moveBalance balances owner recipient value recipient =
      balances recipient + value := by
  simp [moveBalance, hne]

private theorem le_moveBalance_of_ne {balances : Address → Nat}
    {owner recipient a : Address} {value : Nat} (hne : a ≠ owner) :
    balances a ≤ moveBalance balances owner recipient value a := by
  by_cases hto : a = recipient
  · subst hto
    simp [moveBalance, hne]
  · simp [moveBalance, hne, hto]

theorem sum_update_add (balances : Address → Nat) (a : Address) (value : Nat) :
    ∑ x, Function.update balances a value x + balances a =
      ∑ x, balances x + value := by
  have hupd := Finset.sum_update_of_mem (Finset.mem_univ a) balances value
  have hsplit := Finset.sum_erase_add Finset.univ balances (Finset.mem_univ a)
  rw [← Finset.sdiff_singleton_eq_erase] at hsplit
  omega

private theorem sum_moveBalance {balances : Address → Nat} {owner recipient : Address}
    {value : Nat} (h : value ≤ balances owner) :
    ∑ a, moveBalance balances owner recipient value a = ∑ a, balances a := by
  have hdebit := sum_update_add balances owner (balances owner - value)
  have hcredit := sum_update_add
    (Function.update balances owner (balances owner - value)) recipient
    (Function.update balances owner (balances owner - value) recipient + value)
  simp only [moveBalance]
  omega

/-! ## The OpenZeppelin token -/

structure ERC20 where
  balances : Address → Nat
  allowances : Address → Address → Nat
  totalSupply : Nat
  backed : ∑ a, balances a = totalSupply
  bounded : totalSupply < wordSize

namespace ERC20

def empty : ERC20 where
  balances := fun _ => 0
  allowances := fun _ _ => 0
  totalSupply := 0
  backed := Finset.sum_eq_zero fun _ _ => rfl
  bounded := Nat.two_pow_pos 256

theorem balance_lt (t : ERC20) (a : Address) : t.balances a < wordSize := by
  have hle := Finset.single_le_sum (fun x _ => Nat.zero_le (t.balances x))
    (Finset.mem_univ a)
  have hsupply := t.backed
  have hword := t.bounded
  omega

def move (t : ERC20) (owner recipient : Address) (value : Nat) :
    Option ERC20 :=
  if owner = 0 then none
  else if recipient = 0 then none
  else if h : value ≤ t.balances owner then
    some { t with
      balances := moveBalance t.balances owner recipient value
      backed := by rw [sum_moveBalance h]; exact t.backed }
  else none

def approved (t : ERC20) (owner spender : Address) (value : Nat) : ERC20 :=
  { t with
    allowances := Function.update t.allowances owner
      (Function.update (t.allowances owner) spender value) }

/-- `_spendAllowance`: the maximal allowance is infinite and stays as it is. -/
def spendAllowance (t : ERC20) (owner spender : Address) (value : Nat) :
    Option ERC20 :=
  let current := t.allowances owner spender
  if current < wordSize - 1 then
    if current < value then none
    else some (t.approved owner spender (current - value))
  else some t

def transferFrom (t : ERC20) (spender owner recipient : Address) (value : Nat) :
    Option ERC20 := do
  let t ← t.spendAllowance owner spender value
  t.move owner recipient value

def approve (t : ERC20) (owner spender : Address) (value : Nat) :
    Option ERC20 :=
  if owner = 0 then none
  else if spender = 0 then none
  else some (t.approved owner spender value)

def minted (t : ERC20) (account : Address) (value : Nat)
    (h : t.totalSupply + value < wordSize) : ERC20 :=
  { t with
    totalSupply := t.totalSupply + value
    balances := Function.update t.balances account (t.balances account + value)
    backed := by
      have hsum := sum_update_add t.balances account
        (t.balances account + value)
      have hsupply := t.backed
      omega
    bounded := h }

def mint (t : ERC20) (account : Address) (value : Nat) : Option ERC20 :=
  if account = 0 then none
  else if h : t.totalSupply + value < wordSize then
    some (t.minted account value h)
  else none

inductive Request where
  | transfer (recipient : Address) (value : Nat)
  | transferFrom (owner recipient : Address) (value : Nat)
  | approve (spender : Address) (value : Nat)
  | mint (account : Address) (value : Nat)

def serve (t : ERC20) (sender : Address) : Request → Option ERC20
  | .transfer recipient value => t.move sender recipient value
  | .transferFrom owner recipient value =>
      t.transferFrom sender owner recipient value
  | .approve spender value => t.approve sender spender value
  | .mint account value => t.mint account value

def paymentToken : PaymentToken ERC20 where
  balanceOf := balances
  allowance := allowances
  transfer := move
  transferFrom := transferFrom

theorem move_eq_some {t t' : ERC20} {owner recipient : Address} {value : Nat}
    (h : t.move owner recipient value = some t') :
    owner ≠ 0 ∧ recipient ≠ 0 ∧ value ≤ t.balances owner ∧
      t'.balances = moveBalance t.balances owner recipient value ∧
      t'.allowances = t.allowances := by
  unfold move at h
  split at h
  · contradiction
  split at h
  · contradiction
  split at h
  · obtain rfl := Option.some.inj h
    exact ⟨by assumption, by assumption, by assumption, rfl, rfl⟩
  · contradiction

theorem move_succeeds {t : ERC20} {owner recipient : Address} {value : Nat}
    (howner : owner ≠ 0) (hto : recipient ≠ 0)
    (hvalue : value ≤ t.balances owner) :
    ∃ t', t.move owner recipient value = some t' := by
  unfold move
  rw [if_neg howner, if_neg hto, dif_pos hvalue]
  exact ⟨_, rfl⟩

theorem approved_allowance_le {t : ERC20} {owner spender : Address}
    {value : Nat} (h : value ≤ t.allowances owner spender) (a b : Address) :
    (t.approved owner spender value).allowances a b ≤ t.allowances a b := by
  by_cases ha : a = owner
  · subst ha
    by_cases hb : b = spender
    · subst hb
      simpa [approved] using h
    · simp [approved, hb]
  · simp [approved, ha]

theorem spendAllowance_eq_some {t t' : ERC20} {owner spender : Address}
    {value : Nat} (h : t.spendAllowance owner spender value = some t') :
    (value ≤ t.allowances owner spender ∨
        wordSize - 1 ≤ t.allowances owner spender) ∧
      t'.balances = t.balances ∧
      ∀ a b, t'.allowances a b ≤ t.allowances a b := by
  simp only [spendAllowance] at h
  split at h
  · split at h
    · contradiction
    · obtain rfl := Option.some.inj h
      exact ⟨.inl (by omega), rfl, approved_allowance_le (by omega)⟩
  · obtain rfl := Option.some.inj h
    exact ⟨.inr (by omega), rfl, fun _ _ => le_rfl⟩

theorem transferFrom_eq_some {t t' : ERC20} {spender owner recipient : Address}
    {value : Nat} (h : t.transferFrom spender owner recipient value = some t') :
    owner ≠ 0 ∧ value ≤ t.allowances owner spender ∧
      value ≤ t.balances owner ∧
      t'.balances = moveBalance t.balances owner recipient value ∧
      ∀ a b, t'.allowances a b ≤ t.allowances a b := by
  obtain ⟨spent, hspend, hmove⟩ := Option.bind_eq_some_iff.mp h
  obtain ⟨hallowed, hbalances, hle⟩ := spendAllowance_eq_some hspend
  obtain ⟨howner, -, hvalue, hmoved, hkept⟩ := move_eq_some hmove
  rw [hbalances] at hvalue hmoved
  -- an infinite allowance exceeds every balance, hence every movable value
  have hword := t.balance_lt owner
  refine ⟨howner, by omega, hvalue, hmoved, fun a b => ?_⟩
  rw [hkept]
  exact hle a b

theorem standard : StandardToken paymentToken where
  transfer_exact h := by
    obtain ⟨-, -, hvalue, hbalances, hallowances⟩ := move_eq_some h
    exact ⟨hvalue, hbalances, hallowances⟩
  transfer_succeeds := move_succeeds
  transferFrom_exact := transferFrom_eq_some

theorem serve_outside {t t' : ERC20} {self sender : Address} {r : Request}
    (hsender : sender ≠ self) (hnone : ∀ b, t.allowances self b = 0)
    (h : t.serve sender r = some t') : paymentToken.Outside self t t' := by
  have hself : self ≠ sender := fun heq => hsender heq.symm
  cases r with
  | transfer recipient value =>
      obtain ⟨-, -, -, hbalances, hallowances⟩ := move_eq_some h
      refine ⟨?_, fun b => ?_⟩
      · change t.balances self ≤ t'.balances self
        rw [hbalances]
        exact le_moveBalance_of_ne hself
      · change t'.allowances self b ≤ t.allowances self b
        rw [hallowances]
  | transferFrom owner recipient value =>
      obtain ⟨-, hallowed, hvalue, hbalances, hle⟩ := transferFrom_eq_some h
      refine ⟨?_, hle self⟩
      change t.balances self ≤ t'.balances self
      rw [hbalances]
      by_cases howner : owner = self
      · subst howner
        have hzero : value = 0 := by
          have := hnone sender
          omega
        calc t.balances owner
          _ ≤ moveBalance t.balances owner recipient value owner + value :=
              moveBalance_owner_add_le hvalue
          _ = moveBalance t.balances owner recipient value owner := by
              rw [hzero, Nat.add_zero]
      · exact le_moveBalance_of_ne fun heq => howner heq.symm
  | approve spender value =>
      simp only [serve, approve] at h
      split at h
      · contradiction
      split at h
      · contradiction
      obtain rfl := Option.some.inj h
      refine ⟨le_rfl, fun b => ?_⟩
      change (t.approved sender spender value).allowances self b ≤ _
      simp [approved, hself, paymentToken]
  | mint account value =>
      simp only [serve, mint] at h
      split at h
      · contradiction
      split at h
      · obtain rfl := Option.some.inj h
        refine ⟨?_, fun b => le_rfl⟩
        change t.balances self ≤ Function.update t.balances account _ self
        by_cases hacc : self = account
        · subst hacc
          simp
        · simp [hacc]
      · contradiction

end ERC20

end WorldlandBroker.Vault
