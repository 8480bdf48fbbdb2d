import WorldlandBroker.Foundation.Run
import Mathlib.Logic.Function.Basic

/-!
# Optimistic updates

A value with a version that several clients read, edit and write back.  The server
takes an update where nobody has written since the client read, and where it admits
the value.  Whatever the order of the accesses, no edit is lost: the value is the
first one with the committed edits applied one after the other.
-/

namespace WorldlandBroker.Foundation

structure Versioned (σ : Type*) where
  value : σ
  version : ℕ

/-- `held` has what a client has read and not written back yet. -/
structure Shared (σ κ : Type*) where
  current : Versioned σ
  held : κ → Option (Versioned σ)

inductive Access (κ ε : Type*) where
  | get (client : κ)
  -- `reaches` tells whether the request gets to the server
  | update (client : κ) (edit : ε) (reaches : Bool)
  -- an edit by the server itself, of the value it has then
  | patch (edit : ε) (reaches : Bool)

variable {σ κ ε : Type*} [DecidableEq κ]

def Versioned.next (current : Versioned σ) (value : σ) : Versioned σ :=
  ⟨value, current.version + 1⟩

/-- An edit without a result (`none`) makes no request. -/
def access (edit : ε → σ → Option σ) (admits : σ → Bool) (s : Shared σ κ) :
    Access κ ε → Option (Shared σ κ)
  | .get client => some { s with held := Function.update s.held client (some s.current) }
  | .update client e reaches =>
      match s.held client with
      | none => none
      | some read =>
          let s := { s with held := Function.update s.held client none }
          match edit e read.value with
          | none => some s
          | some value =>
              if reaches = true ∧ read.version = s.current.version ∧ admits value = true then
                some { s with current := s.current.next value }
              else some s
  | .patch e reaches =>
      match edit e s.current.value with
      | none => some s
      | some value =>
          if reaches = true ∧ admits value = true then
            some { s with current := s.current.next value }
          else some s

def Access.edit? : Access κ ε → Option ε
  | .get _ => none
  | .update _ e _ => some e
  | .patch e _ => some e

abbrev SharedStep (σ κ ε : Type*) := Transition (Shared σ κ) (Access κ ε)

omit [DecidableEq κ] in
def committed (r : SharedStep σ κ ε) : Option ε :=
  if r.post.current.version = r.pre.current.version then none else r.act.edit?

def applyEdits (edit : ε → σ → Option σ) (edits : List ε) (value : σ) : σ :=
  edits.foldl (fun value e => (edit e value).getD value) value

theorem applyEdits_append (edit : ε → σ → Option σ) (edits edits' : List ε) (value : σ) :
    applyEdits edit (edits ++ edits') value =
      applyEdits edit edits' (applyEdits edit edits value) :=
  List.foldl_append

structure Fresh (s : Shared σ κ) : Prop where
  past : ∀ client read, s.held client = some read → read.version ≤ s.current.version
  same : ∀ client read, s.held client = some read → read.version = s.current.version →
    read.value = s.current.value

variable {edit : ε → σ → Option σ} {admits : σ → Bool} {s s' s₀ : Shared σ κ}
  {a : Access κ ε} {past : List (SharedStep σ κ ε)} {guard : Guard (Shared σ κ) (Access κ ε)}

omit [DecidableEq κ] in
theorem fresh_of_unread (h : ∀ client, s.held client = none) : Fresh s where
  past client read hread := by
    rw [h client] at hread
    cases hread
  same client read hread := by
    rw [h client] at hread
    cases hread

theorem held_update {held : κ → Option (Versioned σ)} {client c : κ}
    {read : Option (Versioned σ)} {r : Versioned σ}
    (h : Function.update held client read c = some r) : read = some r ∨ held c = some r := by
  by_cases hc : c = client
  · rw [hc, Function.update_self] at h
    exact .inl h
  · rw [Function.update_of_ne hc] at h
    exact .inr h

theorem access_cases (hfresh : Fresh s) (h : access edit admits s a = some s') :
    s'.current = s.current ∨ ∃ e value, a.edit? = some e ∧
      edit e s.current.value = some value ∧ admits value = true ∧
      s'.current = s.current.next value := by
  cases a with
  | get client =>
      cases h
      exact .inl rfl
  | update client e reaches =>
      simp only [access] at h
      split at h
      · cases h
      · rename_i read hread
        split at h
        · cases h
          exact .inl rfl
        · rename_i value hvalue
          split at h
          · rename_i hcommits
            cases h
            rw [hfresh.same client read hread hcommits.2.1] at hvalue
            exact .inr ⟨e, value, rfl, hvalue, hcommits.2.2, rfl⟩
          · cases h
            exact .inl rfl
  | patch e reaches =>
      simp only [access] at h
      split at h
      · cases h
        exact .inl rfl
      · rename_i value hvalue
        split at h
        · rename_i hcommits
          cases h
          exact .inr ⟨e, value, rfl, hvalue, hcommits.2, rfl⟩
        · cases h
          exact .inl rfl

theorem access_held (h : access edit admits s a = some s') {c : κ} {r : Versioned σ}
    (hheld : s'.held c = some r) : r = s.current ∨ s.held c = some r := by
  cases a with
  | get client =>
      cases h
      rcases held_update hheld with hnew | hold
      · exact .inl (Option.some.inj hnew).symm
      · exact .inr hold
  | update client e reaches =>
      simp only [access] at h
      split at h
      · cases h
      · have hdropped : Function.update s.held client none c = some r := by
          split at h
          · cases h
            exact hheld
          · split at h <;>
              · cases h
                exact hheld
        exact .inr ((held_update hdropped).resolve_left (by simp))
  | patch e reaches =>
      simp only [access] at h
      split at h
      · cases h
        exact .inr hheld
      · split at h <;>
          · cases h
            exact .inr hheld

theorem Fresh.step (hfresh : Fresh s) (h : access edit admits s a = some s') : Fresh s' := by
  have hversions : ∀ c r, s'.held c = some r → r.version ≤ s.current.version ∧
      (r.version = s.current.version → r.value = s.current.value) := by
    intro c r hheld
    rcases access_held h hheld with rfl | hold
    · exact ⟨Nat.le_refl _, fun _ => rfl⟩
    · exact ⟨hfresh.past c r hold, hfresh.same c r hold⟩
  rcases access_cases hfresh h with hsame | ⟨e, value, -, -, -, hnext⟩
  · exact ⟨fun c r hheld => hsame ▸ (hversions c r hheld).1,
      fun c r hheld => hsame ▸ (hversions c r hheld).2⟩
  · have hbefore : ∀ c r, s'.held c = some r → r.version < s'.current.version := by
      intro c r hheld
      rw [hnext]
      exact Nat.lt_succ_of_le (hversions c r hheld).1
    exact ⟨fun c r hheld => Nat.le_of_lt (hbefore c r hheld),
      fun c r hheld hsame => absurd hsame (Nat.ne_of_lt (hbefore c r hheld))⟩

theorem Fresh.run (hfresh : Fresh s₀) (hrun : Run (access edit admits) guard s₀ past s) :
    Fresh s :=
  hrun.always hfresh fun _ _ _ _ h _ hs => h.step hs

theorem committed_cases (hfresh : Fresh s) (h : access edit admits s a = some s') :
    committed ⟨s, a, s'⟩ = none ∧ s'.current.value = s.current.value ∨
      ∃ e value, committed ⟨s, a, s'⟩ = some e ∧ a.edit? = some e ∧
        edit e s.current.value = some value ∧ admits value = true ∧ s'.current.value = value := by
  rcases access_cases hfresh h with hsame | ⟨e, value, hact, hvalue, hadmits, hnext⟩
  · exact .inl ⟨by simp [committed, hsame], by rw [hsame]⟩
  · refine .inr ⟨e, value, ?_, hact, hvalue, hadmits, by rw [hnext]; rfl⟩
    simp [committed, hnext, Versioned.next, hact]

/-- No committed edit is lost, whatever other clients have done in between. -/
theorem Run.serialised (hrun : Run (access edit admits) guard s₀ past s) (hfresh : Fresh s₀) :
    s.current.value = applyEdits edit (past.filterMap committed) s₀.current.value := by
  induction hrun with
  | nil => rfl
  | @snoc past s s' a hrun _ hs ih =>
      rw [List.filterMap_append, applyEdits_append, ← ih]
      rcases committed_cases (hfresh.run hrun) hs with ⟨hnone, hsame⟩ |
        ⟨e, value, hsome, -, hvalue, -, hnext⟩
      · simpa [hnone, applyEdits] using hsame
      · simp [hsome, hvalue, hnext, applyEdits]

/-- What every admitted edit of the run keeps holds along it. -/
theorem Run.edited {I : σ → Prop} {allowed : ε → Prop}
    (hrun : Run (access edit admits) (fun _ _ a => ∀ e ∈ a.edit?, allowed e) s₀ past s)
    (hfresh : Fresh s₀) (h₀ : I s₀.current.value)
    (hedit : ∀ e value value', allowed e → edit e value = some value' → admits value' = true →
      I value → I value') : I s.current.value := by
  induction hrun with
  | nil => exact h₀
  | snoc hrun hguard hs ih =>
      rcases committed_cases (hfresh.run hrun) hs with ⟨-, hsame⟩ |
        ⟨e, value, -, hact, hvalue, hadmits, hnext⟩
      · rwa [hsame]
      · rw [hnext]
        exact hedit e _ value (hguard e hact) hvalue hadmits ih

/-- What is committed was allowed, and the server has admitted its result. -/
theorem Run.committed_admitted {allowed : ε → Prop} {e : ε}
    (hrun : Run (access edit admits) (fun _ _ a => ∀ e ∈ a.edit?, allowed e) s₀ past s)
    (hfresh : Fresh s₀) (he : e ∈ past.filterMap committed) :
    allowed e ∧ ∃ value value', edit e value = some value' ∧ admits value' = true := by
  induction hrun with
  | nil => simp at he
  | @snoc past s s' a hrun hguard hs ih =>
      rw [List.filterMap_append, List.mem_append] at he
      rcases he with hbefore | hlast
      · exact ih hbefore
      · rcases committed_cases (hfresh.run hrun) hs with ⟨hnone, -⟩ |
          ⟨e', value, hsome, hact, hvalue, hadmits, -⟩
        · simp [hnone] at hlast
        · obtain rfl : e = e' := by simpa [hsome] using hlast
          exact ⟨hguard e hact, _, value, hvalue, hadmits⟩

/-- What an edit either fixes or leaves is as the last commit that fixes it has it. -/
theorem Run.last_written {β : Type*} {f : σ → β} {fixes : ε → Option β} {allowed : ε → Prop}
    (hrun : Run (access edit admits) (fun _ _ a => ∀ e ∈ a.edit?, allowed e) s₀ past s)
    (hfresh : Fresh s₀)
    (hedit : ∀ e value value', allowed e → edit e value = some value' →
      f value' = (fixes e).getD (f value)) :
    f s.current.value =
      ((past.filterMap committed).filterMap fixes).getLastD (f s₀.current.value) := by
  induction hrun with
  | nil => rfl
  | @snoc past s s' a hrun hguard hs ih =>
      rw [List.filterMap_append, List.filterMap_append]
      rcases committed_cases (hfresh.run hrun) hs with ⟨hnone, hsame⟩ |
        ⟨e, value, hsome, hact, hvalue, -, hnext⟩
      · simpa [hnone, hsame] using ih
      · have hvalue' := hedit e _ value (hguard e hact) hvalue
        cases hfixes : fixes e with
        | none => simpa [hsome, hfixes, hnext, hvalue'] using ih
        | some b => simp [hsome, hfixes, hnext, hvalue']

end WorldlandBroker.Foundation
