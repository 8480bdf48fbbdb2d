import Mathlib.Data.List.Basic

/-!
# Guarded runs of a partial step function

A system is a partial function `step : σ → α → Option σ`; `none` says that the
action is not enabled.  A run records every transition it makes, so that
history-dependent notions (what an earlier call did, how much was moved so far)
are plain functions of the recorded list.  A guard restricts which actions a
run may take next, given that record.
-/

namespace WorldlandBroker.Foundation

structure Transition (σ α : Type*) where
  pre : σ
  act : α
  post : σ

/-- What a run may do next, given what it has recorded and where it stands. -/
abbrev Guard (σ α : Type*) := List (Transition σ α) → σ → α → Prop

def anyStep {σ α : Type*} : Guard σ α := fun _ _ _ => True

/-- `Run step guard s₀ past s`: the guarded run `past` leads from `s₀` to `s`. -/
inductive Run {σ α : Type*} (step : σ → α → Option σ) (guard : Guard σ α)
    (s₀ : σ) : List (Transition σ α) → σ → Prop where
  | nil : Run step guard s₀ [] s₀
  | snoc {past : List (Transition σ α)} {s s' : σ} {a : α} :
      Run step guard s₀ past s → guard past s a → step s a = some s' →
      Run step guard s₀ (past ++ [⟨s, a, s'⟩]) s'

namespace Run

variable {σ α : Type*} {step : σ → α → Option σ} {guard guard' : Guard σ α}
  {s₀ s : σ} {past : List (Transition σ α)}

/--
The invariant rule: what holds at the start and is kept by every guarded step
holds along every run.  The invariant may speak about the record.
-/
theorem invariant {I : List (Transition σ α) → σ → Prop}
    (hrun : Run step guard s₀ past s) (h₀ : I [] s₀)
    (hstep : ∀ past s a s', Run step guard s₀ past s → I past s →
      guard past s a → step s a = some s' → I (past ++ [⟨s, a, s'⟩]) s') :
    I past s := by
  induction hrun with
  | nil => exact h₀
  | snoc hrun hguard hs ih => exact hstep _ _ _ _ hrun ih hguard hs

theorem always {I : σ → Prop} (hrun : Run step guard s₀ past s) (h₀ : I s₀)
    (hstep : ∀ past s a s', I s → guard past s a → step s a = some s' → I s') :
    I s := by
  induction hrun with
  | nil => exact h₀
  | snoc _ hguard hs ih => exact hstep _ _ _ _ ih hguard hs

theorem take (hrun : Run step guard s₀ past s) (a : α) {s' : σ}
    (hguard : guard past s a) (hs : step s a = some s') :
    Run step guard s₀ (past ++ [⟨s, a, s'⟩]) s' :=
  .snoc hrun hguard hs

theorem of_split {before after : List (Transition σ α)} {r : Transition σ α}
    (hrun : Run step guard s₀ past s) (hsplit : past = before ++ r :: after) :
    Run step guard s₀ before r.pre ∧ guard before r.pre r.act ∧
      step r.pre r.act = some r.post := by
  induction hrun generalizing after with
  | nil => simp at hsplit
  | @snoc past s s' a hrun hguard hs ih =>
      rcases List.eq_nil_or_concat after with rfl | ⟨after, last, rfl⟩
      · obtain ⟨rfl, hlast⟩ := List.append_inj' hsplit rfl
        cases hlast
        exact ⟨hrun, hguard, hs⟩
      · have hsplit' : past ++ [⟨s, a, s'⟩] = (before ++ r :: after) ++ [last] := by
          simpa using hsplit
        obtain ⟨rfl, -⟩ := List.append_inj' hsplit' rfl
        exact ih rfl

/--
What a recorded step establishes and every later step keeps holds at the end.
The invariant may speak about the record since that step.
-/
theorem sinceRecorded {before after : List (Transition σ α)} {r : Transition σ α}
    {I : List (Transition σ α) → σ → Prop}
    (hrun : Run step guard s₀ (before ++ r :: after) s) (h₀ : I [] r.post)
    (hstep : ∀ earlier s a s', ⟨s, a, s'⟩ ∈ after →
      Run step guard s₀ (before ++ r :: earlier) s → I earlier s →
      guard (before ++ r :: earlier) s a → step s a = some s' →
      I (earlier ++ [⟨s, a, s'⟩]) s') : I after s := by
  generalize hpast : before ++ r :: after = past at hrun
  induction hrun generalizing after with
  | nil => simp at hpast
  | @snoc past s s' a hrun hguard hs ih =>
      rcases List.eq_nil_or_concat after with rfl | ⟨earlier, last, rfl⟩
      · obtain ⟨-, hlast⟩ := List.append_inj' hpast rfl
        cases hlast
        exact h₀
      · have hsplit : (before ++ r :: earlier) ++ [last] = past ++ [⟨s, a, s'⟩] := by
          simpa using hpast
        obtain ⟨rfl, hlast⟩ := List.append_inj' hsplit rfl
        cases hlast
        have hpre : I earlier s :=
          ih (fun earlier s a s' hmem => hstep earlier s a s' (by simp [hmem])) rfl
        rw [List.concat_eq_append]
        exact hstep earlier s a s' (by simp) hrun hpre hguard hs

theorem since {before after : List (Transition σ α)} {r : Transition σ α}
    {I : σ → Prop} (hrun : Run step guard s₀ (before ++ r :: after) s)
    (h₀ : I r.post)
    (hstep : ∀ r' ∈ after, step r'.pre r'.act = some r'.post → I r'.pre →
      I r'.post) : I s :=
  hrun.sinceRecorded h₀ fun _ s a s' hmem _ hpre _ hs => hstep ⟨s, a, s'⟩ hmem hs hpre

theorem step_of_mem {r : Transition σ α} (hrun : Run step guard s₀ past s)
    (hr : r ∈ past) : step r.pre r.act = some r.post := by
  obtain ⟨before, after, hsplit⟩ := List.append_of_mem hr
  exact (hrun.of_split hsplit).2.2

theorem relates (R : σ → σ → Prop) (hrun : Run step guard s₀ past s)
    (hrefl : ∀ s, R s s) (htrans : ∀ a b c, R a b → R b c → R a c)
    (hstep : ∀ s a s', step s a = some s' → R s s') :
    ∀ r ∈ past, R r.post s := by
  induction hrun with
  | nil => simp
  | snoc _ _ hs ih =>
      intro r hr
      rcases List.mem_append.mp hr with hr | hr
      · exact htrans _ _ _ (ih r hr) (hstep _ _ _ hs)
      · rw [List.mem_singleton.mp hr]
        exact hrefl _

end Run

/-! ## Executing a list of actions -/

def trace {σ α : Type*} (step : σ → α → Option σ) :
    σ → List α → Option (List (Transition σ α) × σ)
  | s, [] => some ([], s)
  | s, a :: rest =>
      match step s a with
      | none => none
      | some s' =>
          match trace step s' rest with
          | none => none
          | some (past, last) => some (⟨s, a, s'⟩ :: past, last)

theorem trace_cons_eq_some {σ α : Type*} {step : σ → α → Option σ} {s last : σ}
    {a : α} {rest : List α} {past : List (Transition σ α)}
    (h : trace step s (a :: rest) = some (past, last)) :
    ∃ s' later, step s a = some s' ∧
      trace step s' rest = some (later, last) ∧ past = ⟨s, a, s'⟩ :: later := by
  simp only [trace] at h
  split at h
  · contradiction
  · rename_i s' hs
    split at h
    · contradiction
    · rename_i later last' hrest
      cases h
      exact ⟨s', later, hs, hrest, rfl⟩

theorem trace_acts {σ α : Type*} {step : σ → α → Option σ} {s last : σ}
    {acts : List α} {past : List (Transition σ α)}
    (h : trace step s acts = some (past, last)) :
    past.map Transition.act = acts := by
  induction acts generalizing s past with
  | nil =>
      cases h
      rfl
  | cons a rest ih =>
      obtain ⟨s', later, -, hrest, rfl⟩ := trace_cons_eq_some h
      simp [ih hrest]

theorem trace_act_mem {σ α : Type*} {step : σ → α → Option σ} {s last : σ}
    {acts : List α} {past : List (Transition σ α)} {r : Transition σ α}
    (h : trace step s acts = some (past, last)) (hr : r ∈ past) : r.act ∈ acts := by
  rw [← trace_acts h]
  exact List.mem_map_of_mem hr

theorem trace_act_getElem? {σ α : Type*} {step : σ → α → Option σ} {s last : σ}
    {acts : List α} {past : List (Transition σ α)} {r : Transition σ α} {n : ℕ}
    (h : trace step s acts = some (past, last)) (hr : past[n]? = some r) :
    acts[n]? = some r.act := by
  rw [← trace_acts h, List.getElem?_map, hr]
  rfl

theorem Run.extend {σ α : Type*} {step : σ → α → Option σ} {s₀ s last : σ}
    {acts : List α} {past later : List (Transition σ α)}
    (hrun : Run step anyStep s₀ past s)
    (h : trace step s acts = some (later, last)) :
    Run step anyStep s₀ (past ++ later) last := by
  induction acts generalizing s past later with
  | nil =>
      cases h
      simpa using hrun
  | cons a rest ih =>
      obtain ⟨s', later', hs, hrest, rfl⟩ := trace_cons_eq_some h
      have hnext := ih (hrun.snoc trivial hs) hrest
      rwa [List.append_assoc] at hnext

theorem Run.of_trace {σ α : Type*} {step : σ → α → Option σ} {s last : σ}
    {acts : List α} {past : List (Transition σ α)}
    (h : trace step s acts = some (past, last)) :
    Run step anyStep s past last :=
  Run.extend .nil h

theorem Run.of_isSome {σ α : Type*} {step : σ → α → Option σ} {s : σ}
    {acts : List α} (h : (trace step s acts).isSome) :
    Run step anyStep s ((trace step s acts).get h).1
      ((trace step s acts).get h).2 :=
  Run.of_trace (Option.some_get h).symm

/-- A guard that looks at the state only can be checked on the finished record. -/
theorem Run.guarded {σ α : Type*} {step : σ → α → Option σ} {guard : σ → α → Prop}
    {s₀ s : σ} {past : List (Transition σ α)} (hrun : Run step anyStep s₀ past s)
    (hguard : ∀ r ∈ past, guard r.pre r.act) :
    Run step (fun _ => guard) s₀ past s := by
  induction hrun with
  | nil => exact .nil
  | @snoc past s s' a _ _ hs ih =>
      apply Run.snoc
      · apply ih
        intro r hr
        exact hguard r (List.mem_append_left _ hr)
      · exact hguard ⟨s, a, s'⟩ (by simp)
      · exact hs

/-- A guard that ignores the record lets a run go on from where another one ended. -/
theorem Run.append {σ α : Type*} {step : σ → α → Option σ} {guard : Guard σ α}
    (hguard : ∀ past past' s a, guard past s a → guard past' s a) {s₀ s s' : σ}
    {past later : List (Transition σ α)} (hrun : Run step guard s₀ past s)
    (hlater : Run step guard s later s') : Run step guard s₀ (past ++ later) s' := by
  induction hlater with
  | nil => rwa [List.append_nil]
  | snoc _ hallowed hs ih =>
      rw [← List.append_assoc]
      exact ih.snoc (hguard _ _ _ _ hallowed) hs

theorem split_once {α β : Type*} {f : α → Option β} {past : List α} {n m : ℕ} {b : β}
    (h : past.map f = List.replicate n none ++ some b :: List.replicate m none) :
    ∃ before r, past = before ++ r :: past.drop (n + 1) ∧ f r = some b ∧
      ∀ r' ∈ past.drop (n + 1), f r' = none := by
  obtain ⟨before, rest, rfl, hbefore, hrest⟩ := List.map_eq_append_iff.mp h
  obtain ⟨r, after, rfl, hr, hafter⟩ := List.map_eq_cons_iff.mp hrest
  have hlength : before.length = n := by
    simpa using congrArg List.length hbefore
  have hdrop : (before ++ r :: after).drop (n + 1) = after := by
    rw [← hlength, List.drop_append]
    simp
  rw [hdrop]
  refine ⟨before, r, rfl, hr, ?_⟩
  intro r' hr'
  apply List.eq_of_mem_replicate (n := m)
  rw [← hafter]
  exact List.mem_map_of_mem hr'

def OccursAfter {σ α : Type*} (past before : List (Transition σ α))
    (r : Transition σ α) : Prop :=
  ∃ after, past = before ++ r :: after

theorem OccursAfter.snoc {σ α : Type*} {past before : List (Transition σ α)}
    {r : Transition σ α} (h : OccursAfter past before r) (next : Transition σ α) :
    OccursAfter (past ++ [next]) before r := by
  obtain ⟨after, rfl⟩ := h
  exact ⟨after ++ [next], by simp⟩

theorem OccursAfter.last {σ α : Type*} (past : List (Transition σ α))
    (next : Transition σ α) : OccursAfter (past ++ [next]) past next :=
  ⟨[], rfl⟩

theorem OccursAfter.of_getElem? {σ α : Type*} {past : List (Transition σ α)} {n : ℕ}
    {r : Transition σ α} (h : past[n]? = some r) : OccursAfter past (past.take n) r := by
  refine ⟨past.drop (n + 1), ?_⟩
  obtain ⟨hn, rfl⟩ := List.getElem?_eq_some_iff.mp h
  rw [← List.drop_eq_getElem_cons hn, List.take_append_drop]

theorem OccursAfter.of_snoc {σ α : Type*} {past before : List (Transition σ α)}
    {r next : Transition σ α} (h : OccursAfter (past ++ [next]) before r) :
    OccursAfter past before r ∨ before = past ∧ r = next := by
  obtain ⟨after, hsplit⟩ := h
  rcases List.eq_nil_or_concat after with rfl | ⟨after, last, rfl⟩
  · obtain ⟨hbefore, hlast⟩ := List.append_inj' hsplit rfl
    cases hlast
    exact .inr ⟨hbefore.symm, rfl⟩
  · have hsplit' : past ++ [next] = (before ++ r :: after) ++ [last] := by
      simpa using hsplit
    obtain ⟨rfl, -⟩ := List.append_inj' hsplit' rfl
    exact .inl ⟨after, rfl⟩

theorem OccursAfter.mem {σ α : Type*} {past before : List (Transition σ α)}
    {r : Transition σ α} (h : OccursAfter past before r) : r ∈ past := by
  obtain ⟨after, rfl⟩ := h
  simp

theorem OccursAfter.compare {σ α : Type*}
    {past before before' : List (Transition σ α)} {r r' : Transition σ α}
    (h : OccursAfter past before r) (h' : OccursAfter past before' r') :
    before = before' ∨ r ∈ before' ∨ r' ∈ before := by
  obtain ⟨after, rfl⟩ := h
  obtain ⟨after', hsplit⟩ := h'
  rcases List.append_eq_append_iff.mp hsplit with
    ⟨gap, rfl, hgap⟩ | ⟨gap, rfl, hgap⟩
  · cases gap with
    | nil => exact .inl (List.append_nil _).symm
    | cons first gap =>
        cases hgap
        exact .inr (.inl (by simp))
  · cases gap with
    | nil => exact .inl (List.append_nil _)
    | cons first gap =>
        cases hgap
        exact .inr (.inr (by simp))

theorem OccursAfter.mem_of_mem_before {σ α : Type*}
    {past before : List (Transition σ α)} {r r' : Transition σ α}
    (h : OccursAfter past before r) (hr : r' ∈ before) : r' ∈ past := by
  obtain ⟨after, rfl⟩ := h
  exact List.mem_append_left _ hr

def LastWith {σ α : Type*} (P : Transition σ α → Prop) (past : List (Transition σ α))
    (r : Transition σ α) : Prop :=
  ∃ before after, past = before ++ r :: after ∧ P r ∧ ∀ r' ∈ after, ¬ P r'

theorem LastWith.last {σ α : Type*} {P : Transition σ α → Prop}
    (past : List (Transition σ α)) {r : Transition σ α} (h : P r) :
    LastWith P (past ++ [r]) r :=
  ⟨past, [], rfl, h, by simp⟩

theorem LastWith.of_snoc {σ α : Type*} {P : Transition σ α → Prop}
    {past : List (Transition σ α)} {r next : Transition σ α}
    (h : LastWith P (past ++ [next]) r) :
    P next ∧ r = next ∨ ¬ P next ∧ LastWith P past r := by
  obtain ⟨before, after, hsplit, hr, hafter⟩ := h
  rcases List.eq_nil_or_concat after with rfl | ⟨after, last, rfl⟩
  · obtain ⟨-, hlast⟩ := List.append_inj' hsplit rfl
    cases hlast
    exact .inl ⟨hr, rfl⟩
  · have hsplit' : past ++ [next] = (before ++ r :: after) ++ [last] := by
      simpa using hsplit
    obtain ⟨rfl, hlast⟩ := List.append_inj' hsplit' rfl
    cases hlast
    exact .inr ⟨hafter _ (by simp), before, after, rfl, hr,
      fun r' hr' => hafter r' (by simp [hr'])⟩

end WorldlandBroker.Foundation
