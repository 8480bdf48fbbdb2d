import WorldlandBroker.ControlPlane.Searches

/-!
# The GPU model of a placed job

A successful `CreateJob` that names a GPU type debits the pool of one model and
writes that model on the pod.  It is the first GPU of the provider, and only one of
the three ways to choose the provider looks at the type that was named.
-/

namespace WorldlandBroker.ControlPlane

open Foundation Provider Job

def Debits (o o' : Registry) (model : String) : Prop :=
  ∃ id q q', o id = some q ∧ o' id = some q' ∧ q'.capacity.inUse model ≠ q.capacity.inUse model

structure SoundPlacement {K : QuantityAPI} (toLower : Char → Char) (gpuType : String)
    (o o' : Registry) (pod : Pod K) : Prop where
  recorded : containsModel toLower pod.gpuModel gpuType = true
  debited : ∀ model, Debits o o' model → containsModel toLower model gpuType = true

/--
A provider that is named has the type first; one found in memory has a GPU at all;
a row contains the type that it matched.
-/
def SelectsModel (toLower : Char → Char) (o : Registry) (source : Source)
    (req : CreateJobRequest) : Prop :=
  if req.providerID ≠ "" then
    ∀ p, o req.providerID = some p →
      containsModel toLower (firstGPUName p.spec) req.gpuType = true
  else
    match source with
    | .memory order => ∀ id p rest,
        search toLower o (.memory order) req.gpuType = .ok ((id, p) :: rest) → p.spec.gpus ≠ []
    | .database answer => ∀ row rest, answer = .ok (row :: rest) →
        containsModel toLower row.gpuModel req.gpuType = true

variable {K : QuantityAPI} {toLower : Char → Char} {o o' : Registry} {source : Source}
  {nodes : String → Option ℤ} {user : String} {req : CreateJobRequest} {t : CreateThread}
  {p : ProviderState} {pod : Pod K} {job : ℕ} {now : ℤ} {id gpuType model : String}

private theorem not_contains_empty (toLower : Char → Char) (hset : gpuType ≠ "") :
    containsModel toLower "" gpuType = false := by
  have hchars : gpuType.toList ≠ [] := by
    intro hnil
    exact hset (String.toList_eq_nil_iff.mp hnil)
  simpa [containsModel] using hchars

/-! ## What a placement that went through has chosen -/

def selected (toLower : Char → Char) (o : Registry) (source : Source) (req : CreateJobRequest) :
    Option (String × ProviderState) :=
  if req.providerID ≠ "" then (o req.providerID).map (req.providerID, ·)
  else firstFound (search toLower o source req.gpuType)

theorem findProvider_eq_ok (htype : req.gpuType ≠ "")
    {found : Option (String × ProviderState)}
    (h : State.findProvider o req (firstFound (search toLower o source req.gpuType)) =
      .ok found) :
    found ≠ none ∧ selected toLower o source req = found := by
  unfold State.findProvider at h
  unfold selected
  split at h
  · rename_i hid
    rw [if_pos hid]
    cases hp : o req.providerID with
    | none => simp [hp] at h
    | some p =>
        simp only [hp, Except.ok.injEq] at h
        rw [← h]
        exact ⟨Option.some_ne_none _, rfl⟩
  · rename_i hid
    rw [if_neg hid]
    cases hfirst : firstFound (search toLower o source req.gpuType) with
    | none => simp [hfirst] at h
    | some first =>
        simp only [hfirst, Except.ok.injEq] at h
        rw [← h]
        exact ⟨Option.some_ne_none _, rfl⟩

theorem placeJob_eq_ok (htype : req.gpuType ≠ "")
    (hplaced : placeJob toLower o source nodes user req = .ok (t, o')) :
    ∃ id p q, selected toLower o source req = some (id, p) ∧ o id = some q ∧
      t.gpuModel = firstGPUName p.spec ∧ t.req = req ∧
      o' = o.setCapacity id q (Provider.allocateResources q.spec q.capacity
        (requestAllocation req (firstGPUName p.spec))).2 := by
  unfold placeJob at hplaced
  simp only [State.acceptRequest] at hplaced
  cases hfind : State.findProvider o req
      (firstFound (search toLower o source req.gpuType)) with
  | error message => simp [hfind] at hplaced
  | ok found =>
      obtain ⟨hsome, hselected⟩ := findProvider_eq_ok htype hfind
      obtain ⟨⟨id, p⟩, rfl⟩ := Option.ne_none_iff_exists'.mp hsome
      simp only [hfind] at hplaced
      cases hcheck : checkProvider p req (nodes p.spec.hostname) with
      | error message => simp [hcheck] at hplaced
      | ok =>
          simp only [hcheck, Registry.allocateResources, CreateThread.allocation] at hplaced
          cases hq : o id with
          | none => simp [hq] at hplaced
          | some q =>
              simp only [hq] at hplaced
              refine ⟨id, p, q, hselected, hq, ?_⟩
              split at hplaced
              · contradiction
              · rename_i hgranted
                cases hplaced
                refine ⟨rfl, rfl, ?_⟩
                exact (Prod.mk.inj hgranted).2.symm

private theorem debited_model {q : ProviderState} (hq : o id = some q)
    (ho' : o' = o.setCapacity id q (Provider.allocateResources q.spec q.capacity
      (requestAllocation req gpuType)).2) (hdebits : Debits o o' model) :
    model = resolveGPUType q.spec gpuType := by
  obtain ⟨id', r, r', hr, hr', hchanged⟩ := hdebits
  rw [ho', Registry.setCapacity] at hr'
  by_cases hid : id' = id
  · subst hid
    rw [Function.update_self] at hr'
    cases hr'
    cases hr.symm.trans hq
    have hcount := (requestAllocation_gpuCount_pos req gpuType).le
    have hinUse := (allocateResources_allocation q.spec q.capacity
      (requestAllocation req gpuType)).inUse hcount model
    by_contra hother
    refine hchanged (hinUse.trans ?_)
    have hmoved : moved (resolveGPUType q.spec gpuType) (requestAllocation req gpuType)
        (Provider.allocateResources q.spec q.capacity (requestAllocation req gpuType)).1
        model = 0 := by
      unfold moved
      split
      · exact if_neg hother
      · rfl
    change _ + moved (resolveGPUType q.spec gpuType) _ _ _ = _
    rw [hmoved, add_zero]
  · rw [Function.update_of_ne hid] at hr'
    cases hr.symm.trans hr'
    exact absurd rfl hchanged

theorem soundPlacement_iff (htype : req.gpuType ≠ "")
    (hplaced : placeJob toLower o source nodes user req = .ok (t, o'))
    (hpod : buildGPUPod K job t.user (t.provider.getD "") t.gpuModel t.req now = some pod) :
    SoundPlacement toLower req.gpuType o o' pod ↔
      ∃ id p, selected toLower o source req = some (id, p) ∧
        containsModel toLower (firstGPUName p.spec) req.gpuType = true := by
  obtain ⟨id, p, q, hselected, hq, hmodel, -, ho'⟩ := placeJob_eq_ok htype hplaced
  obtain ⟨-, -, hrecorded, -⟩ := buildGPUPod_eq_some hpod
  rw [hmodel] at hrecorded
  constructor
  · intro h
    exact ⟨id, p, hselected, hrecorded ▸ h.recorded⟩
  · rintro ⟨id', p', hselected', hcontains⟩
    cases hselected.symm.trans hselected'
    refine ⟨hrecorded ▸ hcontains, fun model hdebits => ?_⟩
    have hnamed : firstGPUName p.spec ≠ "" := by
      intro hempty
      rw [hempty, not_contains_empty toLower htype] at hcontains
      contradiction
    rw [debited_model hq ho' hdebits, resolveGPUType, if_neg hnamed]
    exact hcontains

/-! ## What each way of choosing says about the type -/

private theorem firstGPUName_scanProvider (row : ProviderRow) :
    firstGPUName (scanProvider row).spec = row.gpuModel := by
  by_cases hmodel : row.gpuModel = ""
  · simp [scanProvider, firstGPUName, hmodel]
  · simp [scanProvider, firstGPUName, hmodel]

private theorem contains_iff_gpus (htype : gpuType ≠ "")
    (hpasses : passesModel toLower p gpuType = true) :
    containsModel toLower (firstGPUName p.spec) gpuType = true ↔ p.spec.gpus ≠ [] := by
  unfold passesModel at hpasses
  unfold firstGPUName
  cases hgpus : p.spec.gpus with
  | nil => simp [not_contains_empty toLower htype]
  | cons gpu gpus =>
      rw [hgpus] at hpasses
      simpa [htype] using hpasses

private theorem first_row {answer : Except String (List ProviderRow)} {gpuType : String}
    {rest : List (String × ProviderState)}
    (hsearch : search toLower o (.database answer) gpuType = .ok ((id, p) :: rest)) :
    ∃ row later, answer = .ok (row :: later) ∧ p = scanProvider row := by
  cases answer with
  | error message => cases hsearch
  | ok rows =>
      cases rows with
      | nil => cases hsearch
      | cons row later =>
          cases hsearch
          exact ⟨row, later, rfl, rfl⟩

/--
The model of a placed job contains the type that was named exactly when the way its
provider was chosen makes it so.
-/
theorem placement_sound_iff (htype : req.gpuType ≠ "")
    (hplaced : placeJob toLower o source nodes user req = .ok (t, o'))
    (hpod : buildGPUPod K job t.user (t.provider.getD "") t.gpuModel t.req now = some pod) :
    SoundPlacement toLower req.gpuType o o' pod ↔ SelectsModel toLower o source req := by
  rw [soundPlacement_iff htype hplaced hpod]
  obtain ⟨id, p, q, hselected, -⟩ := placeJob_eq_ok htype hplaced
  have hcontains : (∃ id' p', selected toLower o source req = some (id', p') ∧
      containsModel toLower (firstGPUName p'.spec) req.gpuType = true) ↔
        containsModel toLower (firstGPUName p.spec) req.gpuType = true := by
    rw [hselected]
    simp
  rw [hcontains]
  unfold SelectsModel
  unfold selected at hselected
  by_cases hid : req.providerID ≠ ""
  · rw [if_pos hid] at hselected ⊢
    obtain ⟨p', hp', heq⟩ := Option.map_eq_some_iff.mp hselected
    cases heq
    simp [hp']
  · rw [if_neg hid] at hselected ⊢
    obtain ⟨rest, hsearch⟩ := firstFound_eq_some.mp hselected
    cases source with
    | memory order =>
        obtain ⟨-, hpasses⟩ := first_of_memory hsearch
        rw [contains_iff_gpus htype hpasses]
        constructor
        · intro hgpus id' p' rest' hsearch'
          cases hsearch.symm.trans hsearch'
          exact hgpus
        · intro h
          exact h id p rest hsearch
    | database answer =>
        obtain ⟨row, later, rfl, rfl⟩ := first_row hsearch
        rw [firstGPUName_scanProvider]
        constructor
        · intro hrow row' later' heq
          cases heq
          exact hrow
        · intro h
          exact h row later rfl

theorem database_selects {lower : Char → Char} {rows : List ProviderRow}
    {answer : Except String (List ProviderRow)} (hid : req.providerID = "")
    (hpercent : lower '%' = '%') (hplain : (req.gpuType.toList.map lower).all isPlain = true)
    (hanswers : (Source.database answer).Answers (ilike lower) o rows req.gpuType) :
    SelectsModel lower o (.database answer) req := by
  unfold SelectsModel
  rw [if_neg (not_not.mpr hid)]
  rintro row later rfl
  have hsearch : search lower o (.database (.ok (row :: later))) req.gpuType =
      .ok ((row.providerID, scanProvider row) ::
        later.map fun row => (row.providerID, scanProvider row)) := rfl
  obtain ⟨-, row', -, hmatch, hfirst, -⟩ := first_of_database hanswers hsearch
  have hname : row.gpuModel = row'.gpuModel := by
    have hscanned := congrArg (fun first => firstGPUName first.2.spec) hfirst
    simpa only [firstGPUName_scanProvider] using hscanned
  rw [hname, ← ilike_anywhere_iff rfl rfl hpercent hplain]
  exact hmatch

/-! ## A type that is found and one that is passed over -/

theorem placement_sound_sample :
    ∃ t o' pod, placeJob Char.toLower teslaRegistry teslaSource unanswered "u1"
        (teslaRequest 4) = .ok (t, o') ∧
      buildGPUPod sampleQuantities 0 t.user (t.provider.getD "") t.gpuModel t.req 0 = some pod ∧
      SoundPlacement Char.toLower "T4" teslaRegistry o' pod := by
  have hfirst : FirstSuits Char.toLower teslaRegistry teslaSource unanswered
      (teslaRequest 4) := by
    refine ⟨"a", scanProvider (createRow "a" (tesla "node-a" 5) (1 / 2)), [],
      tesla "node-a" 5, rfl, rfl, ?_⟩
    decide +kernel
  have haccepted : ∃ t o', placeJob Char.toLower teslaRegistry teslaSource unanswered "u1"
      (teslaRequest 4) = .ok (t, o') := (accepted_iff rfl (by decide)).mpr hfirst
  obtain ⟨t, o', hplaced⟩ := haccepted
  obtain ⟨-, -, -, -, -, -, hreq, -⟩ := placeJob_eq_ok (by decide) hplaced
  obtain ⟨pod, hpod⟩ : ∃ pod, buildGPUPod sampleQuantities 0 t.user (t.provider.getD "")
      t.gpuModel t.req 0 = some pod := by
    rw [hreq]
    exact ⟨_, rfl⟩
  refine ⟨t, o', pod, hplaced, hpod, (placement_sound_iff (by decide) hplaced hpod).mpr ?_⟩
  intro row later heq
  cases heq
  decide +kernel

def namedRequest : CreateJobRequest := { teslaRequest 4 with providerID := "a", gpuType := "A100" }

/-- The provider that is named has no such GPU. -/
theorem named_provider_unsound :
    ¬ ∀ (K : QuantityAPI) (toLower : Char → Char) (o o' : Registry) (source : Source)
        (nodes : String → Option ℤ) (user : String) (req : CreateJobRequest) (t : CreateThread)
        (job : ℕ) (now : ℤ) (pod : Pod K),
      req.gpuType ≠ "" → placeJob toLower o source nodes user req = .ok (t, o') →
      buildGPUPod K job t.user (t.provider.getD "") t.gpuModel t.req now = some pod →
        SoundPlacement toLower req.gpuType o o' pod := by
  intro hall
  have hplaced : ∃ t o', placeJob Char.toLower teslaRegistry teslaSource unanswered "u1"
      namedRequest = .ok (t, o') ∧ t.gpuModel = "Tesla T4" ∧ t.req = namedRequest :=
    ⟨_, _, rfl, rfl, rfl⟩
  obtain ⟨t, o', hplaced, hmodel, hreq⟩ := hplaced
  obtain ⟨pod, hpod⟩ : ∃ pod, buildGPUPod sampleQuantities 0 t.user (t.provider.getD "")
      t.gpuModel t.req 0 = some pod := by
    rw [hreq]
    exact ⟨_, rfl⟩
  have hsound := hall sampleQuantities Char.toLower teslaRegistry o' teslaSource unanswered
    "u1" namedRequest t 0 0 pod (by decide) hplaced hpod
  have hrecorded := hsound.recorded
  rw [(buildGPUPod_eq_some hpod).2.2.1, hmodel] at hrecorded
  revert hrecorded
  decide +kernel

end WorldlandBroker.ControlPlane
