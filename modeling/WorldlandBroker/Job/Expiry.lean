import WorldlandBroker.ControlPlane.Step
import WorldlandBroker.Foundation.TimeText
import WorldlandBroker.Job.Numeral

/-!
# When a job expires

The job manager writes the end of a job into an annotation of its pod, and the
sweeper reads it back before it compares it with the clock.  The duration is
multiplied in 64 bits on the way, and a text that does not read stands for no
expiry at all.
-/

namespace WorldlandBroker.Job

open Foundation Provider

def unixEpoch : ℤ := 62135596800

/-- `time.Time{}`, in nanoseconds like every instant of the program. -/
def zeroTime : ℤ := -(unixEpoch * 10 ^ 9)

/-- `time.Now().Add(time.Duration(req.Duration) * time.Hour).Format(time.RFC3339)` -/
def expiresAtText (zone : Zone) (now duration : ℤ) : String :=
  String.ofList (zone.text
    ((now + wrapInt64 (duration * 3600 * 10 ^ 9)) / 10 ^ 9 + unixEpoch))

def parseExpiresAt (expiresAtStr : String) : ℤ :=
  if expiresAtStr ≠ "" then
    match readInstant expiresAtStr.toList with
    | some t => t + zeroTime
    | none => zeroTime
  else zeroTime

def buildAnnotatedPod (K : QuantityAPI) (zone : Zone) (uid : ℕ)
    (user providerID gpuModel : String) (req : CreateJobRequest) (now : ℤ) :
    Option (Pod K × String) :=
  (buildGPUPod K uid user providerID gpuModel req now).map fun pod =>
    (pod, expiresAtText zone now req.duration)

variable {K : QuantityAPI}

theorem buildAnnotatedPod_eq_some (zone : Zone) {uid : ℕ}
    {user providerID gpuModel : String} {req : CreateJobRequest} {now : ℤ} {pod : Pod K}
    (h : buildGPUPod K uid user providerID gpuModel req now = some pod) :
    buildAnnotatedPod K zone uid user providerID gpuModel req now =
      some (pod, expiresAtText zone now req.duration) := by
  rw [buildAnnotatedPod, h, Option.map_some]

def parseAnnotatedPod (pod : Pod K) (expiresAtStr : String) : GPUJobPodInfo :=
  { parsePodToGPUJobInfo pod with expiresAt := parseExpiresAt expiresAtStr }

@[simp] theorem parseAnnotatedPod_expiresAt (pod : Pod K) (expiresAtStr : String) :
    (parseAnnotatedPod pod expiresAtStr).expiresAt = parseExpiresAt expiresAtStr :=
  rfl

@[simp] theorem parseAnnotatedPod_status (pod : Pod K) (expiresAtStr : String) :
    (parseAnnotatedPod pod expiresAtStr).status = pod.phase :=
  rfl

/-- Whether a sweep deletes the job, and the reason it gives. -/
def cleanupDecision (now : ℤ) (info : GPUJobPodInfo) : Bool × String :=
  let expired := info.expiresAt ≠ zeroTime ∧ info.expiresAt < now
  if info.status = "Failed" ∨ info.status = "Succeeded" then (true, info.status)
  else if expired then (true, "expired")
  else (false, "")

/-- But for the zero time, the rest of the model decides alike. -/
theorem cleanupDecision_eq_shouldDelete {now : ℤ} {info : GPUJobPodInfo}
    (h : info.expiresAt ≠ zeroTime) :
    (cleanupDecision now info).1 = ControlPlane.shouldDelete now info := by
  unfold cleanupDecision ControlPlane.shouldDelete
  by_cases hended : info.status = "Failed" ∨ info.status = "Succeeded"
  · rcases hended with hended | hended <;> simp [hended]
  · rw [not_or] at hended
    by_cases hexpired : info.expiresAt < now <;> simp [hended, hexpired, h]

/-! ## What the annotation says -/

def dueSecond (now duration : ℤ) : ℤ := (now + duration * 3600 * 10 ^ 9) / 10 ^ 9

def dueAt (now duration : ℤ) : ℤ := dueSecond now duration * 10 ^ 9

structure DurationHonoured (pod : Pod K) (expiresAtStr : String) (now duration : ℤ) :
    Prop where
  instant : (parseAnnotatedPod pod expiresAtStr).expiresAt = dueAt now duration
  kept : ∀ t phase, phase = "Pending" ∨ phase = "Running" → t < dueAt now duration →
    (cleanupDecision t (parseAnnotatedPod { pod with phase := phase } expiresAtStr)).1 = false

/-- The duration fits, and so does its end, which the zone writes to the minute. -/
structure EndFits (zone : Zone) (now duration : ℤ) : Prop where
  hours : duration ≤ 2562047
  year : (zone.localTime (dueSecond now duration + unixEpoch)).date.year < 10000
  minutes : 60 ∣ zone.offset (dueSecond now duration + unixEpoch)

private theorem parseExpiresAt_eq (expiresAtStr : String) :
    parseExpiresAt expiresAtStr =
      ((readInstant expiresAtStr.toList).map fun t => t + zeroTime).getD zeroTime := by
  unfold parseExpiresAt
  split
  · cases readInstant expiresAtStr.toList <;> rfl
  · rename_i hempty
    rw [not_not.mp hempty]
    rfl

private theorem localYear_pos (zone : Zone) {instant : ℤ} (h : 86400 ≤ instant) :
    0 ≤ (zone.localTime instant).date.year := by
  have habove := zone.above instant
  change 0 ≤ yearOf ((instant + zone.offset instant) / 86400)
  obtain ⟨-, hended⟩ := yearOf_spec ((instant + zone.offset instant) / 86400)
  generalize yearOf ((instant + zone.offset instant) / 86400) = year at hended ⊢
  simp only [daysBefore] at hended
  omega

private theorem parse_zoneText (zone : Zone) (second : ℤ) (h : 86400 ≤ second + unixEpoch) :
    parseExpiresAt (String.ofList (zone.text (second + unixEpoch))) =
      if (zone.localTime (second + unixEpoch)).date.year < 10000 then
        (second + (zone.offset (second + unixEpoch)).tmod 60) * 10 ^ 9
      else zeroTime := by
  rw [parseExpiresAt_eq, String.toList_ofList]
  split
  · rename_i hyear
    rw [readInstant_text zone ⟨localYear_pos zone h, hyear⟩, Option.map_some,
      Option.getD_some, zeroTime]
    ring
  · rename_i hlate
    rw [readInstant_late zone (by omega)]
    rfl

/-- Where nothing is lost, the annotation says what the rest of the model takes from a pod. -/
theorem parse_buildAnnotatedPod {zone : Zone} {uid now : ℕ}
    {user providerID gpuModel expiresAtStr : String} {req : CreateJobRequest} {pod : Pod K}
    (h : buildAnnotatedPod K zone uid user providerID gpuModel req now = some (pod, expiresAtStr))
    (hyear : (zone.localTime ((now + wrapInt64 (req.duration * 3600 * 10 ^ 9)) / 10 ^ 9 +
      unixEpoch)).date.year < 10000)
    (hminutes : 60 ∣ zone.offset ((now + wrapInt64 (req.duration * 3600 * 10 ^ 9)) / 10 ^ 9 +
      unixEpoch)) :
    parseAnnotatedPod pod expiresAtStr = parsePodToGPUJobInfo pod := by
  obtain ⟨built, hbuilt, hpair⟩ := Option.map_eq_some_iff.mp h
  cases hpair
  have hexpires : pod.expiresAt = expiresAt now req.duration := by
    unfold buildGPUPod at hbuilt
    split at hbuilt
    · cases hbuilt
      rfl
    · cases hbuilt
  obtain ⟨hlower, -⟩ := wrapInt64_range (req.duration * 3600 * 10 ^ 9)
  have hread := parse_zoneText zone
    ((now + wrapInt64 (req.duration * 3600 * 10 ^ 9)) / 10 ^ 9) (by simp only [unixEpoch]; omega)
  rw [if_pos hyear, Int.tmod_eq_zero_of_dvd hminutes, add_zero] at hread
  simp only [parseAnnotatedPod, expiresAtText, hread, parsePodToGPUJobInfo, hexpires,
    expiresAt]

/-! ## Durations that are honoured -/

variable {zone : Zone} {now : ℕ} {duration : ℤ}

private theorem instant_of_fits (hduration : 1 ≤ duration) (h : EndFits zone now duration) :
    parseExpiresAt (expiresAtText zone now duration) = dueAt now duration := by
  have hhours := h.hours
  have hwrap : wrapInt64 (duration * 3600 * 10 ^ 9) = duration * 3600 * 10 ^ 9 :=
    wrapInt64_of_fits (by omega) (by omega)
  have hread := parse_zoneText zone (dueSecond now duration)
    (by simp only [unixEpoch, dueSecond]; omega)
  rw [if_pos h.year, Int.tmod_eq_zero_of_dvd h.minutes, add_zero] at hread
  rw [expiresAtText, hwrap]
  exact hread

private theorem fits_of_instant (hduration : 1 ≤ duration)
    (h : parseExpiresAt (expiresAtText zone now duration) = dueAt now duration) :
    EndFits zone now duration := by
  obtain ⟨hlower, hupper⟩ := wrapInt64_range (duration * 3600 * 10 ^ 9)
  have hread := parse_zoneText zone ((now + wrapInt64 (duration * 3600 * 10 ^ 9)) / 10 ^ 9)
    (by simp only [unixEpoch]; omega)
  rw [expiresAtText, hread] at h
  -- no job ends at the zero time, which is long before the clock was started
  have hdue : 0 ≤ dueSecond now duration := by
    unfold dueSecond
    omega
  have hzero : zeroTime ≠ dueAt now duration := by
    unfold zeroTime dueAt unixEpoch
    omega
  split at h
  · rename_i hyear
    generalize hoffset : zone.offset ((now + wrapInt64 (duration * 3600 * 10 ^ 9)) / 10 ^ 9 +
      unixEpoch) = offset at h
    have hseconds : offset.tmod 60 < 60 := Int.tmod_lt_of_pos offset (by decide)
    have hhours : duration ≤ 2562047 := by
      by_contra hlong
      have hsmaller := wrapInt64_of_large (n := duration * 3600 * 10 ^ 9) (by omega)
      unfold dueAt dueSecond at h
      omega
    have hwrap : wrapInt64 (duration * 3600 * 10 ^ 9) = duration * 3600 * 10 ^ 9 :=
      wrapInt64_of_fits (by omega) (by omega)
    rw [hwrap] at hyear hoffset h
    refine ⟨hhours, hyear, ?_⟩
    have hwhole : offset.tmod 60 = 0 := by
      unfold dueAt dueSecond at h
      omega
    rw [← hoffset] at hwhole
    exact Int.dvd_of_tmod_eq_zero hwhole
  · exact absurd h hzero

private theorem cleanupDecision_running {t : ℤ} {info : GPUJobPodInfo}
    (hphase : info.status = "Pending" ∨ info.status = "Running") (hbefore : t < info.expiresAt) :
    (cleanupDecision t info).1 = false := by
  have halive : ¬ (info.status = "Failed" ∨ info.status = "Succeeded") := by
    rcases hphase with hphase | hphase <;> simp [hphase]
  have hearly : ¬ info.expiresAt < t := by omega
  simp [cleanupDecision, halive, hearly]

/--
A duration is honoured exactly where it and its end fit: the nanoseconds in 64
bits, the year in four digits and the offset in whole minutes.
-/
theorem duration_honoured_iff {uid : ℕ} {user providerID gpuModel expiresAtStr : String}
    {req : CreateJobRequest} {pod : Pod K}
    (hbuilt : buildAnnotatedPod K zone uid user providerID gpuModel req now =
      some (pod, expiresAtStr))
    (hduration : 1 ≤ req.duration) :
    DurationHonoured pod expiresAtStr now req.duration ↔ EndFits zone now req.duration := by
  obtain ⟨built, -, hpair⟩ := Option.map_eq_some_iff.mp hbuilt
  cases hpair
  constructor
  · intro hhonoured
    have hinstant := hhonoured.instant
    rw [parseAnnotatedPod_expiresAt] at hinstant
    exact fits_of_instant hduration hinstant
  · intro hfits
    have hinstant := instant_of_fits hduration hfits
    refine ⟨by rw [parseAnnotatedPod_expiresAt, hinstant], fun t phase hphase hbefore => ?_⟩
    apply cleanupDecision_running
    · rw [parseAnnotatedPod_status]
      exact hphase
    · rw [parseAnnotatedPod_expiresAt, hinstant]
      exact hbefore

/-! ## A day and three centuries -/

def greenwich : Zone := ⟨fun _ => 0, fun _ => by decide, fun _ => by decide⟩

def hoursRequest (hours : ℤ) : CreateJobRequest := ⟨"p1", "", 2, "8", "16Gi", "", hours⟩

def newYear : ℕ := 1767225600 * 10 ^ 9

theorem duration_honoured_day :
    ∃ pod expiresAtStr,
      buildAnnotatedPod writtenQuantities greenwich 0 "alice" "p1" "RTX 4090" (hoursRequest 24)
        newYear = some (pod, expiresAtStr) ∧
      DurationHonoured pod expiresAtStr newYear 24 := by
  have hbuilt : (buildGPUPod writtenQuantities 0 "alice" "p1" "RTX 4090" (hoursRequest 24)
      newYear).isSome := by decide
  obtain ⟨pod, hpod⟩ := Option.isSome_iff_exists.mp hbuilt
  have hannotated := buildAnnotatedPod_eq_some greenwich hpod
  refine ⟨pod, _, hannotated, (duration_honoured_iff hannotated (by decide)).mpr ?_⟩
  exact ⟨by decide, by decide +kernel, by decide⟩

/-- The end of a job of 292 years is written into the past, and the first sweep deletes it. -/
theorem expired_at_birth :
    ∃ pod expiresAtStr,
      buildAnnotatedPod writtenQuantities greenwich 0 "alice" "p1" "RTX 4090"
        (hoursRequest 2562048) newYear = some (pod, expiresAtStr) ∧
      expiresAtStr = "1733-09-22T00:25:26Z" ∧ pod.phase = "Pending" ∧
      cleanupDecision newYear (parseAnnotatedPod pod expiresAtStr) = (true, "expired") ∧
      ¬ DurationHonoured pod expiresAtStr newYear 2562048 := by
  have hbuilt : (buildGPUPod writtenQuantities 0 "alice" "p1" "RTX 4090"
      (hoursRequest 2562048) newYear).any (fun pod => pod.phase = "Pending") = true := by
    decide +kernel
  obtain ⟨pod, hpod, hphase⟩ := (Option.any_eq_true _ _).mp hbuilt
  have hannotated := buildAnnotatedPod_eq_some greenwich hpod
  have htext : expiresAtText greenwich newYear (hoursRequest 2562048).duration =
      "1733-09-22T00:25:26Z" := by decide +kernel
  have hpending : pod.phase = "Pending" := of_decide_eq_true hphase
  have hpast : parseExpiresAt "1733-09-22T00:25:26Z" = -7456145674 * 10 ^ 9 := by
    decide +kernel
  have hexpired : cleanupDecision newYear (parseAnnotatedPod pod "1733-09-22T00:25:26Z") =
      (true, "expired") := by
    have hdue : -7456145674 * 10 ^ 9 ≠ zeroTime ∧ -7456145674 * 10 ^ 9 < (newYear : ℤ) := by
      decide
    rw [cleanupDecision, parseAnnotatedPod_status, parseAnnotatedPod_expiresAt, hpast,
      hpending, if_neg (by decide), if_pos hdue]
  rw [htext] at hannotated
  refine ⟨pod, _, hannotated, rfl, hpending, hexpired, fun h => ?_⟩
  have hkept := h.kept newYear "Pending" (.inl rfl) (by decide)
  rw [← hpending, hexpired] at hkept
  cases hkept

end WorldlandBroker.Job
