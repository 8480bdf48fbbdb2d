import WorldlandBroker.Foundation.Split
import WorldlandBroker.Job.OutOfMemory
import WorldlandBroker.Sdk.Hardware

/-!
# What the host is scanned for

The scanner of agent/scanner.go reads the printed output of the host's tools and
files, and the capacity that the provider registers is made from what it reads.  A
host that prints what it has in the documented form registers what it has.
-/

namespace WorldlandBroker.Sdk

open Foundation Provider Registration Job

/-! ## Numbers -/

inductive NumError where
  | malformed
  | outOfRange
  deriving DecidableEq

/-- On the digits that follow those of `n`; it ends where they no longer fit. -/
def parseUint (n : ℕ) : List Char → Except NumError ℕ
  | [] => .ok n
  | c :: rest =>
      if c.isDigit = false then .error .malformed
      else if 2 ^ 64 ≤ 10 * n + (c.toNat - '0'.toNat) then .error .outOfRange
      else parseUint (10 * n + (c.toNat - '0'.toNat)) rest

/-- `ParseInt` in base ten and 64 bits; a number out of range comes with the nearest bound. -/
def parseInt (s : String) : ℤ × Option NumError :=
  let (sign, digits) := acceptSign s.toList
  if digits = [] then (0, some .malformed)
  else
    match parseUint 0 digits with
    | .error .malformed => (0, some .malformed)
    | .error .outOfRange => (if sign < 0 then -2 ^ 63 else 2 ^ 63 - 1, some .outOfRange)
    | .ok n =>
        if 0 < sign ∧ 2 ^ 63 ≤ n then (2 ^ 63 - 1, some .outOfRange)
        else if sign < 0 ∧ 2 ^ 63 < n then (-2 ^ 63, some .outOfRange)
        else (sign * n, none)

/-! ## The scanner -/

/-- A GPU as the scanner records it; the ledger uses the name only. -/
structure ScannedGPU where
  index : ℤ
  name : String
  memoryMB : ℤ
  uuid : String
  driverVer : String
  pciBusID : String
  cudaVersion : String
  deriving DecidableEq

structure ScannedSpec where
  hostname : String
  cpuModel : String
  cpuCores : ℤ
  cpuThreads : ℤ
  totalMemoryMB : ℤ
  gpus : List ScannedGPU
  totalGPUs : ℤ
  deriving DecidableEq

structure Host where
  hostname : String
  cpuinfo : Option String
  nproc : Option String
  meminfo : Option String
  nvidiaSmi : Option String
  nvcc : Option String

def maxScanTokenSize : ℕ := 64 * 1024

def dropCR (line : List Char) : List Char :=
  if line.getLast? = some '\r' then line.dropLast else line

/-- The lines of a `bufio.Scanner`, which ends at one that does not fit its buffer. -/
def scannedLines (text : String) : List (List Char) :=
  let pieces := text.toList.splitOn '\n'
  let lines := if pieces.getLast? = some [] then pieces.dropLast else pieces
  (lines.takeWhile fun line => (String.ofList line).utf8ByteSize < maxScanTokenSize).map dropCR

def hasPrefix (start : String) (line : List Char) : Bool := start.toList.isPrefixOf line

/-- The number of cores comes from `nproc`, which is not asked without /proc/cpuinfo. -/
def scanCPUInfo (host : Host) (spec : ScannedSpec) : ScannedSpec :=
  match host.cpuinfo with
  | none => spec
  | some cpuinfo =>
      let lines := scannedLines cpuinfo
      let cpuModel := lines.foldl (fun cpuModel line =>
        if hasPrefix "model name" line then
          match line.dropWhile (· ≠ ':') with
          | [] => cpuModel
          | _ :: value => trimSpace (String.ofList value)
        else cpuModel) spec.cpuModel
      let cpuThreads : ℤ := (lines.countP (hasPrefix "processor") : ℕ)
      let cpuCores :=
        match host.nproc with
        | none => spec.cpuCores
        | some output =>
            match parseInt (trimSpace output) with
            | (cores, none) => cores
            | (_, some _) => spec.cpuCores
      { spec with cpuModel, cpuThreads, cpuCores }

def scanMemoryInfo (host : Host) (spec : ScannedSpec) : ScannedSpec :=
  match host.meminfo with
  | none => spec
  | some meminfo =>
      match (scannedLines meminfo).find? (hasPrefix "MemTotal:") with
      | none => spec
      | some line =>
          match wordsBy isSpace line with
          | _ :: kb :: _ =>
              match parseInt (String.ofList kb) with
              | (kb, none) => { spec with totalMemoryMB := kb.tdiv 1024 }
              | (_, some _) => spec
          | _ => spec

/-- A match of `release (\d+\.\d+)` at the start of the text. -/
def releaseHere (text : List Char) : Option String :=
  if hasPrefix "release " text then
    let after := text.drop 8
    let major := after.takeWhile Char.isDigit
    match after.dropWhile Char.isDigit with
    | '.' :: rest =>
        let minor := rest.takeWhile Char.isDigit
        if major = [] ∨ minor = [] then none else some (String.ofList (major ++ '.' :: minor))
    | _ => none
  else none

def firstRelease : List Char → Option String
  | [] => none
  | c :: rest =>
      match releaseHere (c :: rest) with
      | some version => some version
      | none => firstRelease rest

def cudaVersion (nvcc : Option String) : String :=
  ((nvcc.map String.toList).bind firstRelease).getD ""

/-- Numbers that do not parse are kept as they come, without their error. -/
def scanGPULine (nvcc : Option String) (line : List Char) : Option ScannedGPU :=
  match (splitAt ", ".toList line).map String.ofList with
  | index :: name :: memory :: uuid :: driver :: bus :: _ =>
      some {
        index := (parseInt (trimSpace index)).1
        name := trimSpace name
        memoryMB := (parseInt (trimSpace memory)).1
        uuid := trimSpace uuid
        driverVer := trimSpace driver
        pciBusID := trimSpace bus
        cudaVersion := cudaVersion nvcc }
  | _ => none

def scanGPUInfo (host : Host) (spec : ScannedSpec) : ScannedSpec :=
  match host.nvidiaSmi with
  | none => spec
  | some output =>
      let lines := (trimSpace output).toList.splitOn '\n'
      let gpus := spec.gpus ++ lines.filterMap (scanGPULine host.nvcc)
      { spec with gpus, totalGPUs := gpus.length }

def scan (host : Host) : ScannedSpec :=
  scanGPUInfo host (scanMemoryInfo host (scanCPUInfo host ⟨host.hostname, "", 0, 0, 0, [], 0⟩))

def ScannedSpec.systemSpec (spec : ScannedSpec) : SystemSpec where
  hostname := spec.hostname
  cpuCores := spec.cpuCores
  totalMemoryMB := spec.totalMemoryMB
  gpus := spec.gpus.map fun gpu => ⟨gpu.name⟩
  totalGPUs := spec.totalGPUs

example : (scanGPULine (some "Cuda compilation tools, release 12.4, V12.4.131")
    "0, Tesla T4, 15360, GPU-1, 550.54, 00000000:01:00.0".toList) =
    some ⟨0, "Tesla T4", 15360, "GPU-1", "550.54", "00000000:01:00.0", "12.4"⟩ := by
  decide +kernel

/-! ## Numbers read back -/

private theorem le_ofDigitChars (digits : List Char) (n : ℕ) :
    n ≤ Nat.ofDigitChars 10 digits n := by
  have hpow : 1 ≤ 10 ^ digits.length := Nat.one_le_pow _ _ (by decide)
  rw [Nat.ofDigitChars_eq_ofDigitChars_zero]
  calc n = 1 * n := (Nat.one_mul n).symm
    _ ≤ 10 ^ digits.length * n := Nat.mul_le_mul_right n hpow
    _ ≤ 10 ^ digits.length * n + Nat.ofDigitChars 10 digits 0 := Nat.le_add_right _ _

/-- The digits before any other one make a smaller number, so none of them is too large. -/
theorem parseUint_digits {digits : List Char} (hdigits : ∀ c ∈ digits, c.isDigit = true) (n : ℕ)
    (hfits : Nat.ofDigitChars 10 digits n < 2 ^ 64) :
    parseUint n digits = .ok (Nat.ofDigitChars 10 digits n) := by
  induction digits generalizing n with
  | nil => rfl
  | cons c digits ih =>
      rw [Nat.ofDigitChars_cons] at hfits ⊢
      have hc := hdigits c List.mem_cons_self
      have hsmall := lt_of_le_of_lt (le_ofDigitChars digits _) hfits
      rw [parseUint, if_neg (by simp [hc]), if_neg (not_le.mpr hsmall)]
      exact ih (fun d hd => hdigits d (List.mem_cons_of_mem _ hd)) _ hfits

private theorem parseUint_toDigits {n : ℕ} (hfits : n < 2 ^ 64) :
    parseUint 0 (Nat.toDigits 10 n) = .ok n := by
  have hparse := parseUint_digits (fun c hc => isDigit_of_mem_toDigits (n := n) hc) 0
    (by rwa [Nat.ofDigitChars_ten_toDigits])
  rwa [Nat.ofDigitChars_ten_toDigits] at hparse

private theorem parseInt_decimal {n : ℤ} (hlow : -2 ^ 63 ≤ n) (hhigh : n < 2 ^ 63) :
    parseInt (decimal n) = (n, none) := by
  have hsome : Nat.toDigits 10 n.natAbs ≠ [] := Nat.toDigits_ne_nil
  have hparse : parseUint 0 (Nat.toDigits 10 n.natAbs) = .ok n.natAbs :=
    parseUint_toDigits (by omega)
  by_cases hnegative : n < 0
  · have hsign : acceptSign (decimal n).toList = (-1, Nat.toDigits 10 n.natAbs) := by
      rw [toList_decimal_signed, if_pos hnegative]
      rfl
    simp only [parseInt, hsign, hparse, if_neg hsome]
    rw [if_neg (by omega), if_neg (by omega)]
    exact Prod.ext (by simp only []; omega) rfl
  · have hsign : acceptSign (decimal n).toList = (1, Nat.toDigits 10 n.natAbs) := by
      rw [toList_decimal_signed, if_neg hnegative, acceptSign_toDigits]
    simp only [parseInt, hsign, hparse, if_neg hsome]
    rw [if_neg (by omega), if_neg (by omega)]
    exact Prod.ext (by simp only []; omega) rfl

/-! ## Text without white space around it -/

def Opens (text : List Char) : Prop := ∃ c ∈ text.head?, isSpace c = false

def Closes (text : List Char) : Prop := ∃ c ∈ text.getLast?, isSpace c = false

theorem Opens.of_start {first text : List Char} (h : Opens first) (hstart : first <+: text) :
    Opens text := by
  obtain ⟨c, hc, hspace⟩ := h
  obtain ⟨rest, rfl⟩ := hstart
  exact ⟨c, by rw [List.head?_append, hc]; rfl, hspace⟩

theorem Closes.of_suffix {last text : List Char} (h : Closes last) (hsuffix : last <:+ text) :
    Closes text := by
  obtain ⟨c, hc, hspace⟩ := h
  obtain ⟨front, rfl⟩ := hsuffix
  exact ⟨c, by rw [List.getLast?_append, hc]; rfl, hspace⟩

private theorem opens_decimal (n : ℤ) : Opens (decimal n).toList := by
  obtain ⟨c, text, hdigits, hc⟩ := toDigits_eq_cons n.natAbs
  rw [toList_decimal_signed, hdigits]
  split
  · exact ⟨'-', rfl, by decide⟩
  · exact ⟨c, rfl, isSpace_of_isDigit hc⟩

private theorem closes_of_trimSpace {s : String} (htrimmed : trimSpace s = s) (hsome : s ≠ "") :
    Closes s.toList := by
  have hreverse : s.toList.reverse =
      (s.toList.dropWhile isSpace).reverse.dropWhile isSpace := by
    rw [← List.reverse_reverse (List.dropWhile _ _), List.reverse_inj]
    have hlist := congrArg String.toList htrimmed
    rw [trimSpace, String.toList_ofList] at hlist
    exact hlist.symm
  have hlast := List.head?_dropWhile_not isSpace (s.toList.dropWhile isSpace).reverse
  rw [← hreverse, List.head?_reverse] at hlast
  cases hcase : s.toList.getLast? with
  | none => exact absurd (by simpa using hcase) hsome
  | some c =>
      rw [hcase] at hlast
      exact ⟨c, hcase, by simpa using hlast⟩

private theorem dropWhile_opens {text : List Char} (h : Opens text) :
    text.dropWhile isSpace = text := by
  obtain ⟨c, hc, hspace⟩ := h
  cases text with
  | nil => cases hc
  | cons d text =>
      cases hc
      rw [List.dropWhile_cons, hspace, if_neg (by decide)]

private theorem trimSpace_line {text : List Char} (hopens : Opens text) (hcloses : Closes text) :
    trimSpace (String.ofList (text ++ ['\n'])) = String.ofList text := by
  have hreversed : Opens text.reverse := by
    obtain ⟨c, hc, hspace⟩ := hcloses
    exact ⟨c, by rwa [List.head?_reverse], hspace⟩
  rw [trimSpace, String.toList_ofList,
    dropWhile_opens (hopens.of_start (List.prefix_append _ _)), List.reverse_append,
    List.reverse_singleton, List.singleton_append, List.dropWhile_cons_of_pos (by decide),
    dropWhile_opens hreversed, List.reverse_reverse]

/-! ## A host in the documented form -/

structure PlainField (s : String) : Prop where
  oneLine : '\n' ∉ s.toList
  separate : ¬ ", ".toList <:+: s.toList
  trimmed : trimSpace s = s

def ScannedGPU.fields (gpu : ScannedGPU) : List String :=
  [decimal gpu.index, gpu.name, decimal gpu.memoryMB, gpu.uuid, gpu.driverVer, gpu.pciBusID]

/-- As `nvidia-smi` prints a GPU in the format `csv,noheader,nounits`. -/
def ScannedGPU.printed (gpu : ScannedGPU) : List Char :=
  ", ".toList.intercalate (gpu.fields.map String.toList)

structure ScannedGPU.Printable (gpu : ScannedGPU) : Prop where
  index : inInt64 gpu.index = true
  memory : inInt64 gpu.memoryMB = true
  name : PlainField gpu.name
  uuid : PlainField gpu.uuid
  driver : PlainField gpu.driverVer
  bus : PlainField gpu.pciBusID
  located : gpu.pciBusID ≠ ""

def printedGPUs (gpus : List ScannedGPU) : String :=
  String.ofList (ended '\n' (gpus.map ScannedGPU.printed))

variable {gpu : ScannedGPU} {gpus : List ScannedGPU}

private theorem mem_decimal {n : ℤ} {c : Char} (hc : c ∈ (decimal n).toList) :
    c = '-' ∨ c.isDigit = true := by
  rw [toList_decimal_signed] at hc
  split at hc
  · rcases List.mem_cons.mp hc with rfl | hdigit
    · exact .inl rfl
    · exact .inr (isDigit_of_mem_toDigits hdigit)
  · exact .inr (isDigit_of_mem_toDigits hc)

private theorem plainField_decimal (n : ℤ) : PlainField (decimal n) where
  oneLine hc := by
    rcases mem_decimal hc with h | h
    · exact absurd h (by decide)
    · exact absurd h (by decide)
  separate hwithin := by
    rcases mem_decimal (hwithin.subset (show ',' ∈ ", ".toList by decide)) with h | h
    · exact absurd h (by decide)
    · exact absurd h (by decide)
  trimmed := by
    have htrimmed := trimSpace_printed n (show "" ∈ printedSuffixes by decide)
    rwa [String.append_empty] at htrimmed

theorem ScannedGPU.Printable.fields (h : gpu.Printable) : ∀ s ∈ gpu.fields, PlainField s := by
  intro s hs
  simp only [ScannedGPU.fields, List.mem_cons, List.not_mem_nil, or_false] at hs
  rcases hs with rfl | rfl | rfl | rfl | rfl | rfl
  · exact plainField_decimal _
  · exact h.name
  · exact plainField_decimal _
  · exact h.uuid
  · exact h.driver
  · exact h.bus

theorem ScannedGPU.Printable.oneLine (h : gpu.Printable) : '\n' ∉ gpu.printed := by
  apply notMem_intercalate (by decide)
  intro piece hpiece
  obtain ⟨s, hs, rfl⟩ := List.mem_map.mp hpiece
  exact (h.fields s hs).oneLine

theorem ScannedGPU.opens (gpu : ScannedGPU) : Opens gpu.printed :=
  (opens_decimal gpu.index).of_start (prefix_intercalate _ _ _)

theorem ScannedGPU.Printable.closes (h : gpu.Printable) : Closes gpu.printed :=
  (closes_of_trimSpace h.bus.trimmed h.located).of_suffix
    (suffix_intercalate _ ((gpu.fields.map String.toList).take 5) _)

/-- The scanner reads a GPU back from the line that lists it. -/
theorem scanGPULine_printed (nvcc : Option String) (h : gpu.Printable) :
    scanGPULine nvcc gpu.printed = some { gpu with cudaVersion := cudaVersion nvcc } := by
  obtain ⟨hindexLow, hindexHigh⟩ : -2 ^ 63 ≤ gpu.index ∧ gpu.index < 2 ^ 63 := by
    simpa [inInt64] using h.index
  obtain ⟨hmemoryLow, hmemoryHigh⟩ : -2 ^ 63 ≤ gpu.memoryMB ∧ gpu.memoryMB < 2 ^ 63 := by
    simpa [inInt64] using h.memory
  have hcut : splitAt ", ".toList gpu.printed = gpu.fields.map String.toList := by
    apply splitAt_intercalate (by decide)
    · intro piece hpiece
      obtain ⟨s, hs, rfl⟩ := List.mem_map.mp hpiece
      exact (clean_pair (by decide)).mpr (h.fields s hs).separate
    · simp [ScannedGPU.fields]
  simp only [scanGPULine, hcut, ScannedGPU.fields, List.map_cons, List.map_nil, String.ofList_toList,
    (plainField_decimal _).trimmed, h.name.trimmed, h.uuid.trimmed, h.driver.trimmed,
    h.bus.trimmed, parseInt_decimal hindexLow hindexHigh,
    parseInt_decimal hmemoryLow hmemoryHigh]

private theorem trimSpace_printedGPUs (hprintable : ∀ gpu ∈ gpus, gpu.Printable)
    (hsome : gpus ≠ []) :
    trimSpace (printedGPUs gpus) =
      String.ofList (['\n'].intercalate (gpus.map ScannedGPU.printed)) := by
  rw [printedGPUs, ended_eq_intercalate (by simpa using hsome)]
  apply trimSpace_line
  · cases gpus with
    | nil => exact absurd rfl hsome
    | cons gpu gpus => exact gpu.opens.of_start (prefix_intercalate _ _ _)
  · obtain ⟨front, last, rfl⟩ := (List.eq_nil_or_concat gpus).resolve_left hsome
    have hlast := hprintable last (by simp)
    rw [List.concat_eq_append, List.map_append]
    exact hlast.closes.of_suffix (suffix_intercalate _ _ _)

private theorem scanGPUInfo_printed {host : Host} {spec : ScannedSpec}
    (hsmi : host.nvidiaSmi = some (printedGPUs gpus))
    (hprintable : ∀ gpu ∈ gpus, gpu.Printable) (hfresh : spec.gpus = []) :
    scanGPUInfo host spec =
      { spec with
        gpus := gpus.map fun gpu => { gpu with cudaVersion := cudaVersion host.nvcc }
        totalGPUs := gpus.length } := by
  have hread : ((trimSpace (printedGPUs gpus)).toList.splitOn '\n').filterMap
      (scanGPULine host.nvcc) =
        gpus.map fun gpu => { gpu with cudaVersion := cudaVersion host.nvcc } := by
    by_cases hsome : gpus = []
    · have hnone : (trimSpace (printedGPUs [])).toList.splitOn '\n' = [[]] := by decide +kernel
      rw [hsome, hnone]
      rfl
    · rw [trimSpace_printedGPUs hprintable hsome, String.toList_ofList, List.splitOn_intercalate]
      · rw [List.filterMap_map]
        exact List.filterMap_eq_map_iff_forall_eq_some.mpr fun gpu hgpu =>
          scanGPULine_printed host.nvcc (hprintable gpu hgpu)
      · intro line hline
        obtain ⟨gpu, hgpu, rfl⟩ := List.mem_map.mp hline
        exact (hprintable gpu hgpu).oneLine
      · simpa using hsome
  simp only [scanGPUInfo, hsmi, hfresh, hread, List.nil_append, List.length_map]

structure FileLine (line : List Char) : Prop where
  oneLine : '\n' ∉ line
  bare : line.getLast? ≠ some '\r'
  fits : (String.ofList line).utf8ByteSize < maxScanTokenSize

def fileOf (lines : List (List Char)) : String := String.ofList (ended '\n' lines)

private theorem scannedLines_fileOf {lines : List (List Char)} (h : ∀ line ∈ lines, FileLine line) :
    scannedLines (fileOf lines) = lines := by
  have hpieces : (fileOf lines).toList.splitOn '\n' = lines ++ [[]] := by
    rw [fileOf, String.toList_ofList]
    exact splitOn_ended fun line hline => (h line hline).oneLine
  have hfit : ∀ line ∈ lines, decide ((String.ofList line).utf8ByteSize < maxScanTokenSize) = true :=
    fun line hline => decide_eq_true (h line hline).fits
  have hbare : lines.map dropCR = lines := by
    have hsame : ∀ line ∈ lines, dropCR line = line := fun line hline =>
      if_neg (h line hline).bare
    rw [List.map_congr_left hsame, List.map_id']
  simp only [scannedLines, hpieces, List.getLast?_concat, if_true, List.dropLast_concat,
    List.takeWhile_eq_self_iff.mpr hfit, hbare]

def memTotalLine (spaces : List Char) (memoryKB : ℤ) : List Char :=
  "MemTotal:".toList ++ (spaces ++ ((decimal memoryKB).toList ++ [' ', 'k', 'B']))

structure Machine where
  hostname : String
  cores : ℤ
  memoryKB : ℤ
  gpus : List ScannedGPU

structure ShowsMemory (meminfo : String) (memoryKB : ℤ) (before : List (List Char))
    (spaces : List Char) (after : List (List Char)) : Prop where
  file : meminfo = fileOf (before ++ memTotalLine spaces memoryKB :: after)
  lines : ∀ line ∈ before ++ memTotalLine spaces memoryKB :: after, FileLine line
  first : ∀ line ∈ before, hasPrefix "MemTotal:" line = false
  apart : spaces ≠ []
  blank : ∀ c ∈ spaces, isSpace c = true

structure Host.Shows (host : Host) (m : Machine) : Prop where
  hostname : host.hostname = m.hostname
  cpuinfo : host.cpuinfo.isSome
  nproc : host.nproc = some (decimal m.cores ++ "\n")
  cores : inInt64 m.cores = true
  meminfo : ∃ meminfo before spaces after, host.meminfo = some meminfo ∧
    ShowsMemory meminfo m.memoryKB before spaces after
  memory : inInt64 m.memoryKB = true
  nvidiaSmi : host.nvidiaSmi = some (printedGPUs m.gpus)
  gpus : ∀ gpu ∈ m.gpus, gpu.Printable

variable {host : Host} {m : Machine}

private theorem parseInt_of_inInt64 {n : ℤ} (h : inInt64 n = true) :
    parseInt (decimal n) = (n, none) := by
  obtain ⟨hlow, hhigh⟩ : -2 ^ 63 ≤ n ∧ n < 2 ^ 63 := by simpa [inInt64] using h
  exact parseInt_decimal hlow hhigh

private theorem closes_decimal (n : ℤ) : Closes (decimal n).toList := by
  obtain ⟨front, c, hdigits, hc⟩ := getLast_decimal n
  exact ⟨c, by rw [hdigits]; simp, isSpace_of_isDigit hc⟩

private theorem scanCPUInfo_shown (h : host.Shows m) (spec : ScannedSpec) :
    (scanCPUInfo host spec).cpuCores = m.cores ∧
      (scanCPUInfo host spec).hostname = spec.hostname ∧
      (scanCPUInfo host spec).totalMemoryMB = spec.totalMemoryMB ∧
      (scanCPUInfo host spec).gpus = spec.gpus := by
  obtain ⟨cpuinfo, hcpuinfo⟩ := Option.isSome_iff_exists.mp h.cpuinfo
  have hline : decimal m.cores ++ "\n" = String.ofList ((decimal m.cores).toList ++ ['\n']) := by
    rw [String.ofList_append, String.ofList_toList]
  have htrimmed := trimSpace_line (opens_decimal m.cores) (closes_decimal m.cores)
  rw [← hline, String.ofList_toList] at htrimmed
  simp only [scanCPUInfo, hcpuinfo, h.nproc, htrimmed, parseInt_of_inInt64 h.cores, and_self]

private theorem words_memTotalLine {spaces : List Char} (hapart : spaces ≠ [])
    (hblank : ∀ c ∈ spaces, isSpace c = true) (memoryKB : ℤ) :
    wordsBy isSpace (memTotalLine spaces memoryKB) =
      ["MemTotal:".toList, (decimal memoryKB).toList, ['k', 'B']] := by
  have hsome : (decimal memoryKB).toList ≠ [] := by
    obtain ⟨c, hc, -⟩ := opens_decimal memoryKB
    rintro hnone
    rw [hnone] at hc
    cases hc
  have hdigits : ∀ c ∈ (decimal memoryKB).toList, isSpace c = false := by
    intro c hc
    rcases mem_decimal hc with rfl | hdigit
    · decide
    · exact isSpace_of_isDigit hdigit
  cases spaces with
  | nil => exact absurd rfl hapart
  | cons space spaces =>
      have hunit : wordsBy isSpace ['k', 'B'] = [['k', 'B']] := by decide +kernel
      have hnumber : wordsBy isSpace ((decimal memoryKB).toList ++ [' ', 'k', 'B']) =
          [(decimal memoryKB).toList, ['k', 'B']] := by
        rw [wordsBy_append hdigits hsome (show isSpace ' ' = true by decide), hunit]
      have hblanks : wordsBy isSpace (spaces ++ ((decimal memoryKB).toList ++ [' ', 'k', 'B'])) =
          [(decimal memoryKB).toList, ['k', 'B']] := by
        rw [wordsBy_spaces fun c hc => hblank c (List.mem_cons_of_mem _ hc), hnumber]
      have hword : ∀ c ∈ "MemTotal:".toList, isSpace c = false := by
        simp [isSpace]
      rw [← hblanks]
      exact wordsBy_append hword (by decide) (hblank space List.mem_cons_self) _

private theorem scanMemoryInfo_shown (h : host.Shows m) (spec : ScannedSpec) :
    scanMemoryInfo host spec = { spec with totalMemoryMB := m.memoryKB.tdiv 1024 } := by
  obtain ⟨meminfo, before, spaces, after, hmeminfo, hshows⟩ := h.meminfo
  have hfirst : (before ++ memTotalLine spaces m.memoryKB :: after).find?
      (hasPrefix "MemTotal:") = some (memTotalLine spaces m.memoryKB) := by
    have hnone : before.find? (hasPrefix "MemTotal:") = none :=
      List.find?_eq_none.mpr fun line hline => by simp [hshows.first line hline]
    have hprefix : hasPrefix "MemTotal:" (memTotalLine spaces m.memoryKB) = true := by
      rw [hasPrefix, List.isPrefixOf_iff_prefix]
      exact List.prefix_append _ _
    rw [List.find?_append, hnone, Option.none_or, List.find?_cons_of_pos hprefix]
  simp only [scanMemoryInfo, hmeminfo, hshows.file, scannedLines_fileOf hshows.lines, hfirst,
    words_memTotalLine hshows.apart hshows.blank, String.ofList_toList,
    parseInt_of_inInt64 h.memory]

/--
On a host whose tools and files tell in their own format what the machine has, the
scanner finds just that: every number, and every GPU in its order with each field.
-/
theorem scan_shown (h : host.Shows m) :
    (scan host).hostname = m.hostname ∧ (scan host).cpuCores = m.cores ∧
      (scan host).totalMemoryMB = m.memoryKB.tdiv 1024 ∧
      (scan host).gpus =
        m.gpus.map (fun gpu => { gpu with cudaVersion := cudaVersion host.nvcc }) ∧
      (scan host).totalGPUs = m.gpus.length := by
  obtain ⟨hcores, hname, -, hgpus⟩ :=
    scanCPUInfo_shown h ⟨host.hostname, "", 0, 0, 0, [], 0⟩
  have hfresh : (scanMemoryInfo host
      (scanCPUInfo host ⟨host.hostname, "", 0, 0, 0, [], 0⟩)).gpus = [] := by
    rw [scanMemoryInfo_shown h]
    exact hgpus
  rw [scan, scanGPUInfo_printed h.nvidiaSmi h.gpus hfresh, scanMemoryInfo_shown h]
  exact ⟨hname.trans h.hostname, hcores, rfl, rfl, rfl⟩

/-! ## What the ledger grants of it -/

def Machine.named (m : Machine) (gpuType : String) : ℤ :=
  ((m.gpus.map ScannedGPU.name).count gpuType : ℕ)

def Machine.pool (m : Machine) : NilMap String :=
  some (CountMap.tally (m.gpus.map ScannedGPU.name))

theorem Machine.count_pool (m : Machine) (t : String) : m.pool.count t = m.named t :=
  CountMap.count_tally _ t

theorem Machine.total_pool (m : Machine) : m.pool.total = m.gpus.length := by
  have htotal := CountMap.total_tally (m.gpus.map ScannedGPU.name)
  rwa [List.length_map] at htotal

private theorem systemSpec_shown (h : host.Shows m) :
    (scan host).systemSpec.gpus.map GPUInfo.name = m.gpus.map ScannedGPU.name ∧
      (scan host).systemSpec.totalGPUs = m.gpus.length := by
  obtain ⟨-, -, -, hgpus, htotal⟩ := scan_shown h
  refine ⟨?_, htotal⟩
  simp [ScannedSpec.systemSpec, hgpus, Function.comp_def]

def heldBack (config : Config) (n : ℤ) : ℤ :=
  if config.enableMining then min config.miningGPUCount n else 0

private theorem withoutMiningReserve_eq {config : Config} {n : ℤ}
    (hcount : 0 ≤ config.miningGPUCount)
    (hn : 0 ≤ n) : withoutMiningReserve config n = n - heldBack config n := by
  unfold withoutMiningReserve heldBack
  by_cases hmining : config.enableMining = true
  · by_cases hpositive : 0 < n
    · rw [if_pos ⟨hmining, hpositive⟩, if_pos hmining]
      simp only []
      split <;> omega
    · rw [if_neg fun h => hpositive h.2, if_pos hmining]
      omega
  · rw [if_neg fun h => hmining h.1, if_neg hmining, sub_zero]

private theorem heldBack_nonneg {config : Config} {n : ℤ} (hcount : 0 ≤ config.miningGPUCount)
    (hn : 0 ≤ n) : 0 ≤ heldBack config n := by
  unfold heldBack
  split <;> omega

variable {config : Config} {first : String} {s : Books}
  {past : List (Transition Books LedgerCall)}

private theorem held_le_registered {spec : SystemSpec}
    (hcounted : spec.totalGPUs = spec.gpus.length)
    (hcount : 0 ≤ config.miningGPUCount)
    (hrun : Run (ledgerStep spec) (openedBy first)
      ⟨overJSON (prepareCapacity config spec), []⟩ past s) (t : String) :
    heldGPUs t s.outstanding ≤ gpusNamed spec t - heldBack config (gpusNamed spec t) := by
  have hheld := (opened_run hrun).held_le t
  have hnamed := gpusNamed_nonneg spec t
  have hback : heldBack config (gpusNamed spec t) ≤ gpusNamed spec t := by
    unfold heldBack
    split <;> omega
  by_cases hunset : (overJSON (prepareCapacity config spec)).availableGPUs = none
  · have hnone : spec.gpus = [] := by
      by_contra hsome
      obtain ⟨gpu, hgpu⟩ := List.exists_mem_of_ne_nil _ hsome
      have hkey : gpu.name ∈ (gpuTypes spec).mapCounts (withoutMiningReserve config) :=
        (CountMap.mem_mapCounts _ _ _).mpr
          ((CountMap.mem_tally _ _).mpr (List.mem_map_of_mem hgpu))
      simp [overJSON, prepareCapacity, NilMap.omitEmpty_of_mem hkey] at hunset
    have hempty : legacyCount spec (overJSON (prepareCapacity config spec)) = 0 := by
      simp [legacyCount, overJSON, prepareCapacity, hcounted, hnone]
    rw [initPools_fresh hunset, hempty, ite_self, max_self] at hheld
    omega
  · rw [initPools_filled hunset, (registered_pools config spec t).2,
      withoutMiningReserve_eq hcount hnamed] at hheld
    omega

/--
From the printed lines to the grants: whatever is allocated and released on the
record that the control plane stores for such a host, the GPUs of one name that
are out leave the reserve for mining untouched and are among the GPUs that
`nvidia-smi` lists with that name; and all that are out are not more than it lists.
-/
theorem granted_of_shown (h : host.Shows m) (hcount : 0 ≤ config.miningGPUCount)
    {o : Orchestrator} {providerID : String} {kubeadm : Option (List String)} {now : ℤ}
    {p : RegisteredProvider}
    (hstored : (handleRegistration o
      ⟨registrationRequest config providerID (scan host).systemSpec, none⟩ kubeadm now).2 =
        some p)
    (hrun : Run (ledgerStep p.spec) (openedBy first) ⟨p.capacity, []⟩ past s) :
    (∀ t, heldGPUs t s.outstanding + heldBack config (m.named t) ≤ m.named t) ∧
      heldTotal s.outstanding ≤ m.gpus.length := by
  obtain ⟨hnames, htotal⟩ := systemSpec_shown h
  have hspec : p.spec = (scan host).systemSpec ∧
      p.capacity = overJSON (prepareCapacity config (scan host).systemSpec) := by
    simp only [handleRegistration] at hstored
    split at hstored
    · cases hstored
      exact ⟨rfl, rfl⟩
    · cases hstored
      exact ⟨rfl, rfl⟩
  rw [hspec.1, hspec.2] at hrun
  have hcounted : (scan host).systemSpec.totalGPUs = (scan host).systemSpec.gpus.length := by
    rw [htotal, ← List.length_map GPUInfo.name, hnames, List.length_map]
  have hheld := held_le_registered hcounted hcount hrun
  have hnamed (t : String) : gpusNamed (scan host).systemSpec t = m.named t := by
    rw [gpusNamed, hnames, Machine.named]
  have hwithin (t : String) :
      heldGPUs t s.outstanding + heldBack config (m.named t) ≤ m.named t := by
    have ht := hheld t
    rw [hnamed] at ht
    omega
  refine ⟨hwithin, ?_⟩
  have hpool (t : String) : heldGPUs t s.outstanding ≤ m.pool.count t := by
    have ht := hwithin t
    have hback : 0 ≤ heldBack config (m.named t) :=
      heldBack_nonneg hcount (Int.natCast_nonneg _)
    rw [m.count_pool]
    omega
  rw [← m.total_pool]
  exact heldTotal_le_total hpool

/-! ## A host with three GPUs -/

def threeGPUs : Machine where
  hostname := "gpu-1"
  cores := 64
  memoryKB := 263860468
  gpus := [⟨0, "NVIDIA GeForce RTX 4090", 24564, "GPU-aa", "550.54.15", "00000000:01:00.0", ""⟩,
    ⟨1, "NVIDIA GeForce RTX 4090", 24564, "GPU-bb", "550.54.15", "00000000:41:00.0", ""⟩,
    ⟨2, "Tesla T4", 15360, "GPU-cc", "550.54.15", "00000000:81:00.0", ""⟩]

def threeGPUsHost : Host where
  hostname := "gpu-1"
  cpuinfo := some "processor\t: 0\nmodel name\t: AMD EPYC 7763\nprocessor\t: 1\n"
  nproc := some "64\n"
  meminfo := some "MemTotal:       263860468 kB\nMemFree:        1234 kB\n"
  nvidiaSmi := some (printedGPUs threeGPUs.gpus)
  nvcc := some "Cuda compilation tools, release 12.4, V12.4.131\n"

private theorem plainField_of_decide {s : String}
    (h : ('\n' ∉ s.toList ∧ ¬ ", ".toList <:+: s.toList) ∧ trimSpace s = s) : PlainField s :=
  ⟨h.1.1, h.1.2, h.2⟩

private theorem threeGPUs_printable : ∀ gpu ∈ threeGPUs.gpus, gpu.Printable := by
  intro gpu hgpu
  simp only [threeGPUs, List.mem_cons, List.not_mem_nil, or_false] at hgpu
  rcases hgpu with rfl | rfl | rfl
  all_goals
    exact ⟨by decide, by decide, plainField_of_decide (by decide +kernel),
      plainField_of_decide (by decide +kernel), plainField_of_decide (by decide +kernel),
      plainField_of_decide (by decide +kernel), by decide⟩

private theorem threeGPUsHost_shows : threeGPUsHost.Shows threeGPUs where
  hostname := rfl
  cpuinfo := rfl
  nproc := by decide +kernel
  cores := by decide
  meminfo := by
    refine ⟨_, [], "       ".toList, ["MemFree:        1234 kB".toList], rfl,
      ⟨by decide +kernel, ?_, by simp, by decide, by simp [isSpace]⟩⟩
    intro line hline
    simp only [List.nil_append, List.mem_cons, List.not_mem_nil, or_false] at hline
    rcases hline with rfl | rfl
    · exact ⟨by decide +kernel, by decide +kernel, by decide +kernel⟩
    · exact ⟨by decide +kernel, by decide +kernel, by decide +kernel⟩
  memory := by decide
  nvidiaSmi := rfl
  gpus := threeGPUs_printable

theorem scan_shown_sample : (scan threeGPUsHost).totalMemoryMB = 257676 ∧
    (scan threeGPUsHost).gpus.map ScannedGPU.cudaVersion = ["12.4", "12.4", "12.4"] := by
  obtain ⟨-, -, hmemory, hgpus, -⟩ := scan_shown threeGPUsHost_shows
  rw [hmemory, hgpus]
  decide +kernel

def rentedCard : ResourceAllocation := ⟨"NVIDIA GeForce RTX 4090", 1, 8, 16384⟩

/-- Of the two cards of that name one is kept for mining. -/
theorem granted_of_shown_sample : ∃ (p : RegisteredProvider) (s : Books),
    s = allocateGrant p.spec ⟨p.capacity, []⟩ rentedCard ∧
      heldGPUs rentedCard.gpuType s.outstanding + 1 ≤ 2 := by
  obtain ⟨p, hstored⟩ : ∃ p, (handleRegistration ⟨"10.0.0.1", 6443, true⟩
      ⟨registrationRequest ⟨"0xabc", true, 1, 4, 8192⟩ "p1" (scan threeGPUsHost).systemSpec,
        none⟩ none 0).2 = some p := ⟨_, rfl⟩
  have hrun := (Run.nil : Run (ledgerStep p.spec) (openedBy rentedCard.gpuType)
    ⟨p.capacity, []⟩ [] _).take (.allocate rentedCard) (fun _ => rfl) rfl
  have hnamed : threeGPUs.named rentedCard.gpuType = 2 := by decide +kernel
  have hheld := (granted_of_shown threeGPUsHost_shows (by decide) hstored hrun).1
    rentedCard.gpuType
  rw [hnamed] at hheld
  exact ⟨p, _, rfl, hheld⟩

end WorldlandBroker.Sdk
