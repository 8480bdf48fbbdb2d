import WorldlandBroker.Foundation.Split
import WorldlandBroker.Job.Isolation
import WorldlandBroker.Wallet.Tokens

/-!
# The HTTP server

What the HTTP server hands to its handlers, and as whom.  Every request meets the
list of origins first that the configuration has read from the environment; the
routes behind it take any user the developers' header names.  A path that differs from
a route's by a slash at its end, such as `/health/`, is left out: the router answers it
with a redirect before any of this.
-/

namespace WorldlandBroker.Gateway

open Foundation Job Wallet

/-! ## Configuration -/

/-- `LookupEnv` -/
abbrev Environment := String → Option String

def getEnv (env : Environment) (key fallback : String) : String :=
  match env key with
  | some value => trimSpace value
  | none => fallback

structure Config where
  allowedOrigins : String

def load (env : Environment) : Config where
  allowedOrigins := getEnv env "ALLOWED_ORIGINS" "*"

/-! ## Origins -/

def parseOrigins (origins : String) : List String :=
  if origins = "*" ∨ origins = "" then []
  else (origins.toList.splitOn ',').map fun origin => trimSpace (String.ofList origin)

def isOriginAllowed (origin : String) (allowed : List String) : Bool :=
  allowed.any fun a => a = origin

def corsHeaders (allowOrigin : String) : List (String × String) :=
  [("Access-Control-Allow-Origin", allowOrigin),
    ("Access-Control-Allow-Methods", "GET, POST, PUT, DELETE, OPTIONS, PATCH"),
    ("Access-Control-Allow-Headers", "Content-Type, Authorization, X-Requested-With"),
    ("Access-Control-Allow-Credentials", "true"),
    ("Access-Control-Max-Age", "86400")]

inductive CorsVerdict where
  | refused
  | preflight (headers : List (String × String))
  | next (headers : List (String × String))

/-- A request without an origin is one with the empty origin. -/
def corsWithConfig (allowedOrigins method : String) (headers : Headers) : CorsVerdict :=
  let origin := headers "Origin"
  if allowedOrigins ≠ "*" ∧ isOriginAllowed origin (parseOrigins allowedOrigins) = false then
    .refused
  else
    let allowOrigin := if allowedOrigins ≠ "*" then origin else "*"
    if method = "OPTIONS" then .preflight (corsHeaders allowOrigin)
    else .next (corsHeaders allowOrigin)

/-! ## Routes -/

/-- Paths with what the router reads from them, none that it redirects for a slash. -/
inductive Path where
  | health
  | ready
  | jobs
  | job (id : String)
  | providers
  | search
  | gpuAvailability
  | provider (id : String)
  | mining (id : String)
  | miningCommand (id command : String)
  | miningMetrics
  | other (path : String)

inductive Handler where
  | health
  | ready
  | createJob
  | listJobs
  | getJob (id : String)
  | deleteJob (id : String)
  | listProviders
  | searchProviders
  | getGPUAvailability
  | getProvider (id : String)
  | getMiningStatus (id : String)
  | allocateMiningGPU (id : String)
  | releaseMiningGPU (id : String)
  | startMining (id : String)
  | stopMining (id : String)
  | getMiningMetrics

structure Server where
  config : Config
  jobManager : Bool
  orchestrator : Bool

def Server.jobRoute (s : Server) (h : Handler) : Option Handler :=
  if s.jobManager then some h else none

def Server.orchestratorRoute (s : Server) (h : Handler) : Option Handler :=
  if s.orchestrator then some h else none

/-- No path here is one that the router would redirect for the slash at its end. -/
def Server.route (s : Server) (method : String) : Path → Option Handler
  | .health => if method = "GET" then some .health else none
  | .ready => if method = "GET" then some .ready else none
  | .jobs =>
      if method = "POST" then s.jobRoute .createJob
      else if method = "GET" then s.jobRoute .listJobs
      else none
  | .job id =>
      if method = "GET" then s.jobRoute (.getJob id)
      else if method = "DELETE" then s.jobRoute (.deleteJob id)
      else none
  | .providers => if method = "GET" then s.orchestratorRoute .listProviders else none
  | .search => if method = "GET" then s.orchestratorRoute .searchProviders else none
  | .gpuAvailability => if method = "GET" then s.orchestratorRoute .getGPUAvailability else none
  | .provider id => if method = "GET" then s.orchestratorRoute (.getProvider id) else none
  | .mining id => if method = "GET" then s.orchestratorRoute (.getMiningStatus id) else none
  | .miningCommand id command =>
      if method = "POST" then
        if command = "allocate" then s.orchestratorRoute (.allocateMiningGPU id)
        else if command = "release" then s.orchestratorRoute (.releaseMiningGPU id)
        else if command = "start" then s.orchestratorRoute (.startMining id)
        else if command = "stop" then s.orchestratorRoute (.stopMining id)
        else none
      else none
  | .miningMetrics => if method = "GET" then s.orchestratorRoute .getMiningMetrics else none
  | .other _ => none

def Handler.context (headers : Headers) : Handler → TokenContext
  | .createJob | .listJobs | .getJob _ | .deleteJob _ => devAuthMiddleware headers
  | _ => ⟨none, none⟩

structure HttpRequest where
  method : String
  path : Path
  headers : Headers
  body : Option CreateJobRequest

/-- A handler's own answer goes out with the headers that are set before it. -/
inductive Served where
  | answered (status : ℕ) (headers : List (String × String))
  | handled (h : Handler) (context : TokenContext) (headers : List (String × String))

def Server.serve (s : Server) (r : HttpRequest) : Served :=
  match corsWithConfig s.config.allowedOrigins r.method r.headers with
  | .refused => .answered 403 []
  | .preflight headers => .answered 204 headers
  | .next headers =>
      match s.route r.method r.path with
      | none => .answered 404 headers
      | some h => .handled h (h.context r.headers) headers

/-! ## What a list of origins admits -/

variable {env : Environment} {s : Server} {r : HttpRequest}

theorem isOriginAllowed_iff {origin : String} {allowed : List String} :
    isOriginAllowed origin allowed = true ↔ origin ∈ allowed := by
  simp [isOriginAllowed]

private theorem trimSpace_ofList (text : List Char) :
    trimSpace (String.ofList text) = String.ofList (strip isSpace text) := by
  rw [trimSpace, String.toList_ofList]
  rfl

/-- The blanks that are cut off the whole text come off its pieces anyway. -/
theorem pieces_trimSpace (text : String) :
    ((trimSpace text).toList.splitOn ',').map (fun origin => trimSpace (String.ofList origin)) =
      (text.toList.splitOn ',').map fun origin => trimSpace (String.ofList origin) := by
  have htrimmed : (trimSpace text).toList = strip isSpace text.toList := by
    rw [← String.ofList_toList (s := text), trimSpace_ofList, String.toList_ofList,
      String.toList_ofList]
  have hblank : isSpace ',' = false := by decide
  have hstripped := congrArg (List.map String.ofList)
    (map_strip_splitOn_strip hblank text.toList)
  simp only [List.map_map] at hstripped
  simp only [htrimmed, trimSpace_ofList]
  exact hstripped

structure ListedOrigin where
  left : List Char
  origin : String
  right : List Char
  left_blank : ∀ c ∈ left, isSpace c = true
  right_blank : ∀ c ∈ right, isSpace c = true
  single : ',' ∉ origin.toList
  trimmed : trimSpace origin = origin

def ListedOrigin.text (e : ListedOrigin) : List Char := e.left ++ e.origin.toList ++ e.right

def originList (entries : List ListedOrigin) : String :=
  String.ofList ([','].intercalate (entries.map ListedOrigin.text))

namespace ListedOrigin

theorem trimSpace_text (e : ListedOrigin) : trimSpace (String.ofList e.text) = e.origin := by
  rw [trimSpace_ofList, text, strip_padded e.left_blank e.right_blank, ← trimSpace_ofList,
    String.ofList_toList, e.trimmed]

theorem comma_notMem (e : ListedOrigin) : ',' ∉ e.text := by
  intro hmem
  rcases List.mem_append.mp hmem with hfront | hright
  · rcases List.mem_append.mp hfront with hleft | horigin
    · exact absurd (e.left_blank ',' hleft) (by decide)
    · exact e.single horigin
  · exact absurd (e.right_blank ',' hright) (by decide)

end ListedOrigin

variable {entries : List ListedOrigin}

private theorem pieces_originList (hsome : entries ≠ []) :
    ((originList entries).toList.splitOn ',').map (fun o => trimSpace (String.ofList o)) =
      entries.map ListedOrigin.origin := by
  have hclean : ∀ piece ∈ entries.map ListedOrigin.text, ',' ∉ piece := by
    intro piece hpiece
    obtain ⟨e, -, rfl⟩ := List.mem_map.mp hpiece
    exact e.comma_notMem
  rw [originList, String.toList_ofList, List.splitOn_intercalate ',' hclean (by simpa using hsome),
    List.map_map]
  exact List.map_congr_left fun e _ => e.trimSpace_text

/-- A list that says neither everyone nor nothing is read as it was written. -/
theorem parseOrigins_originList (hsome : entries ≠ [])
    (hother : entries.map ListedOrigin.origin ∉ [["*"], [""]]) :
    trimSpace (originList entries) ≠ "*" ∧
      parseOrigins (trimSpace (originList entries)) = entries.map ListedOrigin.origin := by
  have hpieces := (pieces_trimSpace (originList entries)).trans (pieces_originList hsome)
  have hstar : trimSpace (originList entries) ≠ "*" := by
    intro hstar
    rw [hstar] at hpieces
    apply hother
    rw [← hpieces]
    exact List.mem_cons_self
  have hnothing : trimSpace (originList entries) ≠ "" := by
    intro hnothing
    rw [hnothing] at hpieces
    apply hother
    rw [← hpieces]
    exact List.mem_cons_of_mem _ List.mem_cons_self
  refine ⟨hstar, ?_⟩
  rw [parseOrigins, if_neg (by simp [hstar, hnothing])]
  exact hpieces

theorem corsWithConfig_refused_iff {allowedOrigins method : String} {headers : Headers} :
    corsWithConfig allowedOrigins method headers = .refused ↔
      allowedOrigins ≠ "*" ∧ headers "Origin" ∉ parseOrigins allowedOrigins := by
  rw [← isOriginAllowed_iff, Bool.not_eq_true]
  unfold corsWithConfig
  simp only []
  constructor
  · intro h
    split at h
    · assumption
    · split at h <;> cases h
  · exact fun h => if_pos h

theorem serve_refused_iff : s.serve r = .answered 403 [] ↔
    s.config.allowedOrigins ≠ "*" ∧
      r.headers "Origin" ∉ parseOrigins s.config.allowedOrigins := by
  rw [← corsWithConfig_refused_iff]
  unfold Server.serve
  constructor
  · intro h
    split at h
    · assumption
    · cases h
    · split at h <;> cases h
  · intro h
    rw [h]

/--
Where the operator lists origins, with any blanks around them, just the requests with
a listed origin get past the list, whatever they ask for (but for the paths that the
router redirects).  Requests without an origin, such as probes and the programs of
providers send, are refused with the others.
-/
theorem listed_origins_served (hconfig : s.config = load env)
    (henv : env "ALLOWED_ORIGINS" = some (originList entries)) (hsome : entries ≠ [])
    (hother : entries.map ListedOrigin.origin ∉ [["*"], [""]]) (r : HttpRequest) :
    s.serve r = .answered 403 [] ↔ r.headers "Origin" ∉ entries.map ListedOrigin.origin := by
  obtain ⟨hstar, hparsed⟩ := parseOrigins_originList hsome hother
  have hread : s.config.allowedOrigins = getEnv env "ALLOWED_ORIGINS" "*" :=
    congrArg Config.allowedOrigins hconfig
  have hallowed : s.config.allowedOrigins = trimSpace (originList entries) := by
    rw [hread, getEnv, henv]
  rw [serve_refused_iff, hallowed, hparsed]
  exact and_iff_right hstar

/-! ## Two origins -/

private theorem blank_empty : ∀ c ∈ ([] : List Char), isSpace c = true := by
  simp

private theorem blank_space : ∀ c ∈ [' '], isSpace c = true := by
  simp [isSpace]

private theorem app_single : ',' ∉ "https://app.example".toList := by
  decide

private theorem beta_single : ',' ∉ "https://beta.example".toList := by
  decide

private theorem app_trimmed : trimSpace "https://app.example" = "https://app.example" := by
  decide +kernel

private theorem beta_trimmed : trimSpace "https://beta.example" = "https://beta.example" := by
  decide +kernel

def twoOrigins : List ListedOrigin :=
  [⟨[], "https://app.example", [' '], blank_empty, blank_space, app_single, app_trimmed⟩,
    ⟨[' '], "https://beta.example", [], blank_space, blank_empty, beta_single, beta_trimmed⟩]

def twoOriginsServer : Server where
  config := load fun key => if key = "ALLOWED_ORIGINS" then some (originList twoOrigins) else none
  jobManager := true
  orchestrator := true

def healthProbe : HttpRequest := ⟨"GET", .health, fun _ => "", none⟩

theorem listed_origins_served_sample : twoOriginsServer.serve healthProbe = .answered 403 [] :=
  (listed_origins_served rfl rfl (by decide) (by decide) healthProbe).mpr (by decide)

end WorldlandBroker.Gateway
