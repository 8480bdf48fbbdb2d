import WorldlandBroker.Foundation.Fetch
import WorldlandBroker.Gateway.Server

/-!
# Visitors

Pages of other origins in front of the HTTP server.  Which answers they read is a
matter of the list of origins; but none of them can set the header that names a user,
for the server does not name that header to their browsers.
-/

namespace WorldlandBroker.Gateway

open Foundation Job Wallet

/-! ## What a browser sends -/

/-- Names of headers are compared without regard to case. -/
def headerName (name : String) : List Char := name.toList.map Char.toLower

def lookupHeader (headers : List (String × String)) (name : String) : String :=
  ((headers.find? fun h => headerName h.1 = headerName name).map Prod.snd).getD ""

/-- A request that a page makes; no page's origin is the wildcard. -/
structure PageCall where
  origin : String
  origin_ne : origin ≠ "*"
  method : String
  path : Path
  headers : List (String × String)
  body : Option CreateJobRequest
  credentials : Bool

def formMethods : List String := ["GET", "HEAD", "POST"]

def formHeaders : List String :=
  ["Accept", "Accept-Language", "Content-Language", "Content-Type", "Range"]

namespace PageCall

def request (p : PageCall) : HttpRequest where
  method := p.method
  path := p.path
  headers name := if headerName name = headerName "Origin" then p.origin
    else lookupHeader p.headers name
  body := p.body

/-- Of an announcement's headers the server reads the origin only. -/
def announcement (p : PageCall) : HttpRequest where
  method := "OPTIONS"
  path := p.path
  headers name := if headerName name = headerName "Origin" then p.origin else ""
  body := none

/-- `plain` says which values a form could give to the headers it can set. -/
def pageRequest (plain : String × String → Bool) (p : PageCall) :
    PageRequest String String (List Char) where
  origin := p.origin
  method := p.method
  unsafeHeaders := (p.headers.filter fun h =>
    !((formHeaders.map headerName).contains (headerName h.1) && plain h)).map
      fun h => headerName h.1
  credentials := p.credentials

end PageCall

def headerList (text : String) : List String :=
  (text.toList.splitOn ',').map fun piece => trimSpace (String.ofList piece)

def Served.headers : Served → List (String × String)
  | .answered _ headers => headers
  | .handled _ _ headers => headers

/-- The status counts for announcements only, and no handler gets one. -/
def Served.success : Served → Bool
  | .answered status _ => 200 ≤ status ∧ status < 300
  | .handled .. => true

def Served.corsAnswer (served : Served) : CorsAnswer String String (List Char) where
  ok := served.success
  allowOrigin := (served.headers.lookup "Access-Control-Allow-Origin").map fun origin =>
    if origin = "*" then .any else .only origin
  allowMethods :=
    ((served.headers.lookup "Access-Control-Allow-Methods").map headerList).getD []
  allowHeaders :=
    (((served.headers.lookup "Access-Control-Allow-Headers").map headerList).getD []).map
      headerName
  allowCredentials := served.headers.lookup "Access-Control-Allow-Credentials" = some "true"

namespace PageCall

def Sent (plain : String × String → Bool) (s : Server) (p : PageCall) : Prop :=
  (p.pageRequest plain).Sent formMethods (s.serve p.announcement).corsAnswer

def Read (plain : String × String → Bool) (s : Server) (p : PageCall) : Prop :=
  (p.pageRequest plain).Read formMethods (s.serve p.announcement).corsAnswer
    (s.serve p.request).corsAnswer

end PageCall

/-! ## What the server's answers say -/

def namedMethods : List String := ["GET", "POST", "PUT", "DELETE", "OPTIONS", "PATCH"]

def namedHeaders : List String := ["Content-Type", "Authorization", "X-Requested-With"]

variable {s : Server} {p : PageCall} {served : Served} {origin name : String}
  {plain : String × String → Bool}

private theorem headerList_methods :
    headerList "GET, POST, PUT, DELETE, OPTIONS, PATCH" = namedMethods := by
  decide +kernel

private theorem headerList_headers :
    headerList "Content-Type, Authorization, X-Requested-With" = namedHeaders := by
  decide +kernel

private theorem corsAnswer_of_headers (h : served.headers = corsHeaders origin) :
    served.corsAnswer = ⟨served.success, some (if origin = "*" then .any else .only origin),
      namedMethods, namedHeaders.map headerName, true⟩ := by
  have horigin : served.headers.lookup "Access-Control-Allow-Origin" = some origin := by
    rw [h]
    rfl
  have hmethods : served.headers.lookup "Access-Control-Allow-Methods" =
      some "GET, POST, PUT, DELETE, OPTIONS, PATCH" := by
    rw [h]
    rfl
  have hheaders : served.headers.lookup "Access-Control-Allow-Headers" =
      some "Content-Type, Authorization, X-Requested-With" := by
    rw [h]
    rfl
  have hcredentials : served.headers.lookup "Access-Control-Allow-Credentials" = some "true" := by
    rw [h]
    rfl
  simp only [Served.corsAnswer, horigin, hmethods, hheaders, hcredentials, Option.map_some,
    Option.getD_some, headerList_methods, headerList_headers, decide_true]

/-! ## Which answers a page reads -/

def Server.allowOrigin (s : Server) (origin : String) : String :=
  if s.config.allowedOrigins ≠ "*" then origin else "*"

def Server.Admits (s : Server) (origin : String) : Prop :=
  s.config.allowedOrigins = "*" ∨ origin ∈ parseOrigins s.config.allowedOrigins

private theorem serve_of_admits {r : HttpRequest} (h : s.Admits (r.headers "Origin")) :
    (s.serve r).headers = corsHeaders (s.allowOrigin (r.headers "Origin")) ∧
      (r.method = "OPTIONS" → (s.serve r).success = true) := by
  have hcond : ¬ (s.config.allowedOrigins ≠ "*" ∧
      isOriginAllowed (r.headers "Origin") (parseOrigins s.config.allowedOrigins) = false) := by
    rintro ⟨hstar, hrefused⟩
    rcases h with heveryone | hlisted
    · exact hstar heveryone
    · rw [isOriginAllowed_iff.mpr hlisted] at hrefused
      cases hrefused
  unfold Server.serve corsWithConfig
  simp only [if_neg hcond]
  by_cases hmethod : r.method = "OPTIONS"
  · rw [if_pos hmethod]
    exact ⟨rfl, fun _ => rfl⟩
  · rw [if_neg hmethod]
    refine ⟨?_, fun habsurd => absurd habsurd hmethod⟩
    cases s.route r.method r.path <;> rfl

private theorem serve_of_not_admits {r : HttpRequest} (h : ¬ s.Admits (r.headers "Origin")) :
    s.serve r = .answered 403 [] :=
  serve_refused_iff.mpr (not_or.mp h)

theorem PageCall.announcement_origin (p : PageCall) :
    p.announcement.headers "Origin" = p.origin := by
  simp [announcement]

theorem PageCall.request_origin (p : PageCall) : p.request.headers "Origin" = p.origin := by
  simp [request]

def Server.Shares (s : Server) (p : PageCall) : Prop :=
  if s.config.allowedOrigins = "*" then p.credentials = false
  else p.origin ∈ parseOrigins s.config.allowedOrigins

theorem shares_iff {r : HttpRequest} (horigin : r.headers "Origin" = p.origin) :
    (s.serve r).corsAnswer.Shares (p.pageRequest plain) ↔ s.Shares p := by
  unfold Server.Shares
  by_cases hstar : s.config.allowedOrigins = "*"
  · have hheaders := (serve_of_admits (s := s) (r := r) (.inl hstar)).1
    rw [Server.allowOrigin, if_neg (not_not.mpr hstar)] at hheaders
    rw [corsAnswer_of_headers hheaders, if_pos hstar]
    rfl
  · rw [if_neg hstar]
    by_cases hlisted : p.origin ∈ parseOrigins s.config.allowedOrigins
    · rw [← horigin] at hlisted
      have hheaders := (serve_of_admits (.inr hlisted)).1
      rw [Server.allowOrigin, if_pos hstar, horigin] at hheaders
      rw [corsAnswer_of_headers hheaders, if_neg p.origin_ne]
      rw [horigin] at hlisted
      exact iff_of_true ⟨rfl, fun _ => rfl⟩ hlisted
    · have hrefused : s.serve r = .answered 403 [] := by
        apply serve_of_not_admits
        rw [horigin]
        exact not_or.mpr ⟨hstar, hlisted⟩
      rw [hrefused]
      exact iff_of_false (fun h => h) hlisted

theorem Server.Shares.admits (h : s.Shares p) : s.Admits p.origin := by
  unfold Server.Shares at h
  by_cases hstar : s.config.allowedOrigins = "*"
  · exact .inl hstar
  · rw [if_neg hstar] at h
    exact .inr h

theorem page_read_iff : p.Read plain s ↔ s.Shares p ∧
    (p.method ∈ formMethods ∨ p.method ∈ namedMethods) ∧
    ∀ name ∈ (p.pageRequest plain).unsafeHeaders, name ∈ namedHeaders.map headerName := by
  by_cases hshares : s.Shares p
  · have hadmits : s.Admits (p.announcement.headers "Origin") := by
      rw [p.announcement_origin]
      exact hshares.admits
    obtain ⟨hheaders, hsuccess⟩ := serve_of_admits hadmits
    have halike : (s.serve p.announcement).corsAnswer.Shares (p.pageRequest plain) ↔
        (s.serve p.request).corsAnswer.Shares (p.pageRequest plain) := by
      rw [shares_iff p.announcement_origin, shares_iff p.request_origin]
    rw [PageCall.Read, PageRequest.read_iff (hsuccess rfl) halike,
      shares_iff p.request_origin, corsAnswer_of_headers hheaders]
    rfl
  · apply iff_of_false
    · rintro ⟨-, hanswer⟩
      exact hshares ((shares_iff p.request_origin).mp hanswer)
    · rintro ⟨habsurd, -⟩
      exact hshares habsurd

/-! ## Whom a page acts as -/

private theorem allowHeaders_named {r : HttpRequest} {name : List Char}
    (h : name ∈ (s.serve r).corsAnswer.allowHeaders) : name ∈ namedHeaders.map headerName := by
  by_cases hadmits : s.Admits (r.headers "Origin")
  · rwa [corsAnswer_of_headers (serve_of_admits hadmits).1] at h
  · rw [serve_of_not_admits hadmits] at h
    cases h

theorem serve_handled {r : HttpRequest} {handler : Handler} {context : TokenContext}
    {headers : List (String × String)} (h : s.serve r = .handled handler context headers) :
    s.route r.method r.path = some handler ∧ context = handler.context r.headers := by
  unfold Server.serve at h
  split at h
  · cases h
  · cases h
  · split at h
    · cases h
    · rename_i hroute
      cases h
      exact ⟨hroute, rfl⟩

theorem PageCall.Sent.userID_empty (h : p.Sent plain s) :
    p.request.headers "X-User-ID" = "" := by
  have hother : headerName "X-User-ID" ≠ headerName "Origin" := by decide +kernel
  have hlookup : p.request.headers "X-User-ID" = lookupHeader p.headers "X-User-ID" := by
    simp [request, hother]
  rw [hlookup, lookupHeader]
  cases hfound : p.headers.find? fun h => headerName h.1 = headerName "X-User-ID" with
  | none => rfl
  | some header =>
      have hname : headerName header.1 = headerName "X-User-ID" := by
        simpa using List.find?_some hfound
      have hnoForm : (formHeaders.map headerName).contains (headerName header.1) = false := by
        rw [hname]
        decide +kernel
      have hunsafe : headerName "X-User-ID" ∈ (p.pageRequest plain).unsafeHeaders := by
        rw [← hname]
        apply List.mem_map_of_mem (f := fun h : String × String => headerName h.1)
        exact List.mem_filter.mpr ⟨List.mem_of_find?_eq_some hfound, by rw [hnoForm]; rfl⟩
      have hnamed := allowHeaders_named (PageRequest.Sent.permitted h hunsafe)
      exact absurd hnamed (by decide +kernel)

theorem devAuthMiddleware_empty {headers : Headers} (h : headers "X-User-ID" = "") :
    devAuthMiddleware headers = ⟨some "anonymous", none⟩ := by
  rw [devAuthMiddleware, if_pos h]

/--
A page reads an answer just where its origin is admitted, and without credentials
where everyone is; with a method and headers that forms can set or the server names.
Whatever a page gets past its browser, it never acts as a user with a name.  The
router's redirects for a slash at the end of a path are left out.
-/
theorem page_served (plain : String × String → Bool) (s : Server) (p : PageCall) :
    (p.Read plain s ↔ s.Shares p ∧ (p.method ∈ formMethods ∨ p.method ∈ namedMethods) ∧
      ∀ name ∈ (p.pageRequest plain).unsafeHeaders, name ∈ namedHeaders.map headerName) ∧
    ∀ handler context headers user, p.Sent plain s →
      s.serve p.request = .handled handler context headers → context.userID = some user →
        user = "anonymous" := by
  refine ⟨page_read_iff, ?_⟩
  intro handler context headers user hsent hserved huser
  obtain ⟨-, rfl⟩ := serve_handled hserved
  have hdev := devAuthMiddleware_empty hsent.userID_empty
  cases handler with
  | createJob | listJobs | getJob | deleteJob =>
      change (devAuthMiddleware p.request.headers).userID = some user at huser
      rw [hdev] at huser
      cases huser
      rfl
  | _ => cases huser

end WorldlandBroker.Gateway
