import WorldlandBroker.Wallet.SessionAuth

/-!
# Login tokens

The token a wallet gets for a login, and the middleware of auth.go that takes it.
The token library is a parameter: it signs claims, and reads the claims of a text
that carries a valid signature while they are in force.
-/

namespace WorldlandBroker.Wallet

/-- What the token says; times are in seconds.  Mail address, name and picture are left out. -/
structure TokenClaims where
  sub : String
  issuer : String
  expiresAt : ℤ
  issuedAt : ℤ
  notBefore : ℤ
  deriving DecidableEq

/-- `parseWithClaims` is called with the time at which it looks at the claims. -/
structure TokenLibrary where
  signedString : String → TokenClaims → Option String
  parseWithClaims : String → ℤ → String → Option TokenClaims

def TokenClaims.InForce (claims : TokenClaims) (now : ℤ) : Prop :=
  claims.notBefore * second ≤ now ∧ now < claims.expiresAt * second

instance (claims : TokenClaims) (now : ℤ) : Decidable (claims.InForce now) :=
  inferInstanceAs (Decidable (_ ∧ _))

def TokenLibrary.Documented (lib : TokenLibrary) : Prop :=
  ∀ secret claims token now, lib.signedString secret claims = some token →
    lib.parseWithClaims secret now token = if claims.InForce now then some claims else none

structure JWTManager where
  secret : String
  tokenDuration : ℤ

def newJWTManager (secret : String) : JWTManager := ⟨secret, 24 * hour⟩

namespace JWTManager

/-- Numeric dates keep whole seconds. -/
def generateToken (lib : TokenLibrary) (j : JWTManager) (now : ℤ) (claims : UserClaims) :
    Option String :=
  lib.signedString j.secret {
    sub := claims.sub
    issuer := "k8s-proxy-server"
    expiresAt := (now + j.tokenDuration) / second
    issuedAt := now / second
    notBefore := now / second }

def validateToken (lib : TokenLibrary) (j : JWTManager) (now : ℤ) (tokenString : String) :
    Option TokenClaims :=
  lib.parseWithClaims j.secret now tokenString

end JWTManager

/-! ## The login -/

structure WalletLoginResponse where
  token : String
  walletAddress : String
  expiresAt : ℤ
  deriving DecidableEq

structure LoginTimes where
  verified : ℤ
  signed : ℤ
  answered : ℤ

/-- The handler's answer; the verifier takes seconds. -/
def loginResponse (lib : TokenLibrary) (j : JWTManager) (v : LoginVerifier) (t : LoginTimes)
    (req : LoginRequest) : Option WalletLoginResponse :=
  match walletLogin v (t.verified / second) req with
  | none => none
  | some claims =>
      match j.generateToken lib t.signed claims with
      | none => none
      | some token => some ⟨token, req.walletAddress, (t.answered + 24 * hour) / second⟩

/-! ## The middleware -/

structure TokenContext where
  userID : Option String
  claims : Option TokenClaims
  deriving DecidableEq

/-- `SplitN` at the first blank, and what follows the word `Bearer`. -/
def bearerToken (authHeader : String) : Option String :=
  match authHeader.toList.dropWhile (· ≠ ' ') with
  | [] => none
  | _ :: token =>
      if String.ofList (authHeader.toList.takeWhile (· ≠ ' ')) = "Bearer" then
        some (String.ofList token)
      else none

def authMiddleware (lib : TokenLibrary) (j : JWTManager) (now : ℤ) (headers : Headers) :
    Except String TokenContext :=
  if headers "Authorization" = "" then .error "Authorization 헤더가 필요합니다"
  else
    match bearerToken (headers "Authorization") with
    | none => .error "잘못된 Authorization 헤더 형식입니다"
    | some tokenString =>
        match j.validateToken lib now tokenString with
        | none => .error "유효하지 않은 토큰입니다"
        | some claims => .ok ⟨some claims.sub, some claims⟩

def devAuthMiddleware (headers : Headers) : TokenContext :=
  ⟨some (if headers "X-User-ID" = "" then "anonymous" else headers "X-User-ID"), none⟩

variable {lib : TokenLibrary} {j : JWTManager} {v : LoginVerifier} {t : LoginTimes}
  {req : LoginRequest} {headers : Headers} {now : ℤ} {response : WalletLoginResponse}
  {context : TokenContext} {token user : String}

/-- Any token text goes behind the word, one with blanks too. -/
theorem bearerToken_append (token : String) : bearerToken ("Bearer " ++ token) = some token := by
  have hblank : ∀ c ∈ "Bearer".toList, decide (c ≠ ' ') = true := by simp
  have htext : ("Bearer " ++ token).toList = "Bearer".toList ++ ' ' :: token.toList := by
    rw [String.toList_append]
    rfl
  unfold bearerToken
  rw [htext, List.dropWhile_append_of_pos hblank, List.takeWhile_append_of_pos hblank]
  simp

private theorem authMiddleware_ok : authMiddleware lib j now headers = .ok context ↔
    ∃ token claims, bearerToken (headers "Authorization") = some token ∧
      j.validateToken lib now token = some claims ∧
      context = ⟨some claims.sub, some claims⟩ := by
  unfold authMiddleware
  split
  · rename_i hempty
    rw [hempty]
    simp [bearerToken]
  · split
    · rename_i hnone
      simp [hnone]
    · rename_i token htoken
      split
      · rename_i hinvalid
        simp [htoken, hinvalid]
      · rename_i claims hvalid
        simp [htoken, hvalid, eq_comm]

/-! ## From the login to the request -/

theorem loginResponse_eq_some (h : loginResponse lib j v t req = some response) :
    (∃ claims, walletLogin v (t.verified / second) req = some claims) ∧
      j.generateToken lib t.signed ⟨req.walletAddress⟩ = some response.token ∧
      response.walletAddress = req.walletAddress ∧
      response.expiresAt = (t.answered + 24 * hour) / second := by
  unfold loginResponse at h
  split at h
  · contradiction
  rename_i claims hlogin
  split at h
  · contradiction
  rename_i token htoken
  cases h
  obtain ⟨sub⟩ := claims
  obtain rfl : sub = req.walletAddress := walletLogin_eq_some hlogin
  exact ⟨⟨_, hlogin⟩, htoken, rfl, rfl⟩

def Issued (lib : TokenLibrary) (j : JWTManager) (v : LoginVerifier)
    (logins : List (LoginTimes × LoginRequest)) (token : String) : Prop :=
  ∀ now claims, j.validateToken lib now token = some claims →
    ∃ login ∈ logins, ∃ response, loginResponse lib j v login.1 login.2 = some response ∧
      response.token = token

private theorem validateToken_generated (hlib : lib.Documented) {secret : String} {signed : ℤ}
    {claims : UserClaims}
    (h : (newJWTManager secret).generateToken lib signed claims = some token) (now : ℤ) :
    (∃ claims', (newJWTManager secret).validateToken lib now token = some claims' ∧
        claims'.sub = user) ↔
      claims.sub = user ∧ signed / second * second ≤ now ∧
        now < (signed + 24 * hour) / second * second := by
  rw [JWTManager.validateToken, hlib _ _ _ now h]
  constructor
  · rintro ⟨claims', hclaims, rfl⟩
    split at hclaims
    · rename_i hforce
      cases hclaims
      exact ⟨rfl, hforce⟩
    · contradiction
  · rintro ⟨rfl, hforce⟩
    exact ⟨_, if_pos hforce, rfl⟩

/--
Where no token is forged, `AuthMiddleware` lets a request in as a user exactly
where its token was handed out to that wallet by a verified login and the time lies
within the 24 hours after it, both ends cut to whole seconds.
-/
theorem login_token_admits (hlib : lib.Documented) (secret : String)
    (logins : List (LoginTimes × LoginRequest))
    (hissued : ∀ token, bearerToken (headers "Authorization") = some token →
      Issued lib (newJWTManager secret) v logins token) (now : ℤ) (user : String) :
    (∃ context, authMiddleware lib (newJWTManager secret) now headers = .ok context ∧
        context.userID = some user) ↔
      ∃ login ∈ logins, ∃ response,
        loginResponse lib (newJWTManager secret) v login.1 login.2 = some response ∧
        bearerToken (headers "Authorization") = some response.token ∧
        response.walletAddress = user ∧ login.1.signed / second * second ≤ now ∧
        now < (login.1.signed + 24 * hour) / second * second := by
  constructor
  · rintro ⟨context, hok, huser⟩
    obtain ⟨token, claims, htoken, hvalid, rfl⟩ := authMiddleware_ok.mp hok
    obtain ⟨login, hlogin, response, hresponse, rfl⟩ := hissued token htoken now claims hvalid
    obtain ⟨-, hsigned, hwallet, -⟩ := loginResponse_eq_some hresponse
    obtain ⟨hsub, hwindow⟩ := (validateToken_generated hlib hsigned now).mp
      ⟨claims, hvalid, Option.some.inj huser⟩
    exact ⟨login, hlogin, response, hresponse, htoken, hwallet.trans hsub, hwindow⟩
  · rintro ⟨login, -, response, hresponse, htoken, rfl, hwindow⟩
    obtain ⟨-, hsigned, hwallet, -⟩ := loginResponse_eq_some hresponse
    obtain ⟨claims, hvalid, hsub⟩ := (validateToken_generated hlib hsigned now).mpr
      ⟨hwallet.symm, hwindow⟩
    exact ⟨_, authMiddleware_ok.mpr ⟨_, claims, htoken, hvalid, rfl⟩, congrArg some hsub⟩

/-! ## One login -/

def sampleClaims : TokenClaims where
  sub := sampleWallet
  issuer := "k8s-proxy-server"
  expiresAt := 1767312000
  issuedAt := 1767225600
  notBefore := 1767225600

def sampleTokens : TokenLibrary where
  signedString secret claims :=
    if secret = "secret" ∧ claims = sampleClaims then some "header.claims.mac" else none
  parseWithClaims secret now token :=
    if secret = "secret" ∧ token = "header.claims.mac" ∧ sampleClaims.InForce now then
      some sampleClaims
    else none

private theorem sampleTokens_documented : sampleTokens.Documented := by
  intro secret claims token now hsigned
  simp only [sampleTokens] at hsigned ⊢
  split at hsigned
  · rename_i hsame
    obtain ⟨rfl, rfl⟩ := hsame
    cases hsigned
    simp
  · contradiction

def sampleTimes : LoginTimes where
  verified := 1767225600 * second
  signed := 1767225600 * second + 5
  answered := 1767225600 * second + 9

def sampleHeaders : Headers := fun name =>
  if name = "Authorization" then "Bearer header.claims.mac" else ""

private theorem sample_response : loginResponse sampleTokens (newJWTManager "secret") sampleLogin
    sampleTimes (loginAs sampleWallet) =
      some ⟨"header.claims.mac", sampleWallet, 1767312000⟩ := by
  have hlogin : walletLogin sampleLogin (sampleTimes.verified / second) (loginAs sampleWallet) =
      some ⟨sampleWallet⟩ := lowerCase_accepted
  unfold loginResponse
  rw [hlogin]
  decide +kernel

theorem login_token_admits_sample : ∃ context,
    authMiddleware sampleTokens (newJWTManager "secret") (1767225600 * second + 7) sampleHeaders =
      .ok context ∧ context.userID = some sampleWallet := by
  have htoken : bearerToken (sampleHeaders "Authorization") = some "header.claims.mac" :=
    bearerToken_append "header.claims.mac"
  apply (login_token_admits sampleTokens_documented "secret"
    [(sampleTimes, loginAs sampleWallet)] ?_ _ sampleWallet).mpr
  · exact ⟨_, List.mem_singleton_self _, _, sample_response, htoken, rfl, by decide, by decide⟩
  · rintro token hsent now claims -
    cases htoken.symm.trans hsent
    exact ⟨_, List.mem_singleton_self _, _, sample_response, rfl⟩

end WorldlandBroker.Wallet
