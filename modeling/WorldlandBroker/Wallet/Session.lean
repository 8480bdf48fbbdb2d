import WorldlandBroker.Foundation.Run
import WorldlandBroker.Job.Text
import Mathlib.Data.NNRat.Defs
import Mathlib.Data.NNRat.Floor
import Mathlib.Logic.Function.Basic

/-!
# Off-chain sessions

Server processes that each run a session manager.  A manager's cache holds
pointers to sessions in memory; the records live in one Redis store that all
processes share.  A request is a call that goes from one access of memory or
of Redis to the next, so the calls of one process and of several processes
interleave freely.  Amounts are exact and times are nanoseconds since the epoch.
-/

namespace WorldlandBroker.Wallet

open Foundation

abbrev Address := BitVec 160

def second : ℤ := 10 ^ 9

def hour : ℤ := 3600 * second

structure SessionKeyRequest where
  mainWallet : String
  sessionKey : String
  spendLimit : ℚ≥0
  duration : ℤ
  signature : String
  deriving DecidableEq

/-- A session whose amounts are exact numbers of one kind. -/
structure Session (Amount : Type) where
  mainWallet : String
  sessionKey : String
  spendLimit : Amount
  spentAmount : Amount
  expiresAt : ℤ
  createdAt : ℤ
  lastUsedAt : ℤ
  permissions : List String
  isActive : Bool
  deriving DecidableEq

def newSession {Amount : Type} [NNRatCast Amount] [Zero Amount] (now : ℤ)
    (req : SessionKeyRequest) : Session Amount where
  mainWallet := req.mainWallet
  sessionKey := req.sessionKey
  spendLimit := req.spendLimit
  spentAmount := 0
  expiresAt := now + Job.wrapInt64 (req.duration * second)
  createdAt := now
  lastUsedAt := now
  permissions := ["CREATE_JOB", "TERMINATE_JOB", "VIEW_JOBS"]
  isActive := true

/-! ## Signature verification -/

/-- The typed data a wallet signs, under the one domain of the deployment. -/
structure RegisterSessionKey where
  mainWallet : Address
  sessionKey : Address
  spendLimit : ℕ
  expiry : ℕ
  nonce : ℕ
  deriving DecidableEq

/--
What the verifier calls in go-ethereum.  `hexToAddress` is `IsHexAddress`
followed by `HexToAddress`; `sigToAddress` recovers a signer from the digest of
the typed data, which depends on an address only through its 20 bytes.
-/
structure Ethereum where
  hexToAddress : String → Option Address
  sigToAddress : RegisterSessionKey → List ℕ → Option Address

def toWei (amount : ℚ≥0) : ℕ := ⌊amount * 10 ^ 18⌋₊

/-- The encoder refuses what an unsigned 256-bit word cannot hold. -/
def uint256 (n : ℤ) : Option ℕ := if 0 ≤ n ∧ n < 2 ^ 256 then some n.toNat else none

def typedData (eth : Ethereum) (now : ℤ) (req : SessionKeyRequest) (nonce : ℕ) :
    Option RegisterSessionKey := do
  let mainWallet ← eth.hexToAddress req.mainWallet
  let sessionKey ← eth.hexToAddress req.sessionKey
  let spendLimit ← uint256 (toWei req.spendLimit)
  let expiry ← uint256 (Job.wrapInt64 (now / second + req.duration))
  let nonce ← uint256 nonce
  return ⟨mainWallet, sessionKey, spendLimit, expiry, nonce⟩

def hexDigit (c : Char) : Option ℕ :=
  if '0' ≤ c ∧ c ≤ '9' then some (c.toNat - '0'.toNat)
  else if 'a' ≤ c ∧ c ≤ 'f' then some (c.toNat - 'a'.toNat + 10)
  else if 'A' ≤ c ∧ c ≤ 'F' then some (c.toNat - 'A'.toNat + 10)
  else none

def decodeHex : List Char → Option (List ℕ)
  | [] => some []
  | [_] => none
  | high :: low :: rest =>
      match hexDigit high, hexDigit low, decodeHex rest with
      | some h, some l, some bytes => some ((16 * h + l) :: bytes)
      | _, _, _ => none

def hexToBytes (hexStr : String) : Option (List ℕ) :=
  match hexStr.toList with
  | '0' :: 'x' :: rest => decodeHex rest
  | text => decodeHex text

/-- Reading byte 64 of a shorter signature panics, which ends the request. -/
def adjustV (sig : List ℕ) : Option (List ℕ) :=
  match sig[64]? with
  | none => none
  | some v => some (if 27 ≤ v then sig.set 64 (v - 27) else sig)

/-- The message a valid signature is over; `none` when it is invalid or an error occurs. -/
def verifySessionKeySignature (eth : Ethereum) (now : ℤ) (req : SessionKeyRequest)
    (nonce : ℕ) : Option RegisterSessionKey := do
  let message ← typedData eth now req nonce
  let sig ← hexToBytes req.signature
  let sig ← adjustV sig
  let recoveredAddr ← eth.sigToAddress message sig
  if recoveredAddr = message.mainWallet then some message else none

/-! ## Redis, memory and caches -/

structure Record (Amount : Type) where
  session : Session Amount
  deadline : ℤ

/-- What the calls share.  A pointer to a session is an index into `objects`. -/
structure Store where
  now : ℤ
  records : String → Option (Record ℚ≥0)
  nonces : String → ℕ
  objects : List (Session ℚ≥0)
  caches : ℕ → String → Option ℕ

namespace Store

def loadSession (s : Store) (key : String) : Option (Session ℚ≥0) :=
  match s.records key with
  | none => none
  | some record => if s.now < record.deadline then some record.session else none

def timeToLive (s : Store) (session : Session ℚ≥0) : ℤ :=
  if session.expiresAt - s.now ≤ 0 then hour else session.expiresAt - s.now

def set (s : Store) (session : Session ℚ≥0) (ttl : ℤ) : Store :=
  { s with records :=
      Function.update s.records session.sessionKey (some ⟨session, s.now + ttl⟩) }

def storeSession (s : Store) (session : Session ℚ≥0) : Store :=
  s.set session (s.timeToLive session)

def getNonce (s : Store) (wallet : String) : ℕ := s.nonces wallet

def incrementNonce (s : Store) (wallet : String) : Store :=
  { s with nonces := Function.update s.nonces wallet (s.nonces wallet + 1) }

def alloc (s : Store) (session : Session ℚ≥0) : Store :=
  { s with objects := s.objects ++ [session] }

def charge (s : Store) (ref : ℕ) (amount : ℚ≥0) : Store :=
  { s with objects := s.objects.modify ref fun session =>
      { session with spentAmount := session.spentAmount + amount, lastUsedAt := s.now } }

def cache (s : Store) (p : ℕ) (key : String) (ref : ℕ) : Store :=
  { s with caches := Function.update s.caches p (Function.update (s.caches p) key (some ref)) }

def uncache (s : Store) (p : ℕ) (key : String) : Store :=
  { s with caches := Function.update s.caches p (Function.update (s.caches p) key none) }

end Store

/-! ## Calls -/

inductive Op where
  | registerSession (req : SessionKeyRequest)
  | validateSession (sessionKey : String)
  | validateAndCharge (sessionKey : String) (amount : ℚ≥0)
  | revokeSession (mainWallet sessionKey : String)

/-- What a call has done so far, with the local variables it still uses. -/
inductive Stage where
  | begun
  | nonceRead (nonce : ℕ)
  | verified (message : RegisterSessionKey)
  | counted (message : RegisterSessionKey)
  | missed
  | loaded (ref : ℕ)
  | held (ref : ℕ)
  | allowed (ref : ℕ)
  | charged (ref : ℕ)
  | marshalled (ref : ℕ) (data : Session ℚ≥0) (ttl : ℤ)
  | stored (ref : ℕ)
  | owned (session : Session ℚ≥0)
  | revoked
  | returned (ok : Bool)

structure Call where
  process : ℕ
  op : Op
  stage : Stage

def registerSession (eth : Ethereum) (s : Store) (p : ℕ) (req : SessionKeyRequest) :
    Stage → Option (Store × Stage)
  | .begun => some (s, .nonceRead (s.getNonce req.mainWallet))
  | .nonceRead nonce =>
      match verifySessionKeySignature eth s.now req nonce with
      | none => some (s, .returned false)
      | some message => some (s, .verified message)
  | .verified message => some (s.incrementNonce req.mainWallet, .counted message)
  | .counted _ =>
      let session := newSession s.now req
      some ((s.storeSession session).alloc session, .stored s.objects.length)
  | .stored ref => some (s.cache p req.sessionKey ref, .returned true)
  | _ => none

def validateSession (s : Store) (p : ℕ) (sessionKey : String) :
    Stage → Option (Store × Stage)
  | .begun =>
      match s.caches p sessionKey with
      | none => some (s, .missed)
      | some ref =>
          match s.objects[ref]? with
          | none => none
          | some session =>
              if session.isActive ∧ s.now < session.expiresAt then some (s, .held ref)
              else some (s, .missed)
  | .missed =>
      match s.loadSession sessionKey with
      | none => some (s, .returned false)
      | some session =>
          if ¬ session.isActive then some (s, .returned false)
          else if session.expiresAt < s.now then some (s, .returned false)
          else some (s.alloc session, .loaded s.objects.length)
  | .loaded ref => some (s.cache p sessionKey ref, .held ref)
  | _ => none

def validateAndCharge (s : Store) (p : ℕ) (sessionKey : String) (amount : ℚ≥0) :
    Stage → Option (Store × Stage)
  | .held ref =>
      match s.objects[ref]? with
      | none => none
      | some session =>
          if session.spendLimit < session.spentAmount + amount then
            some (s, .returned false)
          else some (s, .allowed ref)
  | .allowed ref => some (s.charge ref amount, .charged ref)
  | .charged ref =>
      match s.objects[ref]? with
      | none => none
      | some session => some (s, .marshalled ref session (s.timeToLive session))
  | .marshalled ref data ttl => some (s.set data ttl, .stored ref)
  | .stored ref => some (s.cache p sessionKey ref, .returned true)
  | stage => validateSession s p sessionKey stage

def revokeSession (s : Store) (p : ℕ) (mainWallet sessionKey : String) :
    Stage → Option (Store × Stage)
  | .begun =>
      match s.loadSession sessionKey with
      | none => some (s, .returned false)
      | some session =>
          if session.mainWallet ≠ mainWallet then some (s, .returned false)
          else some (s, .owned session)
  | .owned session => some (s.storeSession { session with isActive := false }, .revoked)
  | .revoked => some (s.uncache p sessionKey, .returned true)
  | _ => none

def advance (eth : Ethereum) (s : Store) (p : ℕ) :
    Op → Stage → Option (Store × Stage)
  | .registerSession req, stage => registerSession eth s p req stage
  | .validateSession _, .held _ => some (s, .returned true)
  | .validateSession sessionKey, stage => validateSession s p sessionKey stage
  | .validateAndCharge sessionKey amount, stage =>
      validateAndCharge s p sessionKey amount stage
  | .revokeSession mainWallet sessionKey, stage =>
      revokeSession s p mainWallet sessionKey stage

def usesRedis : Op → Stage → Bool
  | .registerSession _, .begun => true
  | .registerSession _, .verified _ => true
  | .registerSession _, .counted _ => true
  | .validateSession _, .missed => true
  | .validateAndCharge _ _, .missed => true
  | .validateAndCharge _ _, .marshalled _ _ _ => true
  | .revokeSession _ _, .begun => true
  | .revokeSession _ _, .owned _ => true
  | _, _ => false

/-! ## Runs -/

structure State where
  store : Store
  calls : List Call

inductive Action where
  | request (process : ℕ) (op : Op)
  | advance (c : ℕ)
  | redisError (c : ℕ)
  | tick (nanoseconds : ℕ)

def step (eth : Ethereum) (s : State) : Action → Option State
  | .request p op => some { s with calls := s.calls ++ [⟨p, op, .begun⟩] }
  | .advance c =>
      match s.calls[c]? with
      | none => none
      | some call =>
          match advance eth s.store call.process call.op call.stage with
          | none => none
          | some (store, stage) => some ⟨store, s.calls.set c { call with stage := stage }⟩
  | .redisError c =>
      match s.calls[c]? with
      | none => none
      | some call =>
          if usesRedis call.op call.stage then
            some { s with calls := s.calls.set c { call with stage := .returned false } }
          else none
  | .tick nanoseconds =>
      some { s with store := { s.store with now := s.store.now + nanoseconds } }

def initial (now : ℤ) : State where
  store :=
    { now := now
      records := fun _ => none
      nonces := fun _ => 0
      objects := []
      caches := fun _ _ => none }
  calls := []

/-! ## A wallet that has signed -/

def hexAddress (s : String) : Option Address :=
  let digits :=
    match s.toList with
    | '0' :: 'x' :: rest => rest
    | '0' :: 'X' :: rest => rest
    | text => text
  if digits.length = 40 then
    match decodeHex digits with
    | none => none
    | some bytes => some (BitVec.ofNat 160 (bytes.foldl (fun n byte => 256 * n + byte) 0))
  else none

def sampleSignature : String :=
  String.ofList (List.replicate 128 '1' ++ ['1', 'b'])

/-- One signature, which recovers its wallet from the messages the wallet has signed. -/
def signer (signed : List RegisterSessionKey) : Ethereum where
  hexToAddress := hexAddress
  sigToAddress message sig :=
    if message ∈ signed ∧ sig = List.replicate 64 17 ++ [0] then some message.mainWallet
    else none

def sampleRequest : SessionKeyRequest where
  mainWallet := "0xABCDEF0123456789ABCDEF0123456789ABCDEF01"
  sessionKey := "0x00000000000000000000000000000000000000aa"
  spendLimit := 10
  duration := 3600
  signature := sampleSignature

def sampleMessage : RegisterSessionKey where
  mainWallet := 0xABCDEF0123456789ABCDEF0123456789ABCDEF01
  sessionKey := 0xaa
  spendLimit := 10 * 10 ^ 18
  expiry := 3600
  nonce := 0

def sampleEthereum : Ethereum := signer [sampleMessage]

end WorldlandBroker.Wallet
