import WorldlandBroker.Wallet.Session
import WorldlandBroker.Job.Numeral

/-!
# Logging in with a wallet

The message the server hands out to be signed, and the one it asks for when a
signature comes back.  Each handler puts its text together by itself.
-/

namespace WorldlandBroker.Wallet

open Provider

/-! ## Handing out a message -/

/-- Go's conversion of a 64-bit integer to a rune keeps the low 32 bits. -/
def wrapInt32 (n : ℤ) : ℤ := (n + 2 ^ 31) % 2 ^ 32 - 2 ^ 31

/-- The text of one code point; what is none becomes the replacement character. -/
def runeText (r : ℤ) : String :=
  if 0 ≤ r ∧ r.toNat.isValidChar then String.singleton (Char.ofNat r.toNat)
  else String.singleton '\uFFFD'

def getLoginMessage (walletAddress : String) (timestamp : ℤ) : Except String String :=
  if walletAddress = "" then .error "wallet query parameter is required"
  else .ok ("Sign in to GPU Rental Platform\nWallet: " ++ walletAddress ++ "\nTimestamp: " ++
    runeText (wrapInt32 timestamp))

/-! ## Verifying a login -/

structure LoginRequest where
  walletAddress : String
  message : String
  signature : String
  timestamp : ℤ

/--
`hexToAddress` is `HexToAddress`, which decodes any text; `sigToPub` recovers the
address of the signer of a prefixed message; `toLower` lowers a single letter.
-/
structure LoginVerifier where
  hexToAddress : String → Address
  sigToPub : String → List ℕ → Option Address
  toLower : Char → Char

namespace LoginVerifier

def expectedMessage (v : LoginVerifier) (walletAddress : String) (timestamp : ℤ) : String :=
  "Sign in to GPU Rental Platform\nWallet: " ++
    String.ofList (walletAddress.toList.map v.toLower) ++ "\nTimestamp: " ++ decimal timestamp

def prefixedMessage (message : String) : String :=
  "\x19Ethereum Signed Message:\n" ++ decimal message.utf8ByteSize ++ message

/-- Whether the signature is the wallet's; `none` where the call panics. -/
def verifyLoginSignature (v : LoginVerifier) (now : ℤ) (req : LoginRequest) :
    Option (Except String Bool) :=
  if 300 < Job.wrapInt64 (now - req.timestamp) ∨ 60 < Job.wrapInt64 (req.timestamp - now) then
    some (.error "signature expired or timestamp in future")
  else if req.message ≠ v.expectedMessage req.walletAddress req.timestamp then
    some (.error "message mismatch")
  else
    match hexToBytes req.signature with
    | none => some (.error "invalid signature format")
    | some sig =>
        match adjustV sig with
        | none => none
        | some sig =>
            match v.sigToPub (prefixedMessage req.message) sig with
            | none => some (.error "failed to recover public key")
            | some recoveredAddr =>
                some (.ok (recoveredAddr = v.hexToAddress req.walletAddress))

end LoginVerifier

variable {v : LoginVerifier} {walletAddress : String} {timestamp : ℤ}

/-! ## Texts of one character -/

private theorem runeText_toList (r : ℤ) : ∃ c, (runeText r).toList = [c] ∧
    (0 ≤ r → r.toNat.isValidChar → c = Char.ofNat r.toNat) := by
  unfold runeText
  split
  · exact ⟨_, String.toList_singleton _, fun _ _ => rfl⟩
  · rename_i hinvalid
    exact ⟨_, String.toList_singleton _, fun hr hvalid => absurd ⟨hr, hvalid⟩ hinvalid⟩

private theorem eq_of_toDigits_eq_singleton {n : ℕ} {c : Char} (h : Nat.toDigits 10 n = [c]) :
    48 ≤ c.toNat ∧ c.toNat ≤ 57 ∧ n = c.toNat - 48 := by
  have hdigits : ∀ d ∈ Nat.toDigits 10 n, d.isDigit = true :=
    fun d hd => Nat.isDigit_of_mem_toDigits (by decide) (by decide) hd
  rw [h] at hdigits
  have hdigit := hdigits c (List.mem_singleton_self c)
  have hvalue : Nat.ofDigitChars 10 (Nat.toDigits 10 n) 0 = n := Nat.ofDigitChars_ten_toDigits
  rw [h] at hvalue
  simp only [Char.isDigit, Bool.and_eq_true, decide_eq_true_eq] at hdigit
  have hlow : 48 ≤ c.toNat := hdigit.1
  have hhigh : c.toNat ≤ 57 := hdigit.2
  refine ⟨hlow, hhigh, hvalue.symm.trans ?_⟩
  simp [Nat.ofDigitChars]

/-- Only a digit is written with one character, and no number is its own code point. -/
theorem decimal_ne_runeText (n : ℤ) : decimal n ≠ runeText (wrapInt32 n) := by
  intro heq
  obtain ⟨c, hrune, hvalid⟩ := runeText_toList (wrapInt32 n)
  rw [← heq, decimal, Int.toString_eq_repr, Int.repr_eq_if] at hrune
  split at hrune
  · rw [Nat.toList_repr] at hrune
    obtain ⟨hlow, hhigh, hvalue⟩ := eq_of_toDigits_eq_singleton hrune
    have hsmall : wrapInt32 n = n := by
      unfold wrapInt32
      omega
    rw [hsmall] at hvalid
    have hcode := hvalid (by omega) (by unfold Nat.isValidChar; omega)
    have hcodes : ∀ k < 10, (Char.ofNat k).toNat = k := by decide
    have hcodepoint := hcodes n.toNat (by omega)
    rw [← hcode] at hcodepoint
    omega
  · rw [String.toList_append, Nat.toList_repr] at hrune
    have hlength := congrArg List.length hrune
    have hdigits : Nat.toDigits 10 (-n).toNat ≠ [] := Nat.toDigits_ne_nil
    have hnonempty := List.length_pos_iff.mpr hdigits
    simp at hlength

/-! ## The two messages -/

private theorem message_of_verified {now : ℤ} {req : LoginRequest} {valid : Bool}
    (h : v.verifyLoginSignature now req = some (.ok valid)) :
    req.message = v.expectedMessage req.walletAddress req.timestamp := by
  unfold LoginVerifier.verifyLoginSignature at h
  split at h
  · cases h
  · split at h
    · cases h
    · rename_i hmessage
      exact not_not.mp hmessage

theorem expectedMessage_ne_empty (v : LoginVerifier) (walletAddress : String)
    (timestamp : ℤ) : v.expectedMessage walletAddress timestamp ≠ "" := by
  intro hempty
  have hchars := congrArg String.toList hempty
  unfold LoginVerifier.expectedMessage at hchars
  simp [String.toList_append] at hchars

theorem verifyLoginSignature_signed {signature : String} {bytes sig : List ℕ}
    (hbytes : hexToBytes signature = some bytes) (hadjust : adjustV bytes = some sig)
    (hrecovered : v.sigToPub (LoginVerifier.prefixedMessage
      (v.expectedMessage walletAddress timestamp)) sig = some (v.hexToAddress walletAddress)) :
    v.verifyLoginSignature timestamp ⟨walletAddress, v.expectedMessage walletAddress timestamp,
      signature, timestamp⟩ = some (.ok true) := by
  have hfresh : ¬ (300 < Job.wrapInt64 (timestamp - timestamp) ∨
      60 < Job.wrapInt64 (timestamp - timestamp)) := by
    rw [sub_self]
    decide
  unfold LoginVerifier.verifyLoginSignature
  simp only []
  rw [if_neg hfresh, if_neg (not_not.mpr rfl)]
  simp only [hbytes, hadjust, hrecovered, decide_true]

/-- Both wallets are as long, so equal messages would end in equal timestamps. -/
theorem getLoginMessage_ne {message : String}
    (h : getLoginMessage walletAddress timestamp = .ok message) :
    message ≠ v.expectedMessage walletAddress timestamp := by
  intro heq
  by_cases hempty : walletAddress = ""
  · rw [getLoginMessage, if_pos hempty] at h
    contradiction
  rw [getLoginMessage, if_neg hempty] at h
  have htext := (Except.ok.inj h).trans heq
  unfold LoginVerifier.expectedMessage at htext
  generalize "Sign in to GPU Rental Platform\nWallet: " = before at htext
  generalize "\nTimestamp: " = between at htext
  replace htext := congrArg String.toList htext
  simp only [String.toList_append, String.toList_ofList, List.append_assoc,
    List.append_cancel_left_eq] at htext
  obtain ⟨-, hrest⟩ := List.append_inj htext (List.length_map _).symm
  have hstamp := List.append_cancel_left hrest
  exact decimal_ne_runeText timestamp (String.toList_inj.mp hstamp).symm

/--
For no wallet and no timestamp is the message that is handed out the one that is
verified, and no signature of it is ever taken for a login.
-/
theorem login_message_never_verified (v : LoginVerifier) (walletAddress : String)
    (timestamp : ℤ) :
    getLoginMessage walletAddress timestamp ≠
        .ok (v.expectedMessage walletAddress timestamp) ∧
      ∀ message now signature, getLoginMessage walletAddress timestamp = .ok message →
        v.verifyLoginSignature now ⟨walletAddress, message, signature, timestamp⟩ ≠
          some (.ok true) := by
  constructor
  · intro heq
    exact getLoginMessage_ne heq rfl
  · intro message now signature hmessage hverified
    exact getLoginMessage_ne hmessage (message_of_verified hverified)

/-! ## A wallet that signs -/

def sampleLogin : LoginVerifier where
  hexToAddress s := (hexAddress s).getD 0
  sigToPub _ sig :=
    if sig = List.replicate 64 17 ++ [0] then some sampleMessage.mainWallet else none
  toLower := Char.toLower

def sampleWallet : String := "0xabcdef0123456789abcdef0123456789abcdef01"

/-- In the year 2026 the timestamp is no code point. -/
theorem login_message_loses_timestamp :
    getLoginMessage sampleWallet 1767225600 = .ok ("Sign in to GPU Rental Platform\nWallet: " ++
        sampleWallet ++ "\nTimestamp: \uFFFD") ∧
      sampleLogin.expectedMessage sampleWallet 1767225600 =
        "Sign in to GPU Rental Platform\nWallet: " ++ sampleWallet ++
          "\nTimestamp: 1767225600" ∧
      getLoginMessage sampleWallet 1767225600 ≠
        .ok (sampleLogin.expectedMessage sampleWallet 1767225600) := by
  decide +kernel

end WorldlandBroker.Wallet
