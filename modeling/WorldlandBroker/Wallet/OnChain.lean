import WorldlandBroker.Foundation.StructHash
import WorldlandBroker.Vault.KeyRecords
import WorldlandBroker.Wallet.SingleUse

/-!
# One signature for the server and the contract

The verifier lists the members of the message and hands them to go-ethereum;
the contract spells the type string out and encodes the words itself.  Both
digests are the same, and a signature that the verifier accepts is one that the
contract accepts, if its last byte is one that the contract's recovery knows.
-/

namespace WorldlandBroker.Wallet

open Foundation Foundation.StructHash

/-! ## The verifier's digest -/

structure Verifier where
  name : String
  version : String
  chainId : ℤ
  verifyingContract : Address

def domainTypes : List Member :=
  [⟨"name", .string⟩, ⟨"version", .string⟩, ⟨"chainId", .uint256⟩,
    ⟨"verifyingContract", .address⟩]

def registerSessionKeyTypes : List Member :=
  [⟨"mainWallet", .address⟩, ⟨"sessionKey", .address⟩, ⟨"spendLimit", .uint256⟩,
    ⟨"expiry", .uint256⟩, ⟨"nonce", .uint256⟩]

/-- The map of a domain leaves out an empty name or version. -/
def Verifier.domainMap (v : Verifier) : String → Option Value
  | "name" => if v.name = "" then none else some (.string v.name)
  | "version" => if v.version = "" then none else some (.string v.version)
  | "chainId" => (uint256 v.chainId).map .uint256
  | "verifyingContract" => some (.address v.verifyingContract)
  | _ => none

def RegisterSessionKey.messageMap (message : RegisterSessionKey) : String → Option Value
  | "mainWallet" => some (.address message.mainWallet)
  | "sessionKey" => some (.address message.sessionKey)
  | "spendLimit" => some (.uint256 message.spendLimit)
  | "expiry" => some (.uint256 message.expiry)
  | "nonce" => some (.uint256 message.nonce)
  | _ => none

section Digests

variable (keccak256 : Bytes → Bytes)

def Verifier.hash (v : Verifier) (message : RegisterSessionKey) : Option Bytes := do
  let domainSeparator ← hashStruct keccak256 "EIP712Domain" domainTypes v.domainMap
  let messageHash ←
    hashStruct keccak256 "RegisterSessionKey" registerSessionKeyTypes message.messageMap
  return digest keccak256 domainSeparator messageHash

def Verifier.ethereum (v : Verifier) (hexToAddress : String → Option Address)
    (sigToPub : Bytes → List ℕ → Option Address) : Ethereum where
  hexToAddress := hexToAddress
  sigToAddress message sig := (v.hash keccak256 message).bind fun hash => sigToPub hash sig

/-! ## The contract's digest -/

/-- A slot of `abi.encode`; a string stands for the hash of its bytes. -/
def abiEncode : Vault.Word → Bytes
  | .address value => toBytes 32 value.toNat
  | .uint256 value => toBytes 32 value
  | .string value => keccak256 (utf8 value)

def structHash (data : Vault.TypedData) : Bytes :=
  keccak256 (keccak256 (utf8 data.typeString) ++ data.members.flatMap (abiEncode keccak256))

def buildDomainSeparator (name version : String) (chainId : ℕ) (self : Address) : Bytes :=
  keccak256 (keccak256 (utf8 "EIP712Domain(string name,string version,uint256 chainId,address verifyingContract)") ++
    keccak256 (utf8 name) ++ keccak256 (utf8 version) ++ toBytes 32 chainId ++
    toBytes 32 self.toNat)

def gpuVault {τ : Type} (V : Vault.GPUVault τ) (name version : String) (chainId : ℕ)
    (recover : Bytes → Bytes → Option Address) : Vault.GPUVault τ where
  self := V.self
  self_ne_zero := V.self_ne_zero
  paymentToken := V.paymentToken
  Digest := Bytes
  hashTypedDataV4 data :=
    digest keccak256 (buildDomainSeparator keccak256 name version chainId V.self)
      (structHash keccak256 data)
  recover := recover

/-! ## The digests agree -/

structure RegisterSessionKey.InRange (message : RegisterSessionKey) : Prop where
  spendLimit : message.spendLimit < 2 ^ 256
  expiry : message.expiry < 2 ^ 256
  nonce : message.nonce < 2 ^ 256

variable {keccak256}
variable {τ : Type} {V : Vault.GPUVault τ} {name version : String} {chainId : ℕ}
  {message : RegisterSessionKey}

private theorem uint256_of_lt {n : ℕ} (h : n < 2 ^ 256) : uint256 n = some n := by
  rw [uint256, if_pos ⟨by omega, by exact_mod_cast h⟩]
  simp

private theorem uint256_lt {n : ℤ} {m : ℕ} (h : uint256 n = some m) : m < 2 ^ 256 := by
  simp only [uint256] at h
  split at h
  · rename_i hrange
    cases h
    exact (Int.toNat_lt hrange.1).mpr hrange.2
  · cases h

private theorem domain_words (hname : name ≠ "") (hversion : version ≠ "")
    (hchain : chainId < 2 ^ 256) (contract : Address) :
    Words keccak256 (Verifier.domainMap ⟨name, version, chainId, contract⟩) domainTypes
      [keccak256 (utf8 name), keccak256 (utf8 version), toBytes 32 chainId,
        toBytes 32 contract.toNat] := by
  refine .cons ⟨.string name, ?_, rfl⟩ (.cons ⟨.string version, ?_, rfl⟩
    (.cons ⟨.uint256 chainId, ?_, ?_⟩ (.cons ⟨.address contract, rfl, rfl⟩ .nil)))
  · simp [Verifier.domainMap, hname]
  · simp [Verifier.domainMap, hversion]
  · simp [Verifier.domainMap, uint256_of_lt hchain]
  · exact encodeValue_uint256 hchain

private theorem message_words (h : message.InRange) :
    Words keccak256 message.messageMap registerSessionKeyTypes
      [toBytes 32 message.mainWallet.toNat, toBytes 32 message.sessionKey.toNat,
        toBytes 32 message.spendLimit, toBytes 32 message.expiry,
        toBytes 32 message.nonce] := by
  refine .cons ⟨_, rfl, rfl⟩ (.cons ⟨_, rfl, rfl⟩ (.cons ⟨_, rfl, ?_⟩
    (.cons ⟨_, rfl, ?_⟩ (.cons ⟨_, rfl, ?_⟩ .nil))))
  · exact encodeValue_uint256 h.spendLimit
  · exact encodeValue_uint256 h.expiry
  · exact encodeValue_uint256 h.nonce

private theorem encodeType_domain : encodeType "EIP712Domain" domainTypes =
    "EIP712Domain(string name,string version,uint256 chainId,address verifyingContract)" := by
  decide

private theorem encodeType_registerSessionKey :
    encodeType "RegisterSessionKey" registerSessionKeyTypes =
      "RegisterSessionKey(address mainWallet,address sessionKey,uint256 spendLimit,uint256 expiry,uint256 nonce)" := by
  decide

theorem Verifier.hash_eq (recover : Bytes → Bytes → Option Address) (hname : name ≠ "")
    (hversion : version ≠ "") (hchain : chainId < 2 ^ 256) (hmessage : message.InRange) :
    Verifier.hash keccak256 ⟨name, version, chainId, V.self⟩ message =
      some ((gpuVault keccak256 V name version chainId recover).hashTypedDataV4
        (Vault.registrationData message.mainWallet message.sessionKey message.spendLimit
          message.expiry message.nonce)) := by
  simp only [Verifier.hash, hashStruct_of_words (domain_words hname hversion hchain V.self),
    hashStruct_of_words (message_words hmessage), encodeType_domain,
    encodeType_registerSessionKey, Option.bind_eq_bind, Option.bind_some]
  simp [gpuVault, buildDomainSeparator, structHash, Vault.registrationData, abiEncode]

private theorem lt_of_encodeValue {n : ℕ} {word : Bytes}
    (h : encodeValue keccak256 .uint256 (.uint256 n) = some word) : n < 2 ^ 256 := by
  simp only [encodeValue] at h
  split at h
  · assumption
  · cases h

/-- The verifier has no hash where the domain or the message lacks a word. -/
theorem Verifier.inRange_of_hash {hash : Bytes} {contract : Address}
    (h : Verifier.hash keccak256 ⟨name, version, chainId, contract⟩ message = some hash) :
    (name ≠ "" ∧ version ≠ "" ∧ chainId < 2 ^ 256) ∧ message.InRange := by
  simp only [Verifier.hash, hashStruct, Option.bind_eq_bind, Option.bind_eq_some_iff] at h
  obtain ⟨-, ⟨words, hwords, -⟩, -, ⟨words', hwords', -⟩, -⟩ := h
  constructor
  · simp only [encodeData, domainTypes, Option.bind_eq_bind, Option.bind_eq_some_iff,
      Verifier.domainMap] at hwords
    obtain ⟨_, hname, -, -, -, ⟨_, hversion, -, -, -, ⟨_, hchain, -⟩, -⟩, -⟩ := hwords
    obtain ⟨n, hn, -⟩ := Option.map_eq_some_iff.mp hchain
    refine ⟨fun hempty => ?_, fun hempty => ?_, ?_⟩
    · simp [hempty] at hname
    · simp [hempty] at hversion
    · exact (uint256_natCast hn) ▸ uint256_lt hn
  · simp only [encodeData, registerSessionKeyTypes, Option.bind_eq_bind,
      Option.bind_eq_some_iff] at hwords'
    obtain ⟨_, -, -, -, -, ⟨_, -, -, -, -, ⟨_, ⟨⟩, _, hlimit, _, ⟨_, ⟨⟩, _, hexpiry, _,
      ⟨_, ⟨⟩, _, hnonce, -⟩, -⟩, -⟩, -⟩, -⟩ := hwords'
    exact ⟨lt_of_encodeValue hlimit, lt_of_encodeValue hexpiry, lt_of_encodeValue hnonce⟩

end Digests

/-! ## Recovering the signer -/

/--
`SigToPub` takes 65 bytes that end in the parity 0 or 1, `ECDSA.recover` the
same bytes ending in 27 or 28; they recover the same signer.
-/
structure RecoversAlike (sigToPub : Bytes → List ℕ → Option Address)
    (recover : Bytes → Bytes → Option Address) : Prop where
  length : ∀ hash sig signer, sigToPub hash sig = some signer → sig.length = 65
  parity : ∀ hash rs v, rs.length = 64 → (∀ byte ∈ rs, byte < 256) → v < 2 →
    sigToPub hash (rs ++ [v]) = recover hash ((rs ++ [27 + v]).map UInt8.ofNat)

private theorem hexDigit_lt {c : Char} {digit : ℕ} (h : hexDigit c = some digit) : digit < 16 := by
  have hle : ∀ {last : Char}, c ≤ last → c.toNat ≤ last.toNat := fun h => h
  simp only [hexDigit] at h
  split at h
  · rename_i hrange
    have hlast := hle hrange.2
    cases h
    change c.toNat ≤ 57 at hlast
    change c.toNat - 48 < 16
    omega
  · split at h
    · rename_i hrange
      have hlast := hle hrange.2
      cases h
      change c.toNat ≤ 102 at hlast
      change c.toNat - 97 + 10 < 16
      omega
    · split at h
      · rename_i hrange
        have hlast := hle hrange.2
        cases h
        change c.toNat ≤ 70 at hlast
        change c.toNat - 65 + 10 < 16
        omega
      · contradiction

private theorem decodeHex_lt {text : List Char} {bytes : List ℕ} (h : decodeHex text = some bytes) :
    ∀ byte ∈ bytes, byte < 256 := by
  induction text using decodeHex.induct generalizing bytes with
  | case1 =>
      cases h
      simp
  | case2 => cases h
  | case3 high low rest d e later hlater hd he ih =>
      simp only [decodeHex, hd, he, hlater] at h
      cases h
      have hhigh := hexDigit_lt hd
      have hlow := hexDigit_lt he
      intro byte hbyte
      rcases List.mem_cons.mp hbyte with rfl | hbyte
      · omega
      · exact ih hlater byte hbyte
  | case4 high low rest hnone ih =>
      simp only [decodeHex] at h
      cases h

private theorem hexToBytes_lt {text : String} {bytes : List ℕ} (h : hexToBytes text = some bytes) :
    ∀ byte ∈ bytes, byte < 256 := by
  unfold hexToBytes at h
  split at h <;> exact decodeHex_lt h

/-- Subtracting 27 turns the contract's last byte into the parity. -/
theorem adjustV_split {sig adjusted : List ℕ} {v : ℕ} (h : adjustV sig = some adjusted)
    (hlength : adjusted.length = 65) (hv : sig[64]? = some (27 + v)) :
    sig = sig.take 64 ++ [27 + v] ∧ adjusted = sig.take 64 ++ [v] ∧
      (sig.take 64).length = 64 := by
  have hset : adjusted = sig.set 64 v := by
    simpa [adjustV, hv] using h.symm
  rw [hset, List.length_set] at hlength
  have hsplit : sig = sig.take 64 ++ [27 + v] := by
    conv_lhs => rw [← List.take_append_drop 64 sig]
    congr 1
    rw [List.drop_eq_getElem?_toList_append, hv, List.drop_eq_nil_of_le (by omega)]
    rfl
  have htake : (sig.take 64).length = 64 := by simp [hlength]
  refine ⟨hsplit, ?_, htake⟩
  rw [hset]
  conv_lhs => rw [hsplit]
  simp [htake]

theorem RecoversAlike.recover_eq {sigToPub : Bytes → List ℕ → Option Address}
    {recover : Bytes → Bytes → Option Address} (halike : RecoversAlike sigToPub recover)
    {hash : Bytes} {sig adjusted : List ℕ} {signer : Address}
    (hbytes : ∀ byte ∈ sig, byte < 256) (hadjust : adjustV sig = some adjusted)
    (hlast : sig[64]? = some 27 ∨ sig[64]? = some 28)
    (hsigner : sigToPub hash adjusted = some signer) :
    recover hash (sig.map UInt8.ofNat) = some signer := by
  obtain ⟨v, hv, hbyte⟩ : ∃ v < 2, sig[64]? = some (27 + v) := by
    rcases hlast with hlast | hlast
    · exact ⟨0, by omega, hlast⟩
    · exact ⟨1, by omega, hlast⟩
  obtain ⟨hsig, hadjusted, hlength⟩ :=
    adjustV_split hadjust (halike.length _ _ _ hsigner) hbyte
  have hrs : ∀ byte ∈ sig.take 64, byte < 256 := fun byte h =>
    hbytes byte (List.mem_of_mem_take h)
  rw [hadjusted, halike.parity hash _ v hlength hrs hv, ← hsig] at hsigner
  exact hsigner

/-! ## Accepted by the server, accepted by the contract -/

private theorem signed_of_verified {eth : Ethereum} {now : ℤ} {req : SessionKeyRequest} {nonce : ℕ}
    {message : RegisterSessionKey}
    (h : verifySessionKeySignature eth now req nonce = some message) :
    ∃ sig adjusted, hexToBytes req.signature = some sig ∧ adjustV sig = some adjusted ∧
      eth.sigToAddress message adjusted = some message.mainWallet := by
  simp only [verifySessionKeySignature, Option.bind_eq_bind, Option.bind_eq_some_iff] at h
  obtain ⟨message', -, sig, hsig, adjusted, hadjust, recovered, hrecovered, hsame⟩ := h
  split at hsame
  · rename_i hwallet
    cases hsame
    exact ⟨sig, adjusted, hsig, hadjust, hwallet ▸ hrecovered⟩
  · contradiction

section Agreement

variable {keccak256 : Bytes → Bytes} {τ : Type} {V : Vault.GPUVault τ}
  {name version : String} {chainId : ℕ} {hexToAddress : String → Option Address}
  {sigToPub : Bytes → List ℕ → Option Address} {recover : Bytes → Bytes → Option Address}

/--
Verifier and contract hash the same words, and what the verifier accepts under a
signature that ends in 27 or 28 is a registration the contract makes.
-/
theorem registration_agrees (halike : RecoversAlike sigToPub recover) :
    (∀ (message : RegisterSessionKey) (hash : Bytes),
        Verifier.hash keccak256 ⟨name, version, chainId, V.self⟩ message = some hash ↔
          ((name ≠ "" ∧ version ≠ "" ∧ chainId < 2 ^ 256) ∧ message.InRange) ∧
            hash = (gpuVault keccak256 V name version chainId recover).hashTypedDataV4
              (Vault.registrationData message.mainWallet message.sessionKey
                message.spendLimit message.expiry message.nonce)) ∧
      ∀ (now : ℤ) (req : SessionKeyRequest) (nonce : ℕ) (message : RegisterSessionKey)
        (sig : List ℕ) (s : Vault.State τ),
        verifySessionKeySignature (Verifier.ethereum keccak256
          ⟨name, version, chainId, V.self⟩ hexToAddress sigToPub) now req nonce =
            some message →
        hexToBytes req.signature = some sig → sig[64]? = some 27 ∨ sig[64]? = some 28 →
        message.sessionKey ≠ 0 → nonce < 2 ^ 64 → s.nonces message.mainWallet = nonce →
        s.timestamp < message.expiry →
        ∃ s', Vault.registerSessionKeyWithSignature
            (gpuVault keccak256 V name version chainId recover) s message.mainWallet
            message.sessionKey message.spendLimit message.expiry (sig.map UInt8.ofNat) =
              .ok s' ∧
          (s'.sessionKeys message.sessionKey).mainWallet = message.mainWallet := by
  have hdigest : ∀ (message : RegisterSessionKey) (hash : Bytes),
      Verifier.hash keccak256 ⟨name, version, chainId, V.self⟩ message = some hash ↔
        ((name ≠ "" ∧ version ≠ "" ∧ chainId < 2 ^ 256) ∧ message.InRange) ∧
          hash = (gpuVault keccak256 V name version chainId recover).hashTypedDataV4
            (Vault.registrationData message.mainWallet message.sessionKey
              message.spendLimit message.expiry message.nonce) := by
    intro message hash
    constructor
    · intro hhash
      obtain ⟨⟨hname, hversion, hchain⟩, hmessage⟩ := Verifier.inRange_of_hash hhash
      refine ⟨⟨⟨hname, hversion, hchain⟩, hmessage⟩, ?_⟩
      rw [Verifier.hash_eq recover hname hversion hchain hmessage] at hhash
      exact (Option.some.inj hhash).symm
    · rintro ⟨⟨⟨hname, hversion, hchain⟩, hmessage⟩, rfl⟩
      exact Verifier.hash_eq recover hname hversion hchain hmessage
  refine ⟨hdigest, ?_⟩
  intro now req nonce message sig s hverified hsig hlast hkey hnonce hstored hexpiry
  have hmessage := (verified_matches hverified).2
  obtain ⟨sig', adjusted, hsig', hadjust, hsigner⟩ := signed_of_verified hverified
  cases hsig.symm.trans hsig'
  obtain ⟨hash, hhash, hrecovered⟩ := Option.bind_eq_some_iff.mp hsigner
  have hsigned := halike.recover_eq (hexToBytes_lt hsig) hadjust hlast hrecovered
  have hnext : s.nonces message.mainWallet + 1 < Vault.wordSize := by
    rw [hstored]
    exact Nat.lt_of_le_of_lt (Nat.succ_le_of_lt hnonce) (by decide)
  apply Vault.registerSessionKeyWithSignature_passes hkey hexpiry hnext
  rw [hstored, ← hmessage, ← ((hdigest message hash).mp hhash).2]
  exact hsigned

end Agreement

/-! ## A signed registration -/

def sampleKeccak256 (input : Bytes) : Bytes :=
  let domainType : ℕ := 0x8b73c3c69bb8fe3d512ecc4cf759cc79239f7b179b0ffacaa9a75d522b39400f
  let domainName : ℕ := 0x4e8ffa20f12db8384cc5493801c30c53b4abe122776736452b0e6bb3790e5290
  let domainVersion : ℕ := 0xc89efdaa54c0f20c7adf612882df0950f5a951637e0307cdcb4c672f298b8bc6
  let separator : ℕ := 0x14449fb015f1020b0214e7727f8f5895171cbc9cb9b2818c37fa5689656199c1
  let messageType : ℕ := 0x9cdedb650f0c832f0f08ec608cecf63cfb0854c9eb90a48cee2b93f48b11e1b7
  let message : ℕ := 0x1fa0ffb5acd637fb47974e4d9b06aa590cd7e1b952f89b238a82a6f80fd6e550
  let signed : ℕ := 0xfba9975da332957d54b1afca701e959d92ebaf92f52b7ba49fb152c670d71b17
  let table : List (Bytes × ℕ) :=
    [(utf8 (encodeType "EIP712Domain" domainTypes), domainType),
      (utf8 "GPUVault", domainName), (utf8 "1", domainVersion),
      ([domainType, domainName, domainVersion, 97, 100].flatMap (toBytes 32), separator),
      (utf8 (encodeType "RegisterSessionKey" registerSessionKeyTypes), messageType),
      ([messageType, 0x7e5f4552091a69125d5dfcb7b8c2659029395bdf, 0xaa, 10 * 10 ^ 18, 3600,
        0].flatMap (toBytes 32), message),
      ([0x19, 0x01] ++ toBytes 32 separator ++ toBytes 32 message, signed)]
  match table.find? fun entry => entry.1 = input with
  | some entry => toBytes 32 entry.2
  | none => []

def signedDigest : Bytes :=
  toBytes 32 0xfba9975da332957d54b1afca701e959d92ebaf92f52b7ba49fb152c670d71b17

def sampleRS : Bytes :=
  toBytes 32 0x2a5bbcb0eede528e6abe5f2ec50ad7887eb5677af383a460b05ee23bf892dfe5 ++
    toBytes 32 0x07f0e603dea21bf727df47b36a176677faebaf673925dc122b83678c624ca6b7

def signatureBytes (v : ℕ) : List ℕ := sampleRS.map UInt8.toNat ++ [v]

def sampleSigToPub (hash : Bytes) (sig : List ℕ) : Option Address :=
  if hash = signedDigest ∧ sig = signatureBytes 0 then
    some 0x7e5f4552091a69125d5dfcb7b8c2659029395bdf
  else none

def sampleRecover (hash signature : Bytes) : Option Address :=
  if hash = signedDigest ∧ signature = sampleRS ++ [27] then
    some 0x7e5f4552091a69125d5dfcb7b8c2659029395bdf
  else none

def signedRequest (v : String) : SessionKeyRequest :=
  { sampleRequest with
    mainWallet := "0x7E5F4552091A69125d5DfCb7b8C2659029395Bdf"
    signature :=
      "0x2a5bbcb0eede528e6abe5f2ec50ad7887eb5677af383a460b05ee23bf892dfe5" ++
        "07f0e603dea21bf727df47b36a176677faebaf673925dc122b83678c624ca6b7" ++ v }

def signedMessage : RegisterSessionKey where
  mainWallet := 0x7e5f4552091a69125d5dfcb7b8c2659029395bdf
  sessionKey := 0xaa
  spendLimit := 10 * 10 ^ 18
  expiry := 3600
  nonce := 0

def sampleEth : Ethereum :=
  Verifier.ethereum sampleKeccak256 ⟨"GPUVault", "1", 97, 100⟩ hexAddress sampleSigToPub

private theorem sample_hash :
    Verifier.hash sampleKeccak256 ⟨"GPUVault", "1", 97, 100⟩ signedMessage =
      some signedDigest := by
  decide +kernel

private theorem hexToBytes_27 : hexToBytes (signedRequest "1b").signature =
    some (signatureBytes 27) := by
  decide +kernel

private theorem hexToBytes_0 : hexToBytes (signedRequest "00").signature =
    some (signatureBytes 0) := by
  decide +kernel

private theorem signedRequest_verified {v : String} {byte : ℕ}
    (hsig : hexToBytes (signedRequest v).signature = some (signatureBytes byte))
    (hadjust : adjustV (signatureBytes byte) = some (signatureBytes 0)) :
    verifySessionKeySignature sampleEth 0 (signedRequest v) 0 = some signedMessage := by
  have htyped : typedData sampleEth 0 (signedRequest v) 0 = some signedMessage := by
    change typedData sampleEth 0 (signedRequest "00") 0 = _
    decide +kernel
  have hsigner : sampleEth.sigToAddress signedMessage (signatureBytes 0) =
      some signedMessage.mainWallet := by
    change (Verifier.hash sampleKeccak256 ⟨"GPUVault", "1", 97, 100⟩ signedMessage).bind
      (fun hash => sampleSigToPub hash _) = _
    rw [sample_hash, Option.bind_some, sampleSigToPub, if_pos ⟨rfl, rfl⟩]
    rfl
  simp [verifySessionKeySignature, htyped, hsig, hadjust, hsigner]

theorem map_ofNat_eq_iff {rs : List ℕ} (hrs : ∀ byte ∈ rs, byte < 256) (bytes : Bytes) :
    rs.map UInt8.ofNat = bytes ↔ rs = bytes.map UInt8.toNat := by
  constructor
  · rintro rfl
    rw [List.map_map]
    conv_lhs => rw [← List.map_id rs]
    apply List.map_congr_left
    intro byte hbyte
    simp [Nat.mod_eq_of_lt (hrs byte hbyte)]
  · rintro rfl
    simp [List.map_map, Function.comp_def]

private theorem sample_recoversAlike : RecoversAlike sampleSigToPub sampleRecover := by
  constructor
  · intro hash sig signer h
    simp only [sampleSigToPub] at h
    split at h
    · rename_i hsig
      rw [hsig.2]
      decide
    · contradiction
  · intro hash rs v hlength hrs hv
    simp only [sampleSigToPub, sampleRecover]
    have hsame : rs ++ [v] = signatureBytes 0 ↔
        (rs ++ [27 + v]).map UInt8.ofNat = sampleRS ++ [27] := by
      rw [signatureBytes, List.map_append, List.map_singleton, List.append_singleton_inj,
        List.append_singleton_inj, map_ofNat_eq_iff hrs]
      apply and_congr_right
      intro _
      rcases Nat.le_one_iff_eq_zero_or_eq_one.mp (Nat.le_of_lt_succ hv) with rfl | rfl
      · decide
      · decide
    simp only [hsame]

def sampleGpuVault : Vault.GPUVault Vault.ERC20 :=
  gpuVault sampleKeccak256 Vault.sampleVault "GPUVault" "1" 97 sampleRecover

/-- A wallet signs with the last byte 27; both sides accept. -/
theorem registration_agrees_sample :
    verifySessionKeySignature sampleEth 0 (signedRequest "1b") 0 = some signedMessage ∧
      ∃ s', Vault.registerSessionKeyWithSignature sampleGpuVault Vault.sampleState
          signedMessage.mainWallet signedMessage.sessionKey signedMessage.spendLimit
          signedMessage.expiry (sampleRS ++ [27]) = .ok s' ∧
        (s'.sessionKeys signedMessage.sessionKey).mainWallet = signedMessage.mainWallet := by
  have hverified := signedRequest_verified hexToBytes_27 rfl
  refine ⟨hverified, ?_⟩
  exact (registration_agrees (V := Vault.sampleVault) sample_recoversAlike).2 0
    (signedRequest "1b") 0 signedMessage _ Vault.sampleState hverified hexToBytes_27
    (.inl (by decide)) (by decide) (by decide) rfl (by decide)

/--
The same signature with the parity 0 for its last byte: the verifier accepts it,
and the contract's recovery does not.
-/
theorem parity_byte_rejected_on_chain :
    RecoversAlike sampleSigToPub sampleRecover ∧
      verifySessionKeySignature sampleEth 0 (signedRequest "00") 0 = some signedMessage ∧
      hexToBytes (signedRequest "00").signature = some (signatureBytes 0) ∧
      signedMessage.sessionKey ≠ 0 ∧
      Vault.sampleState.nonces signedMessage.mainWallet = 0 ∧
      Vault.sampleState.timestamp < signedMessage.expiry ∧
      ∀ s', Vault.registerSessionKeyWithSignature sampleGpuVault Vault.sampleState
          signedMessage.mainWallet signedMessage.sessionKey signedMessage.spendLimit
          signedMessage.expiry (sampleRS ++ [0]) ≠ .ok s' := by
  refine ⟨sample_recoversAlike, signedRequest_verified hexToBytes_0 rfl, hexToBytes_0,
    by decide, rfl, by decide, ?_⟩
  intro s' h
  have hdone : Vault.Done sampleGpuVault Vault.sampleState 0
      (.registerSessionKeyWithSignature signedMessage.mainWallet signedMessage.sessionKey
        signedMessage.spendLimit signedMessage.expiry (sampleRS ++ [0])) s' :=
    Vault.registerSessionKeyWithSignature_eq_ok h
  cases hdone with
  | registerSessionKeyWithSignature _ _ _ hsigner =>
      have hnone : ∀ hash, sampleRecover hash (sampleRS ++ [0]) = none := by
        intro hash
        rw [sampleRecover, if_neg]
        rintro ⟨-, hsig⟩
        revert hsig
        decide
      cases (hnone _).symm.trans hsigner

end WorldlandBroker.Wallet
