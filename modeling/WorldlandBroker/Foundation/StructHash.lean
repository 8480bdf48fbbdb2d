import Mathlib.Algebra.Group.Nat.Defs
import Mathlib.Data.List.Basic

/-!
# Hashing of typed structured data

EIP-712 for structs whose members are atomic or strings: the type string, the
words of the members, and the digest that is signed.  The hash function is a
parameter, and so is the source of the member values.
-/

namespace WorldlandBroker.Foundation.StructHash

abbrev Bytes := List UInt8

def toBytes : ℕ → ℕ → Bytes
  | 0, _ => []
  | length + 1, n => toBytes length (n / 256) ++ [UInt8.ofNat n]

def utf8 (text : String) : Bytes := text.toUTF8.toList

inductive MemberType where
  | address
  | uint256
  | string
  deriving DecidableEq

def MemberType.name : MemberType → String
  | .address => "address"
  | .uint256 => "uint256"
  | .string => "string"

structure Member where
  name : String
  type : MemberType

inductive Value where
  | address (value : BitVec 160)
  | uint256 (value : ℕ)
  | string (value : String)

section Encoding

variable (hash : Bytes → Bytes)

/-- A value that does not have the member's type, or its range, has no word. -/
def encodeValue : MemberType → Value → Option Bytes
  | .address, .address value => some (toBytes 32 value.toNat)
  | .uint256, .uint256 value => if value < 2 ^ 256 then some (toBytes 32 value) else none
  | .string, .string value => some (hash (utf8 value))
  | _, _ => none

def encodeType (typeName : String) (members : List Member) : String :=
  typeName ++ "(" ++
    ",".intercalate (members.map fun member => member.type.name ++ " " ++ member.name) ++ ")"

def encodeData (data : String → Option Value) : List Member → Option Bytes
  | [] => some []
  | member :: members => do
      let value ← data member.name
      let word ← encodeValue hash member.type value
      let words ← encodeData data members
      return word ++ words

def hashStruct (typeName : String) (members : List Member) (data : String → Option Value) :
    Option Bytes := do
  let words ← encodeData hash data members
  return hash (hash (utf8 (encodeType typeName members)) ++ words)

def digest (domainSeparator structHash : Bytes) : Bytes :=
  hash ([0x19, 0x01] ++ domainSeparator ++ structHash)

/-! ## Structs whose members all have a word -/

def Words (data : String → Option Value) : List Member → List Bytes → Prop :=
  List.Forall₂ fun member word =>
    ∃ value, data member.name = some value ∧ encodeValue hash member.type value = some word

variable {hash}

theorem encodeValue_uint256 {n : ℕ} (h : n < 2 ^ 256) :
    encodeValue hash .uint256 (.uint256 n) = some (toBytes 32 n) :=
  if_pos h

variable {data : String → Option Value} {members : List Member} {words : List Bytes}

theorem encodeData_of_words (h : Words hash data members words) :
    encodeData hash data members = some words.flatten := by
  induction h with
  | nil => rfl
  | @cons member word members words hword _ ih =>
      obtain ⟨value, hdata, hvalue⟩ := hword
      simp [encodeData, hdata, hvalue, ih]

theorem hashStruct_of_words (h : Words hash data members words) (typeName : String) :
    hashStruct hash typeName members data =
      some (hash (hash (utf8 (encodeType typeName members)) ++ words.flatten)) := by
  simp [hashStruct, encodeData_of_words h]

end Encoding

end WorldlandBroker.Foundation.StructHash
