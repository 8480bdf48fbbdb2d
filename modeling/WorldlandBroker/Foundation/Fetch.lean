import Mathlib.Data.List.Basic

/-!
# Requests of a page to another origin

What a browser sends for a page, and what it lets the page read of the answer.  A
request that a form could not have made is announced first, and is sent only where
the answer to the announcement permits it.  An answer is read only where it says
that the page's origin may.

Origins, methods and header names are arbitrary.  Of a request's headers only those
count that a form could not have set; an answer permits methods and headers by name.
-/

namespace WorldlandBroker.Foundation

variable {ο μ ν : Type*}

inductive AllowOrigin (ο : Type*) where
  | any
  | only (origin : ο)

structure CorsAnswer (ο μ ν : Type*) where
  ok : Bool
  allowOrigin : Option (AllowOrigin ο)
  allowMethods : List μ
  allowHeaders : List ν
  allowCredentials : Bool

structure PageRequest (ο μ ν : Type*) where
  origin : ο
  method : μ
  unsafeHeaders : List ν
  credentials : Bool

/-- Everyone's answers are not for requests with credentials. -/
def CorsAnswer.Shares (answer : CorsAnswer ο μ ν) (r : PageRequest ο μ ν) : Prop :=
  match answer.allowOrigin with
  | none => False
  | some .any => r.credentials = false
  | some (.only origin) =>
      origin = r.origin ∧ (r.credentials = true → answer.allowCredentials = true)

/-- The methods a form can use are permitted without being named. -/
def CorsAnswer.Permits (formMethods : List μ) (answer : CorsAnswer ο μ ν)
    (r : PageRequest ο μ ν) : Prop :=
  answer.ok = true ∧ answer.Shares r ∧
    (r.method ∈ formMethods ∨ r.method ∈ answer.allowMethods) ∧
    ∀ name ∈ r.unsafeHeaders, name ∈ answer.allowHeaders

namespace PageRequest

def Simple (formMethods : List μ) (r : PageRequest ο μ ν) : Prop :=
  r.method ∈ formMethods ∧ r.unsafeHeaders = []

/-- `preflight` is the answer to the announcement. -/
def Sent (formMethods : List μ) (preflight : CorsAnswer ο μ ν) (r : PageRequest ο μ ν) : Prop :=
  r.Simple formMethods ∨ preflight.Permits formMethods r

def Read (formMethods : List μ) (preflight answer : CorsAnswer ο μ ν)
    (r : PageRequest ο μ ν) : Prop :=
  r.Sent formMethods preflight ∧ answer.Shares r

variable {formMethods : List μ} {preflight answer : CorsAnswer ο μ ν} {r : PageRequest ο μ ν}
  {name : ν}

theorem Sent.permitted (h : r.Sent formMethods preflight) (hname : name ∈ r.unsafeHeaders) :
    name ∈ preflight.allowHeaders := by
  cases h with
  | inl hsimple =>
      rw [hsimple.2] at hname
      cases hname
  | inr hpermits => exact hpermits.2.2.2 name hname

/-- Where announcement and request are answered alike, reading says it all. -/
theorem read_iff (hok : preflight.ok = true) (halike : preflight.Shares r ↔ answer.Shares r) :
    r.Read formMethods preflight answer ↔ answer.Shares r ∧
      (r.method ∈ formMethods ∨ r.method ∈ preflight.allowMethods) ∧
      ∀ name ∈ r.unsafeHeaders, name ∈ preflight.allowHeaders := by
  constructor
  · rintro ⟨hsent, hshares⟩
    refine ⟨hshares, ?_, fun name hname => hsent.permitted hname⟩
    cases hsent with
    | inl hsimple => exact .inl hsimple.1
    | inr hpermits => exact hpermits.2.2.1
  · rintro ⟨hshares, hmethod, hheaders⟩
    exact ⟨.inr ⟨hok, halike.mpr hshares, hmethod, hheaders⟩, hshares⟩

end PageRequest

end WorldlandBroker.Foundation
