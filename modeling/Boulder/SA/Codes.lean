import Boulder.Core

/-!
# Storage codes (`sa/model.go`)

The maps between the strings of the API and the `uint8` codes the database stores:
`challTypeToUint`, `uintToChallType`, `identifierTypeToUint`, `uintToIdentifierType`,
`statusToUint` and `uintToStatus`.  Each map is its lookup with `, ok`, an `Option`; the code's
plain lookup `m[k]` of an absent key gives the zero value, `(m k).getD` that value.

Principal results: `uintToChallType_challTypeToUint` and
`uintToIdentifierType_identifierTypeToUint` — each decoding map inverts its encoding map on the
keys of the encoding map — and `identifierTypeToUint_uintToIdentifierType`, the converse for
identifier types.
-/

set_option autoImplicit false

namespace Boulder

/-- `core.AcmeStatus`, for the statuses of orders, authorizations and challenges. -/
inductive AcmeStatus where
  | pending
  | processing
  | ready
  | valid
  | invalid
  | deactivated
  | revoked
  deriving DecidableEq, Repr

/-- `string(status)`.  Modelled from the spec: the `core` package is not among the sources. -/
def AcmeStatus.str : AcmeStatus → String
  | .pending => "pending"
  | .processing => "processing"
  | .ready => "ready"
  | .valid => "valid"
  | .invalid => "invalid"
  | .deactivated => "deactivated"
  | .revoked => "revoked"

/-- `uintToStatus`. -/
def uintToStatus : UInt8 → Option AcmeStatus
  | 0 => some .pending
  | 1 => some .valid
  | 2 => some .invalid
  | 3 => some .deactivated
  | 4 => some .revoked
  | _ => none

/-- `statusToUint[status]`: a status that is not a key gives Go's zero value `0`. -/
def statusToUint : AcmeStatus → UInt8
  | .pending => 0
  | .valid => 1
  | .invalid => 2
  | .deactivated => 3
  | .revoked => 4
  | .processing => 0
  | .ready => 0

/-- `challTypeToUint`. -/
def challTypeToUint (t : AcmeChallenge) : Option UInt8 :=
  if t = "http-01" then some 0
  else if t = "dns-01" then some 1
  else if t = "tls-alpn-01" then some 2
  else if t = "dns-account-01" then some 3
  else none

/-- `uintToChallType`. -/
def uintToChallType : UInt8 → Option AcmeChallenge
  | 0 => some "http-01"
  | 1 => some "dns-01"
  | 2 => some "tls-alpn-01"
  | 3 => some "dns-account-01"
  | _ => none

/-- `identifierTypeToUint`. -/
def identifierTypeToUint (t : IdentifierType) : Option UInt8 :=
  if t = TypeDNS then some 0 else if t = TypeIP then some 1 else none

/-- `uintToIdentifierType`. -/
def uintToIdentifierType : UInt8 → Option IdentifierType
  | 0 => some TypeDNS
  | 1 => some TypeIP
  | _ => none

theorem uintToStatus_some {u : UInt8} {s : AcmeStatus} (h : uintToStatus u = some s) :
    s ≠ .processing ∧ s ≠ .ready := by
  unfold uintToStatus at h
  split at h <;> cases h <;> decide

theorem uintToStatus_statusToUint {u : UInt8} {s : AcmeStatus} (h : uintToStatus u = some s) :
    statusToUint s = u := by
  unfold uintToStatus at h
  split at h <;> cases h <;> rfl

theorem uintToChallType_challTypeToUint {t : AcmeChallenge} {c : UInt8}
    (h : challTypeToUint t = some c) : uintToChallType c = some t := by
  unfold challTypeToUint at h
  split_ifs at h <;> cases h <;> subst_vars <;> rfl

theorem uintToIdentifierType_identifierTypeToUint {t : IdentifierType} {c : UInt8}
    (h : identifierTypeToUint t = some c) : uintToIdentifierType c = some t := by
  unfold identifierTypeToUint at h
  split_ifs at h <;> cases h <;> subst_vars <;> rfl

theorem identifierTypeToUint_uintToIdentifierType {c : UInt8} {t : IdentifierType}
    (h : uintToIdentifierType c = some t) : identifierTypeToUint t = some c := by
  unfold uintToIdentifierType at h
  split at h <;> cases h <;> rfl

end Boulder
