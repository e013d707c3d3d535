import Boulder.SA.AuthzStorage

/-!
# Registration and order rows (`sa/model.go`)

The conversions between the protobuf messages and the rows of the `registrations` and `orders`
tables:

* `registrationPbToModel` — parses the key only to compute its digest, and stores a nil or zero
  creation time as the zero `time.Time`; `registrationModelToPb` refuses a row with id `0` or
  an empty key;
* `orderToModel` — stores the error as JSON, refusing one longer than `mediumBlobSize`, and the
  profile and the replaced serial as pointers that are never nil; `modelToOrder` reads the
  error back when the stored JSON is not empty.

`jwk.UnmarshalJSON`, `core.KeyDigestB64` and `encoding/json` are outside the sources: they are
the fields of `KeyLib` and `JSONLib`.

Principal results: `registrationModelToPb_registrationPbToModel` — a registration whose key
parses is read back unchanged, except that a nil or zero creation time comes back as the
timestamp of the zero time, or not at all for id `0` or an empty key; and
`modelToOrder_orderToModel` — an order whose error's JSON fits is read back unchanged, except for
the status, authorizations and identifiers, which the row does not keep.
-/

set_option autoImplicit false

namespace Boulder

/-! ## Registrations -/

/-- `corepb.Registration`: the fields the conversions read. -/
structure Registration where
  Id : Int64
  Key : List UInt8
  Agreement : String
  CreatedAt : Option Timestamp
  Status : String

/-- `regModel`. -/
structure regModel where
  ID : Int64
  Key : List UInt8
  KeySHA256 : String
  Agreement : String
  CreatedAt : Time
  Status : String

/-- `(*jose.JSONWebKey).UnmarshalJSON` and `core.KeyDigestB64`. -/
structure KeyLib (JSONWebKey : Type) where
  UnmarshalJSON : List UInt8 → Except GoError JSONWebKey
  KeyDigestB64 : JSONWebKey → Except GoError String

section Registrations

variable {JSONWebKey : Type} (K : KeyLib JSONWebKey)

/-- `registrationPbToModel`.  `reg.CreatedAt.AsTime()` reads a nil timestamp as zeros. -/
def registrationPbToModel (reg : Registration) : Except GoError regModel := do
  let jwk ← K.UnmarshalJSON reg.Key
  let sha ← K.KeyDigestB64 jwk
  let createdAt :=
    if isNilOrZero reg.CreatedAt then Time.zero else (reg.CreatedAt.getD ⟨0, 0⟩).AsTime
  pure ⟨reg.Id, reg.Key, sha, reg.Agreement, createdAt, reg.Status⟩

/-- `registrationModelToPb`. -/
def registrationModelToPb (reg : regModel) : Except GoError Registration :=
  if reg.ID.val = 0 ∨ reg.Key = [] then
    .error (.other (.text "incomplete Registration retrieved from DB"))
  else .ok ⟨reg.ID, reg.Key, reg.Agreement, some (Timestamp.New reg.CreatedAt), reg.Status⟩

/-- A stored creation time reads back as the registration's, or as the zero time's timestamp
when it was nil or zero. -/
theorem createdAt_roundtrip {v : Option Timestamp}
    (h : ∀ ts, v = some ts → 0 ≤ ts.Nanos.val ∧ ts.Nanos.val < 1000000000) :
    some (Timestamp.New (if isNilOrZero v then Time.zero else (v.getD ⟨0, 0⟩).AsTime)) =
      if isNilOrZero v then some (Timestamp.New Time.zero) else v := by
  split
  · rfl
  · cases v with
    | none => contradiction
    | some ts =>
      obtain ⟨h0, h1⟩ := h ts rfl
      rw [Option.getD_some, Timestamp.New_AsTime ts h0 h1]

/-- **Reading back a stored registration.**  For every registration whose key parses and has a
digest `sha`, `registrationPbToModel` returns a row with that digest, and
`registrationModelToPb` refuses the row when the id is `0` or the key empty, and otherwise reads
back the registration, with a nil or zero creation time as the timestamp of the zero time. -/
theorem registrationModelToPb_registrationPbToModel (reg : Registration) {jwk : JSONWebKey}
    {sha : String} (hk : K.UnmarshalJSON reg.Key = .ok jwk) (hd : K.KeyDigestB64 jwk = .ok sha)
    (hts : ∀ ts, reg.CreatedAt = some ts → 0 ≤ ts.Nanos.val ∧ ts.Nanos.val < 1000000000) :
    ∃ m, registrationPbToModel K reg = .ok m ∧ m.KeySHA256 = sha ∧
      registrationModelToPb m =
        if reg.Id.val = 0 ∨ reg.Key = [] then
          .error (.other (.text "incomplete Registration retrieved from DB"))
        else .ok { reg with
          CreatedAt := if isNilOrZero reg.CreatedAt then some (Timestamp.New Time.zero)
            else reg.CreatedAt } := by
  refine ⟨_, by simp only [registrationPbToModel, hk, bind, Except.bind, hd]; rfl, rfl, ?_⟩
  simp only [registrationModelToPb]
  split
  · rfl
  · rw [createdAt_roundtrip hts]

/-- A registration with a key and no creation time. -/
theorem registrationModelToPb_registrationPbToModel_nil :
    let K : KeyLib Unit := ⟨fun _ => .ok (), fun _ => .ok "digest"⟩
    ∃ m, registrationPbToModel K ⟨7, [123, 125], "", none, "valid"⟩ = .ok m ∧
      m.KeySHA256 = "digest" ∧
      registrationModelToPb m =
        if (7 : Int64).val = 0 ∨ ([123, 125] : List UInt8) = [] then
          .error (.other (.text "incomplete Registration retrieved from DB"))
        else .ok ⟨7, [123, 125], "", if isNilOrZero none then some (Timestamp.New Time.zero)
            else none, "valid"⟩ := by
  intro K
  exact registrationModelToPb_registrationPbToModel K ⟨7, [123, 125], "", none, "valid"⟩ rfl rfl
    fun _ h => nomatch h

end Registrations

/-! ## Orders -/

/-- `mediumBlobSize`: `int(math.Pow(2, 24))`, exact in `float64`. -/
def mediumBlobSize : Nat := 2 ^ 24

/-- `corepb.Order`: the fields `orderToModel` reads and `modelToOrder` writes, and the status,
authorizations and identifiers, which the row does not keep. -/
structure corepb.Order (ProblemPB : Type) where
  Id : Int64
  RegistrationID : Int64
  Expires : Timestamp
  Created : Timestamp
  Error : Option ProblemPB
  CertificateSerial : String
  Status : String
  BeganProcessing : Bool
  V2Authorizations : List Int64
  Identifiers : List ACMEIdentifier
  CertificateProfileName : String
  Replaces : String

/-- `orderModel`. -/
structure orderModel where
  ID : Int64
  RegistrationID : Int64
  Expires : Time
  Created : Time
  Error : List UInt8
  CertificateSerial : String
  BeganProcessing : Bool
  CertificateProfileName : Option String
  Replaces : Option String

/-- `json.Marshal` and `json.Unmarshal` of a value of one type. -/
structure JSONLib (α : Type) where
  Marshal : α → Except GoError (List UInt8)
  Unmarshal : List UInt8 → Except GoError α

/-- What `encoding/json` guarantees of a `*corepb.ProblemDetails`: its JSON is never empty and
reads back to it. -/
def JSONLib.Lawful {α : Type} (J : JSONLib α) : Prop :=
  ∀ a b, J.Marshal a = .ok b → b ≠ [] ∧ J.Unmarshal b = .ok a

section Orders

variable {ProblemPB : Type} (J : JSONLib ProblemPB)

/-- `orderToModel`. -/
def orderToModel (order : corepb.Order ProblemPB) : Except GoError orderModel :=
  let om : orderModel :=
    { ID := order.Id
      RegistrationID := order.RegistrationID
      Expires := order.Expires.AsTime
      Created := order.Created.AsTime
      Error := []
      CertificateSerial := order.CertificateSerial
      BeganProcessing := order.BeganProcessing
      CertificateProfileName := some order.CertificateProfileName
      Replaces := some order.Replaces }
  match order.Error with
  | none => .ok om
  | some e => do
    let errJSON ← J.Marshal e
    if errJSON.length > mediumBlobSize then
      .error (.other (.text "Error object is too large to store in the database"))
    else pure { om with Error := errJSON }

/-- `modelToOrder`. -/
def modelToOrder (om : orderModel) : Except GoError (corepb.Order ProblemPB) :=
  let order : corepb.Order ProblemPB :=
    { Id := om.ID
      RegistrationID := om.RegistrationID
      Expires := Timestamp.New om.Expires
      Created := Timestamp.New om.Created
      Error := none
      CertificateSerial := om.CertificateSerial
      Status := ""
      BeganProcessing := om.BeganProcessing
      V2Authorizations := []
      Identifiers := []
      CertificateProfileName := om.CertificateProfileName.getD ""
      Replaces := om.Replaces.getD "" }
  if om.Error.length > 0 then
    match J.Unmarshal om.Error with
    | .error err => .error (badJSONError "failed to unmarshal order model's error" om.Error err)
    | .ok problem => .ok { order with Error := some problem }
  else .ok order

/-- **Reading back a stored order.**  For every order whose expiry and creation time have
nanoseconds in `[0, 1e9)` and whose error, if any, marshals to at most `mediumBlobSize` bytes,
`orderToModel` returns a row that `modelToOrder` reads back as the order, without its status,
authorizations and identifiers. -/
theorem modelToOrder_orderToModel (hJ : J.Lawful) (o : corepb.Order ProblemPB)
    (hexp : 0 ≤ o.Expires.Nanos.val ∧ o.Expires.Nanos.val < 1000000000)
    (hcr : 0 ≤ o.Created.Nanos.val ∧ o.Created.Nanos.val < 1000000000)
    (herr : ∀ e, o.Error = some e → ∃ b, J.Marshal e = .ok b ∧ b.length ≤ mediumBlobSize) :
    ∃ om, orderToModel J o = .ok om ∧
      modelToOrder J om = .ok { o with Status := "", V2Authorizations := [], Identifiers := [] } := by
  have he := Timestamp.New_AsTime o.Expires hexp.1 hexp.2
  have hc := Timestamp.New_AsTime o.Created hcr.1 hcr.2
  cases hoe : o.Error with
  | none =>
    refine ⟨_, by simp only [orderToModel, hoe]; rfl, ?_⟩
    simp only [modelToOrder, List.length_nil, Nat.lt_irrefl, if_false, he, hc, Option.getD_some,
      ← hoe]
  | some e =>
    obtain ⟨b, hb, hlen⟩ := herr e hoe
    obtain ⟨hne, hun⟩ := hJ e b hb
    refine ⟨_, by simp only [orderToModel, hoe, hb, bind, Except.bind, gt_iff_lt,
      Nat.not_lt.2 hlen, if_false]; rfl, ?_⟩
    simp only [modelToOrder, List.length_pos.2 hne, if_true, hun, he, hc, Option.getD_some,
      ← hoe]

/-- An order with an error of two bytes of JSON. -/
theorem modelToOrder_orderToModel_error :
    let J : JSONLib Unit := ⟨fun _ => .ok [123, 125], fun _ => .ok ()⟩
    let o : corepb.Order Unit :=
      ⟨1, 2, ⟨1700000000, 0⟩, ⟨1690000000, 0⟩, some (), "", "invalid", true, [3],
        [⟨TypeDNS, "example.com".toList⟩], "", ""⟩
    ∃ om, orderToModel J o = .ok om ∧
      modelToOrder J om = .ok { o with Status := "", V2Authorizations := [], Identifiers := [] } := by
  intro J o
  exact modelToOrder_orderToModel J (fun _ _ h => by cases h; exact ⟨by decide, rfl⟩) o
    (by decide) (by decide) fun _ _ => ⟨[123, 125], rfl, by decide⟩

end Orders

end Boulder
