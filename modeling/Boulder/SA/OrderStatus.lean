import Mathlib.Data.Multiset.Basic
import Boulder.SA.Codes

/-!
# The order status (`sa/model.go`)

`statusForOrder` computes an order's status from the order and the `authzValidity` rows that
`getAuthorizationStatuses` returns for its authorizations (an unordered `id IN (...)` query):

* the error and expiry checks, then the row-count check against `V2Authorizations`;
* the counting loop (`countAuthz` is one iteration): pending, valid and other rows, and expired
  rows, returning at the first row whose status code `uintToStatus` does not know;
* the decision on the counts, with the `fullyAuthorized` check against `Identifiers`.

A timestamp is its instant in nanoseconds, so `Before` is `<`.

Principal results: `statusForOrder_eq_orderTable` — the code computes the decision table
`orderTable`, a function of the multiset of rows, and never reaches its final "no state known"
error; `statusForOrder_mono` — under the monotone updates of an order and its authorizations and
a clock that moves forward, the status never goes back.
-/

set_option autoImplicit false

namespace Boulder

/-- `corepb.ProblemDetails`, of which `statusForOrder` only tests presence. -/
structure ProblemDetails where
  detail : String

/-- The fields of `corepb.Order` that `statusForOrder` reads. -/
structure Order where
  Id : Int
  Error : Option ProblemDetails
  Expires : Int
  V2Authorizations : List Int
  Identifiers : List ACMEIdentifier
  CertificateSerial : String
  BeganProcessing : Bool

/-- `authzValidity`. -/
structure authzValidity where
  IdentifierType : UInt8
  IdentifierValue : GoString
  Status : UInt8
  Expires : Int

/-- The counters of the loop of `statusForOrder`. -/
structure AuthzCounts where
  pendingAuthzs : Nat
  validAuthzs : Nat
  otherAuthzs : Nat
  expiredAuthzs : Nat

/-- The error for a row whose status code is unknown. -/
def errInvalidAuthzStatus (info : authzValidity) : BoulderError :=
  InternalServerError (.sprintf "Order is in an invalid state. Authz has invalid status %d"
    [.text (toString info.Status)])

/-- One iteration of the loop of `statusForOrder`. -/
def countAuthz (now : Int) (c : AuthzCounts) (info : authzValidity) :
    Except BoulderError AuthzCounts := do
  let c ← match uintToStatus info.Status with
    | some .pending => pure { c with pendingAuthzs := c.pendingAuthzs + 1 }
    | some .valid => pure { c with validAuthzs := c.validAuthzs + 1 }
    | some .invalid => pure { c with otherAuthzs := c.otherAuthzs + 1 }
    | some .deactivated => pure { c with otherAuthzs := c.otherAuthzs + 1 }
    | some .revoked => pure { c with otherAuthzs := c.otherAuthzs + 1 }
    | _ => throw (errInvalidAuthzStatus info)
  pure (if info.Expires < now then { c with expiredAuthzs := c.expiredAuthzs + 1 } else c)

/-- The error for a row count that differs from the order's authorizations. -/
def errWrongAuthzCount (order : Order) (authzValidityInfo : List authzValidity) : BoulderError :=
  InternalServerError (.sprintf
    "getAuthorizationStatuses returned the wrong number of authorization statuses (%d vs expected %d) for order %d"
    [.text (toString authzValidityInfo.length), .text (toString order.V2Authorizations.length),
      .text (toString order.Id)])

/-- The error for valid rows that do not cover the order's identifiers. -/
def errNotFullyAuthorized : BoulderError :=
  InternalServerError (.text
    "Order has the incorrect number of valid authorizations & no pending, deactivated or invalid authorizations")

/-- The final error of `statusForOrder`. -/
def errNoStateKnown (order : Order) : BoulderError :=
  InternalServerError (.sprintf
    "Order %d is in an invalid state. No state known for this order's authorizations"
    [.text (toString order.Id)])

/-- `statusForOrder`. -/
def statusForOrder (order : Order) (authzValidityInfo : List authzValidity) (now : Int) :
    Except BoulderError AcmeStatus :=
  if order.Error.isSome then .ok .invalid
  else if order.Expires < now then .ok .invalid
  else if authzValidityInfo.length ≠ order.V2Authorizations.length then
    .error (errWrongAuthzCount order authzValidityInfo)
  else match authzValidityInfo.foldlM (countAuthz now) ⟨0, 0, 0, 0⟩ with
    | .error err => .error err
    | .ok c =>
      if c.otherAuthzs > 0 ∨ c.expiredAuthzs > 0 then .ok .invalid
      else if c.pendingAuthzs > 0 then .ok .pending
      else
        let fullyAuthorized := decide (order.Identifiers.length = c.validAuthzs)
        if !fullyAuthorized then .error errNotFullyAuthorized
        else if fullyAuthorized ∧ order.CertificateSerial ≠ "" then .ok .valid
        else if fullyAuthorized ∧ order.BeganProcessing then .ok .processing
        else if fullyAuthorized ∧ !order.BeganProcessing then .ok .ready
        else .error (errNoStateKnown order)

/-! ## The counting loop -/

/-- A row `uintToStatus` maps to pending. -/
def isPendingRow (r : authzValidity) : Bool := uintToStatus r.Status == some .pending

/-- A row `uintToStatus` maps to valid. -/
def isValidRow (r : authzValidity) : Bool := uintToStatus r.Status == some .valid

/-- A row `uintToStatus` maps to invalid, deactivated or revoked. -/
def isOtherRow (r : authzValidity) : Bool :=
  uintToStatus r.Status == some .invalid || uintToStatus r.Status == some .deactivated ||
    uintToStatus r.Status == some .revoked

/-- A row that expired before `now`. -/
def isExpiredRow (now : Int) (r : authzValidity) : Bool := decide (r.Expires < now)

/-- Each counter after a row whose status is known. -/
theorem countAuthz_ok (now : Int) (c : AuthzCounts) {r : authzValidity}
    (h : (uintToStatus r.Status).isSome) :
    countAuthz now c r = .ok ⟨c.pendingAuthzs + (if isPendingRow r then 1 else 0),
      c.validAuthzs + (if isValidRow r then 1 else 0),
      c.otherAuthzs + (if isOtherRow r then 1 else 0),
      c.expiredAuthzs + (if isExpiredRow now r then 1 else 0)⟩ := by
  unfold countAuthz isPendingRow isValidRow isOtherRow isExpiredRow
  cases hs : uintToStatus r.Status with
  | none => simp [hs] at h
  | some s =>
    have hs' := uintToStatus_some hs
    cases s <;> simp only [ne_eq, not_true_eq_false, false_and, and_false] at hs' <;>
      by_cases he : r.Expires < now <;> simp [hs, he] <;> rfl

/-- **The loop over rows whose statuses are all known** counts each class of row. -/
theorem foldlM_countAuthz_ok (now : Int) :
    ∀ (A : List authzValidity) (c : AuthzCounts), (∀ r ∈ A, (uintToStatus r.Status).isSome) →
      A.foldlM (countAuthz now) c = .ok ⟨c.pendingAuthzs + A.countP isPendingRow,
        c.validAuthzs + A.countP isValidRow, c.otherAuthzs + A.countP isOtherRow,
        c.expiredAuthzs + A.countP (isExpiredRow now)⟩
  | [], c, _ => rfl
  | r :: A, c, h => by
    rw [List.foldlM_cons, countAuthz_ok now c (h r (List.mem_cons_self _ _))]
    refine (foldlM_countAuthz_ok now A _ fun r' hr' => h r' (List.mem_cons_of_mem _ hr')).trans ?_
    simp only [List.countP_cons]
    congr 2 <;> split <;> omega

/-- The loop stops at the first row whose status is unknown. -/
theorem foldlM_countAuthz_error (now : Int) :
    ∀ (A : List authzValidity) (c : AuthzCounts), (∃ r ∈ A, uintToStatus r.Status = none) →
      ∃ r ∈ A, A.foldlM (countAuthz now) c = .error (errInvalidAuthzStatus r)
  | [], _, ⟨_, hr, _⟩ => absurd hr (List.not_mem_nil _)
  | r :: A, c, h => by
    cases hs : uintToStatus r.Status with
    | none =>
      refine ⟨r, List.mem_cons_self _ _, ?_⟩
      simp [List.foldlM_cons, countAuthz, hs]
      rfl
    | some s =>
      have hk : ∃ r' ∈ A, uintToStatus r'.Status = none := by
        obtain ⟨r', hr', hn⟩ := h
        rcases List.mem_cons.1 hr' with rfl | hr'
        · rw [hs] at hn; cases hn
        · exact ⟨r', hr', hn⟩
      obtain ⟨r', hr', he⟩ := foldlM_countAuthz_error now A _ hk
      refine ⟨r', List.mem_cons_of_mem _ hr', ?_⟩
      rw [List.foldlM_cons, countAuthz_ok now c (by simp [hs])]
      exact he

/-! ## The decision table -/

instance (A : Multiset authzValidity) (p : authzValidity → Prop) [DecidablePred p] :
    Decidable (∃ r ∈ A, p r) :=
  Multiset.decidableExistsMultiset

/-- The decision table of the spec, checked in order, on the multiset of rows. -/
def orderTable (o : Order) (A : Multiset authzValidity) (now : Int) :
    Except ErrorType AcmeStatus :=
  if o.Error.isSome then .ok .invalid
  else if o.Expires < now then .ok .invalid
  else if Multiset.card A ≠ o.V2Authorizations.length ∨ ∃ r ∈ A, uintToStatus r.Status = none then
    .error .InternalServer
  else if ∃ r ∈ A, isOtherRow r ∨ r.Expires < now then .ok .invalid
  else if ∃ r ∈ A, isPendingRow r then .ok .pending
  else if Multiset.card A ≠ o.Identifiers.length then .error .InternalServer
  else if o.CertificateSerial ≠ "" then .ok .valid
  else if o.BeganProcessing then .ok .processing
  else .ok .ready

/-- A row whose status is known, and neither pending nor invalid, deactivated or revoked, is
valid. -/
theorem uintToStatus_eq_valid {r : authzValidity} (hk : (uintToStatus r.Status).isSome)
    (ho : isOtherRow r = false) (hp : isPendingRow r = false) :
    uintToStatus r.Status = some .valid := by
  obtain ⟨s, hs⟩ := Option.isSome_iff_exists.1 hk
  have hpr := uintToStatus_some hs
  rw [isOtherRow, hs] at ho
  rw [isPendingRow, hs] at hp
  rw [hs]
  revert ho hp hpr
  cases s <;> decide

theorem countP_isValidRow_eq_length {A : List authzValidity}
    (hk : ∀ r ∈ A, (uintToStatus r.Status).isSome) (ho : ∀ r ∈ A, isOtherRow r = false)
    (hp : ∀ r ∈ A, isPendingRow r = false) : A.countP isValidRow = A.length :=
  List.countP_eq_length.2 fun r hr => by
    rw [isValidRow, uintToStatus_eq_valid (hk r hr) (ho r hr) (hp r hr)]
    rfl

/-- The code's counts decide as the table does, once every row is known. -/
theorem statusForOrder_counts (A : List authzValidity) (now : Int)
    (hk : ∀ r ∈ A, (uintToStatus r.Status).isSome) :
    A.foldlM (countAuthz now) ⟨0, 0, 0, 0⟩ = .ok ⟨A.countP isPendingRow, A.countP isValidRow,
      A.countP isOtherRow, A.countP (isExpiredRow now)⟩ := by
  simpa using foldlM_countAuthz_ok now A ⟨0, 0, 0, 0⟩ hk

theorem exists_other_or_expired_iff (now : Int) (A : List authzValidity) :
    (A.countP isOtherRow > 0 ∨ A.countP (isExpiredRow now) > 0) ↔
      ∃ r ∈ (A : Multiset authzValidity), isOtherRow r ∨ r.Expires < now := by
  simp only [gt_iff_lt, List.countP_pos_iff, Multiset.mem_coe, isExpiredRow, decide_eq_true_eq,
    ← exists_or, ← and_or_left]

theorem exists_pending_iff (A : List authzValidity) :
    A.countP isPendingRow > 0 ↔ ∃ r ∈ (A : Multiset authzValidity), isPendingRow r := by
  simp [List.countP_pos_iff]

/-- **The code computes the table**, up to the text of its internal errors. -/
theorem statusForOrder_mapError (o : Order) (A : List authzValidity) (now : Int) :
    (statusForOrder o A now).mapError BoulderError.type = orderTable o A now := by
  unfold statusForOrder orderTable
  by_cases he : o.Error.isSome
  · simp [he, Except.mapError]
  by_cases hx : o.Expires < now
  · simp [he, hx, Except.mapError]
  by_cases hl : A.length ≠ o.V2Authorizations.length
  · simp [he, hx, hl, Except.mapError, errWrongAuthzCount, InternalServerError]
  by_cases hk : ∃ r ∈ A, uintToStatus r.Status = none
  · obtain ⟨r, -, hf⟩ := foldlM_countAuthz_error now A ⟨0, 0, 0, 0⟩ hk
    simp [he, hx, hl, hk, hf, Except.mapError, errInvalidAuthzStatus, InternalServerError]
  have hk' : ∀ r ∈ A, (uintToStatus r.Status).isSome := by
    push_neg at hk; simpa [Option.isSome_iff_ne_none] using hk
  have hn : ¬ (Multiset.card (A : Multiset authzValidity) ≠ o.V2Authorizations.length ∨
      ∃ r ∈ (A : Multiset authzValidity), uintToStatus r.Status = none) := by
    simpa using ⟨not_not.1 hl, fun r hr => (Option.isSome_iff_ne_none.1 (hk' r hr))⟩
  rw [if_neg he, if_neg hx, if_neg hl, if_neg he, if_neg hx, if_neg hn,
    statusForOrder_counts A now hk']
  simp only [exists_other_or_expired_iff, exists_pending_iff]
  by_cases h1 : ∃ r ∈ (A : Multiset authzValidity), isOtherRow r ∨ r.Expires < now
  · rw [if_pos h1, if_pos h1]; rfl
  rw [if_neg h1, if_neg h1]
  by_cases h2 : ∃ r ∈ (A : Multiset authzValidity), isPendingRow r
  · rw [if_pos h2, if_pos h2]; rfl
  rw [if_neg h2, if_neg h2]
  have hv : A.countP isValidRow = A.length := by
    refine countP_isValidRow_eq_length hk' (fun r hr => ?_) (fun r hr => ?_)
    · simpa using fun h => h1 ⟨r, Multiset.mem_coe.2 hr, .inl h⟩
    · simpa using fun h => h2 ⟨r, Multiset.mem_coe.2 hr, h⟩
  simp only [hv, Multiset.coe_card]
  by_cases h3 : o.Identifiers.length = A.length
  · cases hb : o.BeganProcessing <;> by_cases hs : o.CertificateSerial = "" <;>
      simp [hs, hb, h3, Except.mapError]
  · simp [h3, Ne.symm h3, Except.mapError, errNotFullyAuthorized, InternalServerError]

/-- The only error of the loop is the one for an unknown status. -/
theorem foldlM_countAuthz_error_eq (now : Int) {e : BoulderError} :
    ∀ (A : List authzValidity) (c : AuthzCounts), A.foldlM (countAuthz now) c = .error e →
      ∃ r, e = errInvalidAuthzStatus r
  | [], _, h => by cases h
  | r :: A, c, h => by
    rw [List.foldlM_cons] at h
    cases hs : uintToStatus r.Status with
    | none =>
      simp only [countAuthz, hs] at h
      exact ⟨r, by cases h; rfl⟩
    | some s =>
      rw [countAuthz_ok now c (by simp [hs])] at h
      exact foldlM_countAuthz_error_eq now A _ h

theorem errNotFullyAuthorized_ne (o : Order) : errNotFullyAuthorized ≠ errNoStateKnown o := by
  simp [errNotFullyAuthorized, errNoStateKnown, InternalServerError]

theorem errWrongAuthzCount_ne (o : Order) (A : List authzValidity) :
    errWrongAuthzCount o A ≠ errNoStateKnown o := by
  simp [errWrongAuthzCount, errNoStateKnown, InternalServerError]

theorem errInvalidAuthzStatus_ne (o : Order) (r : authzValidity) :
    errInvalidAuthzStatus r ≠ errNoStateKnown o := by
  simp [errInvalidAuthzStatus, errNoStateKnown, InternalServerError]

theorem statusForOrder_ne_errNoStateKnown (o : Order) (A : List authzValidity) (now : Int) :
    statusForOrder o A now ≠ .error (errNoStateKnown o) := by
  intro h
  unfold statusForOrder at h
  by_cases h0 : o.Error.isSome
  · rw [if_pos h0] at h; cases h
  rw [if_neg h0] at h
  by_cases h1 : o.Expires < now
  · rw [if_pos h1] at h; cases h
  rw [if_neg h1] at h
  by_cases h2 : A.length ≠ o.V2Authorizations.length
  · rw [if_pos h2] at h; exact errWrongAuthzCount_ne o A (Except.error.inj h)
  rw [if_neg h2] at h
  split at h
  · rename_i err hf
    obtain ⟨r, rfl⟩ := foldlM_countAuthz_error_eq now A _ hf
    exact errInvalidAuthzStatus_ne o r (Except.error.inj h)
  · rename_i c _
    dsimp only at h
    by_cases h3 : c.otherAuthzs > 0 ∨ c.expiredAuthzs > 0
    · rw [if_pos h3] at h; cases h
    rw [if_neg h3] at h
    by_cases h4 : c.pendingAuthzs > 0
    · rw [if_pos h4] at h; cases h
    rw [if_neg h4] at h
    -- the last branch is unreachable: the order is fully authorized, and has or has not begun
    -- processing
    cases hfa : decide (o.Identifiers.length = c.validAuthzs)
    · simp only [hfa, Bool.not_false, if_true, Except.error.injEq] at h
      exact errNotFullyAuthorized_ne o h
    · cases hb : o.BeganProcessing <;> simp [hfa, hb] at h <;> split at h <;> cases h

/-- **The order status is the decision table on the multiset of rows**: `statusForOrder`
computes `orderTable`, up to the text of its internal errors, and never returns its final
"no state known" error.  As `orderTable` reads only the multiset of rows, the order in which
the `id IN (...)` query returns them cannot change the result, up to error text: the error for
an unknown status code names the first such row. -/
theorem statusForOrder_eq_orderTable (o : Order) (A : List authzValidity) (now : Int) :
    (statusForOrder o A now).mapError BoulderError.type = orderTable o A now ∧
      statusForOrder o A now ≠ .error (errNoStateKnown o) :=
  ⟨statusForOrder_mapError o A now, statusForOrder_ne_errNoStateKnown o A now⟩

/-! ## Monotonicity -/

/-- The status of an order whose rows match its authorizations and identifiers and whose
status codes are all known. -/
def liveStatus (o : Order) (A : List authzValidity) (now : Int) : AcmeStatus :=
  if o.Error.isSome then .invalid
  else if o.Expires < now then .invalid
  else if ∃ r ∈ A, isOtherRow r ∨ r.Expires < now then .invalid
  else if ∃ r ∈ A, isPendingRow r then .pending
  else if o.CertificateSerial ≠ "" then .valid
  else if o.BeganProcessing then .processing
  else .ready

theorem statusForOrder_eq_liveStatus {o : Order} {A : List authzValidity} {now : Int}
    (hV : A.length = o.V2Authorizations.length) (hI : A.length = o.Identifiers.length)
    (hk : ∀ r ∈ A, (uintToStatus r.Status).isSome) :
    statusForOrder o A now = .ok (liveStatus o A now) := by
  have h := statusForOrder_mapError o A now
  have e1 : ¬ (Multiset.card (A : Multiset authzValidity) ≠ o.V2Authorizations.length ∨
      ∃ r ∈ A, uintToStatus r.Status = none) := by
    simpa [hV] using fun r hr => Option.isSome_iff_ne_none.1 (hk r hr)
  have e2 : ¬ (Multiset.card (A : Multiset authzValidity) ≠ o.Identifiers.length) := by simpa
  have ht : orderTable o A now = .ok (liveStatus o A now) := by
    unfold orderTable liveStatus
    simp only [Multiset.mem_coe, e1, e2, if_false, apply_ite Except.ok]
  rw [ht] at h
  cases hs : statusForOrder o A now <;> simp_all [Except.mapError]

/-- The status changes of an authorization: `pending` to `valid`, `invalid` or `deactivated`,
and `valid` to `revoked` or `deactivated`, on the stored codes. -/
def AuthzTransition (s s' : UInt8) : Prop :=
  s' = s ∨
  (s = statusToUint .pending ∧ (s' = statusToUint .valid ∨ s' = statusToUint .invalid ∨
    s' = statusToUint .deactivated)) ∨
  (s = statusToUint .valid ∧ (s' = statusToUint .revoked ∨ s' = statusToUint .deactivated))

/-- A row after a status change of its authorization, with its expiry unchanged. -/
structure AuthzAdvance (r r' : authzValidity) : Prop where
  status : AuthzTransition r.Status r'.Status
  expires : r'.Expires = r.Expires

/-- `o'` is `o` after its error is set, its processing begins and/or its certificate serial
is set. -/
structure OrderAdvance (o o' : Order) : Prop where
  id : o'.Id = o.Id
  expires : o'.Expires = o.Expires
  authorizations : o'.V2Authorizations = o.V2Authorizations
  identifiers : o'.Identifiers = o.Identifiers
  error : o'.Error = o.Error ∨ (o.Error = none ∧ o'.Error.isSome)
  began : o'.BeganProcessing = o.BeganProcessing ∨
    (o.BeganProcessing = false ∧ o'.BeganProcessing = true)
  serial : o'.CertificateSerial = o.CertificateSerial ∨
    (o.CertificateSerial = "" ∧ o'.CertificateSerial ≠ "")

/-- The order of the statuses of a live order: pending < ready < processing < valid. -/
def AcmeStatus.rank : AcmeStatus → Nat
  | .pending => 0
  | .ready => 1
  | .processing => 2
  | .valid => 3
  | _ => 0

theorem forall₂_mem_left {α β : Type} {R : α → β → Prop} :
    ∀ {l₁ : List α} {l₂ : List β}, List.Forall₂ R l₁ l₂ → ∀ a ∈ l₁, ∃ b ∈ l₂, R a b
  | _, _, .nil, _, h => absurd h (List.not_mem_nil _)
  | _, _, .cons hab hl, a, h => by
    rcases List.mem_cons.1 h with rfl | h
    · exact ⟨_, List.mem_cons_self _ _, hab⟩
    · obtain ⟨b, hb, hr⟩ := forall₂_mem_left hl a h
      exact ⟨b, List.mem_cons_of_mem _ hb, hr⟩

theorem forall₂_mem_right {α β : Type} {R : α → β → Prop} {l₁ : List α} {l₂ : List β}
    (h : List.Forall₂ R l₁ l₂) : ∀ b ∈ l₂, ∃ a ∈ l₁, R a b :=
  forall₂_mem_left (R := flip R) (List.Forall₂.flip (by simpa [flip] using h))

/-- An invalid, deactivated or revoked row keeps its status. -/
theorem AuthzAdvance.isOtherRow {r r' : authzValidity} (h : AuthzAdvance r r')
    (ho : isOtherRow r = true) : isOtherRow r' = true := by
  rcases h.status with e | ⟨e, -⟩ | ⟨e, -⟩
  · rwa [Boulder.isOtherRow, e]
  all_goals simp [Boulder.isOtherRow, e, statusToUint, uintToStatus] at ho

/-- A row with a known status keeps a known status. -/
theorem AuthzAdvance.known {r r' : authzValidity} (h : AuthzAdvance r r')
    (hk : (uintToStatus r.Status).isSome) : (uintToStatus r'.Status).isSome := by
  rcases h.status with e | ⟨-, e | e | e⟩ | ⟨-, e | e⟩
  · rwa [e]
  all_goals rw [e]; rfl

/-- A valid row never becomes pending. -/
theorem AuthzAdvance.not_pending {r r' : authzValidity} (h : AuthzAdvance r r')
    (hv : uintToStatus r.Status = some .valid) : isPendingRow r' = false := by
  have hc := uintToStatus_statusToUint hv
  rcases h.status with e | ⟨e, -⟩ | ⟨-, e | e⟩
  · simp [isPendingRow, e, hv]
  · rw [← hc] at e; cases e
  all_goals rw [isPendingRow, e]; rfl

theorem liveStatus_eq_invalid_iff (o : Order) (A : List authzValidity) (now : Int) :
    liveStatus o A now = .invalid ↔
      o.Error.isSome ∨ o.Expires < now ∨ ∃ r ∈ A, isOtherRow r ∨ r.Expires < now := by
  unfold liveStatus
  by_cases h1 : o.Error.isSome
  · simp [h1]
  by_cases h2 : o.Expires < now
  · simp [h1, h2]
  by_cases h3 : ∃ r ∈ A, isOtherRow r ∨ r.Expires < now
  · simp [h3]
  simp only [h1, h2, h3, if_false, Bool.false_eq_true, false_or, iff_false]
  split_ifs <;> decide

theorem liveStatus_settled {o : Order} {A : List authzValidity} {now : Int}
    (hi : liveStatus o A now ≠ .invalid) (hp : ¬ ∃ r ∈ A, isPendingRow r) :
    liveStatus o A now =
      if o.CertificateSerial ≠ "" then .valid else if o.BeganProcessing then .processing
      else .ready := by
  rw [Ne, liveStatus_eq_invalid_iff, not_or, not_or] at hi
  simp only [liveStatus, hi.1, hi.2.1, hi.2.2, hp, Bool.false_eq_true, if_false]

variable {o o' : Order} {A A' : List authzValidity} {t t' : Int}

/-- An invalid order stays invalid. -/
theorem liveStatus_invalid_mono (ht : t ≤ t') (ho : OrderAdvance o o')
    (hfw : ∀ r ∈ A, ∃ r' ∈ A', AuthzAdvance r r') (h : liveStatus o A t = .invalid) :
    liveStatus o' A' t' = .invalid := by
  rw [liveStatus_eq_invalid_iff] at h ⊢
  rcases h with h | h | ⟨r, hr, h⟩
  · rcases ho.error with e | ⟨e, -⟩
    · exact .inl (e ▸ h)
    · simp [e] at h
  · exact .inr (.inl (by rw [ho.expires]; omega))
  · obtain ⟨r', hr', ha⟩ := hfw r hr
    refine .inr (.inr ⟨r', hr', ?_⟩)
    rcases h with h | h
    · exact .inl (ha.isOtherRow h)
    · exact .inr (by rw [ha.expires]; omega)

/-- Once the order is settled, its status moves forward as its serial and its processing flag
are set. -/
theorem settled_rank_le {s s' : String} {b b' : Bool} (hs : s ≠ "" → s' ≠ "")
    (hb : b = true → b' = true) :
    (if s ≠ "" then AcmeStatus.valid else if b then .processing else .ready).rank ≤
      (if s' ≠ "" then AcmeStatus.valid else if b' then .processing else .ready).rank := by
  by_cases h1 : s = "" <;> by_cases h2 : s' = "" <;> cases b <;> cases b' <;>
    simp_all [AcmeStatus.rank]

/-- A live order moves only forward in pending < ready < processing < valid, or becomes
invalid. -/
theorem liveStatus_rank_mono (ho : OrderAdvance o o') (hk : ∀ r ∈ A, (uintToStatus r.Status).isSome)
    (hbw : ∀ r' ∈ A', ∃ r ∈ A, AuthzAdvance r r') (h : liveStatus o A t ≠ .invalid) :
    liveStatus o' A' t' = .invalid ∨ (liveStatus o A t).rank ≤ (liveStatus o' A' t').rank := by
  by_cases hp : ∃ r ∈ A, isPendingRow r
  · right
    have : liveStatus o A t = .pending := by
      rw [Ne, liveStatus_eq_invalid_iff, not_or, not_or] at h
      simp only [liveStatus, h.1, h.2.1, h.2.2, hp, Bool.false_eq_true, if_false, if_true]
    rw [this]
    exact Nat.zero_le _
  by_cases h' : liveStatus o' A' t' = .invalid
  · exact .inl h'
  right
  have hv : ∀ r ∈ A, uintToStatus r.Status = some .valid := by
    rw [Ne, liveStatus_eq_invalid_iff, not_or, not_or] at h
    exact fun r hr => uintToStatus_eq_valid (hk r hr)
      (Bool.eq_false_iff.2 fun e => h.2.2 ⟨r, hr, .inl e⟩) (Bool.eq_false_iff.2 fun e => hp ⟨r, hr, e⟩)
  have hp' : ¬ ∃ r' ∈ A', isPendingRow r' := by
    rintro ⟨r', hr', e⟩
    obtain ⟨r, hr, ha⟩ := hbw r' hr'
    rw [ha.not_pending (hv r hr)] at e
    cases e
  rw [liveStatus_settled h hp, liveStatus_settled h' hp']
  refine settled_rank_le (fun hs => ?_) (fun hb => ?_)
  · rcases ho.serial with e | ⟨e, _⟩
    · rwa [e]
    · exact absurd e hs
  · rcases ho.began with e | ⟨e, _⟩
    · rwa [e]
    · rw [e] at hb; cases hb

/-- **Order status is monotone.**  Let the rows of an order match its authorizations and
identifiers, with known status codes.  Advance the order (error set, processing begun,
serial set), let each authorization make a legal status change, return the rows in any
order, and let time move forward.  Then an invalid order stays invalid, and a live order
either becomes invalid or moves forward in pending < ready < processing < valid. -/
theorem statusForOrder_mono {o o' : Order} {A A' : List authzValidity} {t t' : Int}
    (hV : A.length = o.V2Authorizations.length) (hI : A.length = o.Identifiers.length)
    (hk : ∀ r ∈ A, (uintToStatus r.Status).isSome) (ht : t ≤ t') (ho : OrderAdvance o o')
    (hA : ∃ B, List.Forall₂ AuthzAdvance A B ∧ B.Perm A') :
    ∃ s s', statusForOrder o A t = .ok s ∧ statusForOrder o' A' t' = .ok s' ∧
      (s = .invalid → s' = .invalid) ∧ (s ≠ .invalid → s' = .invalid ∨ s.rank ≤ s'.rank) := by
  obtain ⟨B, hB, hp⟩ := hA
  have hfw : ∀ r ∈ A, ∃ r' ∈ A', AuthzAdvance r r' := fun r hr =>
    (forall₂_mem_left hB r hr).imp fun _ h => ⟨hp.subset h.1, h.2⟩
  have hbw : ∀ r' ∈ A', ∃ r ∈ A, AuthzAdvance r r' := fun r' hr' =>
    forall₂_mem_right hB r' (hp.symm.subset hr')
  have hlen : A'.length = A.length := hp.length_eq.symm.trans hB.length_eq.symm
  have hk' : ∀ r' ∈ A', (uintToStatus r'.Status).isSome := fun r' hr' =>
    let ⟨r, hr, ha⟩ := hbw r' hr'; ha.known (hk r hr)
  refine ⟨_, _, statusForOrder_eq_liveStatus hV hI hk,
    statusForOrder_eq_liveStatus (by rw [hlen, hV, ho.authorizations])
      (by rw [hlen, hI, ho.identifiers]) hk',
    liveStatus_invalid_mono ht ho hfw, liveStatus_rank_mono ho hk hbw⟩

/-- A one-authorization order whose authorization becomes valid while its processing begins. -/
theorem statusForOrder_mono_pending_processing :
    let o : Order := ⟨1, none, 100, [7], [⟨TypeDNS, "a.com".toList⟩], "", false⟩
    let o' : Order := { o with BeganProcessing := true }
    ∃ s s', statusForOrder o [⟨0, "a.com".toList, 0, 100⟩] 0 = .ok s ∧
      statusForOrder o' [⟨0, "a.com".toList, 1, 100⟩] 1 = .ok s' ∧
      (s = .invalid → s' = .invalid) ∧ (s ≠ .invalid → s' = .invalid ∨ s.rank ≤ s'.rank) :=
  statusForOrder_mono rfl rfl (by decide) (by decide)
    ⟨rfl, rfl, rfl, rfl, .inl rfl, .inr ⟨rfl, rfl⟩, .inl rfl⟩
    ⟨[⟨0, "a.com".toList, 1, 100⟩], .cons ⟨.inr (.inl ⟨rfl, .inl rfl⟩), rfl⟩ .nil, .refl _⟩

end Boulder
