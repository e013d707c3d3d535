import Boulder.Policy.Reload
import Boulder.SA.Codes

/-!
# Challenge types and `CheckAuthzChallenges` (`policy/pa.go`)

* `ChallengeTypesFor` — the challenge types acceptable for an identifier, read from the
  identifier alone: `dns-01` for a `dns` value with the prefix `*.`, `http-01`, `dns-01` and
  `tls-alpn-01` for any other `dns` value, `http-01` and `tls-alpn-01` for an `ip` value, and an
  error for any other type;
* `ChallengeTypeEnabled` — a lookup in the map of enabled types given to `New`;
* `CheckAuthzChallenges` — the type that solved the authorization must be enabled and listed by
  `ChallengeTypesFor` for its identifier.  It reads `authz.SolvedBy()` and `authz.Identifier`
  of a `core.Authorization`; the `core` package is not among the sources, so a
  `SolvedAuthorization` carries the two;
* `Applicable` — the challenge selection of the spec (§4.2): only `dns-01` for a `dns`
  wildcard, `http-01`, `dns-01` and `tls-alpn-01` for any other `dns` name, `http-01` and
  `tls-alpn-01` for an `ip` address.

`ChallengeTypesFor` tells a wildcard by the prefix `*.`, `WillingToIssue` by any `*` in the
name; the two tests agree on every name that `ValidDomain` accepts.

Principal results: `ChallengeTypesFor_of_WillingToIssue` — every identifier of a list that
`WillingToIssue` accepts has challenge types, exactly the `Applicable` ones, each with a storage
code; `CheckAuthzChallenges_loadPolicies` — after any loads from `New`, for such an identifier it
accepts exactly a solving type that `New` enabled and that is `Applicable`.
-/

set_option autoImplicit false

namespace Boulder

open Strings

/-! ## The code -/

/-- `ChallengeTypesFor`.  It reads only the identifier, not the PA. -/
def ChallengeTypesFor (ident : ACMEIdentifier) : Except GoError (List AcmeChallenge) :=
  if ident.type = TypeDNS then
    if HasPrefix ident.value ['*', '.'] then .ok ["dns-01"]
    else .ok ["http-01", "dns-01", "tls-alpn-01"]
  else if ident.type = TypeIP then .ok ["http-01", "tls-alpn-01"]
  else .error (.other (.sprintf "unrecognized identifier type %q" [.text ident.type]))

variable {Addr Prefix : Type}

/-- `ChallengeTypeEnabled`. -/
def AuthorityImpl.ChallengeTypeEnabled (pa : AuthorityImpl Prefix) (t : AcmeChallenge) : Bool :=
  pa.enabledChallenges t

/-- What `CheckAuthzChallenges` reads of a `core.Authorization`: its identifier, and what
`authz.SolvedBy()` returns. -/
structure SolvedAuthorization where
  Identifier : ACMEIdentifier
  SolvedBy : Except GoError AcmeChallenge

/-- The error of an authorization solved by a disabled type. -/
def errDisabledChallenge : GoError :=
  .other (.text "authorization fulfilled by disabled challenge type")

/-- The error of an authorization solved by a type its identifier does not allow. -/
def errInapplicableChallenge : GoError :=
  .other (.text "authorization fulfilled by inapplicable challenge type")

/-- `CheckAuthzChallenges`. -/
def AuthorityImpl.CheckAuthzChallenges (pa : AuthorityImpl Prefix) (authz : SolvedAuthorization) :
    Option GoError :=
  match authz.SolvedBy with
  | .error err => some err
  | .ok chall =>
    if !pa.ChallengeTypeEnabled chall then some errDisabledChallenge
    else match ChallengeTypesFor authz.Identifier with
      | .error err => some err
      | .ok challTypes => if !challTypes.contains chall then some errInapplicableChallenge else none

/-! ## The challenge selection of the spec -/

/-- Modelled from the spec (§4.2, challenge selection): the challenge types applicable to an
identifier, a `dns` wildcard being a name with a `*`. -/
def Applicable (ident : ACMEIdentifier) (c : AcmeChallenge) : Prop :=
  ident.type = TypeDNS ∧ ('*' ∈ ident.value ∧ c = "dns-01" ∨
    '*' ∉ ident.value ∧ (c = "http-01" ∨ c = "dns-01" ∨ c = "tls-alpn-01")) ∨
  ident.type = TypeIP ∧ (c = "http-01" ∨ c = "tls-alpn-01")

instance (ident : ACMEIdentifier) (c : AcmeChallenge) : Decidable (Applicable ident c) := by
  unfold Applicable
  infer_instance

/-- The answer `CheckAuthzChallenges` should give, with the spec's selection in place of
`ChallengeTypesFor`: the error of `SolvedBy`, else the error of a disabled type, else `nil` for
an applicable type and the error of an inapplicable one. -/
def checkAuthzTable (enabled : AcmeChallenge → Bool) (authz : SolvedAuthorization) :
    Option GoError :=
  match authz.SolvedBy with
  | .error err => some err
  | .ok c =>
    if !enabled c then some errDisabledChallenge
    else if Applicable authz.Identifier c then none else some errInapplicableChallenge

/-! ## The types of a well-formed identifier -/

section WellFormed

variable (L : Lib Addr Prefix)

/-- On a name that `ValidDomain` accepts, the wildcard test of `ChallengeTypesFor` is that of
`WillingToIssue`. -/
theorem HasPrefix_star_dot_iff {d : GoString} (h : ValidDomain L d = none) :
    HasPrefix d ['*', '.'] = true ↔ '*' ∈ d := by
  rcases (ValidDomain_eq_none_iff L d).1 h with ⟨hd, -⟩ | ⟨b, rfl, -⟩
  · refine iff_of_false (fun hp => hd ?_) hd
    obtain ⟨t, rfl⟩ := HasPrefix_iff.1 hp
    exact List.mem_cons_self _ _
  · exact iff_of_true (HasPrefix_append ['*', '.'] b) (List.mem_cons_self _ _)

/-- Every list `ChallengeTypesFor` returns is non-empty, and each of its types has a storage
code. -/
theorem ChallengeTypesFor_ok {ident : ACMEIdentifier} {ts : List AcmeChallenge}
    (h : ChallengeTypesFor ident = .ok ts) :
    ts ≠ [] ∧ ∀ c ∈ ts, (challTypeToUint c).isSome := by
  unfold ChallengeTypesFor at h
  split_ifs at h <;> cases h <;> decide

/-- For an identifier that `WellFormedIdentifiers` accepts, `ChallengeTypesFor` lists exactly
the applicable types. -/
theorem ChallengeTypesFor_of_wellFormedSubError {ident : ACMEIdentifier}
    (h : wellFormedSubError L ident = none) :
    ∃ ts, ChallengeTypesFor ident = .ok ts ∧ ∀ c, c ∈ ts ↔ Applicable ident c := by
  unfold wellFormedSubError at h
  unfold ChallengeTypesFor Applicable
  by_cases hd : ident.type = TypeDNS
  · rw [if_pos hd, Option.map_eq_none'] at h
    by_cases hs : '*' ∈ ident.value
    · simp [hd, TypeDNS_ne_TypeIP, (HasPrefix_star_dot_iff L h).2 hs, hs]
    · simp [hd, TypeDNS_ne_TypeIP, mt (HasPrefix_star_dot_iff L h).1 hs, hs]
  · by_cases hi : ident.type = TypeIP
    · simp [hd, hi, TypeDNS_ne_TypeIP.symm]
    · simp [hd, hi] at h

example : ChallengeTypesFor ⟨TypeDNS, "*.example.com".toList⟩ = .ok ["dns-01"] := rfl

/-- The identifiers of a list that `WillingToIssue` accepts are those `WellFormedIdentifiers`
accepts one by one. -/
theorem wellFormedSubError_of_WillingToIssue {pa : AuthorityImpl Prefix}
    {idents : List ACMEIdentifier} (h : WillingToIssue L pa idents = none) :
    ∀ ident ∈ idents, wellFormedSubError L ident = none := by
  unfold WillingToIssue at h
  cases hw : WellFormedIdentifiers L idents with
  | some => simp [hw] at h
  | none => simpa [WellFormedIdentifiers, combineSubErrors_eq_none_iff] using hw

/-- **The challenge types of an accepted identifier.**  For every PA and every list that
`WillingToIssue` accepts, each identifier of the list has challenge types: a non-empty list of
exactly the types the spec's challenge selection allows for it, each with a storage code. -/
theorem ChallengeTypesFor_of_WillingToIssue (pa : AuthorityImpl Prefix)
    (idents : List ACMEIdentifier) (h : WillingToIssue L pa idents = none)
    (ident : ACMEIdentifier) (hm : ident ∈ idents) :
    ∃ ts, ChallengeTypesFor ident = .ok ts ∧ ts ≠ [] ∧ (∀ c, c ∈ ts ↔ Applicable ident c) ∧
      ∀ c ∈ ts, (challTypeToUint c).isSome := by
  obtain ⟨ts, hts, hmem⟩ :=
    ChallengeTypesFor_of_wellFormedSubError L (wellFormedSubError_of_WillingToIssue L h ident hm)
  exact ⟨ts, hts, (ChallengeTypesFor_ok hts).1, hmem, (ChallengeTypesFor_ok hts).2⟩

/-- A wildcard accepted with one exact name blocked elsewhere gets `dns-01` only. -/
theorem ChallengeTypesFor_of_WillingToIssue_wildcard :
    let pa := loadPolicies comLib (New (fun _ => true) fun _ => true)
      [⟨["foo.other.com".toList], ["other2.com".toList], [], []⟩]
    let idents : List ACMEIdentifier := [⟨TypeDNS, "*.example.com".toList⟩]
    WillingToIssue comLib pa idents = none ∧
      ∃ ts, ChallengeTypesFor ⟨TypeDNS, "*.example.com".toList⟩ = .ok ts ∧ ts ≠ [] ∧
        (∀ c, c ∈ ts ↔ Applicable ⟨TypeDNS, "*.example.com".toList⟩ c) ∧
        ∀ c ∈ ts, (challTypeToUint c).isSome := by
  intro pa idents
  exact ⟨rfl, ChallengeTypesFor_of_WillingToIssue comLib pa idents rfl _ (List.mem_singleton_self _)⟩

/-- For such an identifier, `CheckAuthzChallenges` answers as the table, errors included. -/
theorem CheckAuthzChallenges_eq_checkAuthzTable (pa : AuthorityImpl Prefix)
    (authz : SolvedAuthorization) (h : wellFormedSubError L authz.Identifier = none) :
    pa.CheckAuthzChallenges authz = checkAuthzTable pa.enabledChallenges authz := by
  obtain ⟨ts, hts, hmem⟩ := ChallengeTypesFor_of_wellFormedSubError L h
  unfold AuthorityImpl.CheckAuthzChallenges AuthorityImpl.ChallengeTypeEnabled checkAuthzTable
  cases authz.SolvedBy with
  | error err => rfl
  | ok c =>
    simp only [hts, ← hmem]
    by_cases hc : c ∈ ts <;> simp [hc]

theorem checkAuthzTable_eq_none_iff (enabled : AcmeChallenge → Bool)
    (authz : SolvedAuthorization) :
    checkAuthzTable enabled authz = none ↔
      ∃ c, authz.SolvedBy = .ok c ∧ enabled c = true ∧ Applicable authz.Identifier c := by
  unfold checkAuthzTable
  cases authz.SolvedBy with
  | error err => simp
  | ok c => cases enabled c <;> by_cases ha : Applicable authz.Identifier c <;> simp [ha]

end WellFormed

/-! ## Reloads -/

section Reloads

variable (L : Lib Addr Prefix)

@[simp] theorem processIdentPolicy_enabledChallenges (pa : AuthorityImpl Prefix)
    (P : blockedIdentsPolicy) :
    (processIdentPolicy L pa P).1.enabledChallenges = pa.enabledChallenges := by
  unfold processIdentPolicy
  cases buildBlocklists L P <;> rfl

theorem loadPolicies_enabledChallenges (pa : AuthorityImpl Prefix) :
    ∀ Ps, (loadPolicies L pa Ps).enabledChallenges = pa.enabledChallenges
  | [] => rfl
  | P :: Ps => by
    rw [loadPolicies, loadPolicies_enabledChallenges _ Ps, processIdentPolicy_enabledChallenges]

/-- **`CheckAuthzChallenges` over every reachable PA.**  After any sequence of policy loads from
`New identifierTypes challengeTypes`, take the identifier of a list that `WillingToIssue`
accepted at any reachable state: `CheckAuthzChallenges` returns `nil` iff the authorization was
solved by a type that `challengeTypes` enables and that the spec's challenge selection allows
for the identifier. -/
theorem CheckAuthzChallenges_loadPolicies (identifierTypes : IdentifierType → Bool)
    (challengeTypes : AcmeChallenge → Bool) (Ps Qs : List blockedIdentsPolicy)
    (idents : List ACMEIdentifier)
    (hw : WillingToIssue L (loadPolicies L (New identifierTypes challengeTypes) Qs) idents = none)
    (authz : SolvedAuthorization) (hm : authz.Identifier ∈ idents) :
    (loadPolicies L (New identifierTypes challengeTypes) Ps).CheckAuthzChallenges authz = none ↔
      ∃ c, authz.SolvedBy = .ok c ∧ challengeTypes c = true ∧ Applicable authz.Identifier c := by
  rw [CheckAuthzChallenges_eq_checkAuthzTable L _ authz
      (wellFormedSubError_of_WillingToIssue L hw _ hm), loadPolicies_enabledChallenges,
    checkAuthzTable_eq_none_iff]
  rfl

/-- A wildcard accepted under one policy, checked after a second load, with every challenge type
enabled. -/
theorem CheckAuthzChallenges_loadPolicies_wildcard :
    let V : blockedIdentsPolicy := ⟨["foo.other.com".toList], ["other2.com".toList], [], []⟩
    let idents : List ACMEIdentifier := [⟨TypeDNS, "*.example.com".toList⟩]
    let authz : SolvedAuthorization := ⟨⟨TypeDNS, "*.example.com".toList⟩, .ok "dns-01"⟩
    WillingToIssue comLib (loadPolicies comLib (New (fun _ => true) fun _ => true) [V]) idents =
        none ∧ authz.Identifier ∈ idents ∧
      ((loadPolicies comLib (New (fun _ => true) fun _ => true) [V, V]).CheckAuthzChallenges
          authz = none ↔
        ∃ c, authz.SolvedBy = .ok c ∧ (fun _ => true : AcmeChallenge → Bool) c = true ∧
          Applicable authz.Identifier c) := by
  intro V idents authz
  exact ⟨rfl, List.mem_singleton_self _,
    CheckAuthzChallenges_loadPolicies comLib (fun _ => true) (fun _ => true) [V, V] [V] idents rfl
      authz (List.mem_singleton_self _)⟩

end Reloads

end Boulder
