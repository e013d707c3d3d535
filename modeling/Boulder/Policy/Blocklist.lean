import Boulder.Policy.Domain

/-!
# Blocklists and `WillingToIssue` (`policy/pa.go`)

* `AuthorityImpl` — the PA: the four blocklist tables (a Go map that was never made is
  `none`) and the enabled identifier and challenge types;
* `processIdentPolicy` — builds the tables from a policy (`buildBlocklists`: the name map
  from `HighRiskBlockedNames` and `AdminBlockedNames`, the exact and wildcard-exact maps from
  `ExactBlockedNames`, the parsed prefixes) and installs all four, or returns the first error
  and installs nothing; `LoadIdentPolicyFile` adds the checks for empty lists;
* `checkWildcardBlocklist`, `checkBlocklists` and `WillingToIssue`.

A map of the PA is modelled by the list of its keys: every entry the code stores is `true`.

Principal results: `loadPolicies_installed` — after any sequence of loads, the tables are those
of the last policy whose load succeeded, or still `nil`; `WillingToIssue_eq_none_iff` — for
every such state, `WillingToIssue` accepts a list iff it is well-formed and every identifier
has an enabled type and is not `Blocked`.
-/

set_option autoImplicit false

namespace Boulder

open Strings

/-- `blockedIdentsPolicy`, as decoded from the policy YAML. -/
structure blockedIdentsPolicy where
  ExactBlockedNames : List GoString
  HighRiskBlockedNames : List GoString
  AdminBlockedNames : List GoString
  AdminBlockedPrefixes : List GoString

/-- `AuthorityImpl`, without its logger. -/
structure AuthorityImpl (Prefix : Type) where
  domainBlocklist : Option (List GoString)
  fqdnBlocklist : Option (List GoString)
  wildcardFqdnBlocklist : Option (List GoString)
  ipPrefixBlocklist : List Prefix
  enabledChallenges : AcmeChallenge → Bool
  enabledIdentifiers : IdentifierType → Bool

/-- The four tables `processIdentPolicy` installs. -/
structure Blocklists (Prefix : Type) where
  domain : List GoString
  fqdn : List GoString
  wildcardFqdn : List GoString
  ipPrefix : List Prefix

variable {Addr Prefix : Type} (L : Lib Addr Prefix)

/-- `New`: no table is made before the first policy load. -/
def New (identifierTypes : IdentifierType → Bool) (challengeTypes : AcmeChallenge → Bool) :
    AuthorityImpl Prefix :=
  ⟨none, none, none, [], challengeTypes, identifierTypes⟩

/-- The `ExactBlockedNames` loop of `processIdentPolicy`: the exact map and the
wildcard-exact map (each entry without its first label), or the error of the first entry with
one label. -/
def exactBlocklists : List GoString → Except GoError (List GoString × List GoString)
  | [] => .ok ([], [])
  | v :: vs =>
    match SplitN2 v '.' with
    | _ :: rest :: _ => (exactBlocklists vs).map fun (e, w) => (v :: e, rest :: w)
    | _ => .error (.other (.sprintf "malformed ExactBlockedNames entry, only one label: %q" [.str v]))

/-- The `AdminBlockedPrefixes` loop of `processIdentPolicy`. -/
def parsePrefixes : List GoString → Except GoError (List Prefix)
  | [] => .ok []
  | p :: ps =>
    match L.ParsePrefix p with
    | none => .error (.other (.sprintf "malformed AdminBlockedPrefixes entry, not a prefix: %q" [.str p]))
    | some pfx => (parsePrefixes ps).map (pfx :: ·)

/-- The tables `processIdentPolicy` computes before it takes the lock. -/
def buildBlocklists (policy : blockedIdentsPolicy) : Except GoError (Blocklists Prefix) := do
  let (exactNameMap, wildcardNameMap) ← exactBlocklists policy.ExactBlockedNames
  let prefixes ← parsePrefixes L policy.AdminBlockedPrefixes
  return ⟨policy.HighRiskBlockedNames ++ policy.AdminBlockedNames, exactNameMap, wildcardNameMap,
    prefixes⟩

/-- The write-locked swap of `processIdentPolicy`. -/
def AuthorityImpl.install (pa : AuthorityImpl Prefix) (t : Blocklists Prefix) :
    AuthorityImpl Prefix :=
  { pa with domainBlocklist := some t.domain, fqdnBlocklist := some t.fqdn,
            wildcardFqdnBlocklist := some t.wildcardFqdn, ipPrefixBlocklist := t.ipPrefix }

/-- `processIdentPolicy`: the PA after the call, and the returned error. -/
def processIdentPolicy (pa : AuthorityImpl Prefix) (policy : blockedIdentsPolicy) :
    AuthorityImpl Prefix × Option GoError :=
  match buildBlocklists L policy with
  | .error err => (pa, some err)
  | .ok t => (pa.install t, none)

/-- `LoadIdentPolicyFile`, from the decoded policy (reading and decoding the file are not
modelled). -/
def LoadIdentPolicyFile (pa : AuthorityImpl Prefix) (policy : blockedIdentsPolicy) :
    AuthorityImpl Prefix × Option GoError :=
  if policy.HighRiskBlockedNames.length = 0 then
    (pa, some (.other (.text "no entries in HighRiskBlockedNames")))
  else if policy.ExactBlockedNames.length = 0 then
    (pa, some (.other (.text "no entries in ExactBlockedNames")))
  else processIdentPolicy L pa policy

/-! ## The checks -/

/-- A lookup `m[k]` in a map whose entries are all `true`; a `nil` map has no entry. -/
def mapGet (m : Option (List GoString)) (k : GoString) : Bool :=
  match m with
  | none => false
  | some ks => decide (k ∈ ks)

/-- The error of a check made before any policy was loaded. -/
def errPolicyNotLoaded : GoError := .other (.text "identifier policy not yet loaded")

/-- `checkWildcardBlocklist`. -/
def checkWildcardBlocklist (pa : AuthorityImpl Prefix) (domain : GoString) : Option GoError :=
  match pa.wildcardFqdnBlocklist with
  | none => some errPolicyNotLoaded
  | some _ => if mapGet pa.wildcardFqdnBlocklist domain then some errPolicyForbidden else none

/-- `checkBlocklists`. -/
def checkBlocklists (pa : AuthorityImpl Prefix) (ident : ACMEIdentifier) : Option GoError :=
  if pa.domainBlocklist = none then some errPolicyNotLoaded
  else if ident.type = TypeDNS then
    let labels := Split ident.value '.'
    if (List.range labels.length).any fun i => mapGet pa.domainBlocklist (Join (labels.drop i) '.')
    then some errPolicyForbidden
    else if mapGet pa.fqdnBlocklist ident.value then some errPolicyForbidden
    else none
  else if ident.type = TypeIP then
    match L.ParseAddr ident.value with
    | none => some errIPInvalid
    | some ip =>
      if pa.ipPrefixBlocklist.any fun pfx => L.Contains pfx (L.WithZone ip [])
      then some errPolicyForbidden
      else none
  else some errUnsupportedIdent

/-- `IdentifierTypeEnabled`. -/
def AuthorityImpl.IdentifierTypeEnabled (pa : AuthorityImpl Prefix) (t : IdentifierType) :
    Bool :=
  pa.enabledIdentifiers t

/-- The error of a disabled identifier type. -/
def errTypeDisabled : GoError :=
  rejected "The ACME server has disabled this identifier type"

/-- The body of the identifier loop of `WillingToIssue` up to `checkBlocklists`: the type
test and, for a wildcard, `checkWildcardBlocklist` on the base domain. -/
def typeAndWildcardCheck (pa : AuthorityImpl Prefix) (ident : ACMEIdentifier) :
    Option GoError :=
  if !pa.IdentifierTypeEnabled ident.type then some errTypeDisabled
  else if ident.type = TypeDNS ∧ Count ident.value '*' > 0 then
    checkWildcardBlocklist pa (TrimPrefix ident.value ['*', '.'])
  else none

/-- The body of the identifier loop of `WillingToIssue`: the error that makes `ident` offend. -/
def willingToIssueCheck (pa : AuthorityImpl Prefix) (ident : ACMEIdentifier) : Option GoError :=
  match typeAndWildcardCheck pa ident with
  | some err => some err
  | none => checkBlocklists L pa ident

/-- `WillingToIssue`. -/
def WillingToIssue (pa : AuthorityImpl Prefix) (idents : List ACMEIdentifier) :
    Option BoulderError :=
  match WellFormedIdentifiers L idents with
  | some err => some err
  | none => combineSubErrors (idents.filterMap fun ident =>
      (willingToIssueCheck L pa ident).map (subError ident))

/-! ## Loads -/

/-- The text after the first `.` of `e`. -/
def AfterFirstDot (e b : GoString) : Prop := ∃ pre, e = pre ++ '.' :: b ∧ '.' ∉ pre

theorem AfterFirstDot_iff {pre rest b : GoString} (hpre : '.' ∉ pre) :
    AfterFirstDot (pre ++ '.' :: rest) b ↔ b = rest := by
  constructor
  · rintro ⟨pre', he, hpre'⟩
    exact ((first_sep_unique hpre hpre' he).2).symm
  · rintro rfl
    exact ⟨pre, rfl, hpre⟩

/-- A successful `ExactBlockedNames` loop keeps every entry in the exact map, and puts in the
wildcard-exact map exactly the texts after the first dot of the entries. -/
theorem exactBlocklists_ok {e w : List GoString} :
    ∀ {vs : List GoString}, exactBlocklists vs = .ok (e, w) →
      e = vs ∧ ∀ b, b ∈ w ↔ ∃ v ∈ vs, AfterFirstDot v b
  | [], h => by
    simp only [exactBlocklists, Except.ok.injEq, Prod.mk.injEq] at h
    obtain ⟨rfl, rfl⟩ := h
    simp
  | v :: vs, h => by
    unfold exactBlocklists at h
    rcases SplitN2_cases v '.' with ⟨-, hs⟩ | ⟨pre, rest, rfl, hpre, hs⟩
    · rw [hs] at h; cases h
    · rw [hs] at h
      cases hr : exactBlocklists vs with
      | error => rw [hr] at h; cases h
      | ok p =>
        rw [hr] at h
        simp only [Except.map, Except.ok.injEq, Prod.mk.injEq] at h
        obtain ⟨rfl, rfl⟩ := h
        obtain ⟨rfl, hw⟩ := exactBlocklists_ok hr
        refine ⟨rfl, fun b => ?_⟩
        simp [hw, AfterFirstDot_iff hpre]

/-- A successful `AdminBlockedPrefixes` loop keeps exactly the parsed prefixes. -/
theorem parsePrefixes_ok {qs : List Prefix} :
    ∀ {ps : List GoString}, parsePrefixes L ps = .ok qs →
      ∀ q, q ∈ qs ↔ ∃ p ∈ ps, L.ParsePrefix p = some q
  | [], h => by
    simp only [parsePrefixes, Except.ok.injEq] at h
    subst h
    simp
  | p :: ps, h => by
    unfold parsePrefixes at h
    cases hp : L.ParsePrefix p with
    | none => rw [hp] at h; cases h
    | some q =>
      cases hr : parsePrefixes L ps with
      | error => rw [hp, hr] at h; cases h
      | ok qs' =>
        rw [hp, hr] at h
        simp only [Except.map, Except.ok.injEq] at h
        subst h
        intro q'
        simp only [List.mem_cons, parsePrefixes_ok hr, or_and_right, exists_or, exists_eq_left, hp,
          Option.some.injEq]
        exact or_congr_left eq_comm

/-- The tables built from a policy that loads. -/
theorem buildBlocklists_ok {P : blockedIdentsPolicy} {t : Blocklists Prefix}
    (h : buildBlocklists L P = .ok t) :
    t.domain = P.HighRiskBlockedNames ++ P.AdminBlockedNames ∧ t.fqdn = P.ExactBlockedNames ∧
    (∀ b, b ∈ t.wildcardFqdn ↔ ∃ e ∈ P.ExactBlockedNames, AfterFirstDot e b) ∧
    (∀ q, q ∈ t.ipPrefix ↔ ∃ p ∈ P.AdminBlockedPrefixes, L.ParsePrefix p = some q) := by
  unfold buildBlocklists at h
  cases he : exactBlocklists P.ExactBlockedNames with
  | error => rw [he] at h; cases h
  | ok ew =>
    cases hp : parsePrefixes L P.AdminBlockedPrefixes with
    | error => rw [he] at h; simp [hp] at h; cases h
    | ok qs =>
      rw [he] at h
      simp only [hp] at h
      cases h
      exact ⟨rfl, (exactBlocklists_ok he).1, (exactBlocklists_ok he).2, parsePrefixes_ok L hp⟩

/-- The tables of `pa` are the ones built from `P`, or, when no policy was loaded, all `nil`. -/
def Installed (pa : AuthorityImpl Prefix) : Option blockedIdentsPolicy → Prop
  | none => pa.domainBlocklist = none ∧ pa.fqdnBlocklist = none ∧
      pa.wildcardFqdnBlocklist = none ∧ pa.ipPrefixBlocklist = []
  | some P => ∃ t, buildBlocklists L P = .ok t ∧ pa.install t = pa

/-- The PA after a sequence of `processIdentPolicy` calls. -/
def loadPolicies (pa : AuthorityImpl Prefix) : List blockedIdentsPolicy → AuthorityImpl Prefix
  | [] => pa
  | P :: Ps => loadPolicies (processIdentPolicy L pa P).1 Ps

/-- The last policy of a sequence whose load succeeds, after `prev`. -/
def lastLoaded (prev : Option blockedIdentsPolicy) :
    List blockedIdentsPolicy → Option blockedIdentsPolicy
  | [] => prev
  | P :: Ps => lastLoaded (if (buildBlocklists L P).isOk then some P else prev) Ps

theorem loadPolicies_append (pa : AuthorityImpl Prefix) (Ps Qs : List blockedIdentsPolicy) :
    loadPolicies L pa (Ps ++ Qs) = loadPolicies L (loadPolicies L pa Ps) Qs := by
  induction Ps generalizing pa with
  | nil => rfl
  | cons P Ps ih => exact ih _

theorem lastLoaded_append (st : Option blockedIdentsPolicy) (Ps Qs : List blockedIdentsPolicy) :
    lastLoaded L st (Ps ++ Qs) = lastLoaded L (lastLoaded L st Ps) Qs := by
  induction Ps generalizing st with
  | nil => rfl
  | cons P Ps ih => exact ih _

@[simp] theorem install_domainBlocklist (pa : AuthorityImpl Prefix) (t : Blocklists Prefix) :
    (pa.install t).domainBlocklist = some t.domain := rfl

@[simp] theorem install_fqdnBlocklist (pa : AuthorityImpl Prefix) (t : Blocklists Prefix) :
    (pa.install t).fqdnBlocklist = some t.fqdn := rfl

@[simp] theorem install_wildcardFqdnBlocklist (pa : AuthorityImpl Prefix)
    (t : Blocklists Prefix) : (pa.install t).wildcardFqdnBlocklist = some t.wildcardFqdn := rfl

@[simp] theorem install_ipPrefixBlocklist (pa : AuthorityImpl Prefix) (t : Blocklists Prefix) :
    (pa.install t).ipPrefixBlocklist = t.ipPrefix := rfl

@[simp] theorem install_install (pa : AuthorityImpl Prefix) (t t' : Blocklists Prefix) :
    (pa.install t).install t' = pa.install t' := rfl

theorem processIdentPolicy_installed {pa : AuthorityImpl Prefix} {st : Option blockedIdentsPolicy}
    (h : Installed L pa st) (P : blockedIdentsPolicy) :
    Installed L (processIdentPolicy L pa P).1
      (if (buildBlocklists L P).isOk then some P else st) := by
  unfold processIdentPolicy
  cases hb : buildBlocklists L P with
  | error => simpa [hb] using h
  | ok t => simpa [hb] using ⟨t, hb, rfl⟩

@[simp] theorem processIdentPolicy_enabledIdentifiers (pa : AuthorityImpl Prefix)
    (P : blockedIdentsPolicy) :
    (processIdentPolicy L pa P).1.enabledIdentifiers = pa.enabledIdentifiers := by
  unfold processIdentPolicy
  cases buildBlocklists L P <;> rfl

/-- **The tables after a run of loads** are those of the last policy that loaded. -/
theorem loadPolicies_installed {pa : AuthorityImpl Prefix} {st : Option blockedIdentsPolicy}
    (h : Installed L pa st) :
    ∀ Ps, Installed L (loadPolicies L pa Ps) (lastLoaded L st Ps)
  | [] => h
  | P :: Ps => loadPolicies_installed (processIdentPolicy_installed L h P) Ps

theorem loadPolicies_enabledIdentifiers (pa : AuthorityImpl Prefix) :
    ∀ Ps, (loadPolicies L pa Ps).enabledIdentifiers = pa.enabledIdentifiers
  | [] => rfl
  | P :: Ps => by
    rw [loadPolicies, loadPolicies_enabledIdentifiers _ Ps, processIdentPolicy_enabledIdentifiers]

/-! ## Loading a policy file -/

/-- `Blocked`, in the words of the policy file: with no policy loaded every identifier is
blocked.  With `P` loaded, a DNS value is blocked by a `HighRiskBlockedNames` or
`AdminBlockedNames` entry that it equals or ends with after a dot, by an `ExactBlockedNames`
entry, or, as `*.b`, by an `ExactBlockedNames` entry whose text after its first dot is `b`;
an IP value is blocked by an `AdminBlockedPrefixes` prefix that contains it. -/
def Blocked : Option blockedIdentsPolicy → ACMEIdentifier → Prop
  | none, _ => True
  | some P, ident =>
    (ident.type = TypeDNS ∧
      ((∃ h ∈ P.HighRiskBlockedNames ++ P.AdminBlockedNames,
          ident.value = h ∨ ∃ x, ident.value = x ++ '.' :: h) ∨
        ident.value ∈ P.ExactBlockedNames ∨
        ∃ e ∈ P.ExactBlockedNames, ∃ b, ident.value = '*' :: '.' :: b ∧ AfterFirstDot e b)) ∨
    (ident.type = TypeIP ∧ ∃ p ∈ P.AdminBlockedPrefixes, ∃ pfx a, L.ParsePrefix p = some pfx ∧
      L.ParseAddr ident.value = some a ∧ L.Contains pfx (L.WithZone a []) = true)

/-- The label loop of `checkBlocklists` finds a name of the map iff the value is that name or
ends with it after a dot. -/
theorem labelLoop_any_iff (v : GoString) (D : List GoString) :
    ((List.range (Split v '.').length).any fun i => decide (Join ((Split v '.').drop i) '.' ∈ D))
      = true ↔ ∃ h ∈ D, v = h ∨ ∃ x, v = x ++ '.' :: h := by
  simp only [List.any_eq_true, List.mem_range, decide_eq_true_eq]
  constructor
  · rintro ⟨i, hi, hm⟩
    refine ⟨_, hm, ?_⟩
    rcases (Join_drop_Split_iff v _ '.').1 ⟨i, hi, rfl⟩ with e | e
    · exact .inl e.symm
    · exact .inr e
  · rintro ⟨h, hm, hv⟩
    obtain ⟨i, hi, rfl⟩ := (Join_drop_Split_iff v h '.').2 (hv.elim (fun e => .inl e.symm) .inr)
    exact ⟨i, hi, hm⟩

theorem checkWildcardBlocklist_install (pa : AuthorityImpl Prefix) (t : Blocklists Prefix)
    (b : GoString) : checkWildcardBlocklist (pa.install t) b = none ↔ b ∉ t.wildcardFqdn := by
  simp [checkWildcardBlocklist, mapGet]

theorem checkBlocklists_install_dns (pa : AuthorityImpl Prefix) (t : Blocklists Prefix)
    (v : GoString) :
    checkBlocklists L (pa.install t) ⟨TypeDNS, v⟩ = none ↔
      ¬ (∃ h ∈ t.domain, v = h ∨ ∃ x, v = x ++ '.' :: h) ∧ v ∉ t.fqdn := by
  unfold checkBlocklists
  simp only [install_domainBlocklist, install_fqdnBlocklist, reduceCtorEq, if_false, if_true,
    ite_some_eq_none, mapGet, labelLoop_any_iff, decide_eq_true_eq, and_true]

theorem checkBlocklists_install_ip (pa : AuthorityImpl Prefix) (t : Blocklists Prefix)
    {v : GoString} {a : Addr} (ha : L.ParseAddr v = some a) :
    checkBlocklists L (pa.install t) ⟨TypeIP, v⟩ = none ↔
      ¬ ∃ q ∈ t.ipPrefix, L.Contains q (L.WithZone a []) = true := by
  unfold checkBlocklists
  simp [TypeDNS_ne_TypeIP.symm, ha]

theorem checkBlocklists_not_loaded {pa : AuthorityImpl Prefix} (h : pa.domainBlocklist = none)
    (ident : ACMEIdentifier) : checkBlocklists L pa ident = some errPolicyNotLoaded := by
  simp [checkBlocklists, h]

theorem checkWildcardBlocklist_not_loaded {pa : AuthorityImpl Prefix}
    (h : pa.wildcardFqdnBlocklist = none) (b : GoString) :
    checkWildcardBlocklist pa b = some errPolicyNotLoaded := by
  simp [checkWildcardBlocklist, h]

/-- A wildcard identifier, as `WillingToIssue` tests it. -/
def IsWildcard (ident : ACMEIdentifier) : Prop := ident.type = TypeDNS ∧ '*' ∈ ident.value

/-- The part of `Blocked` that `checkWildcardBlocklist` decides: with no policy loaded every
wildcard, and with `P` loaded `*.b` for an `ExactBlockedNames` entry whose text after its first
dot is `b`. -/
def WildcardBlocked : Option blockedIdentsPolicy → ACMEIdentifier → Prop
  | none, ident => IsWildcard ident
  | some P, ident => ident.type = TypeDNS ∧
      ∃ e ∈ P.ExactBlockedNames, ∃ b, ident.value = '*' :: '.' :: b ∧ AfterFirstDot e b

/-- The part of `Blocked` that `checkBlocklists` decides. -/
def ListBlocked : Option blockedIdentsPolicy → ACMEIdentifier → Prop
  | none, _ => True
  | some P, ident =>
    (ident.type = TypeDNS ∧
      ((∃ h ∈ P.HighRiskBlockedNames ++ P.AdminBlockedNames,
          ident.value = h ∨ ∃ x, ident.value = x ++ '.' :: h) ∨
        ident.value ∈ P.ExactBlockedNames)) ∨
    (ident.type = TypeIP ∧ ∃ p ∈ P.AdminBlockedPrefixes, ∃ pfx a, L.ParsePrefix p = some pfx ∧
      L.ParseAddr ident.value = some a ∧ L.Contains pfx (L.WithZone a []) = true)

theorem Blocked_iff (st : Option blockedIdentsPolicy) (ident : ACMEIdentifier) :
    Blocked L st ident ↔ WildcardBlocked st ident ∨ ListBlocked L st ident := by
  cases st with
  | none => simp [Blocked, ListBlocked]
  | some P =>
    simp only [Blocked, WildcardBlocked, ListBlocked]
    constructor
    · rintro (⟨hd, hl | hx | hw⟩ | hip)
      · exact .inr (.inl ⟨hd, .inl hl⟩)
      · exact .inr (.inl ⟨hd, .inr hx⟩)
      · exact .inl ⟨hd, hw⟩
      · exact .inr (.inr hip)
    · rintro (⟨hd, hw⟩ | ⟨hd, hl | hx⟩ | hip)
      · exact .inl ⟨hd, .inr (.inr hw)⟩
      · exact .inl ⟨hd, .inl hl⟩
      · exact .inl ⟨hd, .inr (.inl hx)⟩
      · exact .inr hip

theorem willingToIssueCheck_eq_none (pa : AuthorityImpl Prefix) (ident : ACMEIdentifier) :
    willingToIssueCheck L pa ident = none ↔
      typeAndWildcardCheck pa ident = none ∧ checkBlocklists L pa ident = none := by
  unfold willingToIssueCheck
  cases typeAndWildcardCheck pa ident <;> simp

variable {L} {pa : AuthorityImpl Prefix} {st : Option blockedIdentsPolicy} {ident : ACMEIdentifier}

/-- For a well-formed identifier, the checks before `checkBlocklists` pass iff the type is
enabled and the identifier is not `WildcardBlocked` by the installed policy. -/
theorem typeAndWildcardCheck_eq_none_iff (hi : Installed L pa st)
    (hw : wellFormedSubError L ident = none) :
    typeAndWildcardCheck pa ident = none ↔
      pa.enabledIdentifiers ident.type = true ∧ ¬ WildcardBlocked st ident := by
  obtain ⟨type, v⟩ := ident
  unfold typeAndWildcardCheck AuthorityImpl.IdentifierTypeEnabled
  cases pa.enabledIdentifiers type
  · simp
  simp only [Bool.not_true, Bool.false_eq_true, if_false, true_and]
  by_cases hd : type = TypeDNS
  · subst hd
    simp only [wellFormedSubError, if_true, Option.map_eq_none'] at hw
    rcases (ValidDomain_eq_none_iff L v).1 hw with ⟨hns, -⟩ | ⟨b, rfl, hb, -⟩
    · rw [if_neg (by simp [Count_eq_zero.2 hns])]
      have : ∀ b, v ≠ '*' :: '.' :: b := fun b e => hns (e ▸ List.mem_cons_self _ _)
      cases st <;> simp [WildcardBlocked, IsWildcard, hns, this]
    · have htr : TrimPrefix ('*' :: '.' :: b) ['*', '.'] = b := TrimPrefix_append ['*', '.'] b
      rw [if_pos ⟨rfl, by rw [Count_star_dot hb]; omega⟩, htr]
      cases st with
      | none => simp [checkWildcardBlocklist_not_loaded hi.2.2.1, WildcardBlocked, IsWildcard]
      | some P =>
        obtain ⟨t, hb, ht⟩ := hi
        rw [← ht, checkWildcardBlocklist_install, (buildBlocklists_ok L hb).2.2.1]
        simp [WildcardBlocked]
  · rw [if_neg fun h => hd h.1]
    cases st <;> simp [WildcardBlocked, IsWildcard, hd]

/-- For a well-formed identifier, `checkBlocklists` passes iff the identifier is not
`ListBlocked` by the installed policy. -/
theorem checkBlocklists_eq_none_iff (hi : Installed L pa st)
    (hw : wellFormedSubError L ident = none) :
    checkBlocklists L pa ident = none ↔ ¬ ListBlocked L st ident := by
  cases st with
  | none => simp [ListBlocked, checkBlocklists_not_loaded L hi.1]
  | some P =>
    obtain ⟨t, hb, ht⟩ := hi
    obtain ⟨hdom, hfq, -, hip⟩ := buildBlocklists_ok L hb
    obtain ⟨type, v⟩ := ident
    rw [← ht]
    by_cases hd : type = TypeDNS
    · subst hd
      rw [checkBlocklists_install_dns]
      simp [ListBlocked, hdom, hfq, TypeDNS_ne_TypeIP]
    · by_cases hi : type = TypeIP
      · subst hi
        simp only [wellFormedSubError, hd, if_false, if_true, Option.map_eq_none'] at hw
        obtain ⟨a, ha⟩ := ValidIP_parse L hw
        rw [checkBlocklists_install_ip L _ t ha]
        simp only [ListBlocked, hd, hip, ha, false_and, false_or, true_and, Option.some.injEq,
          exists_eq_left']
        exact not_congr ⟨fun ⟨q, ⟨p, hp, hq⟩, e⟩ => ⟨p, hp, q, a, hq, rfl, e⟩,
          fun ⟨p, hp, q, _, hq, e, h⟩ => ⟨q, ⟨p, hp, hq⟩, e ▸ h⟩⟩
      · simp [wellFormedSubError, hd, hi] at hw

/-- For a well-formed identifier, the loop body of `WillingToIssue` passes iff the type is
enabled and the identifier is not `Blocked` by the policy whose tables are installed. -/
theorem willingToIssueCheck_eq_none_iff (hi : Installed L pa st)
    (hw : wellFormedSubError L ident = none) :
    willingToIssueCheck L pa ident = none ↔
      pa.enabledIdentifiers ident.type = true ∧ ¬ Blocked L st ident := by
  rw [willingToIssueCheck_eq_none, typeAndWildcardCheck_eq_none_iff hi hw,
    checkBlocklists_eq_none_iff hi hw, Blocked_iff, not_or, and_assoc]

variable (L)

/-- **`WillingToIssue` over every reachable PA.**  After any sequence of policy loads from
`New`, `WillingToIssue` returns `nil` iff `WellFormedIdentifiers` does and every identifier has
an enabled type and is not `Blocked` by the last policy that loaded (every identifier is
blocked when none did). -/
theorem WillingToIssue_eq_none_iff (identifierTypes : IdentifierType → Bool)
    (challengeTypes : AcmeChallenge → Bool) (Ps : List blockedIdentsPolicy)
    (idents : List ACMEIdentifier) :
    WillingToIssue L (loadPolicies L (New identifierTypes challengeTypes) Ps) idents = none ↔
      WellFormedIdentifiers L idents = none ∧
      ∀ ident ∈ idents, identifierTypes ident.type = true ∧
        ¬ Blocked L (lastLoaded L none Ps) ident := by
  have hi : Installed L (loadPolicies L (New identifierTypes challengeTypes) Ps)
      (lastLoaded L none Ps) :=
    loadPolicies_installed L (show Installed L (New identifierTypes challengeTypes) none from
      ⟨rfl, rfl, rfl, rfl⟩) Ps
  have he := loadPolicies_enabledIdentifiers L (New identifierTypes challengeTypes) Ps
  unfold WillingToIssue
  cases hw : WellFormedIdentifiers L idents with
  | some => simp
  | none =>
    have hws : ∀ ident ∈ idents, wellFormedSubError L ident = none := by
      simpa [WellFormedIdentifiers, combineSubErrors_eq_none_iff] using hw
    simp only [combineSubErrors_eq_none_iff, List.filterMap_eq_nil_iff, Option.map_eq_none',
      true_and]
    refine forall₂_congr fun ident hm => ?_
    rw [willingToIssueCheck_eq_none_iff hi (hws ident hm), he]
    rfl

/-! ## The errors of `WillingToIssue` -/

/-- The error `combineSubErrors` returns is a `RejectedIdentifier` one, which carries the
sub-errors when there are two or more and none when there is one. -/
theorem combineSubErrors_eq_some {subs : List SubBoulderError} {err : BoulderError}
    (h : combineSubErrors subs = some err) :
    subs ≠ [] ∧ err.type = .RejectedIdentifier ∧
      err.subErrors = if 2 ≤ subs.length then subs else [] := by
  rcases subs with _ | ⟨s, _ | ⟨t, rest⟩⟩ <;> cases h
  · exact ⟨List.cons_ne_nil _ _, rfl, rfl⟩
  · exact ⟨List.cons_ne_nil _ _, rfl, by simp [BoulderError.WithSubErrors]⟩

/-- A loop collecting one sub-error per identifier that fails a check, each naming its
identifier, names exactly the failing identifiers, in input order. -/
theorem filterMap_map_fst {g : ACMEIdentifier → Option SubBoulderError}
    (hg : ∀ ident s, g ident = some s → s.1 = ident) :
    ∀ idents : List ACMEIdentifier,
      (idents.filterMap g).map Prod.fst = idents.filter fun ident => (g ident).isSome
  | [] => rfl
  | ident :: idents => by
    cases h : g ident with
    | none => simp [List.filterMap_cons, h, filterMap_map_fst hg idents]
    | some s => simp [List.filterMap_cons, h, hg ident s h, filterMap_map_fst hg idents]

/-- The same for a loop body that returns an error, which `subError` pairs with its
identifier. -/
theorem filterMap_subError_map_fst (g : ACMEIdentifier → Option GoError)
    (idents : List ACMEIdentifier) :
    (idents.filterMap fun ident => (g ident).map (subError ident)).map Prod.fst =
      idents.filter fun ident => (g ident).isSome := by
  rw [filterMap_map_fst (fun ident s hs => by
    obtain ⟨e, -, rfl⟩ := Option.map_eq_some'.1 hs; exact subError_fst ident e)]
  simp only [Option.isSome_map']

theorem wellFormedSubError_fst {ident : ACMEIdentifier} {s : SubBoulderError}
    (h : wellFormedSubError L ident = some s) : s.1 = ident := by
  unfold wellFormedSubError at h
  split_ifs at h <;> first | (obtain ⟨e, -, rfl⟩ := Option.map_eq_some'.1 h; simp) | (cases h; simp)

theorem checkWildcardBlocklist_eq_some {pa : AuthorityImpl Prefix} {b : GoString} {err : GoError}
    (h : checkWildcardBlocklist pa b = some err) :
    err = errPolicyNotLoaded ∨ err = errPolicyForbidden := by
  unfold checkWildcardBlocklist at h
  split at h
  · exact .inl (Option.some.inj h).symm
  · split_ifs at h
    exact .inr (Option.some.inj h).symm

theorem typeAndWildcardCheck_eq_some {pa : AuthorityImpl Prefix} {ident : ACMEIdentifier}
    {err : GoError} (h : typeAndWildcardCheck pa ident = some err) :
    err = errTypeDisabled ∨ err = errPolicyNotLoaded ∨ err = errPolicyForbidden := by
  unfold typeAndWildcardCheck at h
  split_ifs at h
  · exact .inl (Option.some.inj h).symm
  · exact .inr (checkWildcardBlocklist_eq_some h)

theorem checkBlocklists_eq_some {pa : AuthorityImpl Prefix} {ident : ACMEIdentifier}
    (hw : wellFormedSubError L ident = none) {err : GoError}
    (h : checkBlocklists L pa ident = some err) :
    err = errPolicyNotLoaded ∨ err = errPolicyForbidden := by
  unfold checkBlocklists at h
  dsimp only at h
  split_ifs at h with _ hd
  · exact .inl (Option.some.inj h).symm
  · exact .inr (Option.some.inj h).symm
  · exact .inr (Option.some.inj h).symm
  · rename_i hi
    simp only [wellFormedSubError, hi, TypeDNS_ne_TypeIP.symm, if_false, if_true,
      Option.map_eq_none'] at hw
    obtain ⟨a, ha⟩ := ValidIP_parse L hw
    simp only [ha] at h
    split_ifs at h
    exact .inr (Option.some.inj h).symm
  · rename_i hi
    simp [wellFormedSubError, hd, hi] at hw

/-- For a well-formed identifier, the loop body of `WillingToIssue` fails only with the
disabled-type, not-loaded or forbidden errors, which `subError` turns into
`RejectedIdentifier` sub-errors. -/
theorem willingToIssueCheck_subError_type (pa : AuthorityImpl Prefix) {ident : ACMEIdentifier}
    (hw : wellFormedSubError L ident = none) {err : GoError}
    (h : willingToIssueCheck L pa ident = some err) :
    (subError ident err).2.type = .RejectedIdentifier := by
  unfold willingToIssueCheck at h
  have : err = errTypeDisabled ∨ err = errPolicyNotLoaded ∨ err = errPolicyForbidden := by
    split at h
    · exact typeAndWildcardCheck_eq_some (by rename_i e he; rw [he, h])
    · exact .inr ((checkBlocklists_eq_some L hw h).imp_right id)
  rcases this with rfl | rfl | rfl <;> rfl

/-- **The error of `WillingToIssue`.**  For every PA and identifier list, an error that
`WillingToIssue` returns has kind `RejectedIdentifier`, and reports the identifiers of one stage
only.  If some identifier is malformed, the error is that of `WellFormedIdentifiers`: its
sub-errors are one per malformed identifier in input order with that identifier's own syntax
error, when there are two or more, and none otherwise; identifiers of a disabled type or blocked
are then not reported.  If none is, `WellFormedIdentifiers` returns `nil` and the sub-errors are
one per disabled or blocked identifier in input order, each of kind `RejectedIdentifier`, when
there are two or more, and none otherwise. -/
theorem WillingToIssue_subErrors (pa : AuthorityImpl Prefix) (idents : List ACMEIdentifier)
    (err : BoulderError) (h : WillingToIssue L pa idents = some err) :
    let malformed := idents.filterMap (wellFormedSubError L)
    let refused := idents.filterMap fun ident =>
      (willingToIssueCheck L pa ident).map (subError ident)
    err.type = .RejectedIdentifier ∧
    malformed.map Prod.fst = idents.filter (fun ident => (wellFormedSubError L ident).isSome) ∧
    refused.map Prod.fst = idents.filter (fun ident => (willingToIssueCheck L pa ident).isSome) ∧
    ((WellFormedIdentifiers L idents = some err ∧ malformed ≠ [] ∧
        err.subErrors = if 2 ≤ malformed.length then malformed else []) ∨
      (WellFormedIdentifiers L idents = none ∧ malformed = [] ∧
        err.subErrors = (if 2 ≤ refused.length then refused else []) ∧
        ∀ s ∈ refused, s.2.type = .RejectedIdentifier)) := by
  intro malformed refused
  have names₁ := filterMap_map_fst (fun _ _ => wellFormedSubError_fst L) idents
  have names₂ := filterMap_subError_map_fst (willingToIssueCheck L pa) idents
  unfold WillingToIssue at h
  cases hw : WellFormedIdentifiers L idents with
  | some e =>
    rw [hw] at h
    cases h
    obtain ⟨hne, htype, hsub⟩ := combineSubErrors_eq_some hw
    exact ⟨htype, names₁, names₂, .inl ⟨rfl, hne, hsub⟩⟩
  | none =>
    rw [hw] at h
    have hnil : malformed = [] := (combineSubErrors_eq_none_iff _).1 hw
    obtain ⟨-, htype, hsub⟩ := combineSubErrors_eq_some h
    refine ⟨htype, names₁, names₂, .inr ⟨rfl, hnil, hsub, fun s hs => ?_⟩⟩
    obtain ⟨ident, hm, hs⟩ := List.mem_filterMap.1 hs
    obtain ⟨e, he, rfl⟩ := Option.map_eq_some'.1 hs
    exact willingToIssueCheck_subError_type L pa
      (List.filterMap_eq_nil_iff.1 hnil ident hm) he

/-- A list that fails at the syntax stage, under libraries that parse addresses, with
`blocked.com` on the name blocklist: `xy--a.com` (an R-LDH label), the empty name, the reserved
address `10.0.0.1` and `blocked.com`. -/
theorem WillingToIssue_subErrors_mixed :
    let pa : AuthorityImpl Empty :=
      (New (fun _ => true) (fun _ => true)).install ⟨["blocked.com".toList], [], [], []⟩
    let idents : List ACMEIdentifier := [⟨TypeDNS, "xy--a.com".toList⟩, ⟨TypeDNS, []⟩,
      ⟨TypeIP, "10.0.0.1".toList⟩, ⟨TypeDNS, "blocked.com".toList⟩]
    ∃ err, WillingToIssue ipLib pa idents = some err ∧
      let malformed := idents.filterMap (wellFormedSubError ipLib)
      let refused := idents.filterMap fun ident =>
        (willingToIssueCheck ipLib pa ident).map (subError ident)
      err.type = .RejectedIdentifier ∧
      malformed.map Prod.fst =
        idents.filter (fun ident => (wellFormedSubError ipLib ident).isSome) ∧
      refused.map Prod.fst =
        idents.filter (fun ident => (willingToIssueCheck ipLib pa ident).isSome) ∧
      ((WellFormedIdentifiers ipLib idents = some err ∧ malformed ≠ [] ∧
          err.subErrors = if 2 ≤ malformed.length then malformed else []) ∨
        (WellFormedIdentifiers ipLib idents = none ∧ malformed = [] ∧
          err.subErrors = (if 2 ≤ refused.length then refused else []) ∧
          ∀ s ∈ refused, s.2.type = .RejectedIdentifier)) := by
  intro pa idents
  obtain ⟨err, h⟩ : ∃ err, WillingToIssue ipLib pa idents = some err := ⟨_, rfl⟩
  exact ⟨err, h, WillingToIssue_subErrors ipLib pa idents err h⟩

/-- With `blocked.com` on the name blocklist, the empty name and `blocked.com` both offend, yet
the error carries no sub-error and is the error of the empty name alone; and when `xy--a.com`, malformed
by the R-LDH rule, comes first, the error reports only the malformed two, the first of them with
kind `RejectedIdentifier`. -/
theorem WillingToIssue_blocked_unreported :
    let pa : AuthorityImpl Empty :=
      (New (fun _ => true) (fun _ => true)).install ⟨["blocked.com".toList], [], [], []⟩
    willingToIssueCheck comLib pa ⟨TypeDNS, "blocked.com".toList⟩ = some errPolicyForbidden ∧
    (∃ err, WillingToIssue comLib pa [⟨TypeDNS, []⟩, ⟨TypeDNS, "blocked.com".toList⟩] = some err ∧
      err.subErrors = [] ∧ WillingToIssue comLib pa [⟨TypeDNS, []⟩] = some err) ∧
    ∃ err, WillingToIssue comLib pa
        [⟨TypeDNS, "xy--a.com".toList⟩, ⟨TypeDNS, []⟩, ⟨TypeDNS, "blocked.com".toList⟩] = some err ∧
      err.subErrors.map (fun s => (s.1, s.2.type)) =
        [(⟨TypeDNS, "xy--a.com".toList⟩, .RejectedIdentifier), (⟨TypeDNS, []⟩, .Malformed)] :=
  ⟨rfl, ⟨_, rfl, rfl, rfl⟩, _, rfl, rfl⟩

end Boulder
