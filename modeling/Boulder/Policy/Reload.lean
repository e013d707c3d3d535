import Boulder.Policy.Blocklist

/-!
# Policy reloads during a `WillingToIssue` call (`policy/pa.go`)

`processIdentPolicy` swaps the four tables of the PA under the write lock of `blocklistMu`,
and `checkWildcardBlocklist` and `checkBlocklists` each read them under its read lock.  No lock
is held across a `WillingToIssue` call, so reloads interleave with its checks.

## Model

* `CallState` — the program counter of a `WillingToIssue` call: called, at the top of the
  identifier loop, before `checkBlocklists` of an identifier, or returned;
* `callStep` — one step of the call, making at most one locked read of the tables:
  `WellFormedIdentifiers` (no read), the type test with `checkWildcardBlocklist`
  (`typeAndWildcardCheck`; the enabled types are never written after `New`), `checkBlocklists`,
  or the final `combineSubErrors`;
* `sysStep`, `sysRun` — the system of the PA and one call, stepping by `Event`s in any order:
  a reload (`processIdentPolicy`, atomic) or a step of the call.

Principal results: `sysRun_calls` — with no reload during the call it returns, after
`2 * len(idents) + 2` steps, `WillingToIssue` of the installed tables; `WillingToIssue_interleaved_none` — a call that
returns `nil` saw every identifier pass its wildcard-exact check against one policy installed
during the call and its blocklist check against the same or a later one;
`WillingToIssue_reload_between_checks` — and a reload between those two checks lets through a
wildcard that every policy installed during the call rejects.
-/

set_option autoImplicit false

namespace Boulder

/-- The program counter of a `WillingToIssue` call between two of its atomic steps. -/
inductive CallState where
  /-- Called, before `WellFormedIdentifiers`. -/
  | start (idents : List ACMEIdentifier)
  /-- At the top of the identifier loop: the identifiers left, the sub-errors so far. -/
  | loop (rest : List ACMEIdentifier) (subErrors : List SubBoulderError)
  /-- Before `checkBlocklists` of `ident`, whose type test and wildcard check passed. -/
  | blocklists (ident : ACMEIdentifier) (rest : List ACMEIdentifier)
      (subErrors : List SubBoulderError)
  /-- Returned. -/
  | done (result : Option BoulderError)

/-- What the system does next: a policy reload, or one step of the call. -/
inductive Event where
  | reload (policy : blockedIdentsPolicy)
  | call

variable {Addr Prefix : Type} (L : Lib Addr Prefix)

/-- One step of the call, against the tables installed at that moment. -/
def callStep (pa : AuthorityImpl Prefix) : CallState → CallState
  | .start idents =>
    match WellFormedIdentifiers L idents with
    | some err => .done (some err)
    | none => .loop idents []
  | .loop [] subErrors => .done (combineSubErrors subErrors)
  | .loop (ident :: rest) subErrors =>
    match typeAndWildcardCheck pa ident with
    | some err => .loop rest (subErrors ++ [subError ident err])
    | none => .blocklists ident rest subErrors
  | .blocklists ident rest subErrors =>
    match checkBlocklists L pa ident with
    | some err => .loop rest (subErrors ++ [subError ident err])
    | none => .loop rest subErrors
  | .done result => .done result

/-- One step of the system: a reload swaps the tables, a step of the call reads them. -/
def sysStep (s : AuthorityImpl Prefix × CallState) : Event → AuthorityImpl Prefix × CallState
  | .reload P => ((processIdentPolicy L s.1 P).1, s.2)
  | .call => (s.1, callStep L s.1 s.2)

/-- The system after an interleaving of reloads and steps of the call. -/
def sysRun (s : AuthorityImpl Prefix × CallState) (tr : List Event) :
    AuthorityImpl Prefix × CallState :=
  tr.foldl (sysStep L) s

/-- The policies reloaded in an interleaving, in order. -/
def reloads : List Event → List blockedIdentsPolicy
  | [] => []
  | .reload P :: tr => P :: reloads tr
  | .call :: tr => reloads tr

@[simp] theorem sysRun_nil (s : AuthorityImpl Prefix × CallState) : sysRun L s [] = s := rfl

@[simp] theorem sysRun_cons (s : AuthorityImpl Prefix × CallState) (e : Event) (tr : List Event) :
    sysRun L s (e :: tr) = sysRun L (sysStep L s e) tr := rfl

/-! ## A call with no reload -/

theorem sysRun_replicate_call (pa : AuthorityImpl Prefix) (cs : CallState) (n : Nat) :
    sysRun L (pa, cs) (List.replicate n .call) = (pa, (callStep L pa)^[n] cs) := by
  induction n generalizing cs with
  | zero => rfl
  | succ n ih => exact ih _

theorem callStep_iterate_done (pa : AuthorityImpl Prefix) (r : Option BoulderError) (n : Nat) :
    (callStep L pa)^[n] (.done r) = .done r :=
  Function.iterate_fixed rfl n

/-- The identifier loop, run with no reload, appends the sub-error of each identifier left. -/
theorem callStep_iterate_loop (pa : AuthorityImpl Prefix) (rest : List ACMEIdentifier) :
    ∀ (subErrors : List SubBoulderError) (n : Nat), 2 * rest.length + 1 ≤ n →
      (callStep L pa)^[n] (.loop rest subErrors) = .done (combineSubErrors (subErrors ++
        rest.filterMap fun ident => (willingToIssueCheck L pa ident).map (subError ident))) := by
  induction rest with
  | nil =>
    intro subErrors n hn
    obtain ⟨n, rfl⟩ : ∃ m, n = m + 1 := ⟨n - 1, by simp at hn; omega⟩
    simp [Function.iterate_succ_apply, callStep, callStep_iterate_done]
  | cons ident rest ih =>
    intro subErrors n hn
    simp only [List.length_cons] at hn
    obtain ⟨n, rfl⟩ : ∃ m, n = m + 1 := ⟨n - 1, by omega⟩
    rw [Function.iterate_succ_apply, List.filterMap_cons]
    cases h : typeAndWildcardCheck pa ident with
    | some err =>
      have hw : willingToIssueCheck L pa ident = some err := by simp [willingToIssueCheck, h]
      simp only [callStep, h, hw, Option.map_some']
      rw [ih _ n (by omega), List.append_assoc, List.singleton_append]
    | none =>
      obtain ⟨n, rfl⟩ : ∃ m, n = m + 1 := ⟨n - 1, by omega⟩
      have hw : willingToIssueCheck L pa ident = checkBlocklists L pa ident := by
        simp [willingToIssueCheck, h]
      rw [Function.iterate_succ_apply]
      simp only [callStep, h, hw]
      cases checkBlocklists L pa ident with
      | some err =>
        rw [Option.map_some', ih _ n (by omega), List.append_assoc, List.singleton_append]
      | none => exact ih _ n (by omega)

/-- **With no reload during the call, it is `WillingToIssue`**: after its `2 * len(idents) + 2`
steps the call has returned `WillingToIssue` of the installed tables. -/
theorem sysRun_calls (pa : AuthorityImpl Prefix) (idents : List ACMEIdentifier) (n : Nat)
    (hn : 2 * idents.length + 2 ≤ n) :
    sysRun L (pa, .start idents) (List.replicate n .call) =
      (pa, .done (WillingToIssue L pa idents)) := by
  obtain ⟨n, rfl⟩ : ∃ m, n = m + 1 := ⟨n - 1, by omega⟩
  rw [sysRun_replicate_call, Function.iterate_succ_apply]
  unfold WillingToIssue
  cases h : WellFormedIdentifiers L idents with
  | some err => simp [callStep, h, callStep_iterate_done]
  | none => simp [callStep, h, callStep_iterate_loop L pa idents [] n (by omega)]

/-- A call on one name returns after its four steps when no reload falls among them. -/
theorem sysRun_calls_example :
    sysRun comLib ((New (fun _ => true) fun _ => true : AuthorityImpl Empty),
      .start [⟨TypeDNS, "example.com".toList⟩]) (List.replicate 4 .call) =
      ((New (fun _ => true) fun _ => true : AuthorityImpl Empty),
        .done (WillingToIssue comLib (New (fun _ => true) fun _ => true)
          [⟨TypeDNS, "example.com".toList⟩])) :=
  sysRun_calls comLib _ _ 4 (by decide)

/-! ## What a call that returns `nil` saw -/

section Interleaved

variable (it : IdentifierType → Bool) (Ps : List blockedIdentsPolicy)

/-- `ident` passed its checks in a call made after the loads `Ps`, with the reloads `R` during
the call: its type is enabled, its wildcard-exact check passed against the policy installed
after some reloads `A` of the call, and its blocklist check against the policy installed after
`A ++ B`. -/
def PassedDuring (R : List blockedIdentsPolicy) (ident : ACMEIdentifier) : Prop :=
  it ident.type = true ∧ ∃ A B C, R = A ++ B ++ C ∧
    ¬ WildcardBlocked (lastLoaded L none (Ps ++ A)) ident ∧
    ¬ ListBlocked L (lastLoaded L none (Ps ++ A ++ B)) ident

/-- What the call `WillingToIssue(idents)` knows at each point, with the reloads `R` so far:
while no sub-error is recorded, every identifier it has finished passed its checks, and one
whose blocklist check is next passed its type test and wildcard-exact check. -/
def CallInv (idents : List ACMEIdentifier) (R : List blockedIdentsPolicy) : CallState → Prop
  | .start idents' => idents' = idents
  | .loop rest subErrors => WellFormedIdentifiers L idents = none ∧
      ∃ pre, idents = pre ++ rest ∧ (subErrors = [] → ∀ x ∈ pre, PassedDuring L it Ps R x)
  | .blocklists ident rest subErrors => WellFormedIdentifiers L idents = none ∧
      ∃ pre, idents = pre ++ ident :: rest ∧ (subErrors = [] →
        (∀ x ∈ pre, PassedDuring L it Ps R x) ∧ it ident.type = true ∧
        ∃ A C, R = A ++ C ∧ ¬ WildcardBlocked (lastLoaded L none (Ps ++ A)) ident)
  | .done result => result = none →
      WellFormedIdentifiers L idents = none ∧ ∀ x ∈ idents, PassedDuring L it Ps R x

variable {L}

theorem PassedDuring.reload {R : List blockedIdentsPolicy} {x : ACMEIdentifier}
    (h : PassedDuring L it Ps R x) (P : blockedIdentsPolicy) : PassedDuring L it Ps (R ++ [P]) x :=
  let ⟨he, A, B, C, hR, hw, hl⟩ := h
  ⟨he, A, B, C ++ [P], by simp [hR], hw, hl⟩

/-- A reload keeps what the call knows: it only adds a later policy. -/
theorem CallInv.reload {idents : List ACMEIdentifier} {R : List blockedIdentsPolicy}
    (P : blockedIdentsPolicy) : ∀ {cs : CallState}, CallInv L it Ps idents R cs →
      CallInv L it Ps idents (R ++ [P]) cs
  | .start _, h => h
  | .loop _ _, ⟨hw, pre, he, h⟩ => ⟨hw, pre, he, fun hs x hx => (h hs x hx).reload it Ps P⟩
  | .blocklists _ _ _, ⟨hw, pre, he, h⟩ => ⟨hw, pre, he, fun hs =>
      let ⟨hp, hen, A, C, hR, hwc⟩ := h hs
      ⟨fun x hx => (hp x hx).reload it Ps P, hen, A, C ++ [P], by simp [hR], hwc⟩⟩
  | .done _, h => fun hr =>
      let ⟨hw, hp⟩ := h hr
      ⟨hw, fun x hx => (hp x hx).reload it Ps P⟩

theorem wellFormedSubError_of_mem {idents : List ACMEIdentifier}
    (hw : WellFormedIdentifiers L idents = none) {x : ACMEIdentifier} (hx : x ∈ idents) :
    wellFormedSubError L x = none := by
  simp only [WellFormedIdentifiers, combineSubErrors_eq_none_iff, List.filterMap_eq_nil_iff] at hw
  exact hw x hx

/-- A step of the call keeps what it knows, the tables being those of the loads so far. -/
theorem CallInv.callStep {idents : List ACMEIdentifier} {R : List blockedIdentsPolicy}
    {pa : AuthorityImpl Prefix} (hi : Installed L pa (lastLoaded L none (Ps ++ R)))
    (hen : pa.enabledIdentifiers = it) :
    ∀ {cs : CallState}, CallInv L it Ps idents R cs → CallInv L it Ps idents R (callStep L pa cs)
  | .start _, rfl => by
    simp only [Boulder.callStep]
    split
    · exact fun h => by cases h
    · exact ⟨‹_›, [], rfl, fun _ x hx => by cases hx⟩
  | .loop [] subErrors, ⟨hw, pre, he, hp⟩ => fun hr => by
    rw [combineSubErrors_eq_none_iff] at hr
    exact ⟨hw, by simpa [he] using hp hr⟩
  | .loop (ident :: rest) subErrors, ⟨hw, pre, he, hp⟩ => by
    have hwf := wellFormedSubError_of_mem hw (x := ident) (by simp [he])
    simp only [Boulder.callStep]
    cases h : typeAndWildcardCheck pa ident with
    | some err => exact ⟨hw, pre ++ [ident], by simp [he], fun hs => by simp at hs⟩
    | none =>
      rw [typeAndWildcardCheck_eq_none_iff hi hwf, hen] at h
      exact ⟨hw, pre, he, fun hs => ⟨hp hs, h.1, R, [], by simp, by simpa using h.2⟩⟩
  | .blocklists ident rest subErrors, ⟨hw, pre, he, hp⟩ => by
    have hwf := wellFormedSubError_of_mem hw (x := ident) (by simp [he])
    simp only [Boulder.callStep]
    cases h : checkBlocklists L pa ident with
    | some err => exact ⟨hw, pre ++ [ident], by simp [he], fun hs => by simp at hs⟩
    | none =>
      rw [checkBlocklists_eq_none_iff hi hwf] at h
      refine ⟨hw, pre ++ [ident], by simp [he], fun hs => ?_⟩
      obtain ⟨hpre, hen', A, C, hR, hwc⟩ := hp hs
      simp only [List.mem_append, List.mem_singleton]
      rintro x (hx | rfl)
      · exact hpre x hx
      · exact ⟨hen', A, C, [], by simp [hR], hwc, by simpa [hR] using h⟩
  | .done _, h => h

/-- **What the call knows holds over every interleaving.** -/
theorem CallInv.sysRun (ct : AcmeChallenge → Bool) (idents : List ACMEIdentifier) :
    ∀ (tr : List Event) (R : List blockedIdentsPolicy) (cs : CallState),
      CallInv L it Ps idents R cs →
      CallInv L it Ps idents (R ++ reloads tr)
        (sysRun L (loadPolicies L (New it ct) (Ps ++ R), cs) tr).2
  | [], R, cs, h => by simpa [reloads] using h
  | .reload P :: tr, R, cs, h => by
    have := CallInv.sysRun ct idents tr (R ++ [P]) cs (h.reload it Ps P)
    simpa [sysStep, reloads, loadPolicies_append] using this
  | .call :: tr, R, cs, h => by
    have hi := loadPolicies_installed L (show Installed L (New it ct) none from
      ⟨rfl, rfl, rfl, rfl⟩) (Ps ++ R)
    exact CallInv.sysRun ct idents tr R _
      (h.callStep it Ps hi (loadPolicies_enabledIdentifiers L _ _))

/-- **A call that returns `nil` under reloads.**  Under every interleaving of a
`WillingToIssue(idents)` call, made after the loads `Ps` from `New`, with reloads, a call that
returns `nil` had a well-formed list, and every identifier had an enabled type, passed its
wildcard-exact check against the policy installed after some reloads `A` of the run, and passed
its blocklist check against the policy installed after `A ++ B`. -/
theorem WillingToIssue_interleaved_none (it : IdentifierType → Bool) (ct : AcmeChallenge → Bool)
    (Ps : List blockedIdentsPolicy) (idents : List ACMEIdentifier) (tr : List Event)
    (h : (sysRun L (loadPolicies L (New it ct) Ps, .start idents) tr).2 = .done none) :
    WellFormedIdentifiers L idents = none ∧
      ∀ ident ∈ idents, PassedDuring L it Ps (reloads tr) ident := by
  have := CallInv.sysRun (L := L) it Ps ct idents tr [] (.start idents) rfl
  rw [List.append_nil, List.nil_append, h] at this
  exact this rfl

/-- A wildcard call that returns `nil` with a reload between its wildcard-exact check and its
blocklist check: `other.com` is wildcard-exact before the reload, `example.com` after it. -/
theorem WillingToIssue_interleaved_none_wildcard :
    let V1 : blockedIdentsPolicy := ⟨["x.other.com".toList], ["example.com".toList], [], []⟩
    let V2 : blockedIdentsPolicy := ⟨["foo.example.com".toList], ["other2.com".toList], [], []⟩
    let idents : List ACMEIdentifier := [⟨TypeDNS, "*.example.com".toList⟩]
    WellFormedIdentifiers comLib idents = none ∧ ∀ ident ∈ idents,
      PassedDuring comLib (fun t => decide (t = TypeDNS)) [V1] [V2] ident :=
  WillingToIssue_interleaved_none (fun t => decide (t = TypeDNS)) (fun _ => true) _ _
    [.call, .call, .reload _, .call, .call] rfl

end Interleaved

/-- **A reload between the two checks of one identifier.**  With `V1` (the exact name
`x.other.com`, the high-risk name `example.com`) installed, a call on `*.example.com` passes its
wildcard-exact check; `V2` (the exact name `foo.example.com`, the high-risk name `other2.com`)
is then reloaded, and the call passes its blocklist check and returns `nil`.  Both policies
load through `LoadIdentPolicyFile`.  Yet `WillingToIssue` rejects `*.example.com` under `V1` and under `V2`, the
only policies installed during the call. -/
theorem WillingToIssue_reload_between_checks :
    let V1 : blockedIdentsPolicy := ⟨["x.other.com".toList], ["example.com".toList], [], []⟩
    let V2 : blockedIdentsPolicy := ⟨["foo.example.com".toList], ["other2.com".toList], [], []⟩
    let pa₀ : AuthorityImpl Empty := New (fun t => decide (t = TypeDNS)) fun _ => true
    let pa := loadPolicies comLib pa₀ [V1]
    let idents : List ACMEIdentifier := [⟨TypeDNS, "*.example.com".toList⟩]
    (LoadIdentPolicyFile comLib pa₀ V1).2 = none ∧ (LoadIdentPolicyFile comLib pa V2).2 = none ∧
    (sysRun comLib (pa, .start idents) [.call, .call, .reload V2, .call, .call]).2 =
        .done none ∧
      WillingToIssue comLib pa idents ≠ none ∧
      WillingToIssue comLib (loadPolicies comLib pa [V2]) idents ≠ none := by
  refine ⟨rfl, rfl, rfl, ?_, ?_⟩ <;> simp only [ne_eq, ← Option.isSome_iff_ne_none] <;> decide

end Boulder
