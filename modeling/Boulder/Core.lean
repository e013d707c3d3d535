import Boulder.GoStrings

/-!
# Identifiers, challenge types and the error taxonomy

* `ACMEIdentifier` — `identifier.ACMEIdentifier`: a type string and a value.  The type is a Go
  string type, so a caller may pass any text; only `"dns"` and `"ip"` are named by the package.
* `AcmeChallenge` — `core.AcmeChallenge`, also a string type.
* `BoulderError` — `berrors.BoulderError`: a kind, a detail and the per-identifier sub-errors,
  as the `berrors` code of the sources defines them (it stands in
  `observer/obsclient/obsclient.go`).  The kinds are those the modelled code raises, and
  `RetryAfter` is left out: no modelled function reads it.  A detail is kept as the format and
  the arguments handed to `fmt.Sprintf`, not as rendered text.
* `GoError` — a Go `error`: a `*BoulderError`, or an error of another dynamic type
  (`fmt.Errorf`, `errors.New`, library errors), which `errors.As` does not unwrap.
-/

set_option autoImplicit false

namespace Boulder

/-- `identifier.IdentifierType`. -/
abbrev IdentifierType := String

/-- `identifier.TypeDNS`. -/
def TypeDNS : IdentifierType := "dns"

/-- `identifier.TypeIP`. -/
def TypeIP : IdentifierType := "ip"

theorem TypeDNS_ne_TypeIP : TypeDNS ≠ TypeIP := by decide

/-- `identifier.ACMEIdentifier`. -/
structure ACMEIdentifier where
  type : IdentifierType
  value : GoString
  deriving DecidableEq, Repr

/-- `core.AcmeChallenge`. -/
abbrev AcmeChallenge := String

/-- A `fmt.Sprintf` result, kept as its format and arguments. -/
inductive Msg where
  | text (s : String)
  | sprintf (format : String) (args : List Msg)
  deriving Repr

/-- A `%q` or `%s` argument holding a Go string. -/
def Msg.str (s : GoString) : Msg := .text (String.mk s)

/-- `berrors.ErrorType`, restricted to the kinds raised by the modelled code. -/
inductive ErrorType where
  | InternalServer
  | Malformed
  | RejectedIdentifier
  deriving DecidableEq, Repr

/-- `berrors.BoulderError` without `RetryAfter` (`berrors.SubBoulderError` is the pair of an
identifier and an error). -/
structure BoulderError where
  type : ErrorType
  detail : Msg
  subErrors : List (ACMEIdentifier × BoulderError)
  deriving Repr

/-- `berrors.SubBoulderError`. -/
abbrev SubBoulderError := ACMEIdentifier × BoulderError

/-- `berrors.MalformedError`. -/
def MalformedError (detail : Msg) : BoulderError := ⟨.Malformed, detail, []⟩

/-- `berrors.RejectedIdentifierError`. -/
def RejectedIdentifierError (detail : Msg) : BoulderError := ⟨.RejectedIdentifier, detail, []⟩

/-- `berrors.InternalServerError`. -/
def InternalServerError (detail : Msg) : BoulderError := ⟨.InternalServer, detail, []⟩

/-- `(*BoulderError).WithSubErrors`: the sub-errors appended to the error's own. -/
def BoulderError.WithSubErrors (e : BoulderError) (subErrs : List SubBoulderError) :
    BoulderError :=
  { e with subErrors := e.subErrors ++ subErrs }

/-- A Go `error` value. -/
inductive GoError where
  | boulder (e : BoulderError)
  | other (msg : Msg)
  deriving Repr

/-- `err.Error()` of an error that is not a `*BoulderError`, or the detail of one that is. -/
def GoError.detail : GoError → Msg
  | .boulder e => e.detail
  | .other m => m

/-- `subError`: a `*BoulderError` is kept, any other error becomes `RejectedIdentifier`. -/
def subError (ident : ACMEIdentifier) : GoError → SubBoulderError
  | .boulder e => (ident, e)
  | .other m => (ident, ⟨.RejectedIdentifier, m, []⟩)

/-- A check that returns an error when its condition holds passes iff the condition fails and
the checks after it pass. -/
@[simp] theorem ite_some_eq_none {α : Type} {c : Prop} [Decidable c] {a : α} {x : Option α} :
    ((if c then some a else x) = none) ↔ ¬c ∧ x = none := by
  split <;> simp_all

@[simp] theorem subError_fst (ident : ACMEIdentifier) (e : GoError) :
    (subError ident e).1 = ident := by
  cases e <;> rfl


/-! ## Loops over lists -/

section Loops

variable {α β ε ε' : Type}

/-- A loop that appends each converted element and stops at the first error is `mapM`. -/
theorem foldlM_append_eq_mapM (f : α → Except ε β) :
    ∀ (l : List α) (acc : List β),
      l.foldlM (fun acc a => (acc ++ [·]) <$> f a) acc = (acc ++ ·) <$> l.mapM f
  | [], acc => by rw [List.foldlM_nil, List.mapM_nil, map_pure, List.append_nil]
  | a :: l, acc => by
    rw [List.foldlM_cons, List.mapM_cons]
    cases f a with
    | error e => rfl
    | ok b =>
      show l.foldlM _ (acc ++ [b]) = _
      rw [foldlM_append_eq_mapM f l]
      cases l.mapM f <;> simp [Functor.map, Except.map, bind, Except.bind, pure, Except.pure]

theorem foldlM_append_nil_eq_mapM (f : α → Except ε β) (l : List α) :
    l.foldlM (fun acc a => (acc ++ [·]) <$> f a) [] = l.mapM f := by
  rw [foldlM_append_eq_mapM]
  exact id_map _

theorem mapM_cons_eq_ok {f : α → Except ε β} {a : α} {l : List α} {l' : List β} :
    (a :: l).mapM f = .ok l' ↔ ∃ b bs, f a = .ok b ∧ l.mapM f = .ok bs ∧ l' = b :: bs := by
  rw [List.mapM_cons]
  cases f a <;> cases l.mapM f <;> simp [bind, Except.bind, pure, Except.pure, eq_comm]

/-- A conversion that succeeds on every element succeeds on the list, with the results in
order. -/
theorem mapM_eq_ok_filterMap {f : α → Except ε β} :
    ∀ {l : List α}, (∀ a ∈ l, ∃ b, f a = .ok b) → l.mapM f = .ok (l.filterMap fun a => (f a).toOption)
  | [], _ => rfl
  | a :: l, h => by
    obtain ⟨b, hb⟩ := h a (List.mem_cons_self _ _)
    rw [mapM_cons_eq_ok]
    exact ⟨b, _, hb, mapM_eq_ok_filterMap fun a' ha' => h a' (List.mem_cons_of_mem _ ha'),
      by simp [hb, Except.toOption]⟩

/-- Two conversions that are inverse element by element are inverse on lists. -/
theorem mapM_eq_ok_iff_of_inverse {f : α → Except ε β} {g : β → Except ε' α}
    (h : ∀ a b, f a = .ok b ↔ g b = .ok a) :
    ∀ (l : List α) (l' : List β), l.mapM f = .ok l' ↔ l'.mapM g = .ok l
  | [], [] => iff_of_true rfl rfl
  | [], _ :: _ => by
    rw [List.mapM_nil, mapM_cons_eq_ok]
    exact iff_of_false (by simp [pure, Except.pure]) (by rintro ⟨_, _, _, _, ⟨⟩⟩)
  | _ :: _, [] => by
    rw [List.mapM_nil, mapM_cons_eq_ok]
    exact iff_of_false (by rintro ⟨_, _, _, _, ⟨⟩⟩) (by simp [pure, Except.pure])
  | a :: l, b :: l' => by
    rw [mapM_cons_eq_ok, mapM_cons_eq_ok]
    constructor
    · rintro ⟨b, bs, hb, hl, ⟨⟩⟩
      exact ⟨a, l, (h a b).1 hb, (mapM_eq_ok_iff_of_inverse h l l').1 hl, rfl⟩
    · rintro ⟨a', as, ha, hl, ⟨⟩⟩
      exact ⟨b, l', (h a b).2 ha, (mapM_eq_ok_iff_of_inverse h l l').2 hl, rfl⟩

/-- Two conversions inverse on every element of a list are inverse on the list. -/
theorem mapM_roundtrip {f : α → Except ε β} {g : β → Except ε' α} :
    ∀ {l : List α}, (∀ a ∈ l, ∃ b, f a = .ok b ∧ g b = .ok a) →
      ∃ l', l.mapM f = .ok l' ∧ l'.mapM g = .ok l
  | [], _ => ⟨[], rfl, rfl⟩
  | a :: l, h => by
    obtain ⟨b, hf, hg⟩ := h a (List.mem_cons_self _ _)
    obtain ⟨l', hl, hl'⟩ := mapM_roundtrip fun a' ha' => h a' (List.mem_cons_of_mem _ ha')
    exact ⟨b :: l', mapM_cons_eq_ok.2 ⟨b, l', hf, hl, rfl⟩, mapM_cons_eq_ok.2 ⟨a, l, hg, hl', rfl⟩⟩

/-- A loop whose every turn keeps the accumulator returns it. -/
theorem foldlM_eq_pure {f : β → α → Except ε β} :
    ∀ {l : List α}, (∀ x ∈ l, ∀ acc, f acc x = pure acc) → ∀ acc, l.foldlM f acc = pure acc
  | [], _, _ => rfl
  | x :: l, h, acc => by
    rw [List.foldlM_cons, h x (List.mem_cons_self _ _)]
    exact foldlM_eq_pure (fun y hy => h y (List.mem_cons_of_mem _ hy)) acc

/-- A loop in which only the turn at the one occurrence of `k` does anything is that turn. -/
theorem foldlM_eq_of_count_one [DecidableEq α] {f : β → α → Except ε β} {k : α} :
    ∀ {l : List α}, l.count k = 1 → (∀ x ∈ l, x ≠ k → ∀ acc, f acc x = pure acc) →
      ∀ acc, l.foldlM f acc = f acc k
  | [], h, _, _ => nomatch h
  | x :: l, h, hf, acc => by
    rw [List.foldlM_cons]
    by_cases hx : x = k
    · subst hx
      have hl : ∀ y ∈ l, ∀ acc, f acc y = pure acc := fun y hy =>
        hf y (List.mem_cons_of_mem _ hy) fun e => by
          rw [List.count_cons_self] at h
          exact List.count_eq_zero.1 (by omega) (e ▸ hy)
      cases f acc x with
      | error e => rfl
      | ok b => exact foldlM_eq_pure hl b
    · rw [hf x (List.mem_cons_self _ _) hx]
      rw [List.count_cons_of_ne (Ne.symm hx)] at h
      exact foldlM_eq_of_count_one h (fun y hy => hf y (List.mem_cons_of_mem _ hy)) acc

end Loops

end Boulder
