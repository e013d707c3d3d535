import Boulder.Core
import Boulder.GoInts

/-!
# Rate limits and their precomputed intervals (`ratelimits`)

* `Int64.div` — Go's `int64` division, which panics on a zero divisor and otherwise truncates
  (the wrapping multiplication is `SInt.mul`);
* `Limit` — a limit with its precomputed `emissionInterval` and `burstOffset`;
* `precompute` — `emissionInterval = Period.Nanoseconds() / Count` and
  `burstOffset = emissionInterval * Burst`, in `int64`;
* `ValidateLimit` — `Burst`, `Count` and the period must be positive.

A Go call that returns `(T, error)` is an `Except Abort T`: it returns a value, or an error, or
it panics.

Principal result: `precompute_of_ValidateLimit` — for every limit that `ValidateLimit` accepts,
`precompute` does not panic, the emission interval is `⌊Period / Count⌋`, at least `1` exactly
when `Count ≤ Period`, and the burst offset is the product wrapped to `int64`, exact exactly when
the product is below `2^63`.
-/

set_option autoImplicit false

namespace Boulder

/-- How a Go call can end without a value: it returns an error, or a run-time panic unwinds
it. -/
inductive Abort where
  | error (e : GoError)
  | panic (msg : String)

/-- The panic of an integer division by zero. -/
def errDivideByZero : Abort := .panic "runtime error: integer divide by zero"

/-- The panic of a `nil` pointer dereference. -/
def errNilDereference : Abort := .panic "runtime error: invalid memory address or nil pointer dereference"

/-- `a / b` on `int64`: Go panics on a zero divisor; otherwise the quotient truncated toward
zero, wrapped (only `MinInt64 / -1` wraps). -/
def Int64.div (a b : Int64) : Except Abort Int64 :=
  if b.val = 0 then .error errDivideByZero else .ok (SInt.wrap (a.val.tdiv b.val))

/-- `config.Duration`: a `time.Duration`, a count of nanoseconds. -/
structure Duration where
  Duration : Int64

/-- `Duration.Nanoseconds`. -/
def Duration.Nanoseconds (d : Boulder.Duration) : Int64 := d.Duration

/-! ## The text of a duration -/

/-- The loop of `fmtFrac` over the `prec` low decimal digits of `v`, from the right: the digits
printed so far (none before the first non-zero one), whether one was printed, and what is left
of `v`. -/
def fmtFrac.loop : Nat → Nat → Bool → GoString → GoString × Bool × Nat
  | 0, v, print, buf => (buf, print, v)
  | prec + 1, v, print, buf =>
    let digit := v % 10
    let print := print || digit != 0
    fmtFrac.loop prec (v / 10) print
      (if print then Char.ofNat (digit + '0'.toNat) :: buf else buf)

/-- `fmtFrac`: the fraction `.ddd` of `v / 10^prec` without its trailing zeros (and without the
point when it is zero), and `v / 10^prec`. -/
def fmtFrac (v prec : Nat) : GoString × Nat :=
  match fmtFrac.loop prec v false [] with
  | (buf, print, v) => (if print then '.' :: buf else buf, v)

/-- `fmtInt`: the decimal digits of `v`, `0` for zero. -/
def fmtInt (v : Nat) : GoString := Nat.toDigits 10 v

/-- `String` of the `time.Duration` a `config.Duration` embeds: `0s`; below a second, one unit
of `ns`, `µs` (the two bytes of U+00B5) or `ms` with a fraction; otherwise hours, minutes and
seconds with a fraction, the leading zero units left out; `-` before a negative duration. -/
def Duration.String (d : Boulder.Duration) : GoString :=
  let u := d.Duration.val.natAbs
  let body : GoString :=
    if u = 0 then ['0', 's']
    else if u < 1000000000 then
      let (prec, unit) : Nat × GoString :=
        if u < 1000 then (0, ['n', 's'])
        else if u < 1000000 then (3, ['\xC2', '\xB5', 's'])
        else (6, ['m', 's'])
      let (frac, v) := fmtFrac u prec
      fmtInt v ++ frac ++ unit
    else
      let (frac, u) := fmtFrac u 9
      let secs := fmtInt (u % 60) ++ frac ++ ['s']
      let u := u / 60
      if u = 0 then secs
      else
        let mins := fmtInt (u % 60) ++ 'm' :: secs
        let u := u / 60
        if u = 0 then mins else fmtInt u ++ 'h' :: mins
  if d.Duration.val < 0 then '-' :: body else body

example : Duration.String ⟨10000000000⟩ = "10s".toList ∧
    Duration.String ⟨5400000000000⟩ = "1h30m0s".toList ∧
    Duration.String ⟨1500000⟩ = "1.5ms".toList ∧
    Duration.String ⟨SInt.wrap (-2000)⟩ = ['-', '2', '\xC2', '\xB5', 's'] := by decide

/-- `Limit`: a limit, with the intervals `precompute` fills in. -/
structure Limit (Name : Type) where
  Burst : Int64
  Count : Int64
  Period : Duration
  Name : Name
  Comment : GoString
  emissionInterval : Int64
  burstOffset : Int64
  isOverride : Bool

variable {Name : Type}

/-- `precompute`. -/
def Limit.precompute (l : Limit Name) : Except Abort (Limit Name) := do
  let emissionInterval ← l.Period.Nanoseconds.div l.Count
  return { l with emissionInterval := emissionInterval,
                  burstOffset := emissionInterval.mul l.Burst }

/-- One check of `ValidateLimit`: the error of a field that is not positive. -/
def positiveCheck (v : Int64) (format : String) (arg : Msg) : Option GoError :=
  if v.val ≤ 0 then some (.other (.sprintf format [arg])) else none

/-- `ValidateLimit`; `DurationString` renders a period for `%s`. -/
def ValidateLimit (DurationString : Duration → String) (l : Limit Name) : Option GoError :=
  (positiveCheck l.Burst "invalid burst '%d', must be > 0" (.text (toString l.Burst.val))).or <|
  (positiveCheck l.Count "invalid count '%d', must be > 0" (.text (toString l.Count.val))).or <|
  positiveCheck l.Period.Duration "invalid period '%s', must be > 0"
    (.text (DurationString l.Period))

theorem positiveCheck_eq_none {v : Int64} {format : String} {arg : Msg} :
    positiveCheck v format arg = none ↔ 0 < v.val := by
  unfold positiveCheck
  split <;> simp <;> omega

/-- `ValidateLimit` accepts exactly the limits whose burst, count and period are positive. -/
theorem ValidateLimit_eq_none {DurationString : Duration → String} {l : Limit Name} :
    ValidateLimit DurationString l = none ↔
      0 < l.Burst.val ∧ 0 < l.Count.val ∧ 0 < l.Period.Duration.val := by
  simp [ValidateLimit, positiveCheck_eq_none]

/-- `precompute` panics exactly on a zero count. -/
theorem precompute_eq (l : Limit Name) :
    l.precompute = if l.Count.val = 0 then .error errDivideByZero
      else .ok { l with
        emissionInterval := SInt.wrap (l.Period.Duration.val.tdiv l.Count.val),
        burstOffset := (SInt.wrap (l.Period.Duration.val.tdiv l.Count.val)).mul l.Burst } := by
  unfold Limit.precompute Int64.div Duration.Nanoseconds
  split <;> rfl

/-- The call returned, with a value or an error: it did not panic. -/
def Returns {α : Type} : Except Abort α → Prop
  | .ok _ => True
  | .error (.error _) => True
  | .error (.panic _) => False

theorem Returns_bind {α β : Type} {x : Except Abort α} {f : α → Except Abort β}
    (hx : Returns x) (hf : ∀ a, x = .ok a → Returns (f a)) : Returns (x >>= f) := by
  match x, hx with
  | .ok a, _ => exact hf a rfl
  | .error (.error _), _ => trivial

theorem Returns_map {α β : Type} {x : Except Abort α} (f : α → β) (hx : Returns x) :
    Returns (x.map f) := by
  match x, hx with
  | .ok a, _ => trivial
  | .error (.error _), _ => trivial

theorem except_map_eq_ok {ε α β : Type} {f : α → β} {x : Except ε α} {b : β}
    (h : x.map f = .ok b) : ∃ a, x = .ok a ∧ f a = b := by
  cases x with
  | error => cases h
  | ok a => exact ⟨a, rfl, by cases h; rfl⟩

theorem except_bind_eq_ok {ε α β : Type} {x : Except ε α} {f : α → Except ε β} {b : β}
    (h : x >>= f = .ok b) : ∃ a, x = .ok a ∧ f a = .ok b := by
  cases x with
  | error => cases h
  | ok a => exact ⟨a, rfl, h⟩

theorem Returns_foldlM {α β : Type} {f : β → α → Except Abort β} :
    ∀ {l : List α} (b : β), (∀ b, ∀ a ∈ l, Returns (f b a)) → Returns (l.foldlM f b)
  | [], _, _ => trivial
  | a :: _, b, h => Returns_bind (h b a (List.mem_cons_self _ _)) fun b' _ =>
      Returns_foldlM b' fun b a' ha' => h b a' (List.mem_cons_of_mem _ ha')

/-- `precompute` panics only on a zero count. -/
theorem precompute_returns {l : Limit Name} (h : l.Count.val ≠ 0) : Returns l.precompute := by
  rw [precompute_eq, if_neg h]
  trivial

/-- With a positive period and count, Go's quotient is the floor quotient, and it fits. -/
theorem wrap_tdiv_val {p c : Int64} (hp : 0 < p.val) (hc : 0 < c.val) :
    (SInt.wrap (p.val.tdiv c.val) : Int64).val = p.val / c.val := by
  have h0 : 0 ≤ p.val / c.val := Int.ediv_nonneg (Int.le_of_lt hp) (Int.le_of_lt hc)
  have hle : p.val / c.val ≤ p.val := Int.ediv_le_self _ (Int.le_of_lt hp)
  rw [Int.tdiv_eq_ediv (Int.le_of_lt hp) (Int.le_of_lt hc)]
  exact SInt.wrap_val (by omega) (by have := p.lt; omega)

/-- **`precompute` on a valid limit.**  For every limit that `ValidateLimit` accepts,
`precompute` sets the emission interval to `⌊Period / Count⌋`, which is at least `1` iff
`Count ≤ Period`, and the burst offset to the product of the interval and the burst wrapped to
`int64`, which is the product iff the product is below `2^63`. -/
theorem precompute_of_ValidateLimit (DurationString : Duration → String) (l : Limit Name)
    (h : ValidateLimit DurationString l = none) :
    ∃ ei bo : Int64,
      l.precompute = .ok { l with emissionInterval := ei, burstOffset := bo } ∧
      ei.val = l.Period.Duration.val / l.Count.val ∧
      (1 ≤ ei.val ↔ l.Count.val ≤ l.Period.Duration.val) ∧
      bo.val = (SInt.wrap (ei.val * l.Burst.val) : Int64).val ∧
      (bo.val = ei.val * l.Burst.val ↔ ei.val * l.Burst.val < 2^63) := by
  obtain ⟨hb, hc, hp⟩ := ValidateLimit_eq_none.1 h
  have hei := wrap_tdiv_val hp hc
  have h0 : 0 ≤ l.Period.Duration.val / l.Count.val := Int.ediv_nonneg (Int.le_of_lt hp) (Int.le_of_lt hc)
  rw [precompute_eq, if_neg (Int.ne_of_gt hc)]
  refine ⟨_, _, rfl, hei, ?_, rfl, ?_⟩
  · rw [hei, Int.le_ediv_iff_mul_le hc, Int.one_mul]
  · rw [SInt.mul, hei]
    exact SInt.wrap_val_eq_iff (Int.mul_nonneg h0 (Int.le_of_lt hb))

/-- A limit of 20 requests per second with a burst of 20. -/
theorem precompute_of_ValidateLimit_perSecond :
    let l : Limit Unit := ⟨20, 20, ⟨1000000000⟩, (), [], 0, 0, false⟩
    ∃ ei bo : Int64,
      l.precompute = .ok { l with emissionInterval := ei, burstOffset := bo } ∧
      ei.val = l.Period.Duration.val / l.Count.val ∧
      (1 ≤ ei.val ↔ l.Count.val ≤ l.Period.Duration.val) ∧
      bo.val = (SInt.wrap (ei.val * l.Burst.val) : Int64).val ∧
      (bo.val = ei.val * l.Burst.val ↔ ei.val * l.Burst.val < 2^63) :=
  precompute_of_ValidateLimit (fun _ => "") _ rfl

/-- Two limits that `ValidateLimit` accepts: with 2 requests per nanosecond the emission interval
is `0`, and with a period of `2^62` ns, a count of 1 and a burst of 2 the burst offset wraps to
`-2^63`. -/
theorem precompute_degenerate :
    let tooFast : Limit Unit := ⟨1, 2, ⟨1⟩, (), [], 0, 0, false⟩
    let tooLong : Limit Unit := ⟨2, 1, ⟨4611686018427387904⟩, (), [], 0, 0, false⟩
    ValidateLimit (fun _ => "") tooFast = none ∧
      tooFast.precompute.map (·.emissionInterval.val) = .ok 0 ∧
    ValidateLimit (fun _ => "") tooLong = none ∧
      tooLong.precompute.map (fun l => (l.emissionInterval.val, l.burstOffset.val)) =
        .ok (2^62, -2^63) :=
  ⟨rfl, rfl, rfl, rfl⟩

/-! ## Limits ready for use -/

/-- A limit as the registry stores it: burst, count and period positive, and the intervals
`precompute` derives from them. -/
structure Limit.Ready (l : Limit Name) : Prop where
  burst_pos : 0 < l.Burst.val
  count_pos : 0 < l.Count.val
  period_pos : 0 < l.Period.Duration.val
  emissionInterval_eq : l.emissionInterval.val = l.Period.Duration.val / l.Count.val
  burstOffset_eq : l.burstOffset = l.emissionInterval.mul l.Burst

/-- `precompute` keeps what `ValidateLimit` reads. -/
theorem ValidateLimit_precompute {DurationString : Duration → String} {l l' : Limit Name}
    (hp : l.precompute = .ok l') : ValidateLimit DurationString l' = ValidateLimit DurationString l := by
  rw [precompute_eq] at hp
  split at hp <;> cases hp
  rfl

/-- A limit that `ValidateLimit` accepts is ready once precomputed. -/
theorem precompute_ready {DurationString : Duration → String} {l l' : Limit Name}
    (hv : ValidateLimit DurationString l = none) (hp : l.precompute = .ok l') : l'.Ready := by
  obtain ⟨hb, hc, hper⟩ := ValidateLimit_eq_none.1 hv
  rw [precompute_eq, if_neg (Int.ne_of_gt hc)] at hp
  cases hp
  exact ⟨hb, hc, hper, wrap_tdiv_val hper hc, rfl⟩

end Boulder
