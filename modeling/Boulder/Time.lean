import Boulder.GoInts

/-!
# Times and timestamps (`time`, `timestamppb`)

A `time.Time` is modelled as `Unix()` and `Nanosecond()` read it, for a time with no monotonic
clock reading (the storage authority's times come from protobuf timestamps and the database):

* `Time.Unix` — `time.Unix(sec, nsec)`, which carries nanoseconds outside a second into the
  seconds;
* `Time.Add` — `t.Add(d)`, which carries the nanoseconds and then adds the seconds to the
  internal count, saturating instead of wrapping;
* `Timestamp.New` and `Timestamp.AsTime` — the conversions of `timestamppb`;
* `Durationpb.New` and `Durationpb.AsDuration` — the conversions of `durationpb` between a
  `time.Duration` (nanoseconds in `int64`) and seconds with nanoseconds, transcribed from the
  protobuf library: `AsDuration` returns the nearest end of the `int64` range where a step
  overflows.

Principal results: `Timestamp.AsTime_New` — a time survives the round trip through a
timestamp — and `Timestamp.New_AsTime` — a timestamp whose nanoseconds are in `[0, 1e9)`
survives the round trip through a time; `Durationpb.AsDuration_New` — every duration survives
the round trip through `durationpb` — and `Durationpb.New_AsDuration_iff` — a `durationpb`
value survives the round trip through a duration iff it is `Normal`: nanoseconds within a
second and of the sign of the seconds, and a total within `int64`.
-/

set_option autoImplicit false

namespace Boulder

/-- A `time.Time` as `Unix()` and `Nanosecond()` read it: the seconds since the epoch and the
nanoseconds within the second. -/
@[ext]
structure Time where
  sec : Int64
  nsec : Nat
  nsec_lt : nsec < 1000000000

/-- `time.Unix(sec, nsec)`: nanoseconds outside `[0, 1e9)` are carried into the seconds,
rounding down; the seconds wrap in `int64`. -/
def Time.Unix (sec : Int64) (nsec : Int) : Time :=
  ⟨SInt.wrap (sec.val + nsec / 1000000000), (nsec % 1000000000).toNat, by omega⟩

/-- `unixToInternal`: the seconds from January 1 of year 1 to the Unix epoch. -/
def unixToInternal : Int := 62135596800

/-- `t.Add(d)` for a time with no monotonic clock reading.  The nanoseconds `d % 1e9` are added
within the second with a carry of `-1`, `0` or `1` into the seconds; `addSec` adds the seconds to
the internal count `ext = Unix() + unixToInternal`, which saturates at `±(2^63 - 1)` where the
sum would wrap. -/
def Time.Add (t : Time) (d : Int64) : Time :=
  let nsec : Int := t.nsec + d.val.tmod 1000000000
  let dsec : Int := d.val.tdiv 1000000000 + nsec / 1000000000
  let ext : Int64 := SInt.wrap (t.sec.val + unixToInternal)
  let sum : Int64 := SInt.wrap (ext.val + dsec)
  let ext' : Int :=
    if (ext.val < sum.val ↔ 0 < dsec) then sum.val
    else if 0 < dsec then 2^63 - 1 else -(2^63 - 1)
  ⟨SInt.wrap (ext' - unixToInternal), (nsec % 1000000000).toNat, by omega⟩

/-- The instant of a time, in nanoseconds since the epoch: the database compares times by it. -/
def Time.toNanos (t : Time) : Int := t.sec.val * 1000000000 + t.nsec

/-- A second after a time far from the ends of the range is a second later. -/
example : (Time.Add ⟨1700000000, 5, by decide⟩ 1000000000).toNanos =
    (⟨1700000000, 5, by decide⟩ : Time).toNanos + 1000000000 := rfl

/-- `t.IsZero()`: the zero `time.Time`, January 1 of year 1, 00:00:00 UTC, whose internal
seconds are `0`. -/
def Time.IsZero (t : Time) : Bool := decide (t.sec.val = -unixToInternal ∧ t.nsec = 0)

/-- The zero `time.Time`, `time.Time{}`. -/
def Time.zero : Time := ⟨SInt.wrap (-unixToInternal), 0, by decide⟩

/-- The zero time is the only time `IsZero` accepts. -/
theorem Time.IsZero_iff (t : Time) : t.IsZero = true ↔ t = Time.zero := by
  constructor
  · intro h
    obtain ⟨hs, hn⟩ := of_decide_eq_true h
    exact Time.ext (SInt.ext (by rw [hs]; rfl)) hn
  · rintro rfl
    rfl

/-- `timestamppb.Timestamp`. -/
structure Timestamp where
  Seconds : Int64
  Nanos : Int32

/-- `(*Timestamp).AsTime`: `time.Unix(int64(x.GetSeconds()), int64(x.GetNanos())).UTC()`. -/
def Timestamp.AsTime (x : Timestamp) : Time := Time.Unix x.Seconds x.Nanos.val

/-- `timestamppb.New(t)`: `&Timestamp{Seconds: t.Unix(), Nanos: int32(t.Nanosecond())}`. -/
def Timestamp.New (t : Time) : Timestamp := ⟨t.sec, SInt.wrap t.nsec⟩

/-- A time survives the round trip through a timestamp. -/
@[simp]
theorem Timestamp.AsTime_New (t : Time) : (Timestamp.New t).AsTime = t := by
  have h := t.nsec_lt
  have hn : ((SInt.wrap t.nsec : Int32).val) = t.nsec := SInt.wrap_val (by omega) (by omega)
  have hq : (t.nsec : Int) / 1000000000 = 0 := Int.ediv_eq_zero_of_lt (by omega) (by omega)
  refine Time.ext ?_ ?_
  · simp only [AsTime, New, Time.Unix, hn, hq, Int.add_zero, SInt.wrap_self]
  · simp only [AsTime, New, Time.Unix, hn]
    omega

/-- A timestamp whose nanoseconds are in `[0, 1e9)` survives the round trip through a time. -/
theorem Timestamp.New_AsTime (x : Timestamp) (h0 : 0 ≤ x.Nanos.val)
    (h1 : x.Nanos.val < 1000000000) : Timestamp.New x.AsTime = x := by
  have hq : x.Nanos.val / 1000000000 = 0 := Int.ediv_eq_zero_of_lt h0 h1
  have hr : ((x.Nanos.val % 1000000000).toNat : Int) = x.Nanos.val := by omega
  cases x
  simp only [New, AsTime, Time.Unix, hq, Int.add_zero, SInt.wrap_self, hr, Timestamp.mk.injEq,
    true_and] at *

/-! ## `durationpb` -/

/-- `durationpb.Duration`. -/
structure Durationpb where
  Seconds : Int64
  Nanos : Int32

/-- `durationpb.New(d)`: `nanos := d.Nanoseconds(); secs := nanos / 1e9; nanos -= secs * 1e9`,
then `Seconds: int64(secs), Nanos: int32(nanos)`. -/
def Durationpb.New (d : Int64) : Durationpb :=
  let secs : Int64 := SInt.wrap (d.val.tdiv 1000000000)
  let nanos : Int64 := SInt.wrap (d.val - (SInt.wrap (secs.val * 1000000000) : Int64).val)
  ⟨secs, SInt.wrap nanos.val⟩

/-- `(*Duration).AsDuration`: `Seconds * 1e9 + Nanos` in `int64`, with the overflow tests of the
library. -/
def Durationpb.AsDuration (x : Durationpb) : Int64 :=
  let secs := x.Seconds.val
  let nanos := x.Nanos.val
  let d : Int64 := SInt.wrap (secs * 1000000000)
  let overflow := d.val.tdiv 1000000000 != secs
  let d : Int64 := SInt.wrap (d.val + nanos)
  let overflow := overflow || (secs < 0 && nanos < 0 && 0 < d.val)
  let overflow := overflow || (0 < secs && 0 < nanos && d.val < 0)
  if overflow then
    if secs < 0 then SInt.wrap (-2^63) else if 0 < secs then SInt.wrap (2^63 - 1) else d
  else d

/-- The nanoseconds a `durationpb` value stands for. -/
def Durationpb.toNanos (x : Durationpb) : Int := x.Seconds.val * 1000000000 + x.Nanos.val

/-- The values `New` builds: nanoseconds within a second and of the sign of the seconds, and a
total within `int64`. -/
def Durationpb.Normal (x : Durationpb) : Prop :=
  -1000000000 < x.Nanos.val ∧ x.Nanos.val < 1000000000 ∧
    (0 < x.Seconds.val → 0 ≤ x.Nanos.val) ∧ (x.Seconds.val < 0 → x.Nanos.val ≤ 0) ∧
    -2^63 ≤ x.toNanos ∧ x.toNanos < 2^63

instance (x : Durationpb) : Decidable x.Normal := by
  unfold Durationpb.Normal
  infer_instance

/-- Go's `/` by `1e9`, which truncates, in terms of the floor division `omega` reads. -/
theorem tdiv_billion (x : Int) :
    x.tdiv 1000000000 = if 0 ≤ x then x / 1000000000 else -((-x) / 1000000000) := by
  split
  · exact Int.tdiv_eq_ediv ‹_› (by decide)
  · rw [← Int.neg_neg x, Int.neg_tdiv, Int.tdiv_eq_ediv (by omega) (by decide), Int.neg_neg]

/-- `New` stores the truncated quotient and the remainder: no step wraps. -/
theorem Durationpb.New_spec (d : Int64) :
    (Durationpb.New d).Seconds.val = d.val.tdiv 1000000000 ∧
      (Durationpb.New d).Nanos.val = d.val - d.val.tdiv 1000000000 * 1000000000 := by
  have h1 := d.ge
  have h2 := d.lt
  obtain ⟨hm1, hm2, hr1, hr2⟩ : -2^63 ≤ d.val.tdiv 1000000000 * 1000000000 ∧
      d.val.tdiv 1000000000 * 1000000000 < 2^63 ∧
      -1000000000 < d.val - d.val.tdiv 1000000000 * 1000000000 ∧
      d.val - d.val.tdiv 1000000000 * 1000000000 < 1000000000 := by
    rw [tdiv_billion]; split <;> omega
  have hs : (SInt.wrap (d.val.tdiv 1000000000) : Int64).val = d.val.tdiv 1000000000 :=
    SInt.wrap_val (by omega) (by omega)
  have hm : (SInt.wrap (d.val.tdiv 1000000000 * 1000000000) : Int64).val =
      d.val.tdiv 1000000000 * 1000000000 := SInt.wrap_val hm1 hm2
  have hn : (SInt.wrap (d.val - d.val.tdiv 1000000000 * 1000000000) : Int64).val =
      d.val - d.val.tdiv 1000000000 * 1000000000 := SInt.wrap_val (by omega) (by omega)
  have hn32 : (SInt.wrap (d.val - d.val.tdiv 1000000000 * 1000000000) : Int32).val =
      d.val - d.val.tdiv 1000000000 * 1000000000 := SInt.wrap_val (by omega) (by omega)
  simp only [Durationpb.New, hs, hm, hn, hn32, and_self]

/-- `New` builds a normal value that stands for the duration. -/
theorem Durationpb.New_Normal (d : Int64) :
    (Durationpb.New d).Normal ∧ (Durationpb.New d).toNanos = d.val := by
  obtain ⟨hs, hn⟩ := Durationpb.New_spec d
  have h1 := d.ge
  have h2 := d.lt
  have hq := tdiv_billion d.val
  unfold Durationpb.Normal Durationpb.toNanos
  rw [hs, hn]
  split at hq <;> omega

/-- On a normal value no overflow test fires, and `AsDuration` is the nanoseconds it stands
for. -/
theorem Durationpb.AsDuration_of_Normal {x : Durationpb} (h : x.Normal) :
    x.AsDuration.val = x.toNanos := by
  obtain ⟨n1, n2, sp, sn, t1, t2⟩ := h
  unfold Durationpb.toNanos at t1 t2 ⊢
  have hm : (SInt.wrap (x.Seconds.val * 1000000000) : Int64).val = x.Seconds.val * 1000000000 :=
    SInt.wrap_val (by omega) (by omega)
  have hd : (SInt.wrap (x.Seconds.val * 1000000000 + x.Nanos.val) : Int64).val =
      x.Seconds.val * 1000000000 + x.Nanos.val := SInt.wrap_val t1 t2
  unfold Durationpb.AsDuration
  simp only [hm, Int.mul_tdiv_cancel _ (by decide : (1000000000 : Int) ≠ 0), bne_self_eq_false,
    Bool.false_or]
  rw [if_neg (by simp only [Bool.or_eq_true, Bool.and_eq_true, decide_eq_true_eq]; omega), hd]

/-- Two normal values that stand for the same nanoseconds are equal. -/
theorem Durationpb.eq_of_Normal {x y : Durationpb} (hx : x.Normal) (hy : y.Normal)
    (h : x.toNanos = y.toNanos) : x = y := by
  obtain ⟨n1, n2, sp, sn, -, -⟩ := hx
  obtain ⟨n1', n2', sp', sn', -, -⟩ := hy
  unfold Durationpb.toNanos at h
  obtain ⟨hs, hn⟩ : x.Seconds.val = y.Seconds.val ∧ x.Nanos.val = y.Nanos.val := by omega
  cases x
  cases y
  exact Durationpb.mk.injEq _ _ _ _ ▸ ⟨SInt.ext hs, SInt.ext hn⟩

/-- **Every duration survives the round trip through `durationpb`.** -/
@[simp]
theorem Durationpb.AsDuration_New (d : Int64) : (Durationpb.New d).AsDuration = d :=
  SInt.ext ((AsDuration_of_Normal (New_Normal d).1).trans (New_Normal d).2)

/-- Ten billion seconds are beyond `int64` nanoseconds: `AsDuration` gives the largest
duration. -/
example : (Durationpb.AsDuration ⟨SInt.wrap 10000000000, 0⟩).val = 2^63 - 1 := rfl

/-- **A `durationpb` value survives the round trip through a duration iff it is normal.** -/
theorem Durationpb.New_AsDuration_iff (x : Durationpb) :
    Durationpb.New x.AsDuration = x ↔ x.Normal := by
  refine ⟨fun h => h ▸ (New_Normal _).1, fun h => eq_of_Normal (New_Normal _).1 h ?_⟩
  rw [(New_Normal _).2, AsDuration_of_Normal h]

end Boulder
