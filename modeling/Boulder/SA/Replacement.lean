import Mathlib.Data.List.Nodup
import Mathlib.Logic.Function.Basic
import Mathlib.Logic.Relation
import Boulder.Core
import Boulder.Time

/-!
# The `replacementOrders` table (`sa/model.go`)

A row of `replacementOrders` links the serial of a certificate to the order that replaces it, and
says whether that order has been finalized.  Two functions write the table, each inside its
caller's transaction, so that one call is one step on the table:

* `addReplacementOrder` — looks for a row of the serial (`SELECT id ... LIMIT 1`), then points it
  at the new order and expiry, or inserts a row when there is none;
* `setReplacementOrderFinalized` — sets `replaced` on one row of the order
  (`UPDATE ... WHERE orderID = ? LIMIT 1`).

The table is its rows and the id the next `INSERT` gets (`AUTO_INCREMENT`).  Which matching row
a `LIMIT 1` statement without `ORDER BY` returns is the database's choice: it is an argument
here, and `Limit1` says what it may be.  The statements' own failures are arguments too; a call
that fails returns no table, and `ReplacementOrders.Step` is a successful call.  The schema is
not under `src/`: the default of `replaced` is taken to be false, as the field's comment reads,
and calls are taken to be serialized (the code's `SELECT` then `INSERT` does not by itself keep
two concurrent calls from inserting one serial twice).

What the table is for is `Replacements`: for each serial, the order replacing its certificate,
that order's expiry, and whether it is finalized.  `ReplacementOrders.replacements` reads the
table as that map, and `Replacements.Step` is what a call may do to it.

Principal results:

* `addReplacementOrder_upsert` — in a valid table (ids distinct and below the next id, serials
  distinct), `addReplacementOrder` keeps the table valid and is an upsert on the map: the
  serial's replacement becomes the new order and expiry and keeps its `replaced` flag, and no
  other serial's changes;
* `setReplacementOrderFinalized_marks_one` — it keeps the table valid and marks the replacement
  of exactly one serial whose order it is, when there is one, changing nothing else;
* `reachable_refines` — every table a run of calls reaches from an empty one is valid, and the
  run is a run of `Replacements.Step` from the empty map;
* `run_replaced_persistent` — along every run, a serial that has a row keeps one, and a serial
  whose replacement is finalized stays finalized.
-/

set_option autoImplicit false

namespace Boulder

/-- Two Go integers are equal when their values are. -/
instance {n : Nat} : DecidableEq (SInt n) := fun a b =>
  decidable_of_iff (a.val = b.val) SInt.ext_iff.symm

/-! ## The table and its two writers -/

/-- `replacementOrderModel`.  `ID` is the `AUTO_INCREMENT` id the database assigns. -/
structure replacementOrderModel where
  ID : Nat
  Serial : String
  OrderID : Int64
  OrderExpires : Time
  Replaced : Bool

/-- The `replacementOrders` table: its rows, and the id the next `INSERT` gets. -/
structure ReplacementOrders where
  rows : List replacementOrderModel
  nextID : Nat

namespace ReplacementOrders

/-- `UPDATE replacementOrders SET ... WHERE <p>`: the rows `p` selects, changed by `f`. -/
def update (t : ReplacementOrders) (p : replacementOrderModel → Bool)
    (f : replacementOrderModel → replacementOrderModel) : ReplacementOrders :=
  { t with rows := t.rows.map fun r => if p r then f r else r }

/-- `INSERT INTO replacementOrders (serial, orderID, orderExpires) VALUES (?, ?, ?)`: a row with
the next id, and `replaced` at its default. -/
def insert (t : ReplacementOrders) (serial : String) (orderID : Int64) (orderExpires : Time) :
    ReplacementOrders :=
  ⟨t.rows ++ [⟨t.nextID, serial, orderID, orderExpires, false⟩], t.nextID + 1⟩

/-- The ids a `... WHERE <p> LIMIT 1` statement without `ORDER BY` may return or update: none
when no row matches, and the id of one matching row otherwise. -/
def Limit1 (t : ReplacementOrders) (p : replacementOrderModel → Bool) (ids : List Nat) : Prop :=
  (ids = [] ∧ ∀ r ∈ t.rows, p r = false) ∨ ∃ r ∈ t.rows, p r = true ∧ ids = [r.ID]

end ReplacementOrders

/-- `addReplacementOrder`.  `existingID` is what the `SELECT` scanned, `selectErr` its error
other than `sql.ErrNoRows`, which the code passes over, and `execErr` the error of the `UPDATE`
or `INSERT` that follows. -/
def addReplacementOrder (t : ReplacementOrders) (serial : String) (orderID : Int64)
    (orderExpires : Time) (existingID : List Nat) (selectErr execErr : Option GoError) :
    Except GoError ReplacementOrders :=
  match selectErr with
  | some err =>
    .error (.other (.sprintf "checking for existing replacement order: %w" [err.detail]))
  | none =>
    match existingID, execErr with
    | _ :: _, some err => .error (.other (.sprintf "updating replacement order: %w" [err.detail]))
    | id :: _, none => .ok (t.update (·.ID == id) fun r =>
        { r with OrderID := orderID, OrderExpires := orderExpires })
    | [], some err => .error (.other (.sprintf "creating replacement order: %w" [err.detail]))
    | [], none => .ok (t.insert serial orderID orderExpires)

/-- `setReplacementOrderFinalized`.  `picked` is the id of the row the `UPDATE ... LIMIT 1`
picks, if any, and `execErr` the statement's error. -/
def setReplacementOrderFinalized (t : ReplacementOrders) (orderID : Int64) (picked : List Nat)
    (execErr : Option GoError) : Except GoError ReplacementOrders :=
  match execErr with
  | some err => .error err
  | none => .ok (t.update (fun r => r.OrderID == orderID && picked.contains r.ID) fun r =>
      { r with Replaced := true })

/-- A successful call, with rows its `LIMIT 1` statements may pick. -/
inductive ReplacementOrders.Step : ReplacementOrders → ReplacementOrders → Prop
  | add {t t' : ReplacementOrders} {serial : String} {orderID : Int64} {orderExpires : Time}
      {existingID : List Nat} :
      t.Limit1 (·.Serial == serial) existingID →
      addReplacementOrder t serial orderID orderExpires existingID none none = .ok t' → Step t t'
  | finalize {t t' : ReplacementOrders} {orderID : Int64} {picked : List Nat} :
      t.Limit1 (·.OrderID == orderID) picked →
      setReplacementOrderFinalized t orderID picked none = .ok t' → Step t t'

/-! ## What a successful call does to the rows -/

namespace ReplacementOrders

variable {t t' : ReplacementOrders} {p : replacementOrderModel → Bool}
  {f : replacementOrderModel → replacementOrderModel}

/-- An `UPDATE` that selects no row changes nothing. -/
theorem update_of_forall_false (hp : ∀ r ∈ t.rows, p r = false) : t.update p f = t := by
  have hrows : (t.rows.map fun r => if p r then f r else r) = t.rows :=
    (List.map_congr_left fun r hr => by simp [hp r hr]).trans (List.map_id' _)
  simp only [update, hrows]

/-- An `UPDATE` whose `SET` leaves a column alone leaves that column of the table alone. -/
theorem update_map {β : Type} (g : replacementOrderModel → β) (hg : ∀ r, g (f r) = g r) :
    (t.update p f).rows.map g = t.rows.map g := by
  simp only [update, List.map_map]
  exact List.map_congr_left fun r _ => by by_cases h : p r <;> simp [h, hg]

/-- A successful `addReplacementOrder` updates the one row of the serial that the `SELECT`
found, or inserts one when the serial has none. -/
theorem addReplacementOrder_ok {serial : String} {orderID : Int64} {orderExpires : Time}
    {existingID : List Nat} (hsel : t.Limit1 (·.Serial == serial) existingID)
    (h : addReplacementOrder t serial orderID orderExpires existingID none none = .ok t') :
    (∃ r ∈ t.rows, r.Serial = serial ∧ t' = t.update (·.ID == r.ID) fun r =>
        { r with OrderID := orderID, OrderExpires := orderExpires }) ∨
      ((∀ r ∈ t.rows, r.Serial ≠ serial) ∧ t' = t.insert serial orderID orderExpires) := by
  rcases hsel with ⟨rfl, hn⟩ | ⟨r, hr, hs, rfl⟩
  · exact .inr ⟨fun r hr => by simpa using hn r hr, (Except.ok.inj h).symm⟩
  · exact .inl ⟨r, hr, by simpa using hs, (Except.ok.inj h).symm⟩

/-- A successful `setReplacementOrderFinalized` marks the row of the order it picked, or changes
nothing when no row has the order. -/
theorem setReplacementOrderFinalized_ok {orderID : Int64} {picked : List Nat}
    (hpick : t.Limit1 (·.OrderID == orderID) picked)
    (h : setReplacementOrderFinalized t orderID picked none = .ok t') :
    (∃ r ∈ t.rows, r.OrderID = orderID ∧
        t' = t.update (fun r' => r'.OrderID == orderID && [r.ID].contains r'.ID) fun r =>
          { r with Replaced := true }) ∨
      ((∀ r ∈ t.rows, r.OrderID ≠ orderID) ∧ t' = t) := by
  rcases hpick with ⟨rfl, hn⟩ | ⟨r, hr, ho, rfl⟩
  · refine .inr ⟨fun r hr => by simpa using hn r hr, ?_⟩
    rw [← Except.ok.inj h]
    exact update_of_forall_false fun r _ => by simp
  · exact .inl ⟨r, hr, by simpa using ho, (Except.ok.inj h).symm⟩

/-! ## The invariant -/

/-- What every reachable table satisfies: the ids are distinct and below the next id, and no two
rows share a serial. -/
structure Valid (t : ReplacementOrders) : Prop where
  id_lt : ∀ i ∈ t.rows.map (·.ID), i < t.nextID
  ids_nodup : (t.rows.map (·.ID)).Nodup
  serials_nodup : (t.rows.map (·.Serial)).Nodup

theorem valid_empty (n : Nat) : Valid ⟨[], n⟩ :=
  ⟨fun _ h => (nomatch h), List.nodup_nil, List.nodup_nil⟩

theorem Valid.update (hv : t.Valid) (hid : ∀ r, (f r).ID = r.ID)
    (hs : ∀ r, (f r).Serial = r.Serial) : (t.update p f).Valid := by
  have hI := update_map (t := t) (p := p) (·.ID) hid
  have hS := update_map (t := t) (p := p) (·.Serial) hs
  exact ⟨hI ▸ hv.id_lt, hI ▸ hv.ids_nodup, hS ▸ hv.serials_nodup⟩

theorem Valid.insert (hv : t.Valid) {serial : String} {orderID : Int64} {orderExpires : Time}
    (hn : ∀ r ∈ t.rows, r.Serial ≠ serial) : (t.insert serial orderID orderExpires).Valid := by
  have hid : t.nextID ∉ t.rows.map (·.ID) := fun h => Nat.lt_irrefl _ (hv.id_lt _ h)
  have hser : serial ∉ t.rows.map (·.Serial) := by simpa using hn
  have hI : (t.insert serial orderID orderExpires).rows.map (·.ID) =
      (t.rows.map (·.ID)).concat t.nextID := by simp [ReplacementOrders.insert]
  have hS : (t.insert serial orderID orderExpires).rows.map (·.Serial) =
      (t.rows.map (·.Serial)).concat serial := by simp [ReplacementOrders.insert]
  refine ⟨?_, hI ▸ hv.ids_nodup.concat hid, hS ▸ hv.serials_nodup.concat hser⟩
  rw [hI, List.concat_eq_append]
  intro i hi
  rcases List.mem_append.1 hi with hi | hi
  · exact Nat.lt_succ_of_lt (hv.id_lt i hi)
  · exact List.eq_of_mem_singleton hi ▸ Nat.lt_succ_self _

/-- In a valid table a row is the only one with its id. -/
theorem Valid.ID_beq_iff (hv : t.Valid) {r r₀ : replacementOrderModel} (hr : r ∈ t.rows)
    (hr₀ : r₀ ∈ t.rows) : (r.ID == r₀.ID) = true ↔ r = r₀ :=
  ⟨fun h => List.inj_on_of_nodup_map hv.ids_nodup hr hr₀ (by simpa using h), fun h => by simp [h]⟩

/-- Every successful call keeps a table valid. -/
theorem Step.valid (hv : t.Valid) (h : Step t t') : t'.Valid := by
  cases h with
  | add hsel h =>
    rcases addReplacementOrder_ok hsel h with ⟨r, -, -, rfl⟩ | ⟨hn, rfl⟩
    · exact hv.update (fun _ => rfl) fun _ => rfl
    · exact hv.insert hn
  | finalize hpick h =>
    rcases setReplacementOrderFinalized_ok hpick h with ⟨r, -, -, rfl⟩ | ⟨-, rfl⟩
    · exact hv.update (fun _ => rfl) fun _ => rfl
    · exact hv

/-- Every run of successful calls keeps a table valid. -/
theorem Valid.run (hv : t.Valid) (h : Relation.ReflTransGen Step t t') : t'.Valid := by
  induction h with
  | refl => exact hv
  | tail _ hs ih => exact hs.valid ih

end ReplacementOrders

/-! ## What the table is for -/

/-- A serial's replacement: the order, its expiry, and whether the order is finalized. -/
structure Replacement where
  OrderID : Int64
  OrderExpires : Time
  Replaced : Bool

/-- The replacements, by serial. -/
abbrev Replacements := String → Option Replacement

/-- The replacement a row records. -/
def replacementOrderModel.toReplacement (r : replacementOrderModel) : Replacement :=
  ⟨r.OrderID, r.OrderExpires, r.Replaced⟩

namespace Replacements

/-- Adding a replacement: the serial's becomes the given order and expiry, and stays finalized
if it was. -/
def add (m : Replacements) (serial : String) (orderID : Int64) (orderExpires : Time) :
    Replacements :=
  Function.update m serial (some ⟨orderID, orderExpires, (m serial).any (·.Replaced)⟩)

/-- Finalizing an order marks the replacement of one serial whose order it is, if there is
one. -/
inductive Finalize (m : Replacements) (orderID : Int64) : Replacements → Prop
  | unmatched : (∀ s r, m s = some r → r.OrderID ≠ orderID) → Finalize m orderID m
  | mark (s : String) (r : Replacement) : m s = some r → r.OrderID = orderID →
      Finalize m orderID (Function.update m s (some { r with Replaced := true }))

/-- A replacement is added, or an order finalized. -/
inductive Step (m : Replacements) : Replacements → Prop
  | add (serial : String) (orderID : Int64) (orderExpires : Time) :
      Step m (m.add serial orderID orderExpires)
  | finalize {m' : Replacements} (orderID : Int64) : Finalize m orderID m' → Step m m'

variable {m m' : Replacements}

/-- No step removes a serial's replacement or clears its `Replaced` flag. -/
theorem Step.persist (h : Step m m') (s : String) :
    ((m s).isSome = true → (m' s).isSome = true) ∧
      ((m s).any (·.Replaced) = true → (m' s).any (·.Replaced) = true) := by
  cases h with
  | add serial _ _ =>
    by_cases he : s = serial
    · subst he
      simp [Replacements.add]
    · simp [Replacements.add, he]
  | finalize _ hf =>
    cases hf with
    | unmatched => exact ⟨id, id⟩
    | mark s' _ _ _ =>
      by_cases he : s = s'
      · subst he
        simp
      · simp [he]

theorem run_persist (h : Relation.ReflTransGen Step m m') (s : String) :
    ((m s).isSome = true → (m' s).isSome = true) ∧
      ((m s).any (·.Replaced) = true → (m' s).any (·.Replaced) = true) := by
  induction h with
  | refl => exact ⟨id, id⟩
  | tail _ hs ih => exact ⟨(hs.persist s).1 ∘ ih.1, (hs.persist s).2 ∘ ih.2⟩

end Replacements

/-! ## The table refines the map -/

namespace ReplacementOrders

variable {t t' : ReplacementOrders} {p : replacementOrderModel → Bool}
  {f : replacementOrderModel → replacementOrderModel}

/-- The table read as replacements: each serial's first row. -/
def replacements (t : ReplacementOrders) : Replacements :=
  fun serial => (t.rows.find? (·.Serial == serial)).map (·.toReplacement)

/-- In a valid table a row is the one its serial finds. -/
theorem Valid.find?_serial (hv : t.Valid) {r : replacementOrderModel} (hr : r ∈ t.rows) :
    t.rows.find? (·.Serial == r.Serial) = some r := by
  cases hf : t.rows.find? (·.Serial == r.Serial) with
  | none => simpa using List.find?_eq_none.1 hf r hr
  | some r' =>
    exact congrArg some (List.inj_on_of_nodup_map hv.serials_nodup
      (List.mem_of_find?_eq_some hf) hr (by simpa using List.find?_some hf))

/-- An `UPDATE` that keeps serials finds the rows it found, changed where it selects them. -/
theorem replacements_update (hs : ∀ r, (f r).Serial = r.Serial) (serial : String) :
    (t.update p f).replacements serial =
      (t.rows.find? (·.Serial == serial)).map fun r => (if p r then f r else r).toReplacement := by
  have hser : ∀ r, (if p r then f r else r).Serial = r.Serial := fun r => by
    by_cases h : p r <;> simp [h, hs]
  simp only [replacements, update, List.find?_map, Option.map_map, Function.comp_def, hser]

/-- In a valid table, an `UPDATE` that selects exactly one row changes only its serial's
replacement. -/
theorem Valid.replacements_update_one (hv : t.Valid) {r₀ : replacementOrderModel}
    (hr₀ : r₀ ∈ t.rows) (hp : ∀ r ∈ t.rows, p r = true ↔ r = r₀)
    (hs : ∀ r, (f r).Serial = r.Serial) :
    (t.update p f).replacements =
      Function.update t.replacements r₀.Serial (some (f r₀).toReplacement) := by
  funext serial
  rw [replacements_update hs]
  by_cases he : serial = r₀.Serial
  · subst he
    rw [hv.find?_serial hr₀, Function.update_same, Option.map_some', if_pos ((hp r₀ hr₀).2 rfl)]
  · rw [Function.update_noteq he]
    cases hf : t.rows.find? (·.Serial == serial) with
    | none => simp [replacements, hf]
    | some r =>
      have hpr : p r = false := by
        by_contra hc
        have hrr := (hp r (List.mem_of_find?_eq_some hf)).1 (by simpa using hc)
        subst hrr
        exact he (Eq.symm (by simpa using List.find?_some hf))
      simp [replacements, hf, hpr]

/-- Inserting a row for a serial that has none adds its replacement. -/
theorem replacements_insert {serial : String} {orderID : Int64} {orderExpires : Time}
    (hn : ∀ r ∈ t.rows, r.Serial ≠ serial) :
    (t.insert serial orderID orderExpires).replacements =
      t.replacements.add serial orderID orderExpires := by
  have hnone : t.rows.find? (·.Serial == serial) = none := by simpa using hn
  funext s
  by_cases he : s = serial
  · subst he
    simp [replacements, ReplacementOrders.insert, Replacements.add, hnone,
      replacementOrderModel.toReplacement]
  · simp [replacements, ReplacementOrders.insert, Replacements.add, he, Ne.symm he]

/-- In a valid table, a successful `addReplacementOrder` adds the serial's replacement. -/
theorem replacements_addReplacementOrder (hv : t.Valid) {serial : String} {orderID : Int64}
    {orderExpires : Time} {existingID : List Nat}
    (hsel : t.Limit1 (·.Serial == serial) existingID)
    (h : addReplacementOrder t serial orderID orderExpires existingID none none = .ok t') :
    t'.replacements = t.replacements.add serial orderID orderExpires := by
  rcases addReplacementOrder_ok hsel h with ⟨r, hr, rfl, rfl⟩ | ⟨hn, rfl⟩
  · rw [hv.replacements_update_one
      (f := fun r => { r with OrderID := orderID, OrderExpires := orderExpires }) hr
      (fun _ h => hv.ID_beq_iff h hr) fun _ => rfl]
    simp only [Replacements.add, replacements, hv.find?_serial hr]
    rfl
  · exact replacements_insert hn

/-- In a valid table, a successful `setReplacementOrderFinalized` finalizes the order. -/
theorem replacements_setReplacementOrderFinalized (hv : t.Valid) {orderID : Int64}
    {picked : List Nat} (hpick : t.Limit1 (·.OrderID == orderID) picked)
    (h : setReplacementOrderFinalized t orderID picked none = .ok t') :
    Replacements.Finalize t.replacements orderID t'.replacements := by
  rcases setReplacementOrderFinalized_ok hpick h with ⟨r, hr, ho, rfl⟩ | ⟨hn, rfl⟩
  · have hp : ∀ r' ∈ t.rows, (r'.OrderID == orderID && [r.ID].contains r'.ID) = true ↔ r' = r := by
      intro r' hr'
      rw [← hv.ID_beq_iff hr' hr]
      simp only [Bool.and_eq_true, List.contains_cons, List.contains_nil, Bool.or_false]
      exact ⟨And.right, fun h' => ⟨by rw [(hv.ID_beq_iff hr' hr).1 h', ho]; simp, h'⟩⟩
    rw [hv.replacements_update_one (f := fun r => { r with Replaced := true }) hr hp fun _ => rfl]
    exact .mark r.Serial r.toReplacement (by simp [replacements, hv.find?_serial hr]) ho
  · refine .unmatched fun s r hs => ?_
    obtain ⟨r', hf, rfl⟩ := Option.map_eq_some'.1 hs
    exact hn r' (List.mem_of_find?_eq_some hf)

/-- In a valid table, every successful call is a step of the map. -/
theorem Step.refines (hv : t.Valid) (h : Step t t') :
    Replacements.Step t.replacements t'.replacements := by
  cases h with
  | add hsel h => exact replacements_addReplacementOrder hv hsel h ▸ .add _ _ _
  | finalize hpick h => exact .finalize _ (replacements_setReplacementOrderFinalized hv hpick h)

/-- From a valid table, every run of successful calls is a run of the map. -/
theorem run_refines (hv : t.Valid) (h : Relation.ReflTransGen Step t t') :
    Relation.ReflTransGen Replacements.Step t.replacements t'.replacements := by
  induction h with
  | refl => exact .refl
  | tail hrun hs ih => exact ih.tail (hs.refines (hv.run hrun))

/-! ## Principal results -/

/-- **`addReplacementOrder` is an upsert.**  In a valid table, after a `SELECT` that returns what
`LIMIT 1` allows, a successful `addReplacementOrder` leaves the table valid, gives the serial the
new order and expiry with the `replaced` flag it had (false for a serial with no row), and changes
no other serial's replacement. -/
theorem addReplacementOrder_upsert (hv : t.Valid) {serial : String} {orderID : Int64}
    {orderExpires : Time} {existingID : List Nat}
    (hsel : t.Limit1 (·.Serial == serial) existingID)
    (h : addReplacementOrder t serial orderID orderExpires existingID none none = .ok t') :
    t'.Valid ∧ t'.replacements = t.replacements.add serial orderID orderExpires :=
  ⟨(Step.add hsel h).valid hv, replacements_addReplacementOrder hv hsel h⟩

/-- A serial whose replacement is finalized gets a new order, and stays
finalized. -/
theorem addReplacementOrder_upsert_finalized :
    let t : ReplacementOrders :=
      ⟨[⟨1, "03a1", 5, Time.zero, true⟩, ⟨2, "04b2", 6, Time.zero, false⟩], 3⟩
    ∃ t', addReplacementOrder t "03a1" 7 Time.zero [1] none none = .ok t' ∧
      t'.Valid ∧ t'.replacements = t.replacements.add "03a1" 7 Time.zero := by
  intro t
  exact ⟨_, rfl, addReplacementOrder_upsert ⟨by decide, by decide, by decide⟩
    (.inr ⟨_, List.mem_cons_self _ _, by decide, rfl⟩) rfl⟩

/-- **`setReplacementOrderFinalized` marks one replacement.**  In a valid table, for an
`UPDATE ... LIMIT 1` that picks what it allows, a successful `setReplacementOrderFinalized` leaves
the table valid and marks as finalized the replacement of exactly one serial whose order it is,
changing nothing else, or changes nothing when no serial's order it is. -/
theorem setReplacementOrderFinalized_marks_one (hv : t.Valid) {orderID : Int64}
    {picked : List Nat} (hpick : t.Limit1 (·.OrderID == orderID) picked)
    (h : setReplacementOrderFinalized t orderID picked none = .ok t') :
    t'.Valid ∧ Replacements.Finalize t.replacements orderID t'.replacements :=
  ⟨(Step.finalize hpick h).valid hv, replacements_setReplacementOrderFinalized hv hpick h⟩

/-- Two serials replaced by one order; the `UPDATE` picks the second. -/
theorem setReplacementOrderFinalized_marks_one_shared :
    let t : ReplacementOrders :=
      ⟨[⟨1, "03a1", 5, Time.zero, false⟩, ⟨2, "04b2", 5, Time.zero, false⟩], 3⟩
    ∃ t', setReplacementOrderFinalized t 5 [2] none = .ok t' ∧
      t'.Valid ∧ Replacements.Finalize t.replacements 5 t'.replacements := by
  intro t
  exact ⟨_, rfl, setReplacementOrderFinalized_marks_one ⟨by decide, by decide, by decide⟩
    (.inr ⟨_, List.mem_cons_of_mem _ (List.mem_singleton_self _), by decide, rfl⟩) rfl⟩

/-- **The table refines the map.**  Every table that a run of successful calls reaches from an
empty table is valid, and the run, read through `replacements`, is a run of
`Replacements.Step` from the empty map. -/
theorem reachable_refines {n : Nat} (h : Relation.ReflTransGen Step ⟨[], n⟩ t) :
    t.Valid ∧ Relation.ReflTransGen Replacements.Step (fun _ => none) t.replacements :=
  ⟨(valid_empty n).run h, run_refines (valid_empty n) h⟩

/-- A replacement added to an empty table, then finalized. -/
theorem reachable_refines_finalized :
    let t : ReplacementOrders := ⟨[⟨1, "03a1", 5, Time.zero, true⟩], 2⟩
    t.Valid ∧ Relation.ReflTransGen Replacements.Step (fun _ => none) t.replacements :=
  reachable_refines (n := 1) <| .tail
    (.single (@Step.add ⟨[], 1⟩ _ "03a1" 5 Time.zero [] (.inl ⟨rfl, fun _ h => nomatch h⟩) rfl))
    (@Step.finalize _ _ 5 [1] (.inr ⟨_, List.mem_singleton_self _, by decide, rfl⟩) rfl)

/-- **Finalized replacements stay finalized.**  Along every run of successful calls from a valid
table, a serial that has a replacement keeps one, and a serial whose replacement is finalized
stays finalized: `addReplacementOrder` keeps the flag when it points the serial at a new order. -/
theorem run_replaced_persistent (hv : t.Valid) (h : Relation.ReflTransGen Step t t')
    (serial : String) :
    ((t.replacements serial).isSome = true → (t'.replacements serial).isSome = true) ∧
      ((t.replacements serial).any (·.Replaced) = true →
        (t'.replacements serial).any (·.Replaced) = true) :=
  Replacements.run_persist (run_refines hv h) serial

/-- A finalized serial pointed at a new order. -/
theorem run_replaced_persistent_readd :
    let t : ReplacementOrders := ⟨[⟨1, "03a1", 5, Time.zero, true⟩], 2⟩
    let t' : ReplacementOrders := ⟨[⟨1, "03a1", 7, Time.zero, true⟩], 2⟩
    ((t.replacements "03a1").isSome = true → (t'.replacements "03a1").isSome = true) ∧
      ((t.replacements "03a1").any (·.Replaced) = true →
        (t'.replacements "03a1").any (·.Replaced) = true) :=
  run_replaced_persistent ⟨by decide, by decide, by decide⟩
    (.single (@Step.add _ _ "03a1" 7 Time.zero [1]
      (.inr ⟨_, List.mem_singleton_self _, by decide, rfl⟩) rfl)) "03a1"

end ReplacementOrders

end Boulder
