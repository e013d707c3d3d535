import Mathlib.Data.List.Dedup
import Boulder.SA.IdentQuery
import Boulder.SA.OrderStatus

/-!
# Reading an order's authorizations (`sa/model.go`)

`getAuthorizationStatuses` reads, for a list of authorization ids, the `authzValidity` columns of
their rows of `authz2`, with one `id IN (?, …, ?)` query and one placeholder per id;
`statusForOrder` then checks that it got one row per authorization of the order before it counts
them.  Over a table whose selector evaluates the query as SQL (`tableSelector`):

* `getAuthorizationStatuses_tableSelector` — for a nonempty list the query binds, and the result
  is the columns of exactly the rows whose id is listed, in table order, each once however often
  its id is listed (the code, unlike `buildIdentifierQueryConditions`, does not special-case an
  empty list, and what `db.QuestionMarks(0)` gives is outside the sources);
* `statusForOrder_getAuthorizationStatuses` — for a table with distinct ids and an order with no
  error, not expired and with some authorization, `statusForOrder` on what the read returns fails
  with its wrong-count error exactly when an id of the order is listed twice or has no row.
-/

set_option autoImplicit false

namespace Boulder

open Sql

/-- The query of `getAuthorizationStatuses` for `n` ids. -/
def authzStatusesQuery (n : Nat) : String :=
  "SELECT identifierType, identifierValue, status, expires FROM authz2 WHERE id IN (" ++
    QuestionMarks n ++ ")"

/-- The columns `getAuthorizationStatuses` selects, scanned into an `authzValidity`: the expiry
as its instant in nanoseconds, as `statusForOrder` compares it. -/
def authzModel.validity (am : authzModel) : authzValidity :=
  ⟨am.IdentifierType, am.IdentifierValue, am.Status, am.Expires.toNanos⟩

/-- `getAuthorizationStatuses`.  The ids are integers, as `Order` keeps them. -/
def getAuthorizationStatuses (s : Selector) (ids : List Int) :
    Except GoError (List authzValidity) := do
  let validities ← s (authzStatusesQuery ids.length) (ids.map .int)
  pure (validities.map authzModel.validity)

/-! ## The query, read as SQL -/

/-- The tokens of the `WHERE` clause for `n` ids. -/
def idInToks (n : Nat) : List Tok := [.word "id", .word "IN", .lparen] ++ qmarkToks n ++ [.rparen]

theorem whereTokens_authzStatusesQuery (n : Nat) :
    whereTokens (tokenize (authzStatusesQuery n)) = some (idInToks n) := by
  rw [authzStatusesQuery, tokenize_append_of_head _ ")" (by decide),
    tokenize_append_of_last _ (QuestionMarks n) (by decide), tokenize_QuestionMarks,
    whereTokens_append _ (whereTokens_append _ (show whereTokens (tokenize
      "SELECT identifierType, identifierValue, status, expires FROM authz2 WHERE id IN (") =
        some [.word "id", .word "IN", .lparen] by decide))]
  rfl

/-- The only words of the clause are `id` and `IN`. -/
theorem idInToks_ne_word {n : Nat} {w : String} (hid : w ≠ "id") (hin : w ≠ "IN") :
    ∀ t ∈ idInToks n, t ≠ .word w := by
  intro t ht h
  subst h
  simp [idInToks, hid, hin] at ht
  rcases mem_qmarkToks ht with h | h <;> cases h

/-- The clause is one `IN` list, with as many placeholders as `?, …, ?)` has. -/
theorem parseExpr_idInToks (fuel n : Nat) :
    parseExpr (fuel + 1) (idInToks n) =
      (Expr.inList "id") <$> parseQmarks (qmarkToks n ++ [.rparen]) := by
  rw [parseExpr, splitTop_last (idInToks_ne_word (by decide) (by decide)), List.nil_append,
    parseJoin_singleton, splitTop_last (idInToks_ne_word (by decide) (by decide)),
    List.nil_append, parseJoin_singleton]
  rfl

/-- On a row, the clause with the ids bound is whether the row's id is one of them. -/
theorem eval_idIn (am : authzModel) (ids : List Int) :
    ((Expr.inList "id" ids.length).eval am.row (ids.map .int)).1 =
      some (decide (am.ID.val ∈ ids)) := by
  show inList3 (some (.int am.ID.val)) ((ids.map SqlValue.int).take ids.length) = _
  rw [List.take_of_length_le (by simp), inList3_map _ SqlValue.cmp_int_eq]

/-- Over a table, the query for a nonempty list of ids, with the ids bound, selects the rows
whose id is listed. -/
theorem tableSelector_authzStatusesQuery (table : List authzModel) {ids : List Int}
    (hne : ids ≠ []) :
    tableSelector table (authzStatusesQuery ids.length) (ids.map .int) =
      .ok (table.filter fun am => decide (am.ID.val ∈ ids)) := by
  have hparse : parseQmarks (qmarkToks ids.length ++ [.rparen]) = some ids.length :=
    parseQmarks_qmarkToks (List.length_pos.2 hne)
  simp only [tableSelector, whereTokens_authzStatusesQuery, Option.some_bind, parseExpr_idInToks,
    hparse, Option.map_eq_map, Option.map_some', Expr.arity, List.length_map, if_true, eval_idIn,
    Option.some.injEq, decide_eq_true_eq]

/-- **`getAuthorizationStatuses` reads the listed authorizations.**  Over a table whose selector
evaluates the query as SQL, for every nonempty list of ids the query has one placeholder per id
and the result is the `authzValidity` columns of exactly the rows whose id is listed, in table
order and each once however often its id is listed. -/
theorem getAuthorizationStatuses_tableSelector (table : List authzModel) {ids : List Int}
    (hne : ids ≠ []) :
    getAuthorizationStatuses (tableSelector table) ids =
      .ok ((table.filter fun am => decide (am.ID.val ∈ ids)).map authzModel.validity) := by
  rw [getAuthorizationStatuses, tableSelector_authzStatusesQuery table hne]
  rfl

/-- Two rows, one of whose ids is listed twice and the other not at all, and a listed id with no
row. -/
theorem getAuthorizationStatuses_tableSelector_repeated :
    let am : Int64 → authzModel := fun id =>
      ⟨id, 0, "example.com".toList, 1, none, 1, Time.zero, 1, none, none, [], [], []⟩
    ([7, 7, 9] : List Int) ≠ [] ∧
      getAuthorizationStatuses (tableSelector [am 7, am 8]) [7, 7, 9] =
        .ok (([am 7, am 8].filter fun a => decide (a.ID.val ∈ [7, 7, 9])).map
          authzModel.validity) :=
  ⟨by decide, getAuthorizationStatuses_tableSelector _ (by decide)⟩

/-! ## The row count `statusForOrder` checks -/

/-- Over a table of distinct keys, the rows whose key is listed are one per listed key exactly
when no key is listed twice and every listed key has a row. -/
theorem length_filter_mem_eq_iff {α β : Type} [DecidableEq β] (f : α → β) {table : List α}
    (htable : (table.map f).Nodup) (keys : List β) :
    (table.filter fun a => decide (f a ∈ keys)).length = keys.length ↔
      keys.Nodup ∧ ∀ k ∈ keys, ∃ a ∈ table, f a = k := by
  have hperm : ((table.map f).filter (· ∈ keys)).Perm (keys.dedup.filter (· ∈ table.map f)) :=
    (List.perm_ext_iff_of_nodup (htable.filter _) ((List.nodup_dedup keys).filter _)).2
      fun k => by simp only [List.mem_filter, List.mem_dedup, decide_eq_true_eq]; exact and_comm
  have hmap : (table.filter fun a => decide (f a ∈ keys)).length =
      ((table.map f).filter (· ∈ keys)).length := by
    rw [List.filter_map, List.length_map]
    rfl
  have hfilter := List.length_filter_le (· ∈ table.map f) keys.dedup
  have hdedup := (List.dedup_sublist keys).length_le
  rw [hmap, hperm.length_eq]
  constructor
  · intro h
    have hall : (keys.dedup.filter (· ∈ table.map f)).length = keys.dedup.length := by omega
    refine ⟨List.dedup_eq_self.1 ((List.dedup_sublist keys).eq_of_length (by omega)),
      fun k hk => ?_⟩
    simpa using List.filter_length_eq_length.1 hall k (List.mem_dedup.2 hk)
  · rintro ⟨hnd, hall⟩
    rw [List.dedup_eq_self.2 hnd,
      List.filter_length_eq_length.2 fun k hk => by simpa using hall k hk]

/-- For an order with no error and not expired, `statusForOrder` fails with its wrong-count
error exactly when the rows are not one per authorization. -/
theorem statusForOrder_eq_errWrongAuthzCount_iff {order : Order} {now : Int}
    (herr : order.Error = none) (hexp : now ≤ order.Expires) (A : List authzValidity) :
    statusForOrder order A now = .error (errWrongAuthzCount order A) ↔
      A.length ≠ order.V2Authorizations.length := by
  unfold statusForOrder
  rw [herr, if_neg (by simp), if_neg (by omega)]
  by_cases hlen : A.length ≠ order.V2Authorizations.length
  · simp [hlen]
  · rw [if_neg hlen, iff_false_intro hlen, iff_false]
    split
    · rename_i err hf
      obtain ⟨r, rfl⟩ := foldlM_countAuthz_error_eq now A _ hf
      simp [errInvalidAuthzStatus, errWrongAuthzCount, InternalServerError]
    · dsimp only
      split_ifs <;>
        simp [errNotFullyAuthorized, errNoStateKnown, errWrongAuthzCount, InternalServerError]

/-- **The order's rows are counted against its authorizations.**  For a table with distinct ids
and an order with no error, not expired and with at least one authorization,
`getAuthorizationStatuses` reads the order's rows, and `statusForOrder` on them fails with its
wrong-count error exactly when an authorization id of the order is listed twice or has no row:
the `IN` list reads each row once. -/
theorem statusForOrder_getAuthorizationStatuses (table : List authzModel)
    (htable : (table.map (·.ID.val)).Nodup) (order : Order) (now : Int)
    (hne : order.V2Authorizations ≠ []) (herr : order.Error = none)
    (hexp : now ≤ order.Expires) :
    ∃ infos, getAuthorizationStatuses (tableSelector table) order.V2Authorizations = .ok infos ∧
      (statusForOrder order infos now = .error (errWrongAuthzCount order infos) ↔
        ¬ (order.V2Authorizations.Nodup ∧
          ∀ id ∈ order.V2Authorizations, ∃ am ∈ table, am.ID.val = id)) := by
  refine ⟨_, by rw [getAuthorizationStatuses, tableSelector_authzStatusesQuery table hne]; rfl, ?_⟩
  rw [statusForOrder_eq_errWrongAuthzCount_iff herr hexp, List.length_map,
    ← length_filter_mem_eq_iff _ htable]

/-- An order that lists its one authorization twice. -/
theorem statusForOrder_getAuthorizationStatuses_repeated :
    let am : authzModel := ⟨7, 0, "example.com".toList, 1, none, 1, Time.zero, 1,
      none, none, [], [], []⟩
    let order : Order := ⟨3, none, 100, [7, 7], [], "", false⟩
    ∃ infos, getAuthorizationStatuses (tableSelector [am]) order.V2Authorizations = .ok infos ∧
      (statusForOrder order infos 0 = .error (errWrongAuthzCount order infos) ↔
        ¬ (order.V2Authorizations.Nodup ∧
          ∀ id ∈ order.V2Authorizations, ∃ a ∈ [am], a.ID.val = id)) := by
  intro am order
  exact statusForOrder_getAuthorizationStatuses [am] (by decide) order 0 (by decide) rfl
    (by decide)

end Boulder
