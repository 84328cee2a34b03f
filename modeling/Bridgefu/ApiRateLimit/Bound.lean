/- digest: How many requests of an identity the limiter admits in a window of time. -/

import Bridgefu.ApiRateLimit.Limiter
import Bridgefu.Lib.TokenBucket
import Bridgefu.Lib.Trace

set_option autoImplicit false

/-! The bound holds as long as the samples reach a bucket in order and an identity is forgotten only
when its buckets are full again. A sample that comes late sets the time of the last refill back, and
the time in between is refilled twice. -/

namespace Bridgefu.ApiRateLimit

open Lib RateState IdentityBuckets Table

variable {now : Instant} {spent : ℚ} {state : RateState} {call : Call} {entry : IdentityBuckets}

private theorem asSecs_le {first second} (ordered : first ≤ second) :
    asSecs first ≤ asSecs second := by
  have cast : (first : ℚ) ≤ second := by exact_mod_cast ordered
  exact div_le_div_of_nonneg_right cast (by positivity)

private theorem asSecs_saturatingDurationSince {now earlier} (ordered : earlier ≤ now) :
    asSecs (saturatingDurationSince now earlier) = asSecs now - asSecs earlier := by
  unfold saturatingDurationSince asSecs
  rw [max_eq_left (sub_nonneg.mpr ordered)]
  push_cast
  ring

def BucketPolicy.rate (policy : BucketPolicy) : ℚ := policy.requestsPerSecond

private theorem BucketPolicy.rate_nonneg (policy : BucketPolicy) : 0 ≤ policy.rate := by
  unfold rate
  positivity

abbrev TokenBucket.Covers (bucket : TokenBucket) (policy : BucketPolicy) (start : Instant)
    (spent : ℚ) : Prop :=
  Budget policy.rate policy.burst (asSecs start) spent bucket.tokens (asSecs bucket.lastRefill)

namespace TokenBucket

variable {bucket : TokenBucket} {policy : BucketPolicy} {start : Instant}

variable (covers : bucket.Covers policy start spent)
include covers

variable (ordered : bucket.lastRefill ≤ now)
include ordered

private theorem Covers.refill : (bucket.refill policy now).Covers policy start spent := by
  have later := Budget.refill covers policy.rate_nonneg (asSecs_le ordered)
  unfold Covers TokenBucket.refill
  rw [asSecs_saturatingDurationSince ordered, mul_comm]
  exact later

private theorem Covers.paid (again : (bucket.refill policy now).tokens = policy.burst) :
    (asSecs now < asSecs start → spent = 0) ∧
      spent ≤ policy.rate * (max (asSecs now) (asSecs start) - asSecs start) := by
  refine Budget.paid covers policy.rate_nonneg (asSecs_le ordered) ?_
  unfold TokenBucket.refill at again
  rw [asSecs_saturatingDurationSince ordered, mul_comm] at again
  exact min_eq_right_iff.mp again

private theorem Covers.admitRequest : ((bucket.admitRequest policy now).2 = .ok () → start ≤ now →
      (bucket.admitRequest policy now).1.Covers policy start (spent + 1) ∧
        spent + 1 ≤ policy.burst + policy.rate * (asSecs now - asSecs start)) ∧
      (bucket.admitRequest policy now).1.Covers policy start spent := by
  have refilled := covers.refill ordered
  unfold TokenBucket.admitRequest
  by_cases enough : 1 ≤ (bucket.refill policy now).tokens
  · rw [if_pos enough]
    refine ⟨fun _ inside => ?_, Budget.waste refilled⟩
    have spends := Budget.spend refilled (asSecs_le inside)
    exact ⟨spends, spends.spent_le (by linarith) (asSecs_le inside)⟩
  · rw [if_neg enough]
    exact ⟨fun refused => (nomatch refused), refilled⟩

end TokenBucket

private theorem TokenBucket.admitRequest_lastRefill (bucket : TokenBucket) (policy : BucketPolicy)
    (now : Instant) : (bucket.admitRequest policy now).1.lastRefill = now := by
  unfold admitRequest
  dsimp only
  split <;> rfl

namespace IdentityBuckets

private theorem bucket_new (policy : RatePolicy) (now : Instant) (surface : ApiRateSurface) :
    (new policy now).bucket surface = .full (policy.bucket surface) now := by
  cases surface <;> rfl

private theorem bucket_updated (entry : IdentityBuckets) (now : Instant)
    (surface other : ApiRateSurface) (bucket : TokenBucket) :
    ({ entry with lastSeen := now }.setBucket surface bucket).bucket other =
      if other = surface then bucket else entry.bucket other := by
  cases surface <;> cases other <;> rfl

end IdentityBuckets

def TrackedBefore (past : List (RateState × Call)) (identity : Nat) : Prop :=
  ∃ place ∈ past, place.1.identities.get? identity ≠ none

/-- The table is full and some identity in it is idle. -/
def RateState.Evicts (policy : RatePolicy) (state : RateState) (now : Instant) : Prop :=
  policy.maxTrackedIdentities ≤ state.tracked ∧
    ∃ identity entry, state.identities.get? identity = some entry ∧ isIdle policy entry now

/-- The sample of a call comes after the last refill of its bucket. Where the identity takes the
place of others or was itself forgotten before, it comes after the last refill of every bucket, and
the buckets of the identities that are forgotten are full again. -/
structure Steady (policy : RatePolicy) (past : List (RateState × Call)) (state : RateState)
    (call : Call) : Prop where
  ordered : ∀ entry, state.identities.get? call.identity = some entry →
    (entry.bucket call.surface).lastRefill ≤ call.now
  newest : state.identities.get? call.identity = none →
    state.Evicts policy call.now ∨ TrackedBefore past call.identity →
      ∀ identity entry, state.identities.get? identity = some entry →
        ∀ surface, (entry.bucket surface).lastRefill ≤ call.now
  refilled : state.identities.get? call.identity = none →
    policy.maxTrackedIdentities ≤ state.tracked →
      ∀ identity entry, state.identities.get? identity = some entry →
        isIdle policy entry call.now → ∀ surface,
          ((entry.bucket surface).refill (policy.bucket surface) call.now).tokens =
            (policy.bucket surface).burst

section Account

variable (policy : RatePolicy) (surface : ApiRateSurface) (identity : Nat) (start : Instant)

/-- Some bucket was refilled at the given instant or later. -/
def RateState.Reached (state : RateState) (instant : Instant) : Prop :=
  ∃ other entry surface, state.identities.get? other = some entry ∧
    instant ≤ (entry.bucket surface).lastRefill

/-- What an identity has spent is covered by its bucket, or was paid for when it was forgotten. -/
structure Account (past : List (RateState × Call)) (spent : ℚ) (state : RateState) : Prop where
  room : state.tracked ≤ policy.maxTrackedIdentities
  stored : ∀ entry, state.identities.get? identity = some entry →
    (entry.bucket surface).Covers (policy.bucket surface) start spent
  forgotten : state.identities.get? identity = none → spent = 0 ∨ TrackedBefore past identity ∧
    ∃ instant, (asSecs instant < asSecs start → spent = 0) ∧
      spent ≤ (policy.bucket surface).rate *
        (max (asSecs instant) (asSecs start) - asSecs start) ∧ state.Reached instant

variable {policy surface identity start} {past : List (RateState × Call)}

private theorem account_default (policy : RatePolicy) (surface : ApiRateSurface) (identity : Nat)
    (start : Instant) : Account policy surface identity start [] 0 .default where
  room := Nat.zero_le _
  stored := nofun
  forgotten := fun _ => .inl rfl

private theorem TrackedBefore.later (tracked : TrackedBefore past identity)
    (place : RateState × Call) : TrackedBefore (past ++ [place]) identity := by
  obtain ⟨earlier, member, stored⟩ := tracked
  exact ⟨earlier, List.mem_append_left _ member, stored⟩

private theorem Account.later (account : Account policy surface identity start past spent state)
    (place : RateState × Call) :
    Account policy surface identity start (past ++ [place]) spent state where
  room := account.room
  stored := account.stored
  forgotten := fun gone =>
    (account.forgotten gone).imp_right (And.imp_left fun tracked => tracked.later place)

private theorem paid_later {rate begin spent instant now} (positive : 0 ≤ rate)
    (early : asSecs instant < begin → spent = 0)
    (paid : spent ≤ rate * (max (asSecs instant) begin - begin)) (later : instant ≤ now) :
    (asSecs now < begin → spent = 0) ∧ spent ≤ rate * (max (asSecs now) begin - begin) := by
  have ordered := asSecs_le later
  refine ⟨fun before => early (lt_of_le_of_lt ordered before), le_trans paid ?_⟩
  have grows : max (asSecs instant) begin - begin ≤ max (asSecs now) begin - begin :=
    sub_le_sub_right (max_le_max_right begin ordered) begin
  exact mul_le_mul_of_nonneg_left grows positive

private theorem RateState.reclaimed_cases (room : state.tracked ≤ policy.maxTrackedIdentities)
    (now : Instant) :
    (policy.maxTrackedIdentities ≤ (state.reclaimed policy now).tracked →
      state.reclaimed policy now = state) ∧
      ∀ other entry, state.identities.get? other = some entry →
        (state.reclaimed policy now).identities.get? other = some entry ∨
          ((state.reclaimed policy now).identities.get? other = none ∧
            policy.maxTrackedIdentities ≤ state.tracked ∧ isIdle policy entry now) := by
  unfold reclaimed
  split_ifs with isFull
  · constructor
    · intro crowded
      have short : (state.identities.rows.filter fun row => !isIdle policy row.2 now).length =
          state.identities.rows.length := by
        have most := List.length_filter_le (fun row => !isIdle policy row.2 now)
          state.identities.rows
        unfold tracked at crowded room
        simp only [filter] at crowded
        omega
      have all := List.filter_eq_self.mpr (List.length_filter_eq_length_iff.mp short)
      have same : state.identities.filter (fun _ entry => !isIdle policy entry now) =
          state.identities := eq_of_rows_eq all
      rw [same]
    · intro other entry stored
      rw [get?_filter, stored, Option.filter_some]
      cases idle : isIdle _ _ now with
      | false => exact .inl rfl
      | true => exact .inr ⟨rfl, isFull, rfl⟩
  · exact ⟨fun _ => rfl, fun other entry stored => .inl stored⟩

private theorem RateState.reclaimed_get? {now other}
    (stored : (state.reclaimed policy now).identities.get? other = some entry) :
    state.identities.get? other = some entry := by
  unfold reclaimed at stored
  split at stored
  · rw [get?_filter, Option.filter_eq_some_iff] at stored
    exact stored.1
  · exact stored

private theorem RateState.reclaimed_absent {now other}
    (absent : state.identities.get? other = none) :
    (state.reclaimed policy now).identities.get? other = none := by
  cases stored : (state.reclaimed policy now).identities.get? other with
  | none => rfl
  | some => exact absurd (absent.symm.trans (reclaimed_get? stored)) (Option.some_ne_none _).symm

private theorem RateState.tracked_insert_le (table : Table Nat IdentityBuckets) (identity : Nat)
    (entry : IdentityBuckets) :
    (mk (table.insert identity entry)).tracked ≤ (mk table).tracked + 1 := by
  exact Nat.succ_le_succ (List.length_filter_le _ _)

private theorem account_entered (account : Account policy surface identity start past spent state)
    (steady : Steady policy past state call)
    (absent : state.identities.get? call.identity = none)
    (free : (state.reclaimed policy call.now).tracked < policy.maxTrackedIdentities) :
    Account policy surface identity start (past ++ [(state, call)]) spent
      ⟨(state.reclaimed policy call.now).identities.insert call.identity
        (.new policy call.now)⟩ := by
  have positive := (policy.bucket surface).rate_nonneg
  have entered : RateState.Reached ⟨(state.reclaimed policy call.now).identities.insert
      call.identity (.new policy call.now)⟩ call.now := by
    refine ⟨call.identity, _, surface, get?_insert_self .., ?_⟩
    rw [bucket_new]
    exact le_refl _
  -- where the sample is the newest one, whatever was paid for before is paid for now
  have paid : state.Evicts policy call.now ∨ TrackedBefore past call.identity →
      ∀ {instant}, (asSecs instant < asSecs start → spent = 0) →
        spent ≤ (policy.bucket surface).rate *
          (max (asSecs instant) (asSecs start) - asSecs start) → state.Reached instant →
        (asSecs call.now < asSecs start → spent = 0) ∧
          spent ≤ (policy.bucket surface).rate *
            (max (asSecs call.now) (asSecs start) - asSecs start) := by
    rintro asked instant early paid ⟨_, entry, its, stored, later⟩
    have newest := steady.newest absent asked _ _ stored its
    exact paid_later positive early paid (le_trans later newest)
  constructor
  case room =>
    have more := tracked_insert_le (state.reclaimed policy call.now).identities
      call.identity (.new policy call.now)
    have count : (mk (state.reclaimed policy call.now).identities).tracked =
        (state.reclaimed policy call.now).tracked := rfl
    omega
  case stored =>
    intro entry found
    rcases get?_insert_some found with ⟨rfl, rfl⟩ | ⟨-, found⟩
    · rw [bucket_new]
      rcases account.forgotten absent with nothing | ⟨tracked, _, early, spent, reached⟩
      · rw [nothing]
        exact Budget.start_full _ _ _ _ positive
      · obtain ⟨early, covered⟩ := paid (.inr tracked) early spent reached
        exact Budget.reopen early covered
    · exact account.stored _ (reclaimed_get? found)
  case forgotten =>
    intro gone
    rw [get?_insert] at gone
    split_ifs at gone with different
    cases before : state.identities.get? identity with
    | none =>
      refine (account.forgotten before).imp_right ?_
      rintro ⟨tracked, instant, early, spent, reached⟩
      refine ⟨tracked.later _, ?_⟩
      by_cases evicts : state.Evicts policy call.now
      · obtain ⟨early, covered⟩ := paid (.inl evicts) early spent reached
        exact ⟨call.now, early, covered, entered⟩
      · -- nothing is forgotten, so the bucket that was reached is still there
        obtain ⟨other, entry, its, stored, later⟩ := reached
        refine ⟨instant, early, spent, other, entry, its, ?_, later⟩
        rcases (reclaimed_cases account.room call.now).2 _ _ stored with
          kept | ⟨-, isFull, idle⟩
        · exact get?_insert_fresh kept (reclaimed_absent absent)
        · exact absurd ⟨isFull, other, entry, stored, idle⟩ evicts
    | some entry =>
      rcases (reclaimed_cases account.room call.now).2 _ _ before with
        kept | ⟨-, isFull, idle⟩
      · rw [gone] at kept
        cases kept
      · have again := steady.refilled absent isFull _ _ before idle surface
        have ordered := steady.newest absent (.inl ⟨isFull, _, _, before, idle⟩) _ _ before surface
        obtain ⟨early, covered⟩ := (account.stored _ before).paid ordered again
        refine .inr ⟨⟨(state, call), List.mem_append_right _ List.mem_cons_self, ?_⟩,
          call.now, early, covered, entered⟩
        rw [before]
        exact Option.some_ne_none entry

private theorem account_tracking
    (account : Account policy surface identity start past spent state)
    (steady : Steady policy past state call) :
    Account policy surface identity start (past ++ [(state, call)]) spent
        (state.tracking policy call.identity call.now) ∧
      ∀ entry, (state.tracking policy call.identity call.now).identities.get? call.identity =
        some entry → (entry.bucket call.surface).lastRefill ≤ call.now := by
  unfold tracking
  by_cases known : state.identities.contains call.identity
  · rw [if_pos known]
    exact ⟨account.later _, steady.ordered⟩
  · rw [if_neg known]
    have absent : state.identities.get? call.identity = none := by
      simpa [contains] using known
    by_cases free : (state.reclaimed policy call.now).tracked < policy.maxTrackedIdentities
    · rw [if_pos free]
      refine ⟨account_entered account steady absent free, fun _ stored => ?_⟩
      rw [get?_insert_self] at stored
      cases stored
      rw [bucket_new]
      exact le_refl _
    · rw [if_neg free]
      have same := (reclaimed_cases account.room call.now).1 (not_lt.mp free)
      rw [same]
      exact ⟨account.later _, steady.ordered⟩

variable {stop : Instant}

/-- A call that counts: an admitted request of the identity, with a sample in the window. -/
def Counts (policy : RatePolicy) (surface : ApiRateSurface) (identity : Nat) (start stop : Instant)
    (state : RateState) (call : Call) : Bool :=
  decide (call.surface = surface) && decide (call.identity = identity) &&
    decide (start ≤ call.now) && decide (call.now ≤ stop) && state.admits policy call

private theorem tracked_replace (table : Table Nat IdentityBuckets) {other}
    (stored : table.get? other = some entry) (next : IdentityBuckets) :
    (mk (table.insert other next)).tracked = (mk table).tracked := by
  have counted := table.count_replace (fun _ _ => true) next stored
  simp only [count, List.countP_true] at counted
  show (table.insert other next).rows.length = table.rows.length
  omega

private theorem account_updated (account : Account policy surface identity start past spent state)
    (stored : state.identities.get? call.identity = some entry)
    (ordered : (entry.bucket call.surface).lastRefill ≤ call.now) {amount}
    (covers : identity = call.identity → surface = call.surface →
      (((entry.bucket call.surface).admitRequest (policy.bucket call.surface) call.now).1).Covers
        (policy.bucket surface) start amount)
    (otherwise : ¬ (identity = call.identity ∧ surface = call.surface) → amount = spent) :
    Account policy surface identity start past amount
      ⟨state.identities.insert call.identity ({ entry with lastSeen := call.now }.setBucket
        call.surface
        ((entry.bucket call.surface).admitRequest (policy.bucket call.surface) call.now).1)⟩ := by
  constructor
  case room => exact tracked_replace _ stored _ ▸ account.room
  case stored =>
    intro _ found
    rcases get?_insert_some found with ⟨rfl, rfl⟩ | ⟨other, found⟩
    · rw [bucket_updated]
      split_ifs with its
      · exact covers rfl its
      · rw [otherwise fun both => its both.2]
        exact account.stored _ stored
    · rw [otherwise fun both => other both.1]
      exact account.stored _ found
  case forgotten =>
    intro gone
    rw [get?_insert] at gone
    split_ifs at gone with different
    rw [otherwise fun both => different both.1]
    rcases account.forgotten gone with nothing | ⟨tracked, instant, early, paid, reached⟩
    · exact .inl nothing
    · refine .inr ⟨tracked, instant, early, paid, ?_⟩
      -- the bucket that was reached is still there, or was refilled later still
      obtain ⟨other, held, its, found, later⟩ := reached
      by_cases same : other = call.identity
      · subst same
        rw [stored] at found
        cases found
        refine ⟨call.identity, _, its, get?_insert_self .., ?_⟩
        rw [bucket_updated]
        split_ifs with which
        · subst which
          rw [TokenBucket.admitRequest_lastRefill]
          exact le_trans later ordered
        · exact later
      · exact ⟨other, held, its, by rw [get?_insert_ne _ _ same, found], later⟩

theorem RateState.perform_untracked
    (missing : (state.tracking policy call.identity call.now).identities.get? call.identity =
      none) :
    state.perform policy call = state.tracking policy call.identity call.now ∧
      state.admits policy call = false := by
  unfold perform admits checkAt
  dsimp only
  rw [missing]
  exact ⟨rfl, rfl⟩

theorem RateState.perform_tracked
    (stored : (state.tracking policy call.identity call.now).identities.get? call.identity =
      some entry) :
    state.perform policy call =
        ⟨(state.tracking policy call.identity call.now).identities.insert call.identity
          ({ entry with lastSeen := call.now }.setBucket call.surface
            ((entry.bucket call.surface).admitRequest (policy.bucket call.surface) call.now).1)⟩ ∧
      (state.admits policy call = true ↔
        ((entry.bucket call.surface).admitRequest (policy.bucket call.surface) call.now).2 =
          .ok ()) := by
  unfold perform admits checkAt
  dsimp only
  rw [stored]
  refine ⟨rfl, ?_⟩
  dsimp only
  cases ((entry.bucket call.surface).admitRequest (policy.bucket call.surface) call.now).2 with
  | ok => exact ⟨fun _ => rfl, fun _ => rfl⟩
  | error => exact ⟨fun refused => (nomatch refused), fun refused => (nomatch refused)⟩

/-- A call adds to what was spent if it counts, and the bound of the window is kept. -/
private theorem account_perform (account : Account policy surface identity start past spent state)
    (steady : Steady policy past state call)
    (bounded : spent ≤ (policy.bucket surface).burst +
      (policy.bucket surface).rate * (asSecs stop - asSecs start)) :
    Account policy surface identity start (past ++ [(state, call)])
        (spent + if Counts policy surface identity start stop state call then 1 else 0)
        (state.perform policy call) ∧
      (spent + if Counts policy surface identity start stop state call then 1 else 0) ≤
        (policy.bucket surface).burst +
          (policy.bucket surface).rate * (asSecs stop - asSecs start) := by
  obtain ⟨tracked, ordered⟩ := account_tracking account steady
  cases stored : (state.tracking _ call.identity call.now).identities.get? call.identity with
  | none =>
    obtain ⟨same, refused⟩ := perform_untracked stored
    have silent : Counts policy surface identity start stop state call = false := by
      rw [Counts, refused, Bool.and_false]
    rw [same, silent, if_neg Bool.false_ne_true, add_zero]
    exact ⟨tracked, bounded⟩
  | some entry =>
    specialize ordered entry stored
    obtain ⟨updated, admits⟩ := perform_tracked stored
    rw [updated]
    cases counts : Counts _ _ _ _ _ _ call with
    | true =>
      simp only [Counts, Bool.and_eq_true, decide_eq_true_eq, admits] at counts
      obtain ⟨⟨⟨⟨rfl, rfl⟩, inside⟩, before⟩, admitted⟩ := counts
      obtain ⟨covers, spends⟩ :=
        ((tracked.stored entry stored).admitRequest ordered).1 admitted inside
      refine ⟨account_updated tracked stored ordered (fun _ _ => covers)
        (fun other => absurd ⟨rfl, rfl⟩ other), le_trans spends ?_⟩
      have within := sub_le_sub_right (asSecs_le before) (asSecs start)
      have grows := mul_le_mul_of_nonneg_left within (policy.bucket call.surface).rate_nonneg
      linarith
    | false =>
      rw [if_neg Bool.false_ne_true, add_zero]
      refine ⟨account_updated tracked stored ordered ?_ (fun _ => rfl), bounded⟩
      rintro rfl rfl
      exact ((tracked.stored _ stored).admitRequest ordered).2

end Account

/-- How many requests of the identity a run admits with a sample in the window. -/
def admittedWithin (policy : RatePolicy) (surface : ApiRateSurface) (identity : Nat)
    (start stop : Instant) (calls : List Call) : Nat :=
  (trace (perform policy) .default calls).countP fun place =>
    Counts policy surface identity start stop place.1 place.2

private theorem account_run (policy : RatePolicy) (surface : ApiRateSurface) (identity : Nat)
    {start stop} (window : start ≤ stop) (calls : List Call)
    (steady : ∀ past state call future,
      trace (perform policy) .default calls = past ++ (state, call) :: future →
        Steady policy past state call) :
    (admittedWithin policy surface identity start stop calls : ℚ) ≤
      (policy.bucket surface).burst +
        (policy.bucket surface).rate * (asSecs stop - asSecs start) := by
  -- the account and the bound are carried over the places of the run together
  refine (trace_induction (motive := fun past (now : RateState) =>
    (∀ earlier state call later, past = earlier ++ (state, call) :: later →
        Steady policy earlier state call) →
      Account policy surface identity start past (past.countP fun place =>
        Counts policy surface identity start stop place.1 place.2 : ℕ) now ∧
      ((past.countP fun place =>
        Counts _ _ _ _ _ place.1 place.2 : ℕ) : ℚ) ≤
          (policy.bucket surface).burst +
            (policy.bucket surface).rate * (asSecs stop - asSecs start))
    ?_ ?_ _ steady).2
  · intro _
    refine ⟨account_default _ _ _ start, ?_⟩
    have long := mul_nonneg (policy.bucket surface).rate_nonneg
      (sub_nonneg.mpr (asSecs_le window))
    rw [List.countP_nil, Nat.cast_zero]
    linarith
  · intro past now call held steady
    have before := held fun earlier state other later split =>
      steady earlier state other (later ++ [(now, call)]) (by rw [split, List.append_assoc]; rfl)
    have last := steady past now call [] rfl
    have next := account_perform before.1 last before.2
    rw [List.countP_append, List.countP_singleton, Nat.cast_add, Nat.cast_ite]
    exact next

/-- In a run of steady calls no identity is admitted more often than its burst and the refills of
the window allow, also when it was forgotten in between. -/
theorem rate_bound (config : ApiRateLimitCfg) (surface : ApiRateSurface) (identity : Nat)
    (start : Instant) (length : Nat) (calls : List Call)
    (steady : ∀ past state call future,
      trace (RateState.perform (.ofConfig config)) .default calls = past ++ (state, call) :: future →
        Steady (.ofConfig config) past state call) :
    (admittedWithin (.ofConfig config) surface identity start (start + length) calls : ℚ) ≤
      ((RatePolicy.ofConfig config).bucket surface).burst +
        ((RatePolicy.ofConfig config).bucket surface).requestsPerSecond * asSecs length := by
  have window : start ≤ start + (length : Int) := le_add_of_nonneg_right (Int.natCast_nonneg _)
  have span : asSecs (start + length) - asSecs start = asSecs length := by
    unfold asSecs
    push_cast
    ring
  have bound := account_run (.ofConfig config) surface identity window _ steady
  rw [span] at bound
  exact bound

/-- No bucket is overdrawn, and none was refilled after its identity was last seen. -/
structure Settled (latest : Instant) (entry : IdentityBuckets) : Prop where
  seen : entry.lastSeen ≤ latest
  refilled : ∀ surface, (entry.bucket surface).lastRefill ≤ entry.lastSeen
  held : ∀ surface, 0 ≤ (entry.bucket surface).tokens

private theorem saturatingDurationSince_nonneg (now earlier : Instant) :
    0 ≤ asSecs (saturatingDurationSince now earlier) := by
  have nonneg := asSecs_le (le_max_right (now - earlier) 0)
  unfold saturatingDurationSince
  unfold asSecs at nonneg ⊢
  simpa using nonneg

private theorem TokenBucket.refill_held {bucket : TokenBucket} (policy : BucketPolicy)
    (now : Instant) (held : 0 ≤ bucket.tokens) : 0 ≤ (bucket.refill policy now).tokens := by
  have gained := mul_nonneg (saturatingDurationSince_nonneg now bucket.lastRefill)
    policy.rate_nonneg
  exact le_min (add_nonneg held gained) (Nat.cast_nonneg _)

private theorem TokenBucket.admitRequest_held {bucket : TokenBucket} (policy : BucketPolicy)
    (now : Instant) (held : 0 ≤ bucket.tokens) : 0 ≤ (bucket.admitRequest policy now).1.tokens := by
  have refilled := bucket.refill_held policy now held
  unfold admitRequest
  dsimp only
  split_ifs with enough
  · exact sub_nonneg.mpr enough
  · exact refilled

section Settled

variable {policy : RatePolicy} {latest : Instant}

private theorem Settled.later (settled : Settled latest entry) (later : latest ≤ now) :
    Settled now entry :=
  { settled with seen := le_trans settled.seen later }

private theorem settled_new (policy : RatePolicy) (now : Instant) : Settled now
    (.new policy now) where
  seen := le_refl _
  refilled := fun surface => by
    rw [bucket_new]
    exact le_refl _
  held := fun surface => by
    rw [bucket_new]
    exact Nat.cast_nonneg _

private theorem Settled.admitRequest (settled : Settled now entry) (surface : ApiRateSurface) :
    Settled now ({ entry with lastSeen := now }.setBucket surface
      ((entry.bucket surface).admitRequest (policy.bucket surface) now).1) := by
  have seen : ({ entry with lastSeen := now }.setBucket surface
      ((entry.bucket surface).admitRequest (policy.bucket surface) now).1).lastSeen = now := by
    cases surface <;> rfl
  constructor
  case seen => exact le_of_eq seen
  case refilled =>
    intro other
    rw [seen, bucket_updated]
    split_ifs
    · rw [TokenBucket.admitRequest_lastRefill]
    · exact le_trans (settled.refilled other) settled.seen
  case held =>
    intro other
    rw [bucket_updated]
    split_ifs
    · exact TokenBucket.admitRequest_held _ _ (settled.held surface)
    · exact settled.held other

private theorem settled_tracking (policy : RatePolicy)
    (settled : ∀ identity entry, state.identities.get? identity = some entry →
      Settled call.now entry) (identity : Nat) (entry : IdentityBuckets)
    (stored : (state.tracking policy call.identity call.now).identities.get? identity =
      some entry) : Settled call.now entry := by
  unfold tracking at stored
  split at stored
  · exact settled _ _ stored
  dsimp only at stored
  split at stored
  · exact forall_insert (P := fun _ => Settled call.now)
      (fun _ _ kept => settled _ _ (reclaimed_get? kept))
      (settled_new _ call.now) _ _ stored
  · exact settled _ _ (reclaimed_get? stored)

private theorem settled_perform
    (settled : ∀ identity entry, state.identities.get? identity = some entry →
      Settled call.now entry) (identity : Nat) (entry : IdentityBuckets)
    (stored : (state.perform policy call).identities.get? identity = some entry) :
    Settled call.now entry := by
  have tracked := settled_tracking policy settled
  cases known : (state.tracking _ call.identity call.now).identities.get? call.identity with
  | none =>
    rw [(perform_untracked known).1] at stored
    exact tracked _ _ stored
  | some _ =>
    rw [(perform_tracked known).1] at stored
    exact forall_insert tracked ((tracked _ _ known).admitRequest call.surface) _ _ stored

private theorem settled_run (policy : RatePolicy) (latest : Instant) {calls : List Call}
    (ordered : calls.Pairwise (·.now ≤ ·.now)) (earlier : ∀ call ∈ calls, call.now ≤ latest)
    (identity : Nat) (entry : IdentityBuckets)
    (stored : (calls.foldl (perform policy) .default).identities.get? identity =
      some entry) : Settled latest entry := by
  induction calls using List.reverseRecOn generalizing latest identity entry with
  | nil => cases stored
  | append_singleton calls call ih =>
    rw [List.pairwise_append] at ordered
    have before := ih call.now ordered.1
      fun _ member => ordered.2.2 _ member _ List.mem_cons_self
    rw [List.foldl_append] at stored
    have settled := settled_perform before _ _ stored
    exact settled.later (earlier _ (List.mem_append_right _ List.mem_cons_self))

private theorem settled_refilled (settled : Settled latest entry) (surface : ApiRateSurface)
    (enough : (policy.bucket surface).burst * nanosPerSecond ≤
      (policy.bucket surface).requestsPerSecond * policy.idleTtl)
    (idle : isIdle policy entry now) :
    ((entry.bucket surface).refill (policy.bucket surface) now).tokens =
      (policy.bucket surface).burst := by
  have since : (policy.idleTtl : Int) ≤
      saturatingDurationSince now (entry.bucket surface).lastRefill := by
    have long : (policy.idleTtl : Int) ≤ saturatingDurationSince now entry.lastSeen :=
      of_decide_eq_true idle
    have longer : now - entry.lastSeen ≤ now - (entry.bucket surface).lastRefill :=
      sub_le_sub_left (settled.refilled surface) now
    exact le_trans long (max_le_max_right 0 longer)
  have secs := asSecs_le since
  have gained := mul_le_mul_of_nonneg_right secs (policy.bucket surface).rate_nonneg
  have filled : ((policy.bucket surface).burst : ℚ) ≤
      asSecs policy.idleTtl * (policy.bucket surface).requestsPerSecond := by
    have cast : ((policy.bucket surface).burst : ℚ) * nanosPerSecond ≤
        (policy.bucket surface).requestsPerSecond * policy.idleTtl := by exact_mod_cast enough
    have positive : (0 : ℚ) < nanosPerSecond := by norm_num [nanosPerSecond]
    unfold asSecs
    rw [div_mul_eq_mul_div, le_div_iff₀ positive, mul_comm ((policy.idleTtl : Int) : ℚ)]
    exact_mod_cast cast
  refine min_eq_right ?_
  have held := settled.held surface
  unfold BucketPolicy.rate at gained
  linarith

end Settled

private theorem ordered_steady {policy}
    (enough : ∀ surface, (policy.bucket surface).burst * nanosPerSecond ≤
      (policy.bucket surface).requestsPerSecond * policy.idleTtl)
    {calls} (ordered : calls.Pairwise (·.now ≤ ·.now)) :
    ∀ past state call future,
      trace (perform policy) .default calls = past ++ (state, call) :: future →
        Steady policy past state call := by
  intro _ _ call _ split
  obtain ⟨first, _, rfl, -, rfl, -⟩ := trace_split split
  rw [List.pairwise_append] at ordered
  have settled := settled_run policy call.now ordered.1
    fun _ earlier => ordered.2.2 _ earlier _ List.mem_cons_self
  have refilled : ∀ identity entry,
      (first.foldl (perform policy) .default).identities.get? identity = some entry →
        ∀ surface, (entry.bucket surface).lastRefill ≤ call.now := fun identity entry stored its =>
    le_trans ((settled _ _ stored).refilled its) (settled _ _ stored).seen
  exact {
    ordered := fun entry stored => refilled call.identity _ stored call.surface
    newest := fun _ _ => refilled
    refilled := fun _ _ identity entry stored idle its =>
      settled_refilled (settled _ _ stored) its (enough its) idle }

/-- Whatever the identities and the clocks of the callers, the table keeps to its size. -/
theorem tracked_bounded (policy : RatePolicy) (calls : List Call) :
    (calls.foldl (RateState.perform policy) .default).tracked ≤ policy.maxTrackedIdentities := by
  refine foldl_induction (motive := fun state : RateState =>
    state.tracked ≤ policy.maxTrackedIdentities) (Nat.zero_le _) (fun state call room => ?_) calls
  have within : (state.tracking policy call.identity call.now).tracked ≤
      policy.maxTrackedIdentities := by
    unfold RateState.tracking
    dsimp only
    split_ifs with known free
    · exact room
    · exact (RateState.tracked_insert_le ..).trans free
    · rwa [(RateState.reclaimed_cases room call.now).1 (not_lt.mp free)]
  cases stored : (state.tracking policy call.identity call.now).identities.get? call.identity with
  | none => rwa [(RateState.perform_untracked stored).1]
  | some => rwa [(RateState.perform_tracked stored).1, tracked_replace _ stored]

/-- A configuration with one request a second and a burst of one. -/
def Sample.config : ApiRateLimitCfg :=
  { ApiRateLimitCfg.default with controlRequestsPerSecond := 1, controlBurst := 1 }

/-- Two seconds apart, both requests are admitted. -/
def Sample.calls : List Call := [⟨.control, 7, 1000000000⟩, ⟨.control, 7, 3000000000⟩]

theorem rate_bound_two_seconds :
    (admittedWithin (.ofConfig Sample.config) .control 7 1000000000 (1000000000 + (2000000000 : ℕ))
        Sample.calls : ℚ) ≤ 1 + 1 * asSecs (2000000000 : ℕ) ∧
      admittedWithin (.ofConfig Sample.config) .control 7 1000000000
        (1000000000 + (2000000000 : ℕ)) Sample.calls = 2 := by
  refine ⟨?_, by decide +kernel⟩
  have enough : ∀ surface, ((RatePolicy.ofConfig Sample.config).bucket surface).burst *
      nanosPerSecond ≤ ((RatePolicy.ofConfig Sample.config).bucket surface).requestsPerSecond *
        (RatePolicy.ofConfig Sample.config).idleTtl := by
    intro surface
    cases surface <;> decide +kernel
  have bound := rate_bound Sample.config .control 7 1000000000 2000000000 Sample.calls
    (ordered_steady enough (by decide +kernel))
  exact_mod_cast bound

/-- A sample that comes late sets the refill back, and the second between is refilled again. -/
def Sample.lateCalls : List Call :=
  [⟨.control, 7, 1000000000⟩, ⟨.control, 7, 0⟩, ⟨.control, 7, 1000000000⟩]

/-- Room for one identity, which may be forgotten before its four requests are refilled. -/
def Sample.crowdedConfig : ApiRateLimitCfg :=
  { ApiRateLimitCfg.default with
    controlRequestsPerSecond := 1, controlBurst := 4, maxTrackedIdentities := 1,
    identityIdleTtlSecs := 1 }

/-- Identity 8 takes the place of identity 7 for a second. -/
def Sample.crowdedCalls : List Call :=
  List.replicate 4 ⟨.control, 7, 0⟩ ++ [⟨.control, 8, 1000000000⟩] ++
    List.replicate 4 ⟨.control, 7, 2000000000⟩

theorem rate_bound_exceeded :
    (Sample.config.validate = .ok () ∧
      ¬ (admittedWithin (.ofConfig Sample.config) .control 7 1000000000 (1000000000 + (0 : ℕ))
          Sample.lateCalls : ℚ) ≤ 1 + 1 * asSecs (0 : ℕ)) ∧
    Sample.crowdedConfig.validate = .ok () ∧
      ¬ (admittedWithin (.ofConfig Sample.crowdedConfig) .control 7 0 (0 + (2000000000 : ℕ))
          Sample.crowdedCalls : ℚ) ≤ 4 + 1 * asSecs (2000000000 : ℕ) := by
  have late : admittedWithin (.ofConfig Sample.config) .control 7 1000000000
      (1000000000 + (0 : ℕ)) Sample.lateCalls = 2 := by decide +kernel
  have crowded : admittedWithin (.ofConfig Sample.crowdedConfig) .control 7 0
      (0 + (2000000000 : ℕ)) Sample.crowdedCalls = 8 := by decide +kernel
  rw [late, crowded]
  refine ⟨⟨by decide +kernel, ?_⟩, by decide +kernel, ?_⟩ <;> norm_num [asSecs, nanosPerSecond]

end Bridgefu.ApiRateLimit
