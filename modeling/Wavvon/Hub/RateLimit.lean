import Mathlib.Data.Rat.Cast.Order
import Wavvon.Outbound.Addresses
import Wavvon.Shared.Metering

set_option autoImplicit false

namespace Wavvon.RateLimit

open Std (ExtHashMap)
open Outbound (IpAddr Ipv4Addr Ipv6Addr)

deriving instance Hashable for Ipv4Addr, Ipv6Addr, IpAddr

-- Genuine IPv6 shares a bucket within a /64.
def canonicalizeIp : IpAddr → IpAddr
  | .v4 addr => .v4 addr
  | .v6 addr =>
    match addr.toIpv4Mapped with
    | some v4 => .v4 v4
    | none => .v6 { addr with s4 := 0, s5 := 0, s6 := 0, s7 := 0 }

-- Tokens are counted exactly, seconds too.
structure Config where
  burst : Nat
  refillPerSec : Rat
  deriving DecidableEq, Repr

def Config.AUTH : Config where
  burst := 10
  refillPerSec := 1

def Config.STICKER_FEDERATION : Config where
  burst := 60
  refillPerSec := 5

def Config.WRITE : Config where
  burst := 30
  refillPerSec := 10

structure Bucket where
  tokens : Rat
  lastRefill : Rat

abbrev Buckets := ExtHashMap IpAddr Bucket

structure Call where
  now : Rat
  ip : IpAddr

def bucketOf (config : Config) (buckets : Buckets) (key : IpAddr) (now : Rat) : Bucket :=
  buckets[key]?.getD { tokens := config.burst, lastRefill := now }

def refill (config : Config) (bucket : Bucket) (now : Rat) : Rat :=
  min (bucket.tokens + (now - bucket.lastRefill) * config.refillPerSec) config.burst

-- Opportunistic cleanup, so that the map does not grow for idle addresses.
def cleanUp (buckets : Buckets) (now : Rat) : Buckets :=
  if 10000 < buckets.size then buckets.filter fun _ bucket => decide (now - bucket.lastRefill < 600) else buckets

def check (config : Config) (buckets : Buckets) (call : Call) : Buckets × Bool :=
  let key := canonicalizeIp call.ip
  let tokens := refill config (bucketOf config buckets key call.now) call.now
  if 1 ≤ tokens then
    (cleanUp (buckets.insert key { tokens := tokens - 1, lastRefill := call.now }) call.now, true)
  else (buckets.insert key { tokens := tokens, lastRefill := call.now }, false)

-- How many tokens an address has; one that is not in the map has them all.
def level (config : Config) (key : IpAddr) (buckets : Buckets) (now : Rat) : Rat :=
  refill config (bucketOf config buckets key now) now

def meter (config : Config) (key : IpAddr) : Metering.Meter Buckets Call Rat where
  step buckets call := (check config buckets call).1
  time := Call.now
  spends buckets call := decide (canonicalizeIp call.ip = key) && (check config buckets call).2
  level := level config key

-- The allowed calls of a canonical address in a window, from an empty map on.
def allowedIn (config : Config) (key : IpAddr) (start stop : Rat) (history : List Call) : Nat :=
  (meter config key).spentIn start stop ∅ history

def InOrder (history : List Call) : Prop := history.Pairwise fun earlier later => earlier.now ≤ later.now

/-- No address gets more through, in any window, than the burst and what refills meanwhile. -/
def Enforces (config : Config) : Prop :=
  ∀ (history : List Call) (key : IpAddr) (start stop : Rat), InOrder history → start ≤ stop →
    (allowedIn config key start stop history : Rat) ≤ config.burst + config.refillPerSec * (stop - start)

/-- Buckets as the calls up to now have left them. -/
def Valid (config : Config) (buckets : Buckets) (now : Rat) : Prop :=
  ∀ (key : IpAddr) (bucket : Bucket), buckets[key]? = some bucket → 0 ≤ bucket.tokens ∧
    bucket.tokens ≤ config.burst ∧ bucket.lastRefill ≤ now

section

variable {config : Config} {key : IpAddr} {buckets : Buckets} {now later : Rat}

theorem level_absent (absent : buckets[key]? = none) : level config key buckets now = config.burst := by
  simp [level, bucketOf, refill, absent]

theorem level_found {bucket : Bucket} (found : buckets[key]? = some bucket) :
    level config key buckets now = refill config bucket now := by
  rw [level, bucketOf, found, Option.getD_some]

theorem refill_now {tokens : Rat} (small : tokens ≤ config.burst) :
    refill config { tokens := tokens, lastRefill := now } now = tokens := by
  simp [refill, small]

theorem level_le : level config key buckets now ≤ config.burst := min_le_right _ _

theorem level_nonneg (positive : 0 < config.refillPerSec) (valid : Valid config buckets now) :
    0 ≤ level config key buckets now := by
  cases found : buckets[key]? with
  | none =>
    rw [level_absent found]
    exact Nat.cast_nonneg _
  | some bucket =>
    obtain ⟨tokens, -, past⟩ := valid key bucket found
    rw [level_found found]
    refine le_min ?_ (Nat.cast_nonneg _)
    have refilled := mul_nonneg (sub_nonneg.mpr past) positive.le
    linarith

theorem level_grows (positive : 0 < config.refillPerSec) (waited : now ≤ later) :
    level config key buckets later ≤ level config key buckets now + config.refillPerSec * (later - now) := by
  have gained := mul_nonneg positive.le (sub_nonneg.mpr waited)
  cases found : buckets[key]? with
  | none =>
    rw [level_absent found, level_absent found]
    linarith
  | some bucket =>
    rw [level_found found, level_found found]
    unfold refill
    rcases le_total (bucket.tokens + (now - bucket.lastRefill) * config.refillPerSec) config.burst with room | full
    · rw [min_eq_left room]
      refine (min_le_left _ _).trans (le_of_eq ?_)
      ring
    · rw [min_eq_right full]
      have most := min_le_right (bucket.tokens + (later - bucket.lastRefill) * config.refillPerSec) (config.burst : Rat)
      linarith

theorem valid_later (valid : Valid config buckets now) (waited : now ≤ later) : Valid config buckets later := by
  intro other bucket found
  obtain ⟨tokens, small, past⟩ := valid other bucket found
  exact ⟨tokens, small, past.trans waited⟩

theorem cleanUp_getElem? (buckets : Buckets) (now : Rat) (key : IpAddr) :
    (cleanUp buckets now)[key]? = buckets[key]? ∨
      (cleanUp buckets now)[key]? = none ∧ ∃ bucket, buckets[key]? = some bucket ∧ 600 ≤ now - bucket.lastRefill := by
  unfold cleanUp
  split
  next =>
    rw [ExtHashMap.getElem?_filter']
    cases found : buckets[key]? with
    | none => exact .inl rfl
    | some bucket =>
      rw [Option.filter_some]
      split
      next => exact .inl rfl
      next idle => exact .inr ⟨rfl, bucket, rfl, not_lt.mp (by simpa using idle)⟩
  next => exact .inl rfl

-- A bucket that is dropped after ten minutes would have been full again.
theorem level_cleanUp (enough : (config.burst : Rat) ≤ 600 * config.refillPerSec) (positive : 0 < config.refillPerSec)
    (valid : Valid config buckets now) : level config key (cleanUp buckets now) now = level config key buckets now := by
  rcases cleanUp_getElem? buckets now key with same | ⟨gone, bucket, found, idle⟩
  · rw [level, bucketOf, same]
    rfl
  · obtain ⟨tokens, -, -⟩ := valid key bucket found
    rw [level_absent gone, level_found found]
    refine (min_eq_right ?_).symm
    have refilled := mul_le_mul_of_nonneg_right idle positive.le
    linarith

theorem valid_insert {tokens : Rat} (valid : Valid config buckets now) (other : IpAddr) (nonneg : 0 ≤ tokens)
    (small : tokens ≤ config.burst) : Valid config (buckets.insert other { tokens := tokens, lastRefill := now }) now := by
  intro mine bucket found
  rw [ExtHashMap.getElem?_insert] at found
  split at found
  next =>
    obtain rfl := Option.some.inj found
    exact ⟨nonneg, small, le_refl _⟩
  next => exact valid mine bucket found

theorem valid_cleanUp (valid : Valid config buckets now) : Valid config (cleanUp buckets now) now := by
  intro mine bucket found
  rcases cleanUp_getElem? buckets now mine with same | ⟨gone, -⟩
  · exact valid mine bucket (same ▸ found)
  · rw [gone] at found
    cases found

theorem level_insert {tokens : Rat} (small : tokens ≤ config.burst) (other : IpAddr) :
    level config key (buckets.insert other { tokens := tokens, lastRefill := now }) now =
      if other = key then tokens else level config key buckets now := by
  rw [level, bucketOf, ExtHashMap.getElem?_insert]
  by_cases own : other = key
  · rw [if_pos own, if_pos (by simpa using own), Option.getD_some, refill_now small]
  · rw [if_neg own, if_neg (by simpa using own)]
    rfl

variable {call : Call}

theorem check_enough (enough : 1 ≤ level config (canonicalizeIp call.ip) buckets call.now) :
    check config buckets call =
      (cleanUp (buckets.insert (canonicalizeIp call.ip)
        { tokens := level config (canonicalizeIp call.ip) buckets call.now - 1, lastRefill := call.now }) call.now,
        true) :=
  if_pos enough

theorem check_short (short : ¬ 1 ≤ level config (canonicalizeIp call.ip) buckets call.now) :
    check config buckets call =
      (buckets.insert (canonicalizeIp call.ip)
        { tokens := level config (canonicalizeIp call.ip) buckets call.now, lastRefill := call.now }, false) :=
  if_neg short

-- The bucket that a call has just paid from is not idle.
theorem level_paid {tokens : Rat} (small : tokens ≤ config.burst) :
    level config key (cleanUp (buckets.insert key { tokens := tokens, lastRefill := now }) now) now = tokens := by
  have paid : level config key (buckets.insert key { tokens := tokens, lastRefill := now }) now = tokens :=
    (level_insert small key).trans (if_pos rfl)
  rcases cleanUp_getElem? (buckets.insert key { tokens := tokens, lastRefill := now }) now key with same | ⟨-,
    bucket, found, idle⟩
  · rw [level, bucketOf, same]
    exact paid
  · rw [ExtHashMap.getElem?_insert_self] at found
    obtain rfl := Option.some.inj found
    simp at idle
    norm_num at idle

theorem level_own (own : canonicalizeIp call.ip = key) :
    level config key (check config buckets call).1 call.now + (if (check config buckets call).2 = true then 1 else 0) =
      level config key buckets call.now := by
  subst own
  have most : level config (canonicalizeIp call.ip) buckets call.now ≤ config.burst := level_le
  by_cases enough : 1 ≤ level config (canonicalizeIp call.ip) buckets call.now
  · rw [check_enough enough, if_pos rfl, level_paid (by linarith)]
    ring
  · rw [check_short enough, if_neg Bool.false_ne_true, level_insert most, if_pos rfl, add_zero]

theorem valid_check (positive : 0 < config.refillPerSec) (valid : Valid config buckets call.now) :
    Valid config (check config buckets call).1 call.now := by
  have least : 0 ≤ level config (canonicalizeIp call.ip) buckets call.now := level_nonneg positive valid
  have most : level config (canonicalizeIp call.ip) buckets call.now ≤ config.burst := level_le
  by_cases enough : 1 ≤ level config (canonicalizeIp call.ip) buckets call.now
  · rw [check_enough enough]
    exact valid_cleanUp (valid_insert valid _ (by linarith) (by linarith))
  · rw [check_short enough]
    exact valid_insert valid _ least most

-- A call of another address leaves the level alone, whatever it cleans up.
theorem level_other (enough : (config.burst : Rat) ≤ 600 * config.refillPerSec) (positive : 0 < config.refillPerSec)
    (valid : Valid config buckets call.now) (other : canonicalizeIp call.ip ≠ key) :
    level config key (check config buckets call).1 call.now = level config key buckets call.now := by
  have least : 0 ≤ level config (canonicalizeIp call.ip) buckets call.now := level_nonneg positive valid
  have most : level config (canonicalizeIp call.ip) buckets call.now ≤ config.burst := level_le
  by_cases room : 1 ≤ level config (canonicalizeIp call.ip) buckets call.now
  · have small : level config (canonicalizeIp call.ip) buckets call.now - 1 ≤ config.burst := by linarith
    rw [check_enough room, level_cleanUp enough positive (valid_insert valid _ (by linarith) small), level_insert small,
      if_neg other]
  · rw [check_short room, level_insert most, if_neg other]

theorem meter_bounded (enough : (config.burst : Rat) ≤ 600 * config.refillPerSec) (positive : 0 < config.refillPerSec)
    (key : IpAddr) : (meter config key).Bounded (config.burst : Rat) config.refillPerSec (Valid config) where
  nonneg _ _ valid := level_nonneg positive valid
  full _ _ _ := level_le
  grows _ _ _ _ waited := level_grows positive waited
  waits _ _ _ valid waited := valid_later valid waited
  keeps _ _ valid := valid_check positive valid
  takes := by
    intro buckets call valid
    change level config key (check config buckets call).1 call.now +
      (if (decide (canonicalizeIp call.ip = key) && (check config buckets call).2) = true then 1 else 0) ≤
        level config key buckets call.now
    by_cases own : canonicalizeIp call.ip = key
    · simp only [own, decide_true, Bool.true_and]
      exact (level_own own).le
    · simp only [own, decide_false, Bool.false_and, Bool.false_eq_true, if_false, add_zero]
      exact (level_other enough positive valid own).le

end

-- The first call of a history sets the clock.
theorem ordered_of_inOrder {history : List Call} (inOrder : InOrder history) {now : Rat}
    (late : ∀ call ∈ history, now ≤ call.now) : Metering.Ordered Call.now now history := by
  induction history generalizing now with
  | nil => trivial
  | cons call rest ih =>
    obtain ⟨first, inOrder⟩ := List.pairwise_cons.mp inOrder
    exact ⟨late call List.mem_cons_self, ih inOrder first⟩

theorem enforces_of_enough {config : Config} (positive : 0 < config.refillPerSec)
    (enough : (config.burst : Rat) ≤ 600 * config.refillPerSec) : Enforces config := by
  intro history key start stop inOrder window
  have empty : ∀ now, Valid config ∅ now := by
    intro now key bucket found
    simp at found
  cases history with
  | nil => exact (meter_bounded enough positive key).spentIn_le positive.le window (empty 0) trivial
  | cons call rest =>
    refine (meter_bounded enough positive key).spentIn_le positive.le window (empty call.now) ?_
    exact ordered_of_inOrder inOrder (List.forall_mem_cons.mpr ⟨le_refl _, (List.pairwise_cons.mp inOrder).1⟩)

def nthAddr (n : Nat) : IpAddr := .v4 { octets := (1, 0, BitVec.ofNat 8 (n / 256), BitVec.ofNat 8 n) }

theorem nthAddr_inj {n m : Nat} (smallN : n < 65536) (smallM : m < 65536) (same : nthAddr n = nthAddr m) : n = m := by
  simp only [nthAddr, IpAddr.v4.injEq, Ipv4Addr.mk.injEq, Prod.mk.injEq, true_and] at same
  have high := congrArg BitVec.toNat same.1
  have low := congrArg BitVec.toNat same.2
  simp only [BitVec.toNat_ofNat] at high low
  omega

-- One address spends its burst, ten thousand others call, and it spends its burst again.
def rush (config : Config) (now : Rat) : List Call := List.replicate config.burst { now := now, ip := nthAddr 0 }

def crowd (n : Nat) : List Call := (List.range n).map fun i => { now := 600, ip := nthAddr (i + 1) }

def comeback (config : Config) : List Call := rush config 0 ++ (crowd 10000 ++ rush config 600)

section

variable {config : Config} {buckets : Buckets}

theorem cleanUp_small {now : Rat} (small : buckets.size ≤ 10000) : cleanUp buckets now = buckets :=
  if_neg (by omega)

theorem rush_spends {key : IpAddr} {call : Call} (own : canonicalizeIp call.ip = key) {start stop : Rat}
    (opened : start ≤ call.now) (within : call.now ≤ stop) (k : Nat)
    (enough : (k : Rat) ≤ level config key buckets call.now) :
    (meter config key).spentIn start stop buckets (List.replicate k call) = k := by
  induction k generalizing buckets with
  | zero => rfl
  | succ k ih =>
    push_cast at enough
    have first : 1 ≤ level config key buckets call.now := by
      have nonneg : (0 : Rat) ≤ k := Nat.cast_nonneg k
      linarith
    have allowed : (check config buckets call).2 = true := by
      rw [check_enough (own ▸ first)]
    have left : level config key (check config buckets call).1 call.now + 1 = level config key buckets call.now := by
      have paid := @level_own config key buckets call own
      rwa [if_pos allowed] at paid
    have rest := @ih (check config buckets call).1 (by linarith)
    rw [List.replicate_succ, Metering.Meter.spentIn, if_pos ⟨opened, within, by simp [meter, own, allowed]⟩]
    change 1 + (meter config key).spentIn start stop (check config buckets call).1 (List.replicate k call) = k + 1
    rw [rest, Nat.add_comm]

/-- After the rush, and while the crowd comes: `n` others are in the map, and the first address is. -/
structure Crowded (n : Nat) (buckets : Buckets) : Prop where
  size : buckets.size = n + 1
  first : ∃ bucket : Bucket, buckets[nthAddr 0]? = some bucket ∧ bucket.lastRefill = 0
  unseen : ∀ m, n < m → m < 65536 → buckets[nthAddr m]? = none

-- A small map only gains the bucket of the caller.
theorem check_small (call : Call) (small : buckets.size < 10000) :
    ∃ tokens, (check config buckets call).1 =
      buckets.insert (canonicalizeIp call.ip) { tokens := tokens, lastRefill := call.now } := by
  by_cases enough : 1 ≤ level config (canonicalizeIp call.ip) buckets call.now
  · rw [check_enough enough]
    refine ⟨_, cleanUp_small ?_⟩
    rw [ExtHashMap.size_insert]
    split <;> omega
  · exact ⟨_, congrArg Prod.fst (check_short enough)⟩

theorem nthAddr_apart {n m : Nat} (smallN : n < 65536) (smallM : m < 65536) (apart : n ≠ m) (bucket : Bucket) :
    (buckets.insert (nthAddr n) bucket)[nthAddr m]? = buckets[nthAddr m]? := by
  rw [ExtHashMap.getElem?_insert, if_neg]
  simpa using fun same => apart (nthAddr_inj smallN smallM same)

theorem rush_stays (crowded : Crowded 0 buckets) (k : Nat) :
    Crowded 0 (Runs.run (meter config (nthAddr 0)).step buckets (List.replicate k { now := 0, ip := nthAddr 0 })) := by
  induction k generalizing buckets with
  | zero => exact crowded
  | succ k ih =>
    rw [List.replicate_succ, Runs.run_cons]
    refine ih ?_
    obtain ⟨size, ⟨bucket, found, _⟩, unseen⟩ := crowded
    have small : buckets.size < 10000 := by omega
    obtain ⟨tokens, same⟩ := @check_small config _ { now := 0, ip := nthAddr 0 } small
    change Crowded 0 (check config buckets { now := 0, ip := nthAddr 0 }).1
    rw [same]
    refine ⟨?_, ⟨_, ExtHashMap.getElem?_insert_self, rfl⟩, ?_⟩
    · have inside : nthAddr 0 ∈ buckets := ExtHashMap.mem_iff_isSome_getElem?.mpr (by rw [found]; rfl)
      rw [ExtHashMap.size_insert]
      exact (if_pos inside).trans size
    · intro m positive small
      exact (nthAddr_apart (by omega) small (by omega) _).trans (unseen m positive small)

theorem rush_crowds (burst : 1 ≤ config.burst) : Crowded 0 (Runs.run (meter config (nthAddr 0)).step ∅ (rush config 0)) := by
  obtain ⟨k, more⟩ : ∃ k, config.burst = k + 1 := ⟨config.burst - 1, by omega⟩
  obtain ⟨tokens, same⟩ := @check_small config ∅ { now := 0, ip := nthAddr 0 } (by simp)
  rw [rush, more, List.replicate_succ, Runs.run_cons]
  refine rush_stays ?_ k
  change Crowded 0 (check config ∅ { now := 0, ip := nthAddr 0 }).1
  rw [same]
  refine ⟨?_, ⟨_, ExtHashMap.getElem?_insert_self, rfl⟩, ?_⟩
  · simp [ExtHashMap.size_insert]
  · intro m positive small
    exact (nthAddr_apart (by omega) small (by omega) _).trans (by simp)

theorem crowd_succ (n : Nat) : crowd (n + 1) = crowd n ++ [{ now := 600, ip := nthAddr (n + 1) }] := by
  simp [crowd, List.range_succ]

theorem crowd_grows (crowded : Crowded 0 buckets) (n : Nat) (few : n < 10000) :
    Crowded n (Runs.run (meter config (nthAddr 0)).step buckets (crowd n)) := by
  induction n with
  | zero => exact crowded
  | succ n ih =>
    obtain ⟨size, ⟨bucket, found, old⟩, unseen⟩ := ih (by omega)
    rw [crowd_succ, Runs.run_append]
    generalize Runs.run (meter config (nthAddr 0)).step buckets (crowd n) = grown at size found unseen ⊢
    obtain ⟨tokens, same⟩ := @check_small config grown { now := 600, ip := nthAddr (n + 1) } (by omega)
    change Crowded (n + 1) (check config grown { now := 600, ip := nthAddr (n + 1) }).1
    rw [same]
    have fresh : nthAddr (n + 1) ∉ grown := by
      rw [ExtHashMap.mem_iff_isSome_getElem?, unseen (n + 1) (by omega) (by omega)]
      exact Bool.false_ne_true
    refine ⟨?_, ⟨bucket, ?_, old⟩, ?_⟩
    · rw [ExtHashMap.size_insert]
      exact (if_neg fresh).trans (congrArg (· + 1) size)
    · exact (nthAddr_apart (by omega) (by omega) (by omega) _).trans found
    · intro m later small
      exact (nthAddr_apart (by omega) small (by omega) _).trans (unseen m (by omega) small)

-- The last of the crowd has the first address forgotten.
theorem last_forgets (burst : 1 ≤ config.burst) {n : Nat} (full : n = 9999) (crowded : Crowded n buckets) :
    (check config buckets { now := 600, ip := nthAddr (n + 1) }).1[nthAddr 0]? = none := by
  obtain ⟨size, ⟨bucket, found, old⟩, unseen⟩ := crowded
  have absent := unseen (n + 1) (by omega) (by omega)
  have fresh : nthAddr (n + 1) ∉ buckets := by
    rw [ExtHashMap.mem_iff_isSome_getElem?, absent]
    exact Bool.false_ne_true
  have own : canonicalizeIp (nthAddr (n + 1)) = nthAddr (n + 1) := rfl
  have enough : 1 ≤ level config (canonicalizeIp (nthAddr (n + 1))) buckets 600 := by
    rw [own, level_absent absent]
    exact_mod_cast burst
  have grown (bucket : Bucket) : 10000 < (buckets.insert (nthAddr (n + 1)) bucket).size := by
    rw [ExtHashMap.size_insert, if_neg fresh, size]
    omega
  have idle : ¬ decide ((600 : Rat) - bucket.lastRefill < 600) = true := by
    rw [old]
    norm_num
  rw [@check_enough config buckets { now := 600, ip := nthAddr (n + 1) } enough]
  change (cleanUp (buckets.insert (nthAddr (n + 1)) _) 600)[nthAddr 0]? = none
  rw [cleanUp, if_pos (grown _), ExtHashMap.getElem?_filter', nthAddr_apart (by omega) (by omega) (by omega), found,
    Option.filter_some, if_neg idle]

theorem crowd_forgets (burst : 1 ≤ config.burst) (crowded : Crowded 0 buckets) {n : Nat} (full : n = 9999) :
    (Runs.run (meter config (nthAddr 0)).step buckets (crowd (n + 1)))[nthAddr 0]? = none := by
  rw [crowd_succ, Runs.run_append]
  exact last_forgets burst full (crowd_grows crowded n (by omega))

theorem comeback_inOrder : InOrder (comeback config) := by
  have together : ∀ (now : Rat) (calls : List Call), (∀ call ∈ calls, call.now = now) → InOrder calls := by
    intro now calls same
    refine List.pairwise_of_forall_mem_list ?_
    intro first inside second inside'
    rw [same first inside, same second inside']
  have now : ∀ instant, ∀ call ∈ rush config instant, call.now = instant := by
    intro instant call inside
    rw [List.eq_of_mem_replicate inside]
  have late : ∀ call ∈ crowd 10000 ++ rush config 600, call.now = 600 := by
    intro call inside
    rcases List.mem_append.mp inside with there | back
    · obtain ⟨i, -, rfl⟩ := List.mem_map.mp there
      rfl
    · exact now 600 call back
  refine List.pairwise_append.mpr ⟨together 0 _ (now 0), together 600 _ late, ?_⟩
  intro first early second inside
  rw [now 0 first early, late second inside]
  norm_num

theorem comeback_allowed (burst : 1 ≤ config.burst) :
    2 * config.burst ≤ allowedIn config (nthAddr 0) 0 600 (comeback config) := by
  have window : (0 : Rat) ≤ 600 := by norm_num
  have rushes : ∀ (instant : Rat) (found : Buckets), 0 ≤ instant → instant ≤ 600 → found[nthAddr 0]? = none →
      (meter config (nthAddr 0)).spentIn 0 600 found (rush config instant) = config.burst := by
    intro instant found opened within absent
    exact @rush_spends config found (nthAddr 0) { now := instant, ip := nthAddr 0 } rfl 0 600 opened within config.burst
      (level_absent absent).ge
  have first := rushes 0 ∅ (le_refl 0) window (by simp)
  have second := rushes 600 _ window (le_refl 600) (crowd_forgets burst (rush_crowds burst) rfl)
  rw [allowedIn, comeback, Metering.Meter.spentIn_append, Metering.Meter.spentIn_append, first, second]
  omega

-- An address that is forgotten too early spends its burst twice in ten minutes.
theorem enough_of_enforces (burst : 1 ≤ config.burst) (enforces : Enforces config) :
    (config.burst : Rat) ≤ 600 * config.refillPerSec := by
  have bound := enforces (comeback config) (nthAddr 0) 0 600 comeback_inOrder (by norm_num)
  have twice : ((2 * config.burst : Nat) : Rat) ≤ allowedIn config (nthAddr 0) 0 600 (comeback config) := by
    exact_mod_cast comeback_allowed burst
  push_cast at twice
  linarith

end

/-- The limiter enforces its rate exactly when ten minutes are enough to refill a bucket. -/
theorem enforces_iff (config : Config) (burst : 1 ≤ config.burst) (positive : 0 < config.refillPerSec) :
    Enforces config ↔ (config.burst : Rat) ≤ 600 * config.refillPerSec :=
  ⟨enough_of_enforces burst, enforces_of_enough positive⟩

theorem enforces_iff_auth : Enforces Config.AUTH ↔ (Config.AUTH.burst : Rat) ≤ 600 * Config.AUTH.refillPerSec :=
  enforces_iff Config.AUTH (by decide) (by norm_num [Config.AUTH])

-- What `auth` makes of WAVVON_AUTH_RATE_BURST=100 and WAVVON_AUTH_RATE_PER_SEC=0.1.
def shared : Config where
  burst := 100
  refillPerSec := 1 / 10

theorem shared_overrun : ¬ ∀ config : Config, 1 ≤ config.burst → 0 < config.refillPerSec → Enforces config := by
  intro always
  have enough := enough_of_enforces (by decide) (always shared (by decide) (by norm_num [shared]))
  norm_num [shared] at enough

end Wavvon.RateLimit
