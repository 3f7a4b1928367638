import Wavvon.Farm.Supervision

set_option autoImplicit false

namespace Wavvon.Farm

section

variable {config : FarmConfig} {s : Fleet} {act : FarmStep} {hubId : String}

theorem hears_effect {now : Int} {payload : HeartbeatPayload}
    (heard : (FarmStep.heartbeat now payload).hears config s hubId = true) :
    ∃ (pubkey : String) (row : FleetRow) (beat : Heartbeat),
      ((FarmStep.heartbeat now payload).next config s).hubs[hubId]? = some row ∧ row.hubPubkey = some pubkey ∧
      ((FarmStep.heartbeat now payload).next config s).heartbeats[pubkey]? = some beat ∧ beat.lastSeenAt = now := by
  obtain ⟨answered, named⟩ := Bool.and_eq_true_iff.mp heard
  obtain ⟨row, found, own⟩ := (Option.any_eq_true _ _).mp named
  obtain ⟨-, other⟩ | ⟨pubkey, claimed, heard, -, after⟩ := receiveHeartbeat_cases config.farmUrl now s payload
  · exact absurd (of_decide_eq_true answered) other
  · refine ⟨pubkey, row, heardAt now payload, found, (of_decide_eq_true own).trans heard.stated, ?_, rfl⟩
    show (receiveHeartbeat config.farmUrl now s payload).1.heartbeats[pubkey]? = _
    rw [after, Std.ExtTreeMap.getElem?_insert_self]

-- A heartbeat that is not from the hub of a row leaves the row alone.
theorem unheard_row {now : Int} {payload : HeartbeatPayload}
    (unheard : (FarmStep.heartbeat now payload).hears config s hubId = false) :
    ((FarmStep.heartbeat now payload).next config s).hubs[hubId]? = s.hubs[hubId]? := by
  show (receiveHeartbeat config.farmUrl now s payload).1.hubs[hubId]? = _
  obtain ⟨same, -⟩ | ⟨pubkey, claimed, heard, answered, after⟩ := receiveHeartbeat_cases config.farmUrl now s payload
  · rw [same]
  · have foreign : ∀ row, (receiveHeartbeat config.farmUrl now s payload).1.hubs[hubId]? = some row →
        row.hubPubkey ≠ some pubkey := by
      intro row found own
      refine absurd unheard (Bool.not_eq_false _ ▸ ?_)
      refine Bool.and_eq_true_iff.mpr ⟨decide_eq_true answered, (Option.any_eq_true _ _).mpr ⟨row, found, ?_⟩⟩
      exact decide_eq_true (own.trans heard.stated.symm)
    rw [after, Std.ExtTreeMap.getElem?_map] at foreign ⊢
    obtain kept | ⟨row, found, -, bound⟩ := heard.row hubId
    · rw [kept] at foreign ⊢
      cases found : s.hubs[hubId]? with
      | none => rfl
      | some row =>
        rw [found, Option.map_some] at foreign
        have other := foreign _ rfl
        rw [clearAttempts_key] at other
        rw [Option.map_some, clearAttempts_other other]
    · rw [bound, Option.map_some] at foreign
      exact absurd (clearAttempts_key pubkey { row with hubPubkey := some pubkey }) (foreign _ rfl)

-- Attempts are never negative: a column that starts at 0 and is set to 0 or counted up.
def Counted (s : Fleet) : Prop := ∀ (hubId : String) (row : FleetRow), s.hubs[hubId]? = some row →
    0 ≤ row.restartAttempts

theorem next_counted (counted : Counted s) (act : FarmStep) : Counted (act.next config s) := by
  intro hubId row found
  cases act with
  | pass now world =>
    by_cases visited : hubId ∈ (tick config world now s).2.map (·.hubId)
    next =>
      obtain ⟨v, listed, rfl⟩ := List.mem_map.mp visited
      obtain ⟨row', changed, touched⟩ := tick_visited listed
      obtain rfl := Option.some.inj (touched.after.symm.trans found)
      exact Int.le_trans (counted v.hubId row' touched.before) touched.advances.attempts
    next => exact counted hubId row ((tick_unvisited visited).symm.trans found)
  | heartbeat now payload =>
    cases stored : s.hubs[hubId]? with
    | none => exact absurd (found.symm.trans (heartbeat_absent stored)) (Option.some_ne_none row)
    | some row' =>
      obtain ⟨changed, left, heard⟩ := heartbeat_row config.farmUrl now payload stored
      obtain rfl := Option.some.inj (left.symm.trans found)
      rcases heard.attempts with same | zero
      · exact same ▸ counted hubId row' stored
      · exact zero ▸ Int.le_refl 0

/-- A restart that is issued, as it changed the row. -/
structure Restarted (now : Int) (row changed : FleetRow) : Prop where
  few : row.restartAttempts < MAX_ATTEMPTS
  waited : ∀ t, row.lastRestartAt = some t → min (10 * 2 ^ row.restartAttempts.toNat) 300 ≤ now - t
  attempts : changed.restartAttempts = row.restartAttempts + 1
  last : changed.lastRestartAt = some now

theorem restarts_effect (issued : act.restarts config s hubId = true) :
    ∃ (row changed : FleetRow), s.hubs[hubId]? = some row ∧ (act.next config s).hubs[hubId]? = some changed ∧
      effectiveLastSeen s row + OFFLINE_THRESHOLD_SECS ≤ act.now ∧ Restarted act.now row changed := by
  cases act with
  | heartbeat now payload => cases issued
  | pass now world =>
    obtain ⟨v, listed, marked⟩ := List.any_eq_true.mp issued
    obtain ⟨own, sent⟩ := Bool.and_eq_true_iff.mp marked
    obtain rfl := of_decide_eq_true own
    obtain ⟨row, changed, touched⟩ := tick_visited listed
    have restarts := touched.issue (Visit.issue_of_issued sent)
    have due := due_of_restart (restarts ▸ touched.decision)
    obtain ⟨attempts, last⟩ := touched.settles.counted restarts
    exact ⟨row, changed, touched.before, touched.after, due.stale, due.few, due.waited, attempts, last⟩

-- A step of a stretch without a heartbeat of the hub.
theorem unheard_advances {row : FleetRow} (unheard : act.hears config s hubId = false)
    (found : s.hubs[hubId]? = some row) :
    ∃ (changed : FleetRow), (act.next config s).hubs[hubId]? = some changed ∧ Advances row changed := by
  cases act with
  | heartbeat now payload => exact ⟨row, (unheard_row unheard).trans found, .rfl⟩
  | pass now world =>
    obtain ⟨changed, left, -, advances⟩ := tick_row config world now found
    exact ⟨changed, left, advances⟩

theorem unheard_absent (unheard : act.hears config s hubId = false) (absent : s.hubs[hubId]? = none) :
    (act.next config s).hubs[hubId]? = none := by
  cases act with
  | heartbeat now payload => exact (unheard_row unheard).trans absent
  | pass now world =>
    refine (tick_unvisited ?_).trans absent
    intro visited
    obtain ⟨v, listed, rfl⟩ := List.mem_map.mp visited
    obtain ⟨row, changed, touched⟩ := tick_visited listed
    exact Option.some_ne_none row (touched.before.symm.trans absent)

theorem backoff_mono {m n : Nat} (later : m ≤ n) : min (10 * (2 : Int) ^ m) 300 ≤ min (10 * 2 ^ n) 300 := by
  have power : (2 : Int) ^ m ≤ 2 ^ n := pow_le_pow_right₀ (by decide) later
  omega

/-- The restarts of a stretch, after `k` that were counted before and the last of them. -/
structure Paced (k : Nat) (last : Option Int) (times : List Int) : Prop where
  few : times = [] ∨ times.length + k ≤ 5
  first : ∀ t, last = some t → ∀ time, times[0]? = some time → min (10 * 2 ^ k) 300 ≤ time - t
  spaced : ∀ (j : Nat) (one two : Int), times[j]? = some one → times[j + 1]? = some two →
    min (10 * 2 ^ (k + j + 1)) 300 ≤ two - one

theorem Paced.nil (k : Nat) (last : Option Int) : Paced k last [] := by
  refine ⟨.inl rfl, ?_, ?_⟩
  · intro t _ time absent
    cases absent
  · intro j one two absent
    cases absent

theorem stretch_paced {stretch : List FarmStep}
    (quiet : Runs.Meets (FarmStep.next config) (fun s act => act.hears config s hubId = false) s stretch)
    {row : FleetRow}
    (found : s.hubs[hubId]? = some row) {k : Nat} (counted : (k : Int) ≤ row.restartAttempts) :
    Paced k row.lastRestartAt (restartTimes config hubId s stretch) := by
  induction stretch generalizing s row k with
  | nil => exact .nil k row.lastRestartAt
  | cons act rest ih =>
    obtain ⟨unheard, later⟩ := quiet
    rw [restartTimes]
    by_cases issued : act.restarts config s hubId = true
    next =>
      obtain ⟨row', changed, found', left, -, restarted⟩ := restarts_effect issued
      obtain rfl := Option.some.inj (found'.symm.trans found)
      have tail := ih later left (k := k + 1) (by rw [restarted.attempts]; omega)
      rw [if_pos issued, List.singleton_append]
      rw [restarted.last] at tail
      have few := restarted.few
      unfold MAX_ATTEMPTS at few
      refine ⟨.inr ?_, ?_, ?_⟩
      · rw [List.length_cons]
        rcases tail.few with none | some
        · rw [none, List.length_nil]
          omega
        · omega
      · intro t last time first
        cases first
        exact Int.le_trans (backoff_mono (by omega)) (restarted.waited t last)
      · intro j one two here next
        cases j with
        | zero =>
          cases here
          exact tail.first act.now rfl two next
        | succ j =>
          have apart := tail.spaced j one two here next
          rwa [show k + 1 + j + 1 = k + (j + 1) + 1 by omega] at apart
    next =>
      obtain ⟨changed, left, advances⟩ := unheard_advances unheard found
      have tail := ih later left (k := k) (Int.le_trans counted advances.attempts)
      rw [if_neg issued, List.nil_append]
      refine ⟨tail.few, ?_, tail.spaced⟩
      intro t last time first
      obtain ⟨t', after, later⟩ := advances.last t last
      have waited := tail.first t' after time first
      omega

theorem stretch_absent {stretch : List FarmStep}
    (quiet : Runs.Meets (FarmStep.next config) (fun s act => act.hears config s hubId = false) s stretch)
    (absent : s.hubs[hubId]? = none) : restartTimes config hubId s stretch = [] := by
  induction stretch generalizing s with
  | nil => rfl
  | cons act rest ih =>
    rw [restartTimes, ih quiet.2 (unheard_absent quiet.1 absent), List.append_nil]
    refine if_neg ?_
    intro issued
    obtain ⟨row, -, found, -⟩ := restarts_effect issued
    rw [absent] at found
    cases found

theorem counted_paced (counted : Counted s) {stretch : List FarmStep}
    (quiet : Runs.Meets (FarmStep.next config) (fun s act => act.hears config s hubId = false) s stretch) :
    ∃ last, Paced 0 last (restartTimes config hubId s stretch) := by
  cases found : s.hubs[hubId]? with
  | none => exact ⟨none, stretch_absent quiet found ▸ .nil 0 none⟩
  | some row => exact ⟨row.lastRestartAt, stretch_paced quiet found (counted hubId row found)⟩

/-- The hub of the row has a key, and was heard with it at `time` or later. -/
def SeenSince (hubId pubkey : String) (time : Int) (s : Fleet) : Prop :=
  (∃ (row : FleetRow), s.hubs[hubId]? = some row ∧ row.hubPubkey = some pubkey) ∧
    ∃ (beat : Heartbeat), s.heartbeats[pubkey]? = some beat ∧ time ≤ beat.lastSeenAt

theorem next_seenSince {pubkey : String} {time : Int} (seen : SeenSince hubId pubkey time s) (later : time ≤ act.now) :
    SeenSince hubId pubkey time (act.next config s) := by
  obtain ⟨⟨row, found, own⟩, beat, heard, after⟩ := seen
  cases act with
  | pass now world =>
    obtain ⟨changed, left, same, -⟩ := tick_row config world now found
    refine ⟨⟨changed, left, same.trans own⟩, beat, ?_, after⟩
    rw [FarmStep.next, tick_heartbeats, heard]
  | heartbeat now payload =>
    obtain ⟨changed, left, kept⟩ := heartbeat_row config.farmUrl now payload found
    refine ⟨⟨changed, left, kept.key pubkey own⟩, ?_⟩
    obtain same | fresh := heartbeat_seen config.farmUrl now s payload pubkey
    · exact ⟨beat, same.trans heard, after⟩
    · exact ⟨heardAt now payload, fresh, later⟩

theorem seen_fresh {pubkey : String} {time : Int} (seen : SeenSince hubId pubkey time s)
    (issued : act.restarts config s hubId = true) : time + OFFLINE_THRESHOLD_SECS ≤ act.now := by
  obtain ⟨⟨row, found, own⟩, beat, heard, after⟩ := seen
  obtain ⟨row', -, found', -, stale, -⟩ := restarts_effect issued
  obtain rfl := Option.some.inj (found'.symm.trans found)
  rw [effectiveLastSeen, own, Option.bind_some, heard, Option.map_some, Option.getD_some] at stale
  omega

end

/--
Supervision does what it is for in a run exactly if no pass meets a supervised row without a database,
an agent that does not take the restart that is due, or voice ports that have run out.
-/
theorem supervised_iff (config : FarmConfig) {s : Fleet} (counted : Counted s) {steps : List FarmStep}
    (ordered : (steps.map FarmStep.now).Pairwise (· ≤ ·)) :
    Supervised config s steps ↔ Runs.Meets (FarmStep.next config) (Undisturbed config) s steps := by
  constructor
  · intro supervised
    rw [Runs.meets_iff]
    intro front act inside
    cases act with
    | heartbeat now payload => trivial
    | pass now world =>
      exact (undisturbed_iff config _ now world).mp
        ⟨supervised.uncounted front now world inside, supervised.decided front now world inside⟩
  · intro met
    have pass : ∀ before now world, before ++ [FarmStep.pass now world] <+: steps →
        Undisturbed config (Runs.run (FarmStep.next config) s before) (.pass now world) :=
      fun before now world inside => Runs.meets_iff.mp met before _ inside
    have reached : ∀ before, Counted (Runs.run (FarmStep.next config) s before) :=
      fun before => Runs.run_invariant Counted (fun _ act held => next_counted held act) s counted before
    refine ⟨?_, ?_, ?_, ?_, ?_, ?_⟩
    next =>
      intro hubId before beat mid act inside heard issued
      -- From the beat on, the clock of the hub stands at its time or later.
      have times := ordered.sublist (inside.sublist.map FarmStep.now)
      rw [List.map_append, List.map_append, List.map_cons, List.append_assoc, List.pairwise_append] at times
      have after := (List.pairwise_cons.mp times.2.1).1
      have within : Runs.Meets (FarmStep.next config) (fun _ act => beat.now ≤ act.now)
          (beat.next config (Runs.run (FarmStep.next config) s before)) mid :=
        Runs.meets_of_forall (fun _ a listed => after a.now (List.mem_append_left _ (List.mem_map_of_mem listed))) _
      cases beat with
      | pass now world => cases heard
      | heartbeat now payload =>
        obtain ⟨pubkey, row, stored, found, own, seen, rfl⟩ := hears_effect heard
        have start : SeenSince hubId pubkey stored.lastSeenAt
            ((FarmStep.heartbeat stored.lastSeenAt payload).next config (Runs.run (FarmStep.next config) s before)) :=
          ⟨⟨row, found, own⟩, stored, seen, Int.le_refl _⟩
        have finish := within.invariant (SeenSince hubId pubkey stored.lastSeenAt)
          (fun _ _ held later => next_seenSince held later) start
        rw [Runs.run_append, Runs.run_cons] at issued
        exact seen_fresh finish issued
    next =>
      intro hubId before stretch _ quiet
      obtain ⟨last, paced⟩ := counted_paced (reached before) quiet
      rcases paced.few with none | few
      · rw [none]
        exact Nat.zero_le 5
      · exact few
    next =>
      intro hubId before stretch _ quiet k first second one two
      obtain ⟨last, paced⟩ := counted_paced (reached before) quiet
      have spaced := paced.spaced k first second one two
      rwa [Nat.zero_add] at spaced
    next =>
      intro before now world inside
      exact ((undisturbed_iff config _ now world).mpr (pass before now world inside)).1
    next =>
      intro before now world inside
      exact ((undisturbed_iff config _ now world).mpr (pass before now world inside)).2
    next =>
      intro before now world _ hubId row _
      exact monitorDecide_isSome _ _ _ _

def chessClub : FleetRow :=
  { ownerPubkey := "alice", name := "Chess Club", processPort := some 3100, voicePort := some 4100
    dbUrl := some "postgres://farm/chess" }

def onPort3100 : FarmConfig := { farmUrl := "https://farm.example", ports := { basePort := 3100, voiceBasePort := 4100 } }

def oneHub : Fleet := { hubs := (∅ : Table FleetRow).insert "chess" chessClub }

theorem oneHub_counted : Counted oneHub := by
  intro hubId row found
  rw [oneHub, Std.ExtTreeMap.getElem?_insert] at found
  split at found
  next =>
    cases found
    decide
  next => cases found

theorem supervised_iff_oneHub :
    Supervised onPort3100 oneHub [.pass 200 {}, .heartbeat 230 { hubPubkey := some "key", hubId := some "chess" },
    .pass 260 {}] ↔
      Runs.Meets (FarmStep.next onPort3100) (Undisturbed onPort3100) oneHub
        [.pass 200 {}, .heartbeat 230 { hubPubkey := some "key", hubId := some "chess" }, .pass 260 {}] :=
  supervised_iff onPort3100 oneHub_counted (by decide)

-- A hub from before hubs had databases of their own.
def oldHub : Fleet := { hubs := oneHub.hubs.insert "attic" { chessClub with processPort := some 3101, dbUrl := none } }

theorem pass_aborted :
    ¬ ∀ (config : FarmConfig) (s : Fleet) (steps : List FarmStep), Counted s →
      (steps.map FarmStep.now).Pairwise (· ≤ ·) → Supervised config s steps := by
  intro always
  have counted : Counted oldHub := by
    intro hubId row found
    rw [oldHub, Std.ExtTreeMap.getElem?_insert] at found
    split at found
    next =>
      cases found
      decide
    next => exact oneHub_counted hubId row found
  have supervised := always onPort3100 oldHub [.pass 200 {}] counted (by decide)
  have unread : watched oldHub (fun _ => 0) = none := by
    by_contra read
    have urls := (watched_isSome oldHub fun _ => 0).mp (Option.isSome_iff_ne_none.mpr read)
    exact absurd (urls "attic" _ (by rw [oldHub, Std.ExtTreeMap.getElem?_insert_self]) rfl) (by decide)
  have visited := supervised.decided [] 200 {} List.prefix_rfl "chess" chessClub (by decide) (by decide)
  rw [Runs.run_nil, tick, unread] at visited
  cases visited

end Wavvon.Farm
