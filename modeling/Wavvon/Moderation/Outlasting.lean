import Mathlib
import Wavvon.Moderation.Sanctions
import Wavvon.Shared.Runs

set_option autoImplicit false

namespace Wavvon.Moderation

open Std (ExtTreeMap)

inductive Kind where
  | ban
  | mute
  deriving DecidableEq, Repr

-- What the route that lifts the sanction asks for.
def Kind.lifting : Kind → String
  | .ban => MODERATION_BAN_PERMANENT
  | .mute => MODERATION_MUTE

-- A sanction with no expiry never ends.
def ending : Option Int → WithTop Int
  | none => ⊤
  | some expiresAt => (expiresAt : WithTop Int)

def State.endings (s : State) (target : String) : Kind → List (WithTop Int)
  | .ban => (s.auth.tables.bans.filter (·.1 = target)).map fun ban => ending ban.2
  | .mute => s.mutes[target]?.toList.map ending

def State.UnderUntil (s : State) (kind : Kind) (target : String) (now : Int) (u : WithTop Int) : Prop :=
  ∃ e ∈ s.endings target kind, (now : WithTop Int) < e ∧ u ≤ e

inductive SanctionCall where
  | banUser (user : AuthUser) (req : BanRequest) (sighting : Option String) (now : Int)
  | unbanUser (user target : String)
  | muteUser (user target : String)
  | unmuteUser (user target : String)
  | timeoutUser (user target : String) (durationSeconds : UInt64) (now : Int)
  | channelBan (user channelId target : String)
  | channelUnban (user channelId target : String)

namespace SanctionCall

def answer (s : State) : SanctionCall → State × Except HttpError Unit
  | .banUser user req sighting now => Moderation.banUser s user req sighting now
  | .unbanUser user target => Moderation.unbanUser s user target
  | .muteUser user target => Moderation.muteUser s user target
  | .unmuteUser user target => Moderation.unmuteUser s user target
  | .timeoutUser user target durationSeconds now => Moderation.timeoutUser s user target durationSeconds now
  | .channelBan user channelId target =>
    let answer := Moderation.channelBan s.auth.db user channelId target
    ({ s with auth := { s.auth with db := answer.1 } }, answer.2)
  | .channelUnban user channelId target =>
    let answer := Moderation.channelUnban s.auth.db user channelId target
    ({ s with auth := { s.auth with db := answer.1 } }, answer.2)

def next (s : State) (call : SanctionCall) : State := (call.answer s).1

-- Who sanctions for a time that is in the request, and when.
def timed : SanctionCall → Option (String × Int)
  | .banUser user _ _ now => some (user.publicKey, now)
  | .timeoutUser user _ _ now => some (user, now)
  | _ => none

/-- A ban or a timeout by somebody who could not lift a sanction leaves it at least as long as it was. -/
def Outlasted (s : State) (call : SanctionCall) : Prop :=
  ∀ user now, call.timed = some (user, now) → (call.answer s).2 = .ok () → ∀ kind target u,
    (userPermissions s.auth.db user).has kind.lifting = false →
      s.UnderUntil kind target now u → (call.next s).UnderUntil kind target now u

end SanctionCall

-- The caller may set a sanction and not lift it, and the one there now would have lasted longer.
structure Shortens (s : State) (user target : String) (kind : Kind) (permission : String)
    (durationSeconds : UInt64) (now : Int) : Prop where
  known : target ∈ s.auth.db.users
  may : requireCanModerate s.auth.db user target permission = .ok ()
  keeps : (userPermissions s.auth.db user).has kind.lifting = false
  longer : ∃ e ∈ s.endings target kind,
    (now : WithTop Int) < e ∧ ending (banExpiry now (some durationSeconds)) < e

def SanctionCall.Lengthens (s : State) : SanctionCall → Prop
  | .banUser user req _ now => ∀ seconds, req.durationSeconds = some seconds → seconds ≠ 0 →
      ¬ Shortens s user.publicKey req.targetPublicKey .ban MODERATION_BAN_TEMPORARY seconds now
  | .timeoutUser user target seconds now => ¬ Shortens s user target .mute MODERATION_TIMEOUT seconds now
  | _ => True

theorem lt_ending {now : Int} {expiresAt : Option Int} :
    (now : WithTop Int) < ending expiresAt ↔ expiresAt.all (now < ·) = true := by
  cases expiresAt with
  | none => exact iff_of_true (WithTop.coe_lt_top now) rfl
  | some at_ => exact WithTop.coe_lt_coe.trans decide_eq_true_iff.symm

theorem isMuted_iff {s : State} {target : String} {now : Int} :
    s.isMuted target now = true ↔ ∃ u, s.UnderUntil .mute target now u := by
  simp only [State.isMuted, State.UnderUntil, State.endings]
  cases s.mutes[target]? with
  | none => simp
  | some expiresAt =>
    constructor
    · intro active
      exact ⟨ending expiresAt, ending expiresAt, by simp, lt_ending.mpr active, le_refl _⟩
    · rintro ⟨u, e, listed, active, _⟩
      obtain rfl : e = ending expiresAt := by simpa using listed
      exact lt_ending.mp active

-- One row a target: after the upsert only the new end is left.
theorem outlasts_iff {ends : List (WithTop Int)} {now : Int} {fresh : WithTop Int} :
    (∀ u, (∃ e ∈ ends, (now : WithTop Int) < e ∧ u ≤ e) → ∃ e ∈ [fresh], (now : WithTop Int) < e ∧ u ≤ e) ↔
      ¬ ∃ e ∈ ends, (now : WithTop Int) < e ∧ fresh < e := by
  constructor
  · rintro outlasts ⟨e, listed, active, longer⟩
    obtain ⟨_, same, _, atLeast⟩ := outlasts e ⟨e, listed, active, le_refl e⟩
    rw [List.mem_singleton.mp same] at atLeast
    exact absurd longer (not_lt.mpr atLeast)
  · rintro longest u ⟨e, listed, active, atLeast⟩
    have covered : e ≤ fresh := not_lt.mp fun longer => longest ⟨e, listed, active, longer⟩
    exact ⟨fresh, List.mem_singleton_self fresh, lt_of_lt_of_le active covered, le_trans atLeast covered⟩

section

variable {s : State} {user target : String} {now : Int} {fresh : Option Int}

-- What a sanction on the target leaves of those of everybody.
structure Replaces (s after : State) (kind : Kind) (target : String) (fresh : Option Int) : Prop where
  own : after.endings target kind = [ending fresh]
  others : ∀ other key, key ≠ kind ∨ other ≠ target → after.endings other key = s.endings other key

theorem Replaces.outlasted_iff {after : State} {kind : Kind} (replaces : Replaces s after kind target fresh)
    (lifts : Kind → Bool) :
    (∀ key other u, lifts key = false → s.UnderUntil key other now u → after.UnderUntil key other now u) ↔
      (lifts kind = false → ¬ ∃ e ∈ s.endings target kind, (now : WithTop Int) < e ∧ ending fresh < e) := by
  constructor
  · intro outlasts keeps
    refine outlasts_iff.mp fun u under => ?_
    have after := outlasts kind target u keeps under
    rwa [State.UnderUntil, replaces.own] at after
  · intro longest key other u keeps under
    by_cases same : key = kind ∧ other = target
    · obtain ⟨rfl, rfl⟩ := same
      have after := outlasts_iff.mpr (longest keeps) u under
      rwa [← replaces.own] at after
    · have kept := replaces.others other key (Classical.not_and_iff_not_or_not.mp same)
      rwa [State.UnderUntil, kept]

theorem storeBan_replaces (s : State) (target : String) (fresh : Option Int) (sighting : Option String) (now : Int) :
    Replaces s { s with auth := storeBan s.auth target fresh sighting now } .ban target fresh := by
  refine ⟨?_, ?_⟩
  · simp [State.endings, storeBan, List.filter_append, List.filter_filter]
  · intro other key apart
    cases key with
    | mute => rfl
    | ban =>
      have elsewhere : other ≠ target := apart.resolve_left (not_not.mpr rfl)
      have kept : ∀ ban : String × Option Int,
          (decide (ban.1 = other) && decide (ban.1 ≠ target)) = decide (ban.1 = other) := by
        intro ban
        by_cases same : ban.1 = other <;> simp [same, elsewhere]
      simp only [State.endings, storeBan, List.filter_append, List.filter_filter, kept]
      simp [Ne.symm elsewhere]

theorem insertMute_replaces (s : State) (target : String) (fresh : Option Int) :
    Replaces s { s with mutes := s.mutes.insert target fresh } .mute target fresh := by
  refine ⟨?_, ?_⟩
  · simp [State.endings]
  · intro other key apart
    cases key with
    | ban => rfl
    | mute =>
      have elsewhere : other ≠ target := apart.resolve_left (not_not.mpr rfl)
      simp [State.endings, ExtTreeMap.getElem?_insert, Ne.symm elsewhere]

end

theorem requireCanModerate_has {db : Db} {user target permission : String}
    (may : requireCanModerate db user target permission = .ok ()) :
    (userPermissions db user).has permission = true := by
  unfold requireCanModerate at may
  dsimp only at may
  split at may
  next => cases may
  next permitted => simpa using permitted

section

variable {s : State} {user target : String} {now : Int}

theorem SanctionCall.outlasted_refused {call : SanctionCall} (refused : (call.answer s).2 ≠ .ok ()) :
    call.Outlasted s :=
  fun _ _ _ ok => absurd ok refused

theorem SanctionCall.outlasted_stored (call : SanctionCall) (timed : call.timed = some (user, now)) {kind : Kind}
    {fresh : Option Int} (ok : (call.answer s).2 = .ok ()) (replaces : Replaces s (call.next s) kind target fresh) :
    call.Outlasted s ↔ ((userPermissions s.auth.db user).has kind.lifting = false →
      ¬ ∃ e ∈ s.endings target kind, (now : WithTop Int) < e ∧ ending fresh < e) := by
  rw [← replaces.outlasted_iff fun kind => (userPermissions s.auth.db user).has kind.lifting]
  constructor
  · intro outlasted
    exact outlasted user now timed ok
  · rintro outlasted user' now' timed' _
    obtain ⟨rfl, rfl⟩ := Prod.mk.inj (Option.some.inj (timed.symm.trans timed'))
    exact outlasted

theorem Shortens.iff_longer {kind : Kind} {permission : String} {seconds : UInt64}
    (may : requireCanModerate s.auth.db user target permission = .ok ()) (known : target ∈ s.auth.db.users) :
    ¬ Shortens s user target kind permission seconds now ↔
      ((userPermissions s.auth.db user).has kind.lifting = false →
        ¬ ∃ e ∈ s.endings target kind, (now : WithTop Int) < e ∧ ending (banExpiry now (some seconds)) < e) :=
  ⟨fun lasts keeps longer => lasts ⟨known, may, keeps, longer⟩,
    fun lasts shortens => lasts shortens.keeps shortens.longer⟩

theorem timeoutUser_stored {seconds : UInt64}
    (may : requireCanModerate s.auth.db user target MODERATION_TIMEOUT = .ok ()) (known : target ∈ s.auth.db.users) :
    timeoutUser s user target seconds now =
      ({ s with mutes := s.mutes.insert target (banExpiry now (some seconds)) }, .ok ()) := by
  simp [timeoutUser, may, storeMute, known]

theorem timeoutUser_ok {seconds : UInt64} (ok : (timeoutUser s user target seconds now).2 = .ok ()) :
    requireCanModerate s.auth.db user target MODERATION_TIMEOUT = .ok () ∧ target ∈ s.auth.db.users := by
  unfold timeoutUser at ok
  split at ok
  next => cases ok
  next may =>
    unfold storeMute at ok
    split at ok
    next known => exact ⟨may, known⟩
    next => cases ok

theorem timeoutUser_outlasted (s : State) (user target : String) (seconds : UInt64) (now : Int) :
    (SanctionCall.timeoutUser user target seconds now).Outlasted s ↔
      (SanctionCall.timeoutUser user target seconds now).Lengthens s := by
  by_cases ok : (timeoutUser s user target seconds now).2 = .ok ()
  next =>
    obtain ⟨may, known⟩ := timeoutUser_ok ok
    refine (SanctionCall.outlasted_stored (.timeoutUser user target seconds now) rfl ok ?_).trans
      (Shortens.iff_longer may known).symm
    rw [SanctionCall.next, SanctionCall.answer, timeoutUser_stored may known]
    exact insertMute_replaces s target _
  next =>
    refine iff_of_true (SanctionCall.outlasted_refused ok) fun shortens => ok ?_
    rw [timeoutUser_stored shortens.may shortens.known]

theorem banUser_stored {req : BanRequest} {sighting : Option String} (user : AuthUser)
    (may : requireCanModerate s.auth.db user.publicKey req.targetPublicKey
      (if req.durationSeconds.isSome then MODERATION_BAN_TEMPORARY else MODERATION_BAN_PERMANENT) = .ok ())
    (lasts : req.durationSeconds ≠ some 0) (known : req.targetPublicKey ∈ s.auth.db.users) :
    banUser s user req sighting now =
      ({ s with
        auth := storeBan s.auth req.targetPublicKey (banExpiry now req.durationSeconds) sighting now }, .ok ()) := by
  simp [banUser, Wavvon.banUser, may, lasts, known]

theorem banUser_ok {req : BanRequest} {sighting : Option String} {user : AuthUser}
    (ok : (banUser s user req sighting now).2 = .ok ()) :
    requireCanModerate s.auth.db user.publicKey req.targetPublicKey
        (if req.durationSeconds.isSome then MODERATION_BAN_TEMPORARY else MODERATION_BAN_PERMANENT) = .ok () ∧
      req.durationSeconds ≠ some 0 ∧ req.targetPublicKey ∈ s.auth.db.users := by
  unfold banUser Wavvon.banUser at ok
  dsimp only at ok
  split at ok
  next => cases ok
  next may =>
    split at ok
    next => cases ok
    next lasts =>
      split at ok
      next => cases ok
      next known => exact ⟨may, lasts, not_not.mp known⟩

theorem banUser_outlasted (s : State) (user : AuthUser) (req : BanRequest) (sighting : Option String) (now : Int) :
    (SanctionCall.banUser user req sighting now).Outlasted s ↔
      (SanctionCall.banUser user req sighting now).Lengthens s := by
  by_cases ok : (banUser s user req sighting now).2 = .ok ()
  next =>
    obtain ⟨may, lasts, known⟩ := banUser_ok ok
    have replaces : Replaces s ((SanctionCall.banUser user req sighting now).next s) .ban req.targetPublicKey
        (banExpiry now req.durationSeconds) := by
      rw [SanctionCall.next, SanctionCall.answer, banUser_stored user may lasts known]
      exact storeBan_replaces s req.targetPublicKey _ sighting now
    rw [SanctionCall.outlasted_stored (.banUser user req sighting now) rfl ok replaces]
    cases duration : req.durationSeconds with
    | none =>
      -- Only who may lift a ban gets to set one with no end.
      rw [duration] at may
      have permitted : (userPermissions s.auth.db user.publicKey).has (Kind.lifting .ban) = true :=
        requireCanModerate_has may
      refine iff_of_true (fun keeps => ?_) fun seconds named => ?_
      · rw [permitted] at keeps
        cases keeps
      · cases duration.symm.trans named
    | some seconds =>
      rw [duration] at may
      rw [← Shortens.iff_longer may known]
      constructor
      · intro longest other named _
        obtain rfl := Option.some.inj (duration.symm.trans named)
        exact longest
      · intro longest
        exact longest seconds duration fun zero => lasts (zero ▸ duration)
  next =>
    refine iff_of_true (SanctionCall.outlasted_refused ok) fun seconds duration lasts shortens => ok ?_
    have may := shortens.may
    rw [banUser_stored user (by rw [duration]; exact may) (by simpa [duration] using lasts) shortens.known]

theorem SanctionCall.outlasted_iff (s : State) (call : SanctionCall) : call.Outlasted s ↔ call.Lengthens s := by
  cases call with
  | banUser user req sighting now => exact banUser_outlasted s user req sighting now
  | timeoutUser user target seconds now => exact timeoutUser_outlasted s user target seconds now
  | unbanUser _ _ | muteUser _ _ | unmuteUser _ _ | channelBan _ _ _ | channelUnban _ _ _ =>
    exact iff_of_true (fun _ _ timed => by cases timed) trivial

end

/-- Exactly when no ban and no timeout is shorter than the one its caller could not have lifted. -/
theorem outlasted_iff_lengthens (s : State) (calls : List SanctionCall) :
    Runs.Meets SanctionCall.next SanctionCall.Outlasted s calls ↔
      Runs.Meets SanctionCall.next SanctionCall.Lengthens s calls :=
  Runs.meets_congr (fun _ => True) (fun _ _ _ => trivial) (fun s call _ => call.outlasted_iff s) trivial calls

-- Whoever may only time out stands over somebody who is muted for good.
def mutedHub : State where
  auth := { db := {
    users := ((∅ : Table User).insert "helper" { isMember := true }).insert "loud" { isMember := true }
    roles := (∅ : Table Role).insert "helpers" { name := "Helpers", priority := 10 }
    userRoles := {("helper", "helpers")}
    rolePermissions := {("helpers", MODERATION_TIMEOUT)} } }
  mutes := (∅ : Table (Option Int)).insert "loud" none

-- A second later nobody is muted any more.
theorem outlasted_timeout :
    ¬ ∀ (s : State) (calls : List SanctionCall), Runs.Meets SanctionCall.next SanctionCall.Outlasted s calls := by
  intro always
  have kept := (always mutedHub [.timeoutUser "helper" "loud" 1 1000]).1 "helper" 1000 rfl (by decide)
    .mute "loud" ⊤ (by decide)
    ⟨⊤, by simp [State.endings, mutedHub, ending], WithTop.coe_lt_top 1000, le_refl _⟩
  have muted : ((SanctionCall.timeoutUser "helper" "loud" 1 1000).next mutedHub).isMuted "loud" 1001 = false := by
    decide
  obtain ⟨e, listed, _, forever⟩ := kept
  have still := isMuted_iff.mpr
    ⟨⊤, e, listed, lt_of_lt_of_le (WithTop.coe_lt_top 1001) forever, forever⟩
  rw [muted] at still
  cases still

end Wavvon.Moderation
