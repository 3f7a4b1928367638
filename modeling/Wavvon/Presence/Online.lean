import Mathlib.Logic.Function.Basic
import Wavvon.Hub.Database
import Wavvon.Shared.Runs

set_option autoImplicit false

namespace Wavvon.Presence

open Std (ExtTreeMap)
open Alternation

-- A socket between its increment and its announcement, in its loop, between the removal of its
-- key and the broadcast of it, and gone.
inductive SocketPhase where
  | counted
  | opened
  | leaving
  | closed
  deriving DecidableEq, Repr

structure Socket where
  publicKey : String
  phase : SocketPhase := .counted
  deriving DecidableEq, Repr

inductive PresenceEvent where
  | memberOnline (publicKey : String)
  | memberOffline (publicKey : String)
  deriving DecidableEq, Repr

/--
The refcount of every pubkey, the sockets and the presence broadcasts in their order. `announced`
counts the MemberOnline broadcasts of a pubkey since its refcount last became positive.
-/
structure State where
  onlineUsers : Table Nat := ∅
  sockets : List Socket := []
  chatTx : List PresenceEvent := []
  announced : String → Nat := fun _ => 0

-- A socket comes with its increment; from then on it takes its own steps one by one.
inductive Action where
  | connect (publicKey : String)
  | advance (socket : Nat)
  deriving DecidableEq, Repr

namespace State

def connect (s : State) (publicKey : String) : State :=
  { s with
    onlineUsers := s.onlineUsers.insert publicKey (s.onlineUsers[publicKey]?.getD 0 + 1)
    sockets := s.sockets ++ [{ publicKey := publicKey }]
    announced := if s.onlineUsers[publicKey]?.isSome then s.announced
      else Function.update s.announced publicKey 0 }

def enter (s : State) (i : Nat) (socket : Socket) (phase : SocketPhase) : State :=
  { s with sockets := s.sockets.set i { socket with phase := phase } }

-- The count is read back only now, after the database was asked for the presence status.
def announce (db : Db) (s : State) (i : Nat) (socket : Socket) : State :=
  let s' := s.enter i socket .opened
  if s.onlineUsers[socket.publicKey]?.getD 0 = 1 ∧ db.isInvisible socket.publicKey = false then
    { s' with
      chatTx := s.chatTx ++ [.memberOnline socket.publicKey]
      announced := Function.update s.announced socket.publicKey (s.announced socket.publicKey + 1) }
  else s'

def disconnect (s : State) (i : Nat) (socket : Socket) : State :=
  match s.onlineUsers[socket.publicKey]? with
  | none => s.enter i socket .closed
  | some count =>
    if count ≤ 1 then
      { s.enter i socket .leaving with onlineUsers := s.onlineUsers.erase socket.publicKey }
    else
      { s.enter i socket .closed with
        onlineUsers := s.onlineUsers.insert socket.publicKey (count - 1) }

def goOffline (db : Db) (s : State) (i : Nat) (socket : Socket) : State :=
  if db.isInvisible socket.publicKey then s.enter i socket .closed
  else
    { s.enter i socket .closed with chatTx := s.chatTx ++ [.memberOffline socket.publicKey] }

def step (db : Db) (s : State) : Action → State
  | .connect publicKey => s.connect publicKey
  | .advance i =>
    match s.sockets[i]? with
    | none => s
    | some socket =>
      match socket.phase with
      | .counted => s.announce db i socket
      | .opened => s.disconnect i socket
      | .leaving => s.goOffline db i socket
      | .closed => s

end State

def tally (sockets : List Socket) (publicKey : String) (counts : SocketPhase → Bool) : Nat :=
  sockets.countP fun socket => socket.publicKey == publicKey && counts socket.phase

def SocketPhase.isLive : SocketPhase → Bool
  | .counted | .opened => true
  | .leaving | .closed => false

def PresenceEvent.switchOf (publicKey : String) : PresenceEvent → Option Bool
  | .memberOnline key => if key = publicKey then some true else none
  | .memberOffline key => if key = publicKey then some false else none

/-- What one pubkey's history amounts to: its refcount, its sockets by phase, its broadcasts. -/
@[ext] structure View where
  count : Option Nat := none
  live : Nat := 0
  pending : Nat := 0
  owed : Nat := 0
  announced : Nat := 0
  switches : List Bool := []
  deriving DecidableEq, Repr

def State.view (s : State) (publicKey : String) : View where
  count := s.onlineUsers[publicKey]?
  live := tally s.sockets publicKey SocketPhase.isLive
  pending := tally s.sockets publicKey (· == .counted)
  owed := tally s.sockets publicKey (· == .leaving)
  announced := s.announced publicKey
  switches := s.chatTx.filterMap (PresenceEvent.switchOf publicKey)

structure PresenceFollows (v : View) : Prop where
  refcount : v.count.getD 0 = v.live
  alternates : Alternates v.switches
  announcedOnce : 0 < v.live → v.pending = 0 → v.announced = 1

/--
An announcement that reads a count of one is the first of its period and no broadcast of the period
before is still owed; one that reads more is not the last pending of an unannounced period.
-/
def AnnouncesOnce (publicKey : String) (s : State) (act : Action) : Prop :=
  ∀ i, act = .advance i → s.sockets[i]? = some { publicKey := publicKey, phase := .counted } →
    ((s.view publicKey).count.getD 0 = 1 →
      (s.view publicKey).announced = 0 ∧ (s.view publicKey).owed = 0) ∧
    ((s.view publicKey).count.getD 0 ≠ 1 → (s.view publicKey).pending = 1 →
      (s.view publicKey).announced ≠ 0)

namespace View

def connect (v : View) : View :=
  { v with
    count := some (v.count.getD 0 + 1)
    live := v.live + 1
    pending := v.pending + 1
    announced := if v.count.isSome then v.announced else 0 }

def announce (v : View) : View :=
  if v.count.getD 0 = 1 then
    { v with
      pending := v.pending - 1
      announced := v.announced + 1
      switches := v.switches ++ [true] }
  else { v with pending := v.pending - 1 }

def disconnect (v : View) : View :=
  match v.count with
  | none => { v with live := v.live - 1 }
  | some count =>
    if count ≤ 1 then { v with count := none, live := v.live - 1, owed := v.owed + 1 }
    else { v with count := some (count - 1), live := v.live - 1 }

def goOffline (v : View) : View :=
  { v with owed := v.owed - 1, switches := v.switches ++ [false] }

end View

section

variable {sockets : List Socket} {i : Nat} {socket : Socket} (found : sockets[i]? = some socket)

include found

theorem tally_set (phase : SocketPhase) (publicKey : String) (counts : SocketPhase → Bool) :
    tally (sockets.set i { socket with phase := phase }) publicKey counts +
        (if socket.publicKey = publicKey ∧ counts socket.phase then 1 else 0) =
      tally sockets publicKey counts +
        if socket.publicKey = publicKey ∧ counts phase then 1 else 0 := by
  obtain ⟨bound, atIndex⟩ := List.getElem?_eq_some_iff.mp found
  have within : (if socket.publicKey = publicKey ∧ counts socket.phase then 1 else 0) ≤
      tally sockets publicKey counts := by
    split
    next here =>
      refine List.countP_pos_iff.mpr ⟨socket, List.mem_of_getElem? found, ?_⟩
      simp [here]
    next => omega
  simp only [tally, List.countP_set bound, atIndex, Bool.and_eq_true, beq_iff_eq] at within ⊢
  omega

theorem tally_set_other (phase : SocketPhase) {publicKey : String}
    (other : socket.publicKey ≠ publicKey) (counts : SocketPhase → Bool) :
    tally (sockets.set i { socket with phase := phase }) publicKey counts =
      tally sockets publicKey counts := by
  simpa [other] using tally_set found phase publicKey counts

theorem tally_pos (counts : SocketPhase → Bool) (counted : counts socket.phase = true) :
    0 < tally sockets socket.publicKey counts :=
  List.countP_pos_iff.mpr ⟨socket, List.mem_of_getElem? found, by simp [counted]⟩

end

theorem tally_append (sockets : List Socket) (socket : Socket) (publicKey : String)
    (counts : SocketPhase → Bool) :
    tally (sockets ++ [socket]) publicKey counts =
      tally sockets publicKey counts +
        if socket.publicKey = publicKey ∧ counts socket.phase then 1 else 0 := by
  simp [tally, List.countP_append, List.countP_singleton]

theorem tally_live (sockets : List Socket) (publicKey : String) :
    tally sockets publicKey SocketPhase.isLive =
      tally sockets publicKey (· == .counted) + tally sockets publicKey (· == .opened) := by
  induction sockets with
  | nil => rfl
  | cons socket rest ih =>
    simp only [tally] at ih
    simp only [tally, List.countP_cons, ih]
    cases socket.phase <;> simp [SocketPhase.isLive] <;> omega

namespace State

theorem view_connect (s : State) (publicKey : String) :
    (s.connect publicKey).view publicKey = (s.view publicKey).connect := by
  ext1
  · simp [view, connect, View.connect]
  · simp [view, connect, View.connect, tally_append, SocketPhase.isLive]
  · simp [view, connect, View.connect, tally_append]
  · simp [view, connect, View.connect, tally_append]
  · by_cases known : (s.view publicKey).count.isSome
    · have kept : (s.connect publicKey).announced = s.announced := if_pos known
      rw [View.connect, if_pos known]
      exact congrFun kept publicKey
    · have reset : (s.connect publicKey).announced = Function.update s.announced publicKey 0 :=
        if_neg known
      rw [View.connect, if_neg known]
      exact (congrFun reset publicKey).trans (Function.update_self publicKey 0 s.announced)
  · rfl

theorem view_connect_other (s : State) {publicKey key : String} (other : key ≠ publicKey) :
    (s.connect key).view publicKey = s.view publicKey := by
  ext1
  · simp [view, connect, ExtTreeMap.getElem?_insert, other]
  · simp [view, connect, tally_append, other]
  · simp [view, connect, tally_append, other]
  · simp [view, connect, tally_append, other]
  · simp only [view, connect]
    split
    · rfl
    · exact Function.update_of_ne other.symm _ _
  · rfl

variable {db : Db} (s : State) {i : Nat}

-- A socket's own step touches its own key only.
theorem view_advance_other {socket : Socket} (found : s.sockets[i]? = some socket)
    {publicKey : String} (other : socket.publicKey ≠ publicKey) :
    (s.step db (.advance i)).view publicKey = s.view publicKey := by
  simp only [step, found]
  cases stands : socket.phase with
  | counted =>
    simp only [announce]
    split
    · ext1 <;> simp [view, enter, tally_set_other found _ other, PresenceEvent.switchOf, other, other.symm]
    · ext1 <;> simp [view, enter, tally_set_other found _ other]
  | opened =>
    simp only [disconnect]
    split
    · ext1 <;> simp [view, enter, tally_set_other found _ other]
    · split
      · ext1 <;> simp [view, enter, tally_set_other found _ other, ExtTreeMap.getElem?_erase, other]
      · ext1 <;> simp [view, enter, tally_set_other found _ other, ExtTreeMap.getElem?_insert, other]
  | leaving =>
    simp only [goOffline]
    split
    · ext1 <;> simp [view, enter, tally_set_other found _ other]
    · ext1 <;> simp [view, enter, tally_set_other found _ other, PresenceEvent.switchOf, other]
  | closed => rfl

variable {publicKey : String}

theorem view_announce (visible : db.isInvisible publicKey = false)
    (found : s.sockets[i]? = some { publicKey := publicKey, phase := .counted }) :
    (s.step db (.advance i)).view publicKey = (s.view publicKey).announce := by
  have live := tally_set found .opened publicKey SocketPhase.isLive
  have pending := tally_set found .opened publicKey (· == .counted)
  have owed := tally_set found .opened publicKey (· == .leaving)
  simp only [SocketPhase.isLive, and_true, if_true, Nat.add_right_cancel_iff] at live
  simp at pending owed
  have fewer : tally (s.sockets.set i { publicKey := publicKey, phase := .opened }) publicKey
      (· == .counted) = tally s.sockets publicKey (· == .counted) - 1 := by
    omega
  simp only [step, found, announce, View.announce]
  by_cases one : (s.view publicKey).count.getD 0 = 1
  · rw [if_pos ⟨one, visible⟩, if_pos one]
    ext1 <;> simp [view, enter, live, fewer, owed, PresenceEvent.switchOf]
  · rw [if_neg (fun both => one both.1), if_neg one]
    ext1 <;> simp [view, enter, live, fewer, owed]

theorem view_disconnect
    (found : s.sockets[i]? = some { publicKey := publicKey, phase := .opened }) :
    (s.step db (.advance i)).view publicKey = (s.view publicKey).disconnect := by
  have fewer : ∀ phase, phase = .leaving ∨ phase = .closed →
      tally (s.sockets.set i { publicKey := publicKey, phase := phase }) publicKey
        SocketPhase.isLive = tally s.sockets publicKey SocketPhase.isLive - 1 := by
    intro phase gone
    have live := tally_set found phase publicKey SocketPhase.isLive
    rcases gone with rfl | rfl <;> simp [SocketPhase.isLive] at live <;> omega
  have pending : ∀ phase, phase = .leaving ∨ phase = .closed →
      tally (s.sockets.set i { publicKey := publicKey, phase := phase }) publicKey (· == .counted) =
        tally s.sockets publicKey (· == .counted) := by
    intro phase gone
    have same := tally_set found phase publicKey (· == .counted)
    rcases gone with rfl | rfl <;> simpa using same
  have owes := tally_set found .leaving publicKey (· == .leaving)
  have owed := tally_set found .closed publicKey (· == .leaving)
  simp at owes owed
  simp only [step, found, disconnect, View.disconnect]
  cases count : s.onlineUsers[publicKey]? with
  | none =>
    simp only [view, count]
    ext1 <;> simp [enter, fewer, pending, owed, count]
  | some n =>
    simp only [view, count]
    split
    · ext1 <;> simp [enter, fewer, pending, owes]
    · ext1 <;> simp [enter, fewer, pending, owed]

theorem view_goOffline (visible : db.isInvisible publicKey = false)
    (found : s.sockets[i]? = some { publicKey := publicKey, phase := .leaving }) :
    (s.step db (.advance i)).view publicKey = (s.view publicKey).goOffline := by
  have live := tally_set found .closed publicKey SocketPhase.isLive
  have pending := tally_set found .closed publicKey (· == .counted)
  have owed := tally_set found .closed publicKey (· == .leaving)
  simp [SocketPhase.isLive] at live
  simp at pending owed
  have fewer : tally (s.sockets.set i { publicKey := publicKey, phase := .closed }) publicKey
      (· == .leaving) = tally s.sockets publicKey (· == .leaving) - 1 := by
    omega
  simp only [step, found, goOffline, visible, Bool.false_eq_true, if_false]
  ext1 <;> simp [view, enter, View.goOffline, live, pending, fewer, PresenceEvent.switchOf]

theorem step_view (visible : db.isInvisible publicKey = false) (act : Action) :
    (s.step db act).view publicKey = s.view publicKey ∨
      (s.step db act).view publicKey = (s.view publicKey).connect ∨
      (∃ i, act = .advance i ∧
        s.sockets[i]? = some { publicKey := publicKey, phase := .counted } ∧
        0 < (s.view publicKey).pending ∧
        (s.step db act).view publicKey = (s.view publicKey).announce) ∨
      ((s.view publicKey).pending < (s.view publicKey).live ∧
        (s.step db act).view publicKey = (s.view publicKey).disconnect) ∨
      (0 < (s.view publicKey).owed ∧
        (s.step db act).view publicKey = (s.view publicKey).goOffline) := by
  cases act with
  | connect key =>
    by_cases own : key = publicKey
    · subst own
      exact .inr (.inl (s.view_connect key))
    · exact .inl (s.view_connect_other own)
  | advance i =>
    cases found : s.sockets[i]? with
    | none => exact .inl (by simp only [step, found])
    | some socket =>
      by_cases own : socket.publicKey = publicKey
      · obtain ⟨key, phase⟩ := socket
        cases own
        cases phase with
        | counted =>
          have waiting := tally_pos found (· == .counted) rfl
          exact .inr (.inr (.inl ⟨i, rfl, found, waiting, s.view_announce visible found⟩))
        | opened =>
          refine .inr (.inr (.inr (.inl ⟨?_, s.view_disconnect found⟩)))
          have split := tally_live s.sockets key
          have inLoop : 0 < tally s.sockets key (· == .opened) := tally_pos found _ rfl
          simp only [view]
          omega
        | leaving =>
          have owes := tally_pos found (· == .leaving) rfl
          exact .inr (.inr (.inr (.inr ⟨owes, s.view_goOffline visible found⟩)))
        | closed => exact .inl (by simp only [step, found])
      · exact .inl (s.view_advance_other found own)

end State

-- While a period is announced nothing is owed for the one before it.
structure View.Balanced (v : View) : Prop where
  count : v.count = if v.live = 0 then none else some v.live
  pending : v.pending ≤ v.live
  alternates : Alternates v.switches
  announced : 0 < v.live → v.announced ≤ 1
  owed : v.owed ≤ 1
  exclusive : 0 < v.live → v.announced = 1 → v.owed = 0
  last : lastOn v.switches = true ↔ (0 < v.live ∧ v.announced = 1) ∨ v.owed = 1
  settled : 0 < v.live → v.pending = 0 → v.announced = 1

namespace View

theorem Balanced.count_getD {v : View} (balanced : v.Balanced) : v.count.getD 0 = v.live := by
  rw [balanced.count]
  split
  next none => simp [none]
  next => rfl

theorem Balanced.follows {v : View} (balanced : v.Balanced) : PresenceFollows v :=
  ⟨balanced.count_getD, balanced.alternates, balanced.settled⟩

theorem Balanced.connect {v : View} (balanced : v.Balanced) : v.connect.Balanced := by
  have count := balanced.count_getD
  have known : v.count.isSome ↔ 0 < v.live := by
    rw [balanced.count]
    split <;> simp <;> omega
  have fresh : ¬ 0 < v.live → v.connect.announced = 0 := by
    intro empty
    rw [View.connect, if_neg (fun some => empty (known.mp some))]
  have kept : 0 < v.live → v.connect.announced = v.announced := by
    intro some
    rw [View.connect, if_pos (known.mpr some)]
  have live : v.connect.live = v.live + 1 := rfl
  have pending : v.connect.pending = v.pending + 1 := rfl
  have owed : v.connect.owed = v.owed := rfl
  refine ⟨?_, ?_, balanced.alternates, ?_, balanced.owed, ?_, ?_, ?_⟩
  · change some (v.count.getD 0 + 1) = _
    rw [count, live, if_neg (by omega)]
  · have bound := balanced.pending
    omega
  · intro _
    by_cases some : 0 < v.live
    · exact (kept some).trans_le (balanced.announced some)
    · simp [fresh some]
  · intro _ one
    by_cases some : 0 < v.live
    · exact balanced.exclusive some ((kept some).symm.trans one)
    · simp [fresh some] at one
  · change lastOn v.switches = true ↔ _
    rw [balanced.last, owed]
    by_cases some : 0 < v.live
    · simp [kept some, live, some]
    · simp [fresh some, some]
  · intro _ none
    omega

theorem Balanced.announce {v : View} (balanced : v.Balanced) (waiting : 0 < v.pending)
    (alone : v.count.getD 0 = 1 → v.announced = 0 ∧ v.owed = 0)
    (later : v.count.getD 0 ≠ 1 → v.pending = 1 → v.announced ≠ 0) : v.announce.Balanced := by
  have some : 0 < v.live := Nat.lt_of_lt_of_le waiting balanced.pending
  have bound := balanced.pending
  by_cases one : v.count.getD 0 = 1
  · obtain ⟨unannounced, nothingOwed⟩ := alone one
    rw [View.announce, if_pos one]
    refine ⟨balanced.count, ?_, ?_, ?_, balanced.owed, ?_, ?_, ?_⟩
    · change v.pending - 1 ≤ v.live
      omega
    · refine (alternates_append _ _).mpr ⟨balanced.alternates, ?_⟩
      rw [ne_eq, balanced.last]
      omega
    · intro _
      simp [unannounced]
    · intro _ _
      exact nothingOwed
    · simp [unannounced, some]
    · intro _ _
      simp [unannounced]
  · rw [View.announce, if_neg one]
    refine ⟨balanced.count, ?_, balanced.alternates, balanced.announced, balanced.owed,
      balanced.exclusive, balanced.last, ?_⟩
    · change v.pending - 1 ≤ v.live
      omega
    · intro _ none
      have unique : v.pending = 1 := by
        change v.pending - 1 = 0 at none
        omega
      have atMost := balanced.announced some
      have atLeast := later one unique
      change v.announced = 1
      omega

theorem Balanced.disconnect {v : View} (balanced : v.Balanced) (opened : v.pending < v.live) :
    v.disconnect.Balanced := by
  have count : v.count = some v.live := by
    rw [balanced.count, if_neg (by omega)]
  rw [View.disconnect, count]
  by_cases lastOne : v.live ≤ 1
  · have announced : v.announced = 1 := balanced.settled (by omega) (by omega)
    have owed : v.owed = 0 := balanced.exclusive (by omega) announced
    have single : v.live = 1 := by omega
    have nobody : v.pending = 0 := by omega
    simp only [lastOne, if_true]
    refine ⟨?_, ?_, balanced.alternates, ?_, ?_, ?_, ?_, ?_⟩
    · simp [single]
    · simp [nobody]
    · simp [single]
    · simp [owed]
    · simp [single]
    · rw [balanced.last]
      simp [single, announced, owed]
    · simp [single]
  · simp only [lastOne, if_false]
    refine ⟨?_, ?_, balanced.alternates, ?_, balanced.owed, ?_, ?_, ?_⟩
    · change some (v.live - 1) = if v.live - 1 = 0 then none else some (v.live - 1)
      rw [if_neg (by omega)]
    · change v.pending ≤ v.live - 1
      omega
    · intro _
      exact balanced.announced (by omega)
    · intro _
      exact balanced.exclusive (by omega)
    · rw [balanced.last]
      have still : 0 < v.live - 1 ↔ 0 < v.live := by omega
      simp only [still]
    · intro _
      exact balanced.settled (by omega)

theorem Balanced.goOffline {v : View} (balanced : v.Balanced) (owes : 0 < v.owed) :
    v.goOffline.Balanced := by
  have one : v.owed = 1 := by
    have bound := balanced.owed
    omega
  have unannounced : ¬ (0 < v.live ∧ v.announced = 1) := by
    rintro ⟨some, announced⟩
    have none := balanced.exclusive some announced
    omega
  refine ⟨balanced.count, balanced.pending, ?_, balanced.announced, ?_, ?_, ?_, balanced.settled⟩
  · refine (alternates_append _ _).mpr ⟨balanced.alternates, ?_⟩
    have on := balanced.last.mpr (.inr one)
    simp [on]
  · simp [View.goOffline, one]
  · intro _ _
    simp [View.goOffline, one]
  · simpa [View.goOffline, one] using unannounced

end View

section

variable {db : Db} {publicKey : String}

theorem balanced_step (visible : db.isInvisible publicKey = false) (s : State) (act : Action)
    (balanced : (s.view publicKey).Balanced) (once : AnnouncesOnce publicKey s act) :
    ((s.step db act).view publicKey).Balanced := by
  rcases s.step_view visible act with same | connected | ⟨i, acts, found, waiting, announced⟩ |
    ⟨opened, disconnected⟩ | ⟨owes, offline⟩
  · rw [same]
    exact balanced
  · rw [connected]
    exact balanced.connect
  · obtain ⟨alone, later⟩ := once i acts found
    rw [announced]
    exact balanced.announce waiting alone later
  · rw [disconnected]
    exact balanced.disconnect opened
  · rw [offline]
    exact balanced.goOffline owes

-- A second announcement repeats the last broadcast; a missing one leaves the period silent.
theorem unsettled_breaks (visible : db.isInvisible publicKey = false) (s : State) (act : Action)
    (balanced : (s.view publicKey).Balanced) (unsettled : ¬ AnnouncesOnce publicKey s act) :
    ¬ PresenceFollows ((s.step db act).view publicKey) := by
  intro follows
  apply unsettled
  rintro i rfl found
  rw [s.view_announce visible found] at follows
  have waiting : 0 < (s.view publicKey).pending := tally_pos found (· == .counted) rfl
  have some : 0 < (s.view publicKey).live := Nat.lt_of_lt_of_le waiting balanced.pending
  constructor
  · intro one
    rw [View.announce, if_pos one] at follows
    have off := ((alternates_append _ _).mp follows.alternates).2
    rw [ne_eq, balanced.last] at off
    have bound := balanced.announced some
    have owed := balanced.owed
    omega
  · intro more unique
    rw [View.announce, if_neg more] at follows
    have announced := follows.announcedOnce some (by simp [unique])
    simp only at announced
    omega

/--
The broadcasts about a visible pubkey follow its refcount exactly in the interleavings where every
announcement that reads a count of one comes first in its period with nothing owed for the one
before, and a period's last announcement does not find it unannounced.
-/
theorem presenceFollows_iff (db : Db) (publicKey : String)
    (visible : db.isInvisible publicKey = false) (acts : List Action) :
    (∀ front, front <+: acts →
        PresenceFollows ((Runs.run (State.step db) {} front).view publicKey)) ↔
      Runs.Meets (State.step db) (AnnouncesOnce publicKey) {} acts := by
  refine Runs.always_iff_meets (fun s : State => (s.view publicKey).Balanced)
    (fun s => PresenceFollows (s.view publicKey)) (fun _ balanced => balanced.follows)
    (balanced_step visible) (unsettled_breaks visible) ?_ acts
  have empty : ({} : State).view publicKey = {} := by
    ext1 <;> rfl
  rw [empty]
  exact ⟨rfl, Nat.le_refl 0, alternates_nil, by simp, by simp, by simp, by simp, by simp⟩

theorem presenceFollows_iff_one_socket :
    (({} : Db).isInvisible "ann" = false) ∧
      PresenceFollows ((Runs.run (State.step {}) {}
        [.connect "ann", .advance 0, .advance 0, .advance 0]).view "ann") := by
  refine ⟨by decide, ?_⟩
  refine (presenceFollows_iff {} "ann" (by decide) _).mpr ?_ _ List.prefix_rfl
  refine ⟨nofun, ?_, ?_, ?_, trivial⟩
  · rintro i acts -
    cases acts
    decide
  · rintro i acts found
    cases acts
    exact absurd found (by decide)
  · rintro i acts found
    cases acts
    exact absurd found (by decide)

-- Two sockets that both count before either reads: nobody is told, until they are told of the end.
theorem presenceFollows_two_sockets :
    (({} : Db).isInvisible "ann" = false) ∧
      (Runs.run (State.step {}) {} [.connect "ann", .connect "ann", .advance 0, .advance 1]).chatTx = [] ∧
      (Runs.run (State.step {}) {} [.connect "ann", .connect "ann", .advance 0, .advance 1, .advance 0,
        .advance 1, .advance 1]).chatTx = [.memberOffline "ann"] ∧
      ¬ PresenceFollows ((Runs.run (State.step {}) {}
        [.connect "ann", .connect "ann", .advance 0, .advance 1]).view "ann") := by
  refine ⟨by decide, by decide, by decide, ?_⟩
  intro follows
  exact absurd (follows.announcedOnce (by decide) (by decide)) (by decide)

end

end Wavvon.Presence
