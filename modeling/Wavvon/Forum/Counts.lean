import Wavvon.Forum.Dues
import Wavvon.Shared.Counters

set_option autoImplicit false

namespace Wavvon.Forum

open Std (ExtTreeMap)
open Chat (MessageRow)
open Counters (Ledger Balanced rows)
open Interleaving (Fits FitAll)

def repliesTo (s : State) (id : String) : Nat := rows s.chat.messages fun _ reply => decide (reply.replyTo = some id)

def liveReplies (s : State) (postId : String) : Nat :=
  rows s.replies fun _ reply => decide (reply.postId = postId) && reply.deletedAt.isNone

structure CountsRight (s : State) : Prop where
  messages : ∀ (id : String) row, s.chat.messages[id]? = some row → row.replyCount = repliesTo s id
  posts : ∀ (id : String) row, s.posts[id]? = some row → row.replyCount = liveReplies s id

instance (s : State) : Decidable (CountsRight s) :=
  decidable_of_iff
    ((∀ row ∈ s.chat.messages.toList, row.2.replyCount = repliesTo s row.1) ∧
      ∀ row ∈ s.posts.toList, row.2.replyCount = liveReplies s row.1)
    ⟨fun right => ⟨fun id row stored => right.1 (id, row) (ExtTreeMap.mem_toList_iff_getElem?_eq_some.mpr stored),
        fun id row stored => right.2 (id, row) (ExtTreeMap.mem_toList_iff_getElem?_eq_some.mpr stored)⟩,
      fun right => ⟨fun row stored => right.messages row.1 row.2 (ExtTreeMap.mem_toList_iff_getElem?_eq_some.mp stored),
        fun row stored => right.posts row.1 row.2 (ExtTreeMap.mem_toList_iff_getElem?_eq_some.mp stored)⟩⟩

def replyLedger : Ledger State Counter where
  count s
    | .message id => s.chat.messages[id]?.map (·.replyCount)
    | .post id => s.posts[id]?.map (·.replyCount)
  entries s
    | .message id => repliesTo s id
    | .post id => liveReplies s id

def Due.amount : Due → Counter → Int
  | .bump counter, k => if counter = k then 1 else 0
  | .unbump counter, k => if counter = k then -1 else 0

def Due.counter : Due → Counter
  | .bump counter | .unbump counter => counter

def Progress.due (p : Progress) (k : Counter) : Int :=
  match p.owes with
  | none => 0
  | some due => due.amount k

-- Nothing is stored under the id, nothing stored names it, and nobody has seen it.
structure Unused (sys : Requests) (x : String) : Prop where
  unstored : x ∉ sys.shared.chat.messages
  unnamed : ∀ (id : String) row, sys.shared.chat.messages[id]? = some row → row.replyTo ≠ some x
  unseen : ∀ p ∈ sys.progresses, x ∉ p.named

structure Fresh (sys : Requests) : Prop where
  unused : ∀ p ∈ sys.progresses, ∀ x ∈ p.drawn, Unused sys x
  apart : ∀ (i j : Nat) p q, i ≠ j → sys.progresses[i]? = some p → sys.progresses[j]? = some q →
    Disjoint p.drawn q.drawn
  seen : ∀ p ∈ sys.progresses, ∀ due ∈ p.owes, ∀ x, due.counter = .message x → x ∈ p.named

section

variable {label : Label} {p : Progress} {s : State}

theorem advance_drawn : (label.advance p s).drawn ⊆ p.drawn := by
  cases label with
  | readMessage id => simp [Label.advance]
  | insertMessage id row =>
    simp only [Label.advance]
    split <;> exact Finset.erase_subset _ _
  | insertAppReply id row => exact Finset.erase_subset _ _
  | insertReply id row =>
    simp only [Label.advance]
    split <;> exact Finset.Subset.refl _
  | _ => exact Finset.Subset.refl _

theorem advance_named {x : String} (member : x ∈ (label.advance p s).named) :
    x ∈ p.named ∨ x ∈ s.chat.messages ∨
      ∃ (id : String) (row : MessageRow), s.chat.messages[id]? = some row ∧ row.replyTo = some x := by
  cases label with
  | readMessage id =>
    simp only [Label.advance, Progress.sees] at member
    cases found : s.chat.messages[id]? with
    | none => exact .inl (by simpa [found] using member)
    | some row =>
      simp only [found, Finset.mem_insert, Finset.mem_union, Option.mem_toFinset] at member
      rcases member with rfl | old | named
      · exact .inr (.inl (ExtTreeMap.mem_iff_isSome_getElem?.mpr (by simp [found])))
      · exact .inl old
      · exact .inr (.inr ⟨id, row, found, named⟩)
  | insertMessage id row =>
    simp only [Label.advance] at member
    split at member <;> exact .inl member
  | insertReply id row =>
    simp only [Label.advance] at member
    split at member <;> exact .inl member
  | _ => exact .inl member

theorem named_subset_advance : p.named ⊆ (label.advance p s).named := by
  cases label with
  | readMessage id => exact p.named_subset_sees id s
  | insertMessage id row =>
    simp only [Label.advance]
    split <;> exact Finset.Subset.refl _
  | insertReply id row =>
    simp only [Label.advance]
    split <;> exact Finset.Subset.refl _
  | _ => exact Finset.Subset.refl _

-- A new debt is to a message that was seen.
theorem advance_owes (allowed : label.allowed p) {due : Due} (owes : due ∈ (label.advance p s).owes) :
    due ∈ p.owes ∨ ∀ x, due.counter = .message x → x ∈ p.named := by
  have toParent : ∀ (make : Counter → Due) {parent : Option String}, (∀ c, (make c).counter = c) →
      parent.toFinset ⊆ p.named → due ∈ parent.map (fun parent => make (.message parent)) →
      ∀ x, due.counter = .message x → x ∈ p.named := by
    intro make parent keeps seen owes x names
    obtain ⟨y, rfl, rfl⟩ := Option.mem_map.mp owes
    obtain rfl : y = x := by simpa [keeps] using names
    exact seen (by simp)
  cases label with
  | readMessage id => exact .inl (by simpa [Label.advance] using owes)
  | insertMessage id row =>
    simp only [Label.advance] at owes
    split at owes
    next => exact .inr (toParent .bump (fun _ => rfl) allowed.2.2.1 owes)
    next => exact .inl owes
  | insertAppReply id row => exact .inr (toParent .bump (fun _ => rfl) allowed.2.2.1 owes)
  | eraseMessage id parent => exact .inr (toParent .unbump (fun _ => rfl) allowed.2 owes)
  | insertReply id row =>
    simp only [Label.advance] at owes
    split at owes
    next =>
      obtain rfl := Option.some.inj owes
      exact .inr fun x names => by cases names
    next => exact .inl owes
  | tombstone replyId postId now =>
    obtain rfl := Option.some.inj owes
    exact .inr fun x names => by cases names
  | adjust due now => cases owes
  | _ => exact .inl owes

-- Every row was there with the same parent, or is stored by this statement under a drawn id.
theorem effect_row (allowed : label.allowed p) {id : String} {after : MessageRow}
    (stored : (label.effect s).chat.messages[id]? = some after) :
    (∃ row, s.chat.messages[id]? = some row ∧ after.replyTo = row.replyTo) ∨
      (id ∈ p.drawn ∧ id ∉ (label.advance p s).drawn ∧ after.replyTo.toFinset ⊆ p.named) := by
  have inserted : ∀ {newId : String} {row : MessageRow}, p.mayStore newId row →
      (Chat.insertMessage s.chat newId row).messages[id]? = some after →
      (∃ row, s.chat.messages[id]? = some row ∧ after.replyTo = row.replyTo) ∨
        (id = newId ∧ id ∈ p.drawn ∧ after.replyTo.toFinset ⊆ p.named) := by
    intro newId row mayStore stored
    unfold Chat.insertMessage at stored
    split at stored
    next => exact .inl ⟨after, stored, rfl⟩
    next =>
      dsimp only at stored
      rw [ExtTreeMap.getElem?_insert] at stored
      split at stored
      next same =>
        obtain rfl := Option.some.inj stored
        obtain rfl := Std.LawfulEqOrd.eq_of_compare same
        exact .inr ⟨rfl, mayStore.2.1, mayStore.2.2.1⟩
      next => exact .inl ⟨after, stored, rfl⟩
  cases label with
  | gate publicKey channelId clock =>
    refine .inl ⟨after, ?_, rfl⟩
    rwa [Label.effect, requireMayPost_chat] at stored
  | insertMessage newId row =>
    refine (inserted allowed stored).imp_right ?_
    rintro ⟨rfl, drawn, seen⟩
    refine ⟨drawn, ?_, seen⟩
    simp only [Label.advance]
    split <;> exact Finset.notMem_erase _ _
  | insertAppReply newId row =>
    refine (inserted allowed stored).imp_right ?_
    rintro ⟨rfl, drawn, seen⟩
    exact ⟨drawn, Finset.notMem_erase _ _, seen⟩
  | eraseMessage gone parent =>
    refine .inl ⟨after, ?_, rfl⟩
    rw [Label.effect, ExtTreeMap.getElem?_erase] at stored
    split at stored
    next => cases stored
    next => exact stored
  | sweepMessages now =>
    refine .inl ⟨after, ?_, rfl⟩
    rw [Label.effect, Forum.sweepMessages] at stored
    split at stored
    next => exact stored
    next =>
      rw [ExtTreeMap.getElem?_filter'] at stored
      exact (Option.filter_eq_some_iff.mp stored).1
  | sweepPosts now =>
    refine .inl ⟨after, ?_, rfl⟩
    rw [Label.effect, Forum.sweepPosts] at stored
    split at stored <;> exact stored
  | insertPost newId row tagIds => exact False.elim allowed
  | revisePost newId title body tagIds now => exact False.elim allowed
  | reviseReply newId body now => exact False.elim allowed
  | insertReply newId row =>
    refine .inl ⟨after, ?_, rfl⟩
    rw [Label.effect] at stored
    split at stored <;> exact stored
  | adjust due now =>
    have kept : ∀ (parent : String) (count : Int → Int),
        (Chat.recount s.chat (some parent) count).messages[id]? = some after →
        ∃ row, s.chat.messages[id]? = some row ∧ after.replyTo = row.replyTo := by
      intro parent count changed
      simp only [Chat.recount, Chat.modifyMessage, ExtTreeMap.getElem?_modify] at changed
      split at changed
      next same =>
        obtain rfl := Std.LawfulEqOrd.eq_of_compare same
        obtain ⟨row, found, rfl⟩ := Option.map_eq_some_iff.mp changed
        exact ⟨row, found, rfl⟩
      next => exact ⟨after, changed, rfl⟩
    rcases due with (parent | postId) | (parent | postId)
    · exact .inl (kept parent _ stored)
    · exact .inl ⟨after, stored, rfl⟩
    · exact .inl (kept parent _ stored)
    · exact .inl ⟨after, stored, rfl⟩
  | _ => exact .inl ⟨after, stored, rfl⟩

end

-- One statement of a request.
structure Moved (sys : Requests) (i : Nat) (p : Progress) (label : Label) : Prop where
  waits : sys.AtStatement i p label
  shared : (Requests.next sys i).shared = label.effect sys.shared
  allowed : label.allowed p

section

variable {sys : Requests} {i : Nat} {p : Progress} {label : Label}

theorem Moved.found (moved : Moved sys i p label) : sys.progresses[i]? = some p :=
  (Interleaving.step_progresses countRules moved.waits).1

theorem Moved.progresses (moved : Moved sys i p label) :
    (Requests.next sys i).progresses = sys.progresses.set i (label.advance p sys.shared) :=
  (Interleaving.step_progresses countRules moved.waits).2

theorem Moved.member (moved : Moved sys i p label) {q : Progress} (member : q ∈ (Requests.next sys i).progresses) :
    q = label.advance p sys.shared ∨ q ∈ sys.progresses := by
  rw [moved.progresses] at member
  exact (List.mem_or_eq_of_mem_set member).symm

theorem Moved.mine (moved : Moved sys i p label) : p ∈ sys.progresses := List.mem_of_getElem? moved.found

-- An id stays unused unless this statement stores under it.
theorem Unused.step (moved : Moved sys i p label) {x : String} (unused : Unused sys x)
    (notHere : x ∈ p.drawn → x ∈ (label.advance p sys.shared).drawn) : Unused (Requests.next sys i) x := by
  refine ⟨?_, ?_, ?_⟩
  · intro stored
    rw [moved.shared] at stored
    obtain ⟨after, found⟩ := Option.isSome_iff_exists.mp (ExtTreeMap.mem_iff_isSome_getElem?.mp stored)
    rcases effect_row moved.allowed found with ⟨row, before, _⟩ | ⟨drawn, used, _⟩
    · exact unused.unstored (ExtTreeMap.mem_iff_isSome_getElem?.mpr (by simp [before]))
    · exact used (notHere drawn)
  · intro id after stored names
    rw [moved.shared] at stored
    rcases effect_row moved.allowed stored with ⟨row, before, same⟩ | ⟨_, _, seen⟩
    · exact unused.unnamed id row before (same.symm.trans names)
    · exact unused.unseen p moved.mine (seen (Option.mem_toFinset.mpr names))
  · intro q member seen
    rcases moved.member member with rfl | old
    · rcases advance_named seen with already | stored | ⟨id, row, found, names⟩
      · exact unused.unseen p moved.mine already
      · exact unused.unstored stored
      · exact unused.unnamed id row found names
    · exact unused.unseen q old seen

theorem Fresh.step (moved : Moved sys i p label) (fresh : Fresh sys) : Fresh (Requests.next sys i) := by
  have elsewhere : ∀ (j : Nat) q, (Requests.next sys i).progresses[j]? = some q →
      (j = i ∧ q = label.advance p sys.shared) ∨ (j ≠ i ∧ sys.progresses[j]? = some q) := by
    intro j q found
    rw [moved.progresses, List.getElem?_set] at found
    split at found
    next same =>
      split at found
      next => exact .inl ⟨same.symm, (Option.some.inj found).symm⟩
      next => cases found
    next other => exact .inr ⟨fun same => other same.symm, found⟩
  refine ⟨?_, ?_, ?_⟩
  · intro q member x drawn
    obtain ⟨j, here⟩ := List.mem_iff_getElem?.mp member
    rcases elsewhere j q here with ⟨rfl, rfl⟩ | ⟨other, old⟩
    · exact (fresh.unused p moved.mine x (advance_drawn drawn)).step moved fun _ => drawn
    · refine (fresh.unused q (List.mem_of_getElem? old) x drawn).step moved ?_
      intro mine
      exact absurd mine (Finset.disjoint_left.mp (fresh.apart j i q p other old moved.found) drawn)
  · intro j k q r apart first second
    rcases elsewhere j q first with ⟨rfl, rfl⟩ | ⟨other, old⟩
    · rcases elsewhere k r second with ⟨rfl, _⟩ | ⟨_, old⟩
      · exact absurd rfl apart
      · exact (fresh.apart _ _ _ _ apart moved.found old).mono_left advance_drawn
    · rcases elsewhere k r second with ⟨rfl, rfl⟩ | ⟨_, older⟩
      · exact (fresh.apart _ _ _ _ apart old moved.found).mono_right advance_drawn
      · exact fresh.apart _ _ _ _ apart old older
  · intro q member due owes x names
    rcases moved.member member with rfl | old
    · rcases advance_owes moved.allowed owes with before | seen
      · exact named_subset_advance (fresh.seen p moved.mine due before x names)
      · exact named_subset_advance (seen x names)
    · exact fresh.seen q old due owes x names

end

def sweepFails (s : State) (now : Int) : Bool :=
  s.chat.messages.toList.any fun row => messageCutoff s row.2.channelId now = some none

-- No reply goes whose parent stays.
def SweepsWhole (s : State) (now : Int) : Prop :=
  ∀ row ∈ s.chat.messages.toList, doomedMessage s now row.2 = true →
    ∀ parent ∈ row.2.replyTo, ∀ above ∈ s.chat.messages[parent]?, doomedMessage s now above = true

/--
What keeps a statement from putting a count wrong: an app's reply is stored or has no parent to count it, a
deletion finds what it has read, a sweep takes parents with their replies, and a count goes down from above
zero.
-/
def Spare (s : State) : Label → Prop
  | .insertAppReply id row =>
    (Chat.checkInsert s.chat id row).isOk = true ∨ ∀ parent ∈ row.replyTo, parent ∉ s.chat.messages
  | .eraseMessage id parent =>
    (∀ row ∈ s.chat.messages[id]?, row.replyTo = parent) ∧
      (id ∉ s.chat.messages → ∀ above ∈ parent, above ∉ s.chat.messages)
  | .sweepMessages now => sweepFails s now = true ∨ SweepsWhole s now
  | .tombstone replyId postId _ =>
    (∀ reply ∈ s.replies[replyId]?, reply.postId = postId ∧ reply.deletedAt = none) ∧
      (replyId ∉ s.replies → postId ∉ s.posts)
  | .adjust (.unbump counter) _ => ∀ count ∈ replyLedger.count s counter, 0 < count
  | _ => True

instance (s : State) (now : Int) : Decidable (SweepsWhole s now) :=
  inferInstanceAs (Decidable (∀ row ∈ s.chat.messages.toList, doomedMessage s now row.2 = true →
    ∀ parent ∈ row.2.replyTo, ∀ above ∈ s.chat.messages[parent]?, doomedMessage s now above = true))

instance (s : State) : (label : Label) → Decidable (Spare s label)
  | .insertAppReply id row => inferInstanceAs (Decidable
      ((Chat.checkInsert s.chat id row).isOk = true ∨ ∀ parent ∈ row.replyTo, parent ∉ s.chat.messages))
  | .eraseMessage id parent => inferInstanceAs (Decidable
      ((∀ row ∈ s.chat.messages[id]?, row.replyTo = parent) ∧
        (id ∉ s.chat.messages → ∀ above ∈ parent, above ∉ s.chat.messages)))
  | .sweepMessages now => inferInstanceAs (Decidable (sweepFails s now = true ∨ SweepsWhole s now))
  | .tombstone replyId postId _ => inferInstanceAs (Decidable
      ((∀ reply ∈ s.replies[replyId]?, reply.postId = postId ∧ reply.deletedAt = none) ∧
        (replyId ∉ s.replies → postId ∉ s.posts)))
  | .adjust (.unbump counter) _ => inferInstanceAs (Decidable (∀ count ∈ replyLedger.count s counter, 0 < count))
  | .adjust (.bump _) _ | .read | .readMessage _ | .gate _ _ _ | .federatedGate _ _ | .insertMessage _ _
  | .sweepPosts _ | .insertPost _ _ _ | .revisePost _ _ _ _ _ | .insertReply _ _ | .reviseReply _ _ _ =>
    inferInstanceAs (Decidable True)

-- What a statement adds to a count and to what is owed on it is what it adds to the replies.
def Keeps (s after : State) (p q : Progress) (k : Counter) : Prop :=
  ∀ count, replyLedger.count after k = some count →
    ∃ before, replyLedger.count s k = some before ∧
      count + q.due k + replyLedger.entries s k = before + p.due k + replyLedger.entries after k

section

variable {s after : State} {p q : Progress} {k : Counter}

theorem due_settled (settled : p.owes = none) (k : Counter) : p.due k = 0 := by
  rw [Progress.due, settled]

theorem due_owes {due : Due} (owes : p.owes = some due) (k : Counter) : p.due k = due.amount k := by
  rw [Progress.due, owes]

theorem due_congr (same : q.owes = p.owes) (k : Counter) : q.due k = p.due k := by
  rw [Progress.due, Progress.due, same]

theorem keeps_same (counts : replyLedger.count after k = replyLedger.count s k)
    (entries : replyLedger.entries after k = replyLedger.entries s k) (owes : q.due k = p.due k) :
    Keeps s after p q k := by
  intro count stored
  refine ⟨count, counts ▸ stored, ?_⟩
  rw [entries, owes]

theorem insertMessage_keeps {id : String} {row : MessageRow} (fresh : id ∉ s.chat.messages)
    (stored : after = { s with chat := { s.chat with messages := s.chat.messages.insert id row } })
    (settled : p.owes = none) (owes : q.owes = row.replyTo.map fun parent => .bump (.message parent))
    (other : k ≠ .message id) : Keeps s after p q k := by
  subst stored
  intro count found
  rw [due_settled settled]
  cases k with
  | post postId =>
    refine ⟨count, found, ?_⟩
    have none : q.due (.post postId) = 0 := by
      rw [Progress.due, owes]
      cases row.replyTo <;> rfl
    rw [none]
    rfl
  | message m =>
    have apart : id ≠ m := fun same => other (by rw [same])
    have before : (s.chat.messages.insert id row)[m]? = s.chat.messages[m]? := by
      simp [ExtTreeMap.getElem?_insert, apart]
    refine ⟨count, by simpa only [replyLedger, before] using found, ?_⟩
    have more := Counters.rows_insert fresh (fun _ (reply : MessageRow) => decide (reply.replyTo = some m)) row
    have adds : q.due (.message m) = if row.replyTo = some m then 1 else 0 := by
      rw [Progress.due, owes]
      cases row.replyTo <;> simp [Due.amount]
    simp only [replyLedger, repliesTo, more, adds]
    split
    next names =>
      simp only [names, decide_true, if_true]
      omega
    next names =>
      simp only [names, decide_false, Bool.false_eq_true, if_false]
      omega

theorem eraseMessage_keeps {id : String} {parent : Option String}
    (erased : after = { s with chat := { s.chat with messages := s.chat.messages.erase id } })
    (settled : p.owes = none) (owes : q.owes = parent.map fun parent => .unbump (.message parent))
    (spare : Spare s (.eraseMessage id parent)) : Keeps s after p q k := by
  subst erased
  intro count found
  rw [due_settled settled]
  cases k with
  | post postId =>
    refine ⟨count, found, ?_⟩
    have none : q.due (.post postId) = 0 := by
      rw [Progress.due, owes]
      cases parent <;> rfl
    rw [none]
    rfl
  | message m =>
    have takes : q.due (.message m) = if parent = some m then -1 else 0 := by
      rw [Progress.due, owes]
      cases parent <;> simp [Due.amount]
    have found' : (s.chat.messages.erase id)[m]?.map (·.replyCount) = some count := found
    rw [ExtTreeMap.getElem?_erase] at found'
    split at found'
    next => cases found'
    next =>
      refine ⟨count, found', ?_⟩
      simp only [replyLedger, repliesTo, takes]
      cases here : s.chat.messages[id]? with
      | some row =>
        have same : row.replyTo = parent := spare.1 row here
        have fewer := Counters.rows_erase here fun _ (reply : MessageRow) => decide (reply.replyTo = some m)
        rw [same] at fewer
        split
        next names =>
          simp only [names, decide_true, if_true] at fewer
          omega
        next names =>
          simp only [names, decide_false, Bool.false_eq_true, if_false] at fewer
          omega
      | none =>
        have absent := spare.2 fun stored => by simp [ExtTreeMap.mem_iff_isSome_getElem?, here] at stored
        have apart : parent ≠ some m := by
          intro names
          refine absent m names (ExtTreeMap.mem_iff_isSome_getElem?.mpr ?_)
          obtain ⟨row, here, _⟩ := Option.map_eq_some_iff.mp found'
          simp [here]
        rw [if_neg apart, Tables.erase_absent here]

theorem sweepMessages_keeps {now : Int} (swept : after = sweepMessages s now) (owes : q.owes = p.owes)
    (spare : Spare s (.sweepMessages now)) : Keeps s after p q k := by
  subst swept
  unfold sweepMessages
  split
  next => exact keeps_same rfl rfl (due_congr owes k)
  next goes =>
    have whole : SweepsWhole s now := by
      refine spare.resolve_left ?_
      exact goes
    intro count found
    cases k with
    | post postId => exact ⟨count, found, by rw [due_congr owes]; rfl⟩
    | message m =>
      obtain ⟨above, here, counted⟩ := Option.map_eq_some_iff.mp found
      rw [ExtTreeMap.getElem?_filter', Option.filter_eq_some_iff] at here
      refine ⟨count, by simp [replyLedger, here.1, counted], ?_⟩
      have kept : rows (s.chat.messages.filter fun _ row => !doomedMessage s now row)
            (fun _ reply => decide (reply.replyTo = some m)) =
          rows s.chat.messages fun _ reply => decide (reply.replyTo = some m) := by
        rw [Counters.rows_filter]
        refine Counters.rows_congr ?_
        intro id row stored
        by_cases names : row.replyTo = some m
        next =>
          have stays : doomedMessage s now row = false := by
            rw [Bool.eq_false_iff]
            intro doomed
            have gone := whole (id, row) (ExtTreeMap.mem_toList_iff_getElem?_eq_some.mpr stored) doomed m names above here.1
            simp [gone] at here
          simp [names, stays]
        next => simp [names]
      simp only [replyLedger, repliesTo, kept, due_congr owes]

theorem sweepPosts_keeps {now : Int} (swept : after = sweepPosts s now) (owes : q.owes = p.owes) :
    Keeps s after p q k := by
  subst swept
  unfold sweepPosts
  split
  next => exact keeps_same rfl rfl (due_congr owes k)
  next =>
    intro count found
    cases k with
    | message m => exact ⟨count, found, by rw [due_congr owes]; rfl⟩
    | post postId =>
      obtain ⟨row, here, counted⟩ := Option.map_eq_some_iff.mp found
      have stays : postId ∈ s.posts.filter fun _ row => !expired (postCutoff s row.channelId now) row.createdAt :=
        ExtTreeMap.mem_iff_isSome_getElem?.mpr (by simp [here])
      rw [ExtTreeMap.getElem?_filter', Option.filter_eq_some_iff] at here
      refine ⟨count, by simp [replyLedger, here.1, counted], ?_⟩
      simp only [replyLedger, liveReplies, due_congr owes, Counters.rows_map, Counters.rows_filter]
      have kept : ∀ (id : String) (reply : ReplyRow), s.replies[id]? = some reply →
          (decide (reply.postId ∈ s.posts.filter fun _ row =>
              !expired (postCutoff s row.channelId now) row.createdAt) &&
            (decide (reply.postId = postId) && reply.deletedAt.isNone)) =
          (decide (reply.postId = postId) && reply.deletedAt.isNone) := by
        intro id reply _
        by_cases mine : reply.postId = postId
        next => simp only [mine, stays, decide_true, Bool.true_and]
        next => simp only [mine, decide_false, Bool.false_and, Bool.and_false]
      rw [Counters.rows_congr kept]

theorem insertReply_keeps {id : String} {row : ReplyRow} (fresh : id ∉ s.replies)
    (stored : after = { s with replies := s.replies.insert id row }) (settled : p.owes = none)
    (owes : q.owes = some (.bump (.post row.postId))) (live : row.deletedAt = none) : Keeps s after p q k := by
  subst stored
  intro count found
  refine ⟨count, found, ?_⟩
  rw [due_settled settled, due_owes owes]
  cases k with
  | message m => rfl
  | post postId =>
    have more := Counters.rows_insert fresh
      (fun _ (reply : ReplyRow) => decide (reply.postId = postId) && reply.deletedAt.isNone) row
    simp only [replyLedger, liveReplies, more, Due.amount, live]
    by_cases mine : row.postId = postId
    next =>
      simp only [mine, decide_true, Option.isNone_none, Bool.and_self, if_true]
      omega
    next =>
      simp only [mine, decide_false, Bool.false_and, Bool.false_eq_true, if_false, Counter.post.injEq]
      omega

theorem tombstone_keeps {replyId postId : String} {now : Int}
    (buried : after = modifyReply s replyId fun row => { row with deletedAt := some now }) (settled : p.owes = none)
    (owes : q.owes = some (.unbump (.post postId))) (spare : Spare s (.tombstone replyId postId now)) :
    Keeps s after p q k := by
  subst buried
  intro count found
  refine ⟨count, found, ?_⟩
  rw [due_settled settled, due_owes owes]
  cases k with
  | message m => rfl
  | post target =>
    simp only [replyLedger, liveReplies, modifyReply, Due.amount, Counter.post.injEq]
    cases here : s.replies[replyId]? with
    | some reply =>
      obtain ⟨rfl, live⟩ := spare.1 reply here
      rw [Tables.modify_found here]
      have fewer := Counters.rows_replace here
        (fun _ (reply : ReplyRow) => decide (reply.postId = target) && reply.deletedAt.isNone)
        { reply with deletedAt := some now }
      simp only [live, Option.isNone_none, Option.isNone_some, Bool.and_false, Bool.and_true,
        Bool.false_eq_true, if_false, decide_eq_true_eq] at fewer
      split
      next mine =>
        rw [if_pos mine] at fewer
        omega
      next other =>
        rw [if_neg other] at fewer
        omega
    | none =>
      have gone := spare.2 fun stored => by simp [ExtTreeMap.mem_iff_isSome_getElem?, here] at stored
      have apart : postId ≠ target := by
        rintro rfl
        refine gone (ExtTreeMap.mem_iff_isSome_getElem?.mpr ?_)
        obtain ⟨row, stored, _⟩ := Option.map_eq_some_iff.mp found
        exact Option.isSome_iff_exists.mpr ⟨row, stored⟩
      rw [Tables.modify_absent here, if_neg apart]

-- An adjustment pays what it owes.
theorem recount_keeps {id : String} {change : Int → Int} {amount : Int}
    (changed : after = { s with chat := Chat.recount s.chat (some id) change })
    (pays : q.due k = 0 ∧ p.due k = if Counter.message id = k then amount else 0)
    (adds : ∀ count ∈ replyLedger.count s (.message id), change count = count + amount) : Keeps s after p q k := by
  subst changed
  intro count found
  rw [pays.1, pays.2]
  cases k with
  | post postId => exact ⟨count, found, rfl⟩
  | message m =>
    obtain ⟨row, here, rfl⟩ := Option.map_eq_some_iff.mp found
    obtain ⟨old, before, rfl⟩ := Tables.modify_some here
    refine ⟨old.replyCount, by simp [replyLedger, before], ?_⟩
    have same : repliesTo { s with chat := Chat.recount s.chat (some id) change } m = repliesTo s m := by
      simp only [repliesTo, Chat.recount, Chat.modifyMessage]
      rw [Counters.rows_modify]
      exact fun _ _ => rfl
    simp only [replyLedger, same, Counter.message.injEq]
    split
    next mine =>
      subst mine
      have added := adds old.replyCount (by simp [replyLedger, before])
      dsimp only
      omega
    next => omega

theorem repost_keeps {id : String} {change : PostRow → PostRow} {amount : Int}
    (changed : after = modifyPost s id change)
    (pays : q.due k = 0 ∧ p.due k = if Counter.post id = k then amount else 0)
    (adds : ∀ row ∈ s.posts[id]?, (change row).replyCount = row.replyCount + amount) : Keeps s after p q k := by
  subst changed
  intro count found
  rw [pays.1, pays.2]
  cases k with
  | message m => exact ⟨count, found, rfl⟩
  | post postId =>
    obtain ⟨row, here, rfl⟩ := Option.map_eq_some_iff.mp found
    obtain ⟨old, before, rfl⟩ := Tables.modify_some here
    refine ⟨old.replyCount, by simp [replyLedger, before], ?_⟩
    have same : liveReplies (modifyPost s id change) postId = liveReplies s postId := rfl
    simp only [replyLedger, same, Counter.post.injEq]
    split
    next mine =>
      subst mine
      have added := adds old before
      omega
    next => omega

theorem adjust_keeps {due : Due} {now : Int} (paid : after = adjust s due now) (owed : p.owes = some due)
    (settled : q.owes = none) (spare : Spare s (.adjust due now)) : Keeps s after p q k := by
  have pays : q.due k = 0 ∧ p.due k = due.amount k := ⟨due_settled settled k, due_owes owed k⟩
  rcases due with (id | id) | (id | id)
  · exact recount_keeps paid pays fun _ _ => rfl
  · exact repost_keeps paid pays fun _ _ => rfl
  · refine recount_keeps paid pays ?_
    intro count stored
    have positive : 0 < count := spare count stored
    omega
  · refine repost_keeps paid pays ?_
    intro row stored
    have positive : 0 < row.replyCount := spare row.replyCount (Option.mem_map_of_mem _ stored)
    dsimp only
    omega

end

section

variable {label : Label} {p : Progress} {s : State}

theorem insertMessage_stored {s : Chat.State} {id : String} {row : MessageRow}
    (accepted : (Chat.checkInsert s id row).isOk = true) :
    id ∉ s.messages ∧ Chat.insertMessage s id row = { s with messages := s.messages.insert id row } := by
  unfold Chat.insertMessage
  cases checked : Chat.checkInsert s id row with
  | error e => simp [checked, Except.isOk, Except.toBool] at accepted
  | ok _ =>
    refine ⟨?_, rfl⟩
    intro stored
    simp [Chat.checkInsert, stored] at checked

theorem insertMessage_refused {s : Chat.State} {id : String} {row : MessageRow}
    (refused : (Chat.checkInsert s id row).isOk ≠ true) : Chat.insertMessage s id row = s := by
  unfold Chat.insertMessage
  cases checked : Chat.checkInsert s id row with
  | error e => rfl
  | ok _ => simp [checked, Except.isOk, Except.toBool] at refused

theorem checkInsertReply_fresh {id : String} {row : ReplyRow} (accepted : (checkInsertReply s id row).isOk = true) :
    id ∉ s.replies := by
  intro stored
  simp [checkInsertReply, stored, Except.isOk, Except.toBool] at accepted

-- The message that a statement stores, if it does.
def Label.opens (label : Label) (s : State) (k : Counter) : Prop :=
  match label with
  | .insertMessage id row | .insertAppReply id row =>
    k = .message id ∧ (Chat.checkInsert s.chat id row).isOk = true
  | _ => False

-- A parent that is not stored has no count.
theorem orphan_due {id : String} {row : MessageRow} {k : Counter} {count : Int}
    (orphan : ∀ parent ∈ row.replyTo, parent ∉ s.chat.messages) (stored : replyLedger.count s k = some count) :
    (p.stores id row).due k = 0 := by
  unfold Progress.stores Progress.due
  cases named : row.replyTo with
  | none => rfl
  | some parent =>
    refine if_neg ?_
    rintro rfl
    obtain ⟨above, found, _⟩ := Option.map_eq_some_iff.mp stored
    exact orphan parent named (ExtTreeMap.mem_iff_isSome_getElem?.mpr (by simp [found]))

theorem effect_keeps (allowed : label.allowed p) (spare : Spare s label) {k : Counter} (old : ¬label.opens s k) :
    Keeps s (label.effect s) p (label.advance p s) k := by
  cases label with
  | read => exact keeps_same rfl rfl rfl
  | readMessage id => exact keeps_same rfl rfl (due_congr (p.sees_owes id s) k)
  | gate publicKey channelId clock =>
    rw [Label.effect, requireMayPost_state]
    exact keeps_same rfl rfl rfl
  | federatedGate peer clock => exact keeps_same rfl rfl rfl
  | insertMessage id row =>
    by_cases accepted : (Chat.checkInsert s.chat id row).isOk = true
    next =>
      obtain ⟨fresh, stored⟩ := insertMessage_stored accepted
      refine insertMessage_keeps fresh (by rw [Label.effect, stored]) allowed.1 ?_ fun same => old ⟨same, accepted⟩
      rw [Label.advance, if_pos accepted]
      rfl
    next =>
      rw [Label.effect, insertMessage_refused accepted, Label.advance, if_neg accepted]
      exact keeps_same rfl rfl rfl
  | insertAppReply id row =>
    by_cases accepted : (Chat.checkInsert s.chat id row).isOk = true
    next =>
      obtain ⟨fresh, stored⟩ := insertMessage_stored accepted
      exact insertMessage_keeps fresh (by rw [Label.effect, stored]) allowed.1 rfl fun same => old ⟨same, accepted⟩
    next =>
      have orphan := spare.resolve_left accepted
      rw [Label.effect, insertMessage_refused accepted]
      intro count found
      refine ⟨count, found, ?_⟩
      rw [due_settled allowed.1, Label.advance, orphan_due orphan found]
  | eraseMessage id parent => exact eraseMessage_keeps rfl allowed.1 rfl spare
  | sweepMessages now => exact sweepMessages_keeps rfl rfl spare
  | sweepPosts now => exact sweepPosts_keeps rfl rfl
  | insertPost id row tagIds => exact False.elim allowed
  | revisePost id title body tagIds now => exact False.elim allowed
  | insertReply id row =>
    by_cases accepted : (checkInsertReply s id row).isOk = true
    next =>
      rw [Label.effect, if_pos accepted, Label.advance, if_pos accepted]
      exact insertReply_keeps (checkInsertReply_fresh accepted) rfl allowed.1 rfl allowed.2
    next =>
      rw [Label.effect, if_neg accepted, Label.advance, if_neg accepted]
      exact keeps_same rfl rfl rfl
  | reviseReply id body now => exact False.elim allowed
  | tombstone replyId postId now => exact tombstone_keeps rfl allowed rfl spare
  | adjust due now => exact adjust_keeps rfl allowed rfl spare

end

section

variable {sys : Requests} {i : Nat} {p : Progress} {label : Label}

theorem Unused.idle {q : Progress} {x : String} (unused : Unused sys x) (member : q ∈ sys.progresses)
    (seen : ∀ due ∈ q.owes, ∀ x, due.counter = .message x → x ∈ q.named) : q.due (.message x) = 0 := by
  unfold Progress.due
  cases owed : q.owes with
  | none => rfl
  | some due =>
    have apart : due.counter ≠ .message x := fun names => unused.unseen q member (seen due owed x names)
    cases due with
    | bump counter => exact if_neg apart
    | unbump counter => exact if_neg apart

-- A message under an unused id has no replies, and nobody owes it anything.
theorem opened (moved : Moved sys i p label) (fresh : Fresh sys) {id : String} {row : MessageRow}
    (mayStore : p.mayStore id row) (accepted : (Chat.checkInsert sys.shared.chat id row).isOk = true)
    (stores : (Requests.next sys i).shared.chat = Chat.insertMessage sys.shared.chat id row)
    (owes : (label.advance p sys.shared).owes = row.replyTo.map fun parent => .bump (.message parent)) {count : Int}
    (stored : replyLedger.count (Requests.next sys i).shared (.message id) = some count) :
    count + Counters.owed Progress.due (Requests.next sys i) (.message id) =
      replyLedger.entries (Requests.next sys i).shared (.message id) := by
  obtain ⟨settled, drawn, seen, none⟩ := mayStore
  obtain ⟨absent, inserted⟩ := insertMessage_stored accepted
  have unused := fresh.unused p moved.mine id drawn
  have apart : row.replyTo ≠ some id := by
    intro names
    exact unused.unseen p moved.mine (seen (Option.mem_toFinset.mpr names))
  have zero : count = 0 := by
    simp only [replyLedger, stores, inserted, ExtTreeMap.getElem?_insert_self, Option.map_some, none] at stored
    exact (Option.some.inj stored).symm
  have later : (label.advance p sys.shared).due (.message id) = 0 := by
    rw [Progress.due, owes]
    cases named : row.replyTo with
    | none => rfl
    | some parent =>
      refine if_neg ?_
      intro same
      exact apart (named.trans (congrArg some (Counter.message.inj same)))
  have before : Counters.owed Progress.due sys (.message id) = 0 := by
    rw [Counters.owed, List.map_congr_left fun q member => unused.idle member (fresh.seen q member)]
    simp
  have moves : Counters.owed Progress.due (Requests.next sys i) (Counter.message id) + p.due (.message id) =
      Counters.owed Progress.due sys (Counter.message id) + (label.advance p sys.shared).due (.message id) :=
    Counters.owed_step moved.waits (Counter.message id)
  have nobody : replyLedger.entries (Requests.next sys i).shared (.message id) = 0 := by
    refine Counters.rows_eq_zero ?_
    intro other reply found
    rw [stores, inserted, ExtTreeMap.getElem?_insert] at found
    split at found
    next =>
      obtain rfl := Option.some.inj found
      simpa using apart
    next => simpa using unused.unnamed other reply found
  have idle := unused.idle moved.mine (fresh.seen p moved.mine)
  omega

theorem balanced_step (moved : Moved sys i p label) (fresh : Fresh sys) (spare : Spare sys.shared label)
    (balanced : Balanced replyLedger Progress.due sys) :
    Balanced replyLedger Progress.due (Requests.next sys i) := by
  refine Counters.balanced_step moved.waits balanced ?_
  intro k count stored
  by_cases new : label.opens sys.shared k
  next =>
    refine .inr ?_
    cases label with
    | insertMessage id row =>
      obtain ⟨rfl, accepted⟩ := new
      refine opened moved fresh moved.allowed accepted (by rw [moved.shared]; rfl) ?_ stored
      rw [Label.advance, if_pos accepted]
      rfl
    | insertAppReply id row =>
      obtain ⟨rfl, accepted⟩ := new
      exact opened moved fresh moved.allowed accepted (by rw [moved.shared]; rfl) rfl stored
    | _ => exact False.elim new
  next =>
    have kept := effect_keeps moved.allowed spare new
    rw [← moved.shared] at kept
    exact .inl (kept count stored)

end

/-- Every statement of the run is about to keep the counts right. -/
def Requests.Spares (sys : Requests) (i : Nat) : Prop := ∀ move ∈ sys.pending i, Spare sys.shared move.2

instance (sys : Requests) (i : Nat) : Decidable (sys.Spares i) :=
  inferInstanceAs (Decidable (∀ move ∈ sys.pending i, Spare sys.shared move.2))

-- The ids that requests draw are new, and each is drawn once.
structure Draws (s : State) (requests : List Request) : Prop where
  apart : (requests.flatMap Request.draws).Nodup
  unstored : ∀ id ∈ requests.flatMap Request.draws, id ∉ s.chat.messages
  unnamed : ∀ id ∈ requests.flatMap Request.draws, ∀ row ∈ s.chat.messages.toList, row.2.replyTo ≠ some id

theorem Draws.disjoint {s : State} {requests : List Request} (draws : Draws s requests) {j k : Nat}
    {first second : Request} (other : j ≠ k) (here : requests[j]? = some first) (there : requests[k]? = some second) :
    first.draws.Disjoint second.draws := by
  have pairs := List.pairwise_iff_getElem.mp (List.nodup_flatMap.mp draws.apart).2
  obtain ⟨inside, rfl⟩ := List.getElem?_eq_some_iff.mp here
  obtain ⟨inside', rfl⟩ := List.getElem?_eq_some_iff.mp there
  rcases Nat.lt_or_gt_of_ne other with before | after
  · exact pairs j k inside inside' before
  · exact (pairs k j inside' inside after).symm

structure Held (sys : Requests) : Prop where
  fit : FitAll countRules Settled sys
  fresh : Fresh sys
  balanced : Balanced replyLedger Progress.due sys

theorem Held.step {sys : Requests} {i : Nat} (held : Held sys) (spares : sys.Spares i) :
    Held (Requests.next sys i) := by
  rcases Interleaving.step_cases held.fit i with same | ⟨p, label, moves⟩
  · rw [Requests.next, same]
    exact held
  · have moved : Moved sys i p label := ⟨moves.atStatement, moves.permitted.1, moves.permitted.2⟩
    have spare : Spare sys.shared label :=
      spares (p, label) (Interleaving.System.atStatement_iff.mp moves.atStatement)
    exact ⟨Interleaving.step_fit held.fit i, held.fresh.step moved, balanced_step moved held.fresh spare held.balanced⟩

theorem request_fits {request : Request} {p : Progress} (settled : p.owes = none)
    (drawn : request.draws.toFinset ⊆ p.drawn) (apart : request.draws.Nodup) :
    Fits countRules Settled p request.handler := by
  cases request with
  | sendMessage sender channelId req checks d id errId clock now =>
    have own : errId ≠ d.id ∧ id ≠ d.id := by
      simp only [Request.draws, List.nodup_cons, List.mem_cons, not_or] at apart
      exact ⟨Ne.symm apart.1.1, Ne.symm apart.1.2.1⟩
    refine sendMessage_fits sender channelId req checks d id errId clock now settled ?_ own
    simpa [Request.draws] using drawn
  | deleteMessage user channelId id now => exact deleteMessage_fits user channelId id now settled
  | runSweep now => exact runSweep_fits now settled
  | createReply user channelId postId req attachments id clock =>
    exact createReply_fits user channelId postId req attachments id clock settled
  | deleteReply user channelId postId replyId now => exact deleteReply_fits user channelId postId replyId now settled
  | federatedCreateReply peer channelId postId req id clock =>
    exact federatedCreateReply_fits peer channelId postId req id clock settled
  | federatedDeleteReply peer channelId postId replyId req clock =>
    exact federatedDeleteReply_fits peer channelId postId replyId req clock settled

theorem start_held {s : State} {requests : List Request} (right : CountsRight s) (draws : Draws s requests) :
    Held (Requests.start s requests) := by
  have progress : ∀ q ∈ (Requests.start s requests).progresses,
      ∃ request ∈ requests, q = { drawn := request.draws.toFinset } := by
    intro q member
    simp only [Interleaving.System.progresses, Requests.start, List.map_map, List.mem_map] at member
    obtain ⟨request, inside, rfl⟩ := member
    exact ⟨request, inside, rfl⟩
  refine ⟨?_, ⟨?_, ?_, ?_⟩, ?_⟩
  · intro task member
    obtain ⟨request, inside, rfl⟩ := List.mem_map.mp member
    exact request_fits rfl (Finset.Subset.refl _) ((List.nodup_flatMap.mp draws.apart).1 request inside)
  · intro q member x drawn
    obtain ⟨request, inside, rfl⟩ := progress q member
    have mine : x ∈ requests.flatMap Request.draws :=
      List.mem_flatMap.mpr ⟨request, inside, List.mem_toFinset.mp drawn⟩
    refine ⟨draws.unstored x mine, ?_, ?_⟩
    · intro id row stored
      exact draws.unnamed x mine (id, row) (ExtTreeMap.mem_toList_iff_getElem?_eq_some.mpr stored)
    · intro q member
      obtain ⟨_, _, rfl⟩ := progress q member
      exact Finset.notMem_empty x
  · intro j k q r other first second
    have drawnAt : ∀ (j : Nat) q, (Requests.start s requests).progresses[j]? = some q →
        ∃ request, requests[j]? = some request ∧ q.drawn = request.draws.toFinset := by
      intro j q found
      simp only [Interleaving.System.progresses, Requests.start, List.map_map, List.getElem?_map,
        Option.map_eq_some_iff] at found
      obtain ⟨request, inside, rfl⟩ := found
      exact ⟨request, inside, rfl⟩
    obtain ⟨mine, here, drawn⟩ := drawnAt j q first
    obtain ⟨yours, there, drawn'⟩ := drawnAt k r second
    rw [drawn, drawn', List.disjoint_toFinset_iff_disjoint]
    exact draws.disjoint other here there
  · intro q member due owes
    obtain ⟨_, _, rfl⟩ := progress q member
    cases owes
  · intro k count stored
    have idle : Counters.owed Progress.due (Requests.start s requests) k = 0 := by
      have none : ∀ q ∈ (Requests.start s requests).progresses, q.due k = 0 := by
        intro q member
        obtain ⟨_, _, rfl⟩ := progress q member
        rfl
      rw [Counters.owed, List.map_congr_left none]
      simp
    rw [idle, Int.add_zero]
    cases k with
    | message id =>
      obtain ⟨row, found, rfl⟩ := Option.map_eq_some_iff.mp stored
      exact right.messages id row found
    | post id =>
      obtain ⟨row, found, rfl⟩ := Option.map_eq_some_iff.mp stored
      exact right.posts id row found

-- Whoever has answered owes nothing, and neither does whoever has yet to begin.
theorem Held.right {s : State} {requests : List Request} {sys : Requests} (held : Held sys)
    (rest : sys.AtRest (Requests.start s requests)) : CountsRight sys.shared := by
  have idle : ∀ q ∈ sys.progresses, q.owes = none := by
    intro q member
    obtain ⟨task, inside, rfl⟩ := List.mem_map.mp member
    obtain ⟨i, here⟩ := List.mem_iff_getElem?.mp inside
    rcases rest i task here with waiting | ⟨answer, answered⟩
    · obtain ⟨request, _, rfl⟩ := List.mem_map.mp (List.mem_of_getElem? waiting)
      rfl
    · have ended := held.fit task inside
      rw [answered] at ended
      exact ended
  refine ⟨?_, ?_⟩
  · intro id row stored
    exact held.balanced.settled (k := .message id) (Option.map_eq_some_iff.mpr ⟨row, stored, rfl⟩)
      fun q member => due_settled (idle q member) _
  · intro id row stored
    exact held.balanced.settled (k := .post id) (Option.map_eq_some_iff.mpr ⟨row, stored, rfl⟩)
      fun q member => due_settled (idle q member) _

/-- While every statement spares them, the counts are right whenever no request is in flight. -/
theorem counted_always (s : State) (right : CountsRight s) (requests : List Request) (draws : Draws s requests)
    (schedule : List Nat)
    (spares : Runs.Meets Requests.next Requests.Spares (Requests.start s requests) schedule)
    (rest : (Runs.run Requests.next (Requests.start s requests) schedule).AtRest (Requests.start s requests)) :
    CountsRight (Runs.run Requests.next (Requests.start s requests) schedule).shared := by
  have held := Runs.Meets.invariant Held (fun _ _ held spares => held.step spares) (start_held right draws) spares
  exact held.right rest

def townHub : Db where
  channels := (∅ : Table Channel).insert "town" { name := "town", createdBy := "ann" }
  users := ((∅ : Table User).insert "ann" { isMember := true }).insert "bob" { isMember := true }
  roles := (∅ : Table Role).insert "talker" { name := "talker" }
  userRoles := {("bob", "talker")}
  rolePermissions := {("talker", Chat.MESSAGES_SEND)}

def said (sender : String) (replyTo : Option String) (replyCount : Int) : MessageRow :=
  { channelId := "town", sender := sender, content := "hello", createdAt := 5, replyTo := replyTo
    replyCount := replyCount }

-- A message of ann's that bob and she herself have answered.
def thread : State where
  chat := { db := townHub
            messages := (((∅ : Table MessageRow).insert "m" (said "ann" none 2)).insert "r" (said "bob" (some "m") 0)).insert
              "q" (said "ann" (some "m") 0) }

def noCommand : Dispatch := { matched := none, cooldown := none, hook := none, id := "a", now := 7 }

-- One more answer of bob's, which he takes back.
def regret : List Request :=
  [.sendMessage "bob" "town" { content := "and I", replyTo := some "m" } {} noCommand "s" "e" { now := 7, instant := 0 } 7000,
    .deleteMessage "bob" "town" "s" 8]

theorem counted_always_regret :
    CountsRight (Runs.run Requests.next (Requests.start thread regret) [0, 0, 0, 0, 0, 0, 0, 1, 1, 1]).shared :=
  counted_always thread (by decide +kernel) regret
    ⟨by decide, by decide, by decide⟩ _ (by decide)
    (Requests.atRest_of_answered (by decide))

-- Two deletions of one reply have both read it when the first of them deletes it.
def twice : List Request := [.deleteMessage "bob" "town" "r" 8, .deleteMessage "bob" "town" "r" 8]

theorem counted_deleted_twice :
    ¬ ∀ (s : State) (requests : List Request) (schedule : List Nat), CountsRight s → Draws s requests →
      (Runs.run Requests.next (Requests.start s requests) schedule).AtRest (Requests.start s requests) →
      CountsRight (Runs.run Requests.next (Requests.start s requests) schedule).shared := by
  intro counted
  have right := counted thread twice [0, 1, 0, 0, 1, 1] (by decide +kernel)
    ⟨by decide, by decide, by decide⟩ (Requests.atRest_of_answered (by decide))
  revert right
  decide +kernel

end Wavvon.Forum
