import Mathlib.Data.Finset.Option
import Wavvon.Forum.Messages
import Wavvon.Shared.Interleaving

set_option autoImplicit false

namespace Wavvon.Forum

open Std (ExtTreeMap)
open Chat (MessageRow SendMessageRequest SendChecks)
open Interleaving (Handler Discipline Fits FitAll System)

/--
How far a request is: the message ids it may still store under, the messages it has seen or seen named,
and the adjustment it owes.
-/
structure Progress where
  drawn : Finset String := ∅
  named : Finset String := ∅
  owes : Option Due := none
  deriving DecidableEq

def Progress.sees (p : Progress) (id : String) (s : State) : Progress :=
  match s.chat.messages[id]? with
  | none => p
  | some row => { p with named := insert id (p.named ∪ row.replyTo.toFinset) }

def Progress.stores (p : Progress) (id : String) (row : MessageRow) : Progress :=
  { p with drawn := p.drawn.erase id, owes := row.replyTo.map fun parent => .bump (.message parent) }

def Label.advance (label : Label) (p : Progress) (s : State) : Progress :=
  match label with
  | .readMessage id => p.sees id s
  | .insertMessage id row =>
    if (Chat.checkInsert s.chat id row).isOk then p.stores id row else { p with drawn := p.drawn.erase id }
  | .insertAppReply id row => p.stores id row
  | .eraseMessage _ parent => { p with owes := parent.map fun parent => .unbump (.message parent) }
  | .insertReply id row =>
    if (checkInsertReply s id row).isOk then { p with owes := some (.bump (.post row.postId)) } else p
  | .tombstone _ postId _ => { p with owes := some (.unbump (.post postId)) }
  | .adjust _ _ => { p with owes := none }
  | _ => p

-- What a message is stored with: a drawn id, a parent that was seen, and no replies.
def Progress.mayStore (p : Progress) (id : String) (row : MessageRow) : Prop :=
  p.owes = none ∧ id ∈ p.drawn ∧ row.replyTo.toFinset ⊆ p.named ∧ row.replyCount = 0

def Label.allowed (label : Label) (p : Progress) : Prop :=
  match label with
  | .read | .readMessage _ | .gate _ _ _ | .federatedGate _ _ => True
  | .insertMessage id row | .insertAppReply id row => p.mayStore id row
  | .eraseMessage _ parent => p.owes = none ∧ parent.toFinset ⊆ p.named
  | .sweepMessages _ | .sweepPosts _ => True
  | .insertReply _ row => p.owes = none ∧ row.deletedAt = none
  | .tombstone _ _ _ => p.owes = none
  | .adjust due _ => p.owes = some due
  | .insertPost _ _ _ | .revisePost _ _ _ _ _ | .reviseReply _ _ _ => False

def countRules : Discipline State Label Progress where
  advance p label s := label.advance p s
  permits p label s after := after = label.effect s ∧ label.allowed p

inductive Request where
  | sendMessage (sender channelId : String) (req : SendMessageRequest) (checks : SendChecks) (d : Dispatch)
      (id errId : String) (clock : Clock) (now : Int)
  | deleteMessage (user channelId id : String) (now : Int)
  | runSweep (now : Int)
  | createReply (user channelId postId : String) (req : CreateReplyRequest) (attachments : Except HttpError Unit)
      (id : String) (clock : Clock)
  | deleteReply (user channelId postId replyId : String) (now : Int)
  | federatedCreateReply (peer channelId postId : String) (req : FederatedCreateReplyRequest) (id : String)
      (clock : Clock)
  | federatedDeleteReply (peer channelId postId replyId : String) (req : FederatedRetractRequest) (clock : Clock)

def Request.handler : Request → Answered
  | .sendMessage sender channelId req checks d id errId clock now =>
    Forum.sendMessage sender channelId req checks d id errId clock now
  | .deleteMessage user channelId id now => Forum.deleteMessage user channelId id now
  | .runSweep now => Forum.runSweep now
  | .createReply user channelId postId req attachments id clock =>
    Forum.createReply user channelId postId req attachments id clock
  | .deleteReply user channelId postId replyId now => Forum.deleteReply user channelId postId replyId now
  | .federatedCreateReply peer channelId postId req id clock =>
    Forum.federatedCreateReply peer channelId postId req id clock
  | .federatedDeleteReply peer channelId postId replyId req clock =>
    Forum.federatedDeleteReply peer channelId postId replyId req clock

-- The message ids a request draws: of the app's reply, of an error for its invoker, and its own.
def Request.draws : Request → List String
  | .sendMessage _ _ _ _ d id errId _ _ => [d.id, errId, id]
  | _ => []

/-- Requests in flight on one hub. -/
abbrev Requests := System State Label Progress (Except HttpError Unit)

namespace Requests

def start (s : State) (requests : List Request) : Requests where
  shared := s
  tasks := requests.map fun request =>
    { progress := { drawn := request.draws.toFinset }, handler := request.handler }

abbrev next : Requests → Nat → Requests := Interleaving.step countRules

-- Every request has answered or has yet to begin.
def AtRest (sys first : Requests) : Prop :=
  ∀ (i : Nat) task, sys.tasks[i]? = some task → first.tasks[i]? = some task ∨ ∃ answer, task.handler = .done answer

theorem atRest_of_answered {sys first : Requests} (answered : ∀ i < sys.tasks.length, (sys.pending i).isNone = true) :
    sys.AtRest first := by
  intro i task found
  have quiet := answered i (List.getElem?_eq_some_iff.mp found).1
  obtain ⟨progress, handler⟩ := task
  cases handler with
  | done answer => exact .inr ⟨answer, rfl⟩
  | stmt label effect next => simp [System.pending, Interleaving.Task.pending, found] at quiet

end Requests

-- A request ends with nothing left to adjust.
def Settled {A : Type} (p : Progress) (_ : A) : Prop := p.owes = none

theorem Progress.named_subset_sees (p : Progress) (id : String) (s : State) : p.named ⊆ (p.sees id s).named := by
  unfold sees
  cases s.chat.messages[id]? with
  | none => exact Finset.Subset.refl _
  | some row => exact fun x member => Finset.mem_insert_of_mem (Finset.mem_union_left _ member)

@[simp] theorem Progress.sees_drawn (p : Progress) (id : String) (s : State) : (p.sees id s).drawn = p.drawn := by
  unfold sees
  cases s.chat.messages[id]? <;> rfl

@[simp] theorem Progress.sees_owes (p : Progress) (id : String) (s : State) : (p.sees id s).owes = p.owes := by
  unfold sees
  cases s.chat.messages[id]? <;> rfl

theorem Progress.mem_sees (p : Progress) {id : String} {s : State} (stored : s.chat.messages[id]?.isSome) :
    id ∈ (p.sees id s).named := by
  obtain ⟨row, found⟩ := Option.isSome_iff_exists.mp stored
  simp [sees, found]

theorem Progress.replyTo_subset_sees (p : Progress) {id : String} {s : State} {row : MessageRow}
    (found : s.chat.messages[id]? = some row) : row.replyTo.toFinset ⊆ (p.sees id s).named := by
  intro x member
  simp only [sees, found]
  exact Finset.mem_insert_of_mem (Finset.mem_union_right _ member)

section

variable {A B : Type} {post : Progress → Except HttpError B → Prop} {p : Progress}

-- A statement that changes nothing of a request's progress.
theorem steady_andThen {label : Label} {f : State → Except HttpError A} {rest : A → Handle (Except HttpError B)}
    (steady : ∀ s, label.advance p s = p) (allowed : label.allowed p) (stops : ∀ e, post p (.error e))
    (goesOn : ∀ value, Fits countRules post p (rest value)) :
    Fits countRules post p ((stmt label f).andThen rest) := by
  have first : Fits countRules (fun q _ => q = p) p (stmt label f) := ⟨fun _ => ⟨rfl, allowed⟩, steady⟩
  refine first.andThen ?_ ?_
  · rintro q e rfl
    exact stops e
  · rintro q value rfl
    exact goesOn value

theorem check_andThen {answer : Except HttpError A} {rest : A → Handle (Except HttpError B)}
    (stops : ∀ e, post p (.error e)) (goesOn : ∀ value, Fits countRules post p (rest value)) :
    Fits countRules post p ((check answer).andThen rest) := by
  cases answer with
  | error e => exact stops e
  | ok value => exact goesOn value

end

section

variable {A : Type} {p : Progress}

theorem read_settled {f : State → Except HttpError A} {rest : A → Answered} (settled : p.owes = none)
    (goesOn : ∀ value, Fits countRules Settled p (rest value)) :
    Fits countRules Settled p ((read f).andThen rest) :=
  steady_andThen (fun _ => rfl) trivial (fun _ => settled) goesOn

theorem check_settled {answer : Except HttpError A} {rest : A → Answered} (settled : p.owes = none)
    (goesOn : ∀ value, Fits countRules Settled p (rest value)) :
    Fits countRules Settled p ((check answer).andThen rest) :=
  check_andThen (fun _ => settled) goesOn

-- What a refused write leaves is settled; a done one owes what it says.
def Owes (due : Option Due) (p : Progress) (answer : Except HttpError Unit) : Prop :=
  p.owes = if answer.isOk then due else none

theorem adjust_fits {due : Due} {now : Int} (owes : p.owes = some due) :
    Fits countRules Settled p (stmt (.adjust due now) fun _ => (.ok () : Except HttpError Unit)) :=
  ⟨fun _ => ⟨rfl, owes⟩, fun _ => rfl⟩

theorem adjust_settled {due : Due} {now : Int} {rest : Unit → Answered} (owes : p.owes = some due)
    (goesOn : ∀ q, q.owes = none → Fits countRules Settled q (rest ())) :
    Fits countRules Settled p ((stmt (.adjust due now) fun _ => .ok ()).andThen rest) :=
  (adjust_fits owes).andThen (fun _ _ settled => settled) fun q _ settled => goesOn q settled

theorem insertReply_owes {id : String} {row : ReplyRow} (settled : p.owes = none) (live : row.deletedAt = none) :
    Fits countRules (Owes (some (.bump (.post row.postId)))) p
      (stmt (.insertReply id row) fun s => checkInsertReply s id row) := by
  refine Interleaving.fits_exec (fun _ => ⟨rfl, settled, live⟩) ?_
  intro s
  simp only [Owes, countRules, Label.advance]
  split
  next => rfl
  next => exact settled

theorem storeReply_fits {id : String} {row : ReplyRow} {now : Int} (settled : p.owes = none)
    (live : row.deletedAt = none) : Fits countRules Settled p (storeReply id row now) := by
  refine (insertReply_owes settled live).andThen (fun _ _ owes => owes) ?_
  intro q _ owes
  refine adjust_settled owes ?_
  intro q settled
  refine read_settled settled fun _ => ?_
  exact settled

theorem tombstone_owes {replyId postId : String} {now : Int} (settled : p.owes = none) :
    Fits countRules (Owes (some (.unbump (.post postId)))) p
      (stmt (.tombstone replyId postId now) fun _ => .ok ()) :=
  Interleaving.fits_exec (fun _ => ⟨rfl, settled⟩) fun _ => rfl

theorem retractReply_fits {replyId postId : String} {now : Int} (settled : p.owes = none) :
    Fits countRules Settled p (retractReply replyId postId now) :=
  (tombstone_owes settled).andThen (fun _ _ owes => owes) fun _ _ owes => adjust_fits owes

theorem gate_settled {publicKey channelId : String} {clock : Clock} {rest : Unit → Answered} (settled : p.owes = none)
    (goesOn : ∀ value, Fits countRules Settled p (rest value)) :
    Fits countRules Settled p ((gate publicKey channelId clock).andThen rest) :=
  steady_andThen (fun _ => rfl) trivial (fun _ => settled) goesOn

theorem federatedGate_settled {peer : String} {clock : Clock} {rest : Unit → Answered} (settled : p.owes = none)
    (goesOn : ∀ value, Fits countRules Settled p (rest value)) :
    Fits countRules Settled p ((federatedGate peer clock).andThen rest) :=
  steady_andThen (fun _ => rfl) trivial (fun _ => settled) goesOn

end

section

variable {p : Progress}

theorem createReply_fits (user channelId postId : String) (req : CreateReplyRequest)
    (attachments : Except HttpError Unit) (id : String) (clock : Clock) (settled : p.owes = none) :
    Fits countRules Settled p (createReply user channelId postId req attachments id clock) := by
  refine read_settled settled fun _ => ?_
  refine read_settled settled fun _ => ?_
  refine check_settled settled fun _ => ?_
  refine gate_settled settled fun _ => ?_
  refine read_settled settled fun _ => ?_
  refine check_settled settled fun _ => ?_
  refine check_settled settled fun _ => ?_
  refine check_settled settled fun _ => ?_
  refine read_settled settled fun _ => ?_
  refine check_settled settled fun _ => ?_
  exact storeReply_fits settled rfl

theorem federatedCreateReply_fits (peer channelId postId : String) (req : FederatedCreateReplyRequest) (id : String)
    (clock : Clock) (settled : p.owes = none) :
    Fits countRules Settled p (federatedCreateReply peer channelId postId req id clock) := by
  refine read_settled settled fun _ => ?_
  refine read_settled settled fun _ => ?_
  refine federatedGate_settled settled fun _ => ?_
  refine read_settled settled fun _ => ?_
  refine check_settled settled fun _ => ?_
  refine check_settled settled fun _ => ?_
  refine check_settled settled fun _ => ?_
  refine check_settled settled fun _ => ?_
  refine read_settled settled fun _ => ?_
  exact storeReply_fits settled rfl

theorem deleteReply_fits (user channelId postId replyId : String) (now : Int) (settled : p.owes = none) :
    Fits countRules Settled p (deleteReply user channelId postId replyId now) := by
  refine read_settled settled fun _ => ?_
  refine read_settled settled fun _ => ?_
  refine read_settled settled fun reply => ?_
  split
  next => exact settled
  next =>
    refine read_settled settled fun _ => ?_
    exact retractReply_fits settled

theorem federatedDeleteReply_fits (peer channelId postId replyId : String) (req : FederatedRetractRequest)
    (clock : Clock) (settled : p.owes = none) :
    Fits countRules Settled p (federatedDeleteReply peer channelId postId replyId req clock) := by
  refine read_settled settled fun _ => ?_
  refine federatedGate_settled settled fun _ => ?_
  refine read_settled settled fun _ => ?_
  refine read_settled settled fun reply => ?_
  split
  next => exact settled
  next =>
    refine check_settled settled fun _ => ?_
    exact retractReply_fits settled

-- The adjustment a stored message leaves its parent.
theorem bumpParent_fits {parent : Option String} {now : Int}
    (owes : p.owes = parent.map fun parent => .bump (.message parent)) :
    Fits countRules (fun q _ => q = { p with owes := none }) p (bumpParent parent now) := by
  cases parent with
  | none => exact congrArg (fun owes => { p with owes := owes }) owes
  | some id => exact ⟨fun _ => ⟨rfl, owes⟩, fun _ => rfl⟩

theorem unbumpParent_fits {parent : Option String} {now : Int}
    (owes : p.owes = parent.map fun parent => .unbump (.message parent)) :
    Fits countRules Settled p (unbumpParent parent now) := by
  cases parent with
  | none => exact owes
  | some id => exact ⟨fun _ => ⟨rfl, owes⟩, fun _ => rfl⟩

-- What is left of a request's progress after a reply of an app.
def Left (p : Progress) (id : String) (q : Progress) : Prop :=
  q.owes = none ∧ q.drawn = p.drawn.erase id ∧ p.named ⊆ q.named

theorem storeAppReply_fits (channelId invoker : String) (command : Chat.MatchedCommand)
    (answered : Chat.AppResponse) (reply : Chat.AppReply) (id : String) (now : Int) (settled : p.owes = none)
    (drawn : id ∈ p.drawn) :
    Fits countRules (fun q _ => Left p id q) p (storeAppReply channelId invoker command answered reply id now) := by
  -- The parent was seen by the statement that looked it up.
  have looked : Fits countRules
      (fun q (row : MessageRow) => q.owes = none ∧ q.drawn = p.drawn ∧ p.named ⊆ q.named ∧
        row.replyTo.toFinset ⊆ q.named ∧ row.replyCount = 0) p
      (readParent reply.replyTo fun s => Chat.replyRow s.chat channelId invoker command answered reply now) := by
    cases asked : reply.replyTo with
    | none =>
      refine Interleaving.fits_exec (fun _ => ⟨rfl, trivial⟩) ?_
      intro s
      refine ⟨settled, rfl, Finset.Subset.refl _, ?_, rfl⟩
      simp [Chat.replyRow, Chat.replyParent, asked]
    | some parent =>
      refine Interleaving.fits_exec (fun _ => ⟨rfl, trivial⟩) ?_
      intro s
      refine ⟨(p.sees_owes parent s).trans settled, p.sees_drawn parent s, p.named_subset_sees parent s, ?_, rfl⟩
      intro x member
      have named : some x = Chat.replyParent s.chat channelId reply :=
        (Option.mem_toFinset.mp member).symm
      rw [Chat.replyParent, asked, eq_comm, Option.filter_eq_some_iff] at named
      obtain ⟨same, found⟩ := named
      obtain rfl := Option.some.inj same
      exact p.mem_sees (Option.isSome_of_any found)
  refine looked.bind ?_
  rintro q row ⟨settled, same, kept, seen, fresh⟩
  refine ⟨fun _ => ⟨rfl, settled, same ▸ drawn, seen, fresh⟩, ?_⟩
  intro s
  refine (bumpParent_fits rfl).weaken ?_
  rintro _ _ rfl
  exact ⟨rfl, by rw [← same]; rfl, kept⟩

theorem runSlash_fits (channelId invoker content : String) (d : Dispatch) (settled : p.owes = none)
    (drawn : d.id ∈ p.drawn) :
    Fits countRules (fun q _ => q.owes = none ∧ p.drawn.erase d.id ⊆ q.drawn ∧ p.named ⊆ q.named) p
      (runSlash channelId invoker content d) := by
  have untouched : p.owes = none ∧ p.drawn.erase d.id ⊆ p.drawn ∧ p.named ⊆ p.named :=
    ⟨settled, Finset.erase_subset _ _, Finset.Subset.refl _⟩
  unfold runSlash
  split
  next =>
    unfold dispatchSlash
    refine Interleaving.fits_exec_bind (fun _ => ⟨rfl, trivial⟩) ?_
    intro s
    cases Chat.checkSlash s.chat invoker d.matched d.cooldown d.hook with
    | error text => exact untouched
    | ok found =>
      obtain ⟨command, answered⟩ := found
      dsimp only
      cases answered.reply with
      | none => exact untouched
      | some reply =>
        refine (storeAppReply_fits channelId invoker command answered reply d.id d.now settled drawn).bind ?_
        rintro q _ ⟨after, left, kept⟩
        exact ⟨after, left ▸ Finset.Subset.refl _, kept⟩
  next => exact untouched

theorem insertMessage_owes {id : String} {row : MessageRow} (mayStore : p.mayStore id row) :
    Fits countRules (Owes (row.replyTo.map fun parent => .bump (.message parent))) p
      (stmt (.insertMessage id row) fun s => Chat.checkInsert s.chat id row) := by
  refine Interleaving.fits_exec (fun _ => ⟨rfl, mayStore⟩) ?_
  intro s
  simp only [Owes, countRules, Label.advance]
  split
  next => rfl
  next => exact mayStore.1

theorem storeMessage_fits (sender channelId : String) (req : SendMessageRequest) (id : String) (now : Int)
    (settled : p.owes = none) (drawn : id ∈ p.drawn) (seen : req.replyTo.toFinset ⊆ p.named) :
    Fits countRules Settled p (storeMessage sender channelId req id now) := by
  refine (insertMessage_owes ⟨settled, drawn, seen, rfl⟩).andThen (fun _ _ owes => owes) ?_
  intro q _ owes
  refine (bumpParent_fits owes).bind ?_
  rintro _ _ rfl
  rfl

-- The parent is looked up, or there is none.
theorem readParent_fits (channelId : String) (replyTo : Option String) :
    Fits countRules
      (fun q (answer : Except HttpError Unit) => q.owes = p.owes ∧ q.drawn = p.drawn ∧
        (answer.isOk → replyTo.toFinset ⊆ q.named)) p
      (readParent replyTo fun s => Chat.checkParent s.chat channelId replyTo) := by
  cases replyTo with
  | none => exact Interleaving.fits_exec (fun _ => ⟨rfl, trivial⟩) fun _ => ⟨rfl, rfl, fun _ => by simp⟩
  | some parent =>
    refine Interleaving.fits_exec (fun _ => ⟨rfl, trivial⟩) ?_
    intro s
    refine ⟨p.sees_owes parent s, p.sees_drawn parent s, ?_⟩
    intro found
    rw [Option.toFinset_some, Finset.singleton_subset_iff]
    refine p.mem_sees ?_
    cases stored : s.chat.messages[parent]? with
    | none => simp [Chat.checkParent, stored, Except.isOk, Except.toBool] at found
    | some row => rfl

theorem sendMessage_fits (sender channelId : String) (req : SendMessageRequest) (checks : SendChecks) (d : Dispatch)
    (id errId : String) (clock : Clock) (now : Int) (settled : p.owes = none) (drawn : {d.id, errId, id} ⊆ p.drawn)
    (apart : errId ≠ d.id ∧ id ≠ d.id) :
    Fits countRules Settled p (sendMessage sender channelId req checks d id errId clock now) := by
  refine Interleaving.fits_exec_bind (fun _ => ⟨rfl, trivial⟩) ?_
  intro s
  refine check_settled settled fun _ => ?_
  refine gate_settled settled fun _ => ?_
  refine read_settled settled fun _ => ?_
  refine check_settled settled fun _ => ?_
  refine read_settled settled fun _ => ?_
  refine check_settled settled fun _ => ?_
  refine (readParent_fits channelId req.replyTo).andThen (fun _ _ looked => looked.1.trans settled) ?_
  rintro q _ ⟨same, held, seen⟩
  have named : req.replyTo.toFinset ⊆ q.named := seen rfl
  have still : q.owes = none := same.trans settled
  refine check_settled still fun _ => ?_
  refine (runSlash_fits channelId sender req.content d still (held ▸ drawn (by simp))).bind ?_
  rintro r slash ⟨after, left, kept⟩
  have remains : ∀ x, x ∈ ({d.id, errId, id} : Finset String) → x ≠ d.id → x ∈ r.drawn := by
    intro x member other
    exact left (Finset.mem_erase.mpr ⟨other, held ▸ drawn member⟩)
  cases slash with
  | some text =>
    refine (insertMessage_owes ⟨after, remains errId (by simp) apart.1, ?_, rfl⟩).weaken ?_
    · simp [Chat.ephemeralRow]
    · intro t answer owes
      cases answer <;> exact owes
  | none =>
    refine check_settled after fun _ => ?_
    exact storeMessage_fits sender channelId req id now after (remains id (by simp) apart.2) (named.trans kept)

theorem deleteMessage_fits (user channelId id : String) (now : Int) (settled : p.owes = none) :
    Fits countRules Settled p (deleteMessage user channelId id now) := by
  have looked : Fits countRules
      (fun q (answer : Except HttpError MessageRow) => q.owes = none ∧
        ∀ row, answer = .ok row → row.replyTo.toFinset ⊆ q.named) p
      (stmt (.readMessage id) fun s => findMessage s.chat channelId id) := by
    refine Interleaving.fits_exec (fun _ => ⟨rfl, trivial⟩) ?_
    intro s
    refine ⟨(p.sees_owes id s).trans settled, ?_⟩
    intro row found
    exact p.replyTo_subset_sees (findMessage_ok found)
  refine looked.andThen (fun _ _ looked => looked.1) ?_
  rintro q row ⟨settled, seen⟩
  have reading : Fits countRules (fun r _ => r = q) q (mayDelete row.sender user) := by
    unfold mayDelete
    split
    next => exact ⟨fun _ => ⟨rfl, trivial⟩, fun _ => rfl⟩
    next => exact rfl
  refine reading.andThen ?_ ?_
  · rintro _ _ rfl
    exact settled
  · rintro _ _ rfl
    refine ⟨fun _ => ⟨rfl, settled, seen row rfl⟩, ?_⟩
    intro s
    refine (unbumpParent_fits rfl).bind ?_
    intro r _ after
    exact after

theorem runSweep_fits (now : Int) (settled : p.owes = none) : Fits countRules Settled p (runSweep now) :=
  ⟨fun _ => ⟨rfl, trivial⟩, fun _ => ⟨fun _ => ⟨rfl, trivial⟩, fun _ => settled⟩⟩

end

end Wavvon.Forum
