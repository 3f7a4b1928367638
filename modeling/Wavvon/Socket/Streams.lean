import Wavvon.Socket.Connection

set_option autoImplicit false

namespace Wavvon.Socket

open Tables
open Std (ExtTreeMap)

section

variable (shares : Nested String String ActiveShare) (channelId sharer streamId c k st : String)

theorem streamOf_put (active : ActiveShare) :
    streamOf (Nested.put shares channelId sharer active) c k st =
      if c = channelId ∧ k = sharer then active.streams[st]? else streamOf shares c k st := by
  unfold streamOf
  rw [Nested.get_put]
  split <;> simp

theorem streamOf_drop :
    streamOf (Nested.drop shares channelId sharer) c k st =
      if c = channelId ∧ k = sharer then none else streamOf shares c k st := by
  unfold streamOf
  rw [Nested.get_drop]
  split <;> simp

theorem streamOf_register (about : ScreenStreamMeta) :
    streamOf (registerStream shares channelId sharer streamId about) c k st =
      if c = channelId ∧ k = sharer ∧ st = streamId then some about else streamOf shares c k st := by
  unfold registerStream
  rw [streamOf_put]
  by_cases here : c = channelId ∧ k = sharer
  next =>
    obtain ⟨rfl, rfl⟩ := here
    by_cases same : st = streamId
    next => simp [same]
    next =>
      simp only [and_self, if_true, same, and_false, if_false, ExtTreeMap.getElem?_insert,
        Std.compare_eq_iff_eq, Ne.symm same, streamOf]
      cases Nested.get shares c k <;> simp
  next => grind

theorem streamOf_remove :
    streamOf (removeStream shares channelId sharer streamId) c k st =
      if c = channelId ∧ k = sharer ∧ st = streamId then none else streamOf shares c k st := by
  unfold removeStream
  cases found : Nested.get shares channelId sharer with
  | none =>
    have absent : streamOf shares channelId sharer st = none := by simp [streamOf, found]
    dsimp only
    split
    next same => rw [same.1, same.2.1, absent]
    next => rfl
  | some active =>
    have held : streamOf shares channelId sharer st = active.streams[st]? := by simp [streamOf, found]
    have left : (active.streams.erase streamId)[st]? =
        if st = streamId then none else active.streams[st]? := by
      rw [ExtTreeMap.getElem?_erase]
      grind
    dsimp only
    split
    next empty =>
      rw [ExtTreeMap.isEmpty_iff] at empty
      rw [empty, ExtTreeMap.getElem?_empty] at left
      rw [streamOf_drop]
      grind
    next =>
      rw [streamOf_put]
      grind

theorem streamOf_cacheInit (data : Bytes) :
    streamOf (cacheInit shares channelId sharer streamId data) c k st =
      if c = channelId ∧ k = sharer ∧ st = streamId then
        (streamOf shares c k st).map fun about => { about with initChunk := some data }
      else streamOf shares c k st := by
  unfold cacheInit modifyShare
  cases found : Nested.get shares channelId sharer with
  | none =>
    have absent : streamOf shares channelId sharer st = none := by simp [streamOf, found]
    dsimp only
    split
    next same => rw [same.1, same.2.1, absent, Option.map_none]
    next => rfl
  | some active =>
    have held : streamOf shares channelId sharer st = active.streams[st]? := by simp [streamOf, found]
    dsimp only
    rw [streamOf_put, ExtTreeMap.getElem?_modify]
    grind

-- Who watches a share from elsewhere has no part in which streams it has.
theorem streamOf_watchers (active : ActiveShare) (watchers : Table Unit)
    (found : Nested.get shares channelId sharer = some active) :
    streamOf (Nested.put shares channelId sharer { active with crossChannelSubscribers := watchers }) c k st =
      streamOf shares c k st := by
  have held : streamOf shares channelId sharer st = active.streams[st]? := by simp [streamOf, found]
  rw [streamOf_put]
  grind

theorem findStream_get (entry : String × ActiveShare)
    (found : findStream shares channelId streamId = some entry) :
    Nested.get shares channelId entry.1 = some entry.2 := by
  have member := List.mem_of_find?_eq_some found
  have listed := ExtTreeMap.mem_toList_iff_getElem?_eq_some.mp member
  unfold Nested.get
  cases inner : shares[channelId]? with
  | none => simp [inner] at listed
  | some sharers => simpa [inner] using listed

theorem endSession_streams (publicKey sessionId : String) (active : ActiveShare) :
    (endSession publicKey sessionId sharer active).bind (·.streams[st]?) =
      if sharer = publicKey then active.streams[st]?.filter (·.sessionId ≠ sessionId)
      else active.streams[st]? := by
  have kept : (active.streams.filter fun _ about => about.sessionId ≠ sessionId)[st]? =
      active.streams[st]?.filter (·.sessionId ≠ sessionId) := by
    rw [ExtTreeMap.getElem?_filter']
  unfold endSession
  by_cases own : sharer = publicKey
  next =>
    simp only [own, if_true, true_and]
    split
    next empty =>
      rw [ExtTreeMap.isEmpty_iff] at empty
      rw [← kept, empty]
      simp
    next => simp
  next => simp [own]

theorem streamOf_endSession (publicKey sessionId : String) :
    streamOf (shares.map fun _ sharers => sharers.filterMap (endSession publicKey sessionId)) c k st =
      if k = publicKey then (streamOf shares c k st).filter (·.sessionId ≠ sessionId)
      else streamOf shares c k st := by
  unfold streamOf Nested.get
  rw [ExtTreeMap.getElem?_map]
  cases shares[c]? with
  | none => simp
  | some sharers =>
    simp only [Option.map_some, Option.bind_some, ExtTreeMap.getElem?_filterMap']
    cases sharers[k]? with
    | none => simp
    | some active =>
      simp only [Option.bind_some]
      exact endSession_streams k st publicKey sessionId active

theorem activeStreams_mem (stream : String × String × ScreenStreamMeta)
    (member : stream ∈ activeStreams shares) :
    ∃ sharer, streamOf shares stream.1 sharer stream.2.1 = some stream.2.2 := by
  simp only [activeStreams, List.mem_flatMap, List.mem_map] at member
  obtain ⟨channel, listed, sharer, inside, entry, held, rfl⟩ := member
  have outer := ExtTreeMap.mem_toList_iff_getElem?_eq_some.mp listed
  have inner := ExtTreeMap.mem_toList_iff_getElem?_eq_some.mp inside
  have found := ExtTreeMap.mem_toList_iff_getElem?_eq_some.mp held
  refine ⟨sharer.1, ?_⟩
  simp [streamOf, Nested.get, outer, inner, found]

end

-- The checks of a start over the socket, in its order.
def Admits (db : Db) (publicKey channelId : String) (width height fps kbps : Option Nat) : Prop :=
  (readStreamLimits db).exceededBy width height fps kbps = none ∧
    (channelPermissions db publicKey channelId).has VOICE_JOIN = true ∧
    (channelPermissions db publicKey channelId).has VOICE_SCREEN_SHARE = true

theorem mayShare_iff (db : Db) (publicKey channelId : String) :
    mayShare db publicKey channelId = true ↔
      (channelPermissions db publicKey channelId).has VOICE_JOIN = true ∧
        (channelPermissions db publicKey channelId).has VOICE_SCREEN_SHARE = true := by
  simp [mayShare]

theorem start_shares (h : ScreenHub) (cs : Conn) (channelId streamId kind mime : String)
    (hasAudio : Bool) (width height fps kbps : Option Nat) (instant : Int) :
    (Admits h.db cs.publicKey channelId width height fps kbps ∧ ∃ about : ScreenStreamMeta,
      about.sharerPubkey = cs.publicKey ∧
      (handleScreenShareStart h cs channelId streamId kind mime hasAudio width height fps kbps
        instant).1.shares = registerStream h.shares channelId cs.publicKey streamId about) ∨
    (¬ Admits h.db cs.publicKey channelId width height fps kbps ∧
      (handleScreenShareStart h cs channelId streamId kind mime hasAudio width height fps kbps
        instant).1.shares = h.shares) := by
  unfold handleScreenShareStart Admits
  split
  next what exceeded => exact .inr ⟨by simp [exceeded], rfl⟩
  next fits =>
    rw [← mayShare_iff]
    split
    next granted => exact .inl ⟨⟨fits, granted⟩, _, rfl, rfl⟩
    next refused => exact .inr ⟨by simp [refused], rfl⟩

-- What `POST /screenshare/start` asks; it declares nothing, so no stream limit applies.
def AdmitsHttp (h : ScreenHub) (publicKey channelId : String) : Prop :=
  (∃ row, h.db.channels[channelId]? = some row ∧ row.isCategory = false) ∧
    Admits h.db publicKey channelId none none none none ∧
    ((activeStreams h.shares).filter (·.2.2.viaHttp)).length < h.httpVideoStreamBudget

theorem httpStart_shares (h : ScreenHub) (sharer channelId kind mime : String) (hasAudio : Bool)
    (streamId : String) (instant : Int) :
    (AdmitsHttp h sharer channelId ∧ ∃ about : ScreenStreamMeta, about.sharerPubkey = sharer ∧
      (screenshareStart h sharer channelId kind mime hasAudio streamId instant).1.shares =
        registerStream h.shares channelId sharer streamId about) ∨
    (¬ AdmitsHttp h sharer channelId ∧
      (screenshareStart h sharer channelId kind mime hasAudio streamId instant).1.shares = h.shares) := by
  have undeclared : (readStreamLimits h.db).exceededBy none none none none = none := rfl
  unfold screenshareStart AdmitsHttp Admits
  simp only [undeclared, true_and, ← mayShare_iff]
  split
  next missing =>
    refine .inr ⟨?_, rfl⟩
    rintro ⟨⟨row, found, plain⟩, _⟩
    simp [found, plain] at missing
  next exists_ =>
    split
    next refused =>
      refine .inr ⟨?_, rfl⟩
      rintro ⟨_, granted, _⟩
      simp [granted] at refused
    next granted =>
      split
      next spent =>
        refine .inr ⟨?_, rfl⟩
        rintro ⟨_, _, room⟩
        omega
      next room =>
        refine .inl ⟨⟨?_, by simpa using granted, by omega⟩, _, rfl, rfl⟩
        cases found : h.db.channels[channelId]? with
        | none => simp [found] at exists_
        | some row => exact ⟨row, rfl, by simpa [found] using exists_⟩

theorem screenshareStart_tx (h : ScreenHub) (sharer channelId kind mime : String) (hasAudio : Bool)
    (streamId : String) (instant : Int) :
    (screenshareStart h sharer channelId kind mime hasAudio streamId instant).1.screenShareTx =
      h.screenShareTx := by
  unfold screenshareStart
  split
  next => rfl
  next =>
    split
    next => rfl
    next => split <;> rfl

theorem binary_streams (h : ScreenHub) (cs : Conn) (data : Bytes) (c k st : String) :
    (streamOf (handleBinaryChunk h cs data).1.shares c k st).map (·.sharerPubkey) =
      (streamOf h.shares c k st).map (·.sharerPubkey) := by
  unfold handleBinaryChunk
  split
  next => rfl
  next channelId streamId seq isInit _ =>
    dsimp only
    split
    next =>
      rw [streamOf_cacheInit]
      split
      next => cases streamOf h.shares c k st <;> rfl
      next => rfl
    next => rfl

end Wavvon.Socket
