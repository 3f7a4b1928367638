import Wavvon.Certs.Relay

set_option autoImplicit false

namespace Wavvon.Certs

open Std (ExtTreeMap)
open Interleaving (Handler)

section

variable {s : RelayState} {url issuer subject : String} {entry : RevocationEntry}

theorem mem_revocations {hub : IssuerHub} : entry ∈ hub.revocations ↔ ∃ (id : String) (row : Issuance),
    hub.issuances[id]? = some row ∧ row.subjectPubkey = entry.subjectPubkey ∧ row.revokedAt = some entry.revokedAt := by
  rw [IssuerHub.revocations, List.mem_filterMap]
  constructor
  · rintro ⟨⟨id, row⟩, listed, made⟩
    obtain ⟨revokedAt, revoked, rfl⟩ := Option.map_eq_some_iff.mp made
    exact ⟨id, row, ExtTreeMap.mem_toList_iff_getElem?_eq_some.mp listed, rfl, revoked⟩
  · rintro ⟨id, row, found, named, revoked⟩
    refine ⟨(id, row), ExtTreeMap.mem_toList_iff_getElem?_eq_some.mpr found, ?_⟩
    rw [revoked, named]
    rfl

theorem mem_published : entry ∈ published s url ↔ ∃ hub, hubAt s url = some hub ∧ entry ∈ hub.revocations := by
  rw [published]
  cases hubAt s url <;> simp

theorem serve_eq_some {since : Int} {entries : List RevocationEntry} (served : serve s url since = some entries) :
    entry ∈ entries ↔ entry ∈ published s url ∧ since ≤ entry.revokedAt := by
  unfold serve at served
  split at served
  next =>
    obtain ⟨hub, found, rfl⟩ := Option.map_eq_some_iff.mp served
    rw [published, found, getRevocations, List.mem_insertionSort, List.mem_filter]
    simp
  next => cases served

theorem published_onHub {at' : String} {change : IssuerHub → IssuerHub}
    (grows : ∀ hub, entry ∈ hub.revocations → entry ∈ (change hub).revocations) (listed : entry ∈ published s url) :
    entry ∈ published (onHub s at' change) url := by
  obtain ⟨hub, found, inside⟩ := mem_published.mp listed
  obtain ⟨host, named, found⟩ := Option.bind_eq_some_iff.mp found
  rw [mem_published, hubAt, onHub, named, Option.bind_some]
  by_cases here : at' = host.hub
  · subst here
    exact ⟨change hub, by simp [found], grows hub inside⟩
  · exact ⟨hub, by simpa [ExtTreeMap.getElem?_modify, here] using found, inside⟩

theorem published_reach (at' : String) (up : Bool) (listed : entry ∈ published s url) :
    entry ∈ published (aside s (.reach at' up)) url := by
  obtain ⟨hub, found, inside⟩ := mem_published.mp listed
  obtain ⟨host, named, found⟩ := Option.bind_eq_some_iff.mp found
  refine mem_published.mpr ⟨hub, ?_, inside⟩
  rw [hubAt, aside]
  by_cases here : at' = trimEndSlashes url
  · subst here
    simpa [named] using found
  · simpa [ExtTreeMap.getElem?_modify, here, named] using found

-- What an issuer has published stays published.
theorem published_aside (event : IssuerEvent) (listed : entry ∈ published s url) :
    entry ∈ published (aside s event) url := by
  have kept : ∀ (hub : IssuerHub) (id : String) (row : Issuance), entry ∈ hub.revocations →
      entry ∈ IssuerHub.revocations { hub with issuances := hub.issuances.insertIfNew id row } := by
    intro hub id row inside
    obtain ⟨other, old, found, named⟩ := mem_revocations.mp inside
    refine mem_revocations.mpr ⟨other, old, ?_, named⟩
    rw [ExtTreeMap.getElem?_insertIfNew, if_neg ?_]
    · exact found
    · rintro ⟨same, absent⟩
      rw [Std.LawfulEqOrd.eq_of_compare same, ExtTreeMap.mem_iff_isSome_getElem?, found] at absent
      exact absent rfl
  cases event with
  | issue at' id subject => exact published_onHub (fun hub inside => kept hub id _ inside) listed
  | reissue at' id subject revokedAt => exact published_onHub (fun hub inside => kept hub id _ inside) listed
  | wait at' seconds => exact published_onHub (fun _ inside => inside) listed
  | reach at' up => exact published_reach at' up listed
  | revoke at' subject =>
    refine published_onHub (fun hub inside => ?_) listed
    obtain ⟨id, row, found, named, revoked⟩ := mem_revocations.mp inside
    refine mem_revocations.mpr ⟨id, row, ?_, named, revoked⟩
    rw [ExtTreeMap.getElem?_map, found, Option.map_some, Issuance.revoke, if_neg]
    rintro ⟨-, unrevoked⟩
    rw [revoked] at unrevoked
    cases unrevoked

theorem published_run (events : List IssuerEvent) (listed : entry ∈ published s url) :
    entry ∈ published (Runs.run aside s events) url :=
  Runs.run_invariant (fun s => entry ∈ published s url)
    (fun _ event inside => published_aside event inside) s listed events

-- The hubs of the issuers do not write here.
theorem run_here (events : List IssuerEvent) (s : RelayState) :
    (Runs.run aside s events).userCerts = s.userCerts ∧ (Runs.run aside s events).syncs = s.syncs := by
  refine Runs.run_invariant (fun t => t.userCerts = s.userCerts ∧ t.syncs = s.syncs) (fun t event same => ?_) s ⟨rfl,
    rfl⟩ events
  cases event <;> exact same

theorem hasCert_congr {t : RelayState} (same : t.userCerts = s.userCerts) :
    HasCert t issuer subject ↔ HasCert s issuer subject := by
  rw [HasCert, HasCert, same]

theorem hasCert_remove {gone : String} : HasCert ((RelayStatement.remove issuer gone).effect s) issuer subject ↔
    HasCert s issuer subject ∧ subject ≠ gone := by
  constructor
  · rintro ⟨id, cert, found, own, named⟩
    rw [RelayStatement.effect, ExtTreeMap.getElem?_filter', Option.filter_eq_some_iff] at found
    refine ⟨⟨id, cert, found.1, own, named⟩, fun same => ?_⟩
    exact of_decide_eq_true found.2 ⟨own, named.trans same⟩
  · rintro ⟨⟨id, cert, found, own, named⟩, apart⟩
    refine ⟨id, cert, ?_, own, named⟩
    rw [RelayStatement.effect, ExtTreeMap.getElem?_filter', Option.filter_eq_some_iff]
    exact ⟨found, decide_eq_true fun same => apart (named.symm.trans same.2)⟩

-- Of the certificates of the issuer, those that the answer names go.
theorem apply_certs (cursor : Int) (entries : List RevocationEntry) (batches : List (List IssuerEvent))
    (s : RelayState) :
    HasCert ((apply issuer url cursor entries).amid aside batches s).1 issuer subject ↔
      HasCert s issuer subject ∧ ∀ entry ∈ entries, subject ≠ entry.subjectPubkey := by
  induction entries generalizing batches s with
  | nil =>
    have kept : ((apply issuer url cursor []).amid aside batches s).1.userCerts = s.userCerts :=
      (run_here (batches.headD []) s).1
    rw [hasCert_congr kept]
    simp
  | cons entry rest ih =>
    let seen := Runs.run aside s (batches.headD [])
    have next := ih batches.tail ((RelayStatement.remove issuer entry.subjectPubkey).effect seen)
    rw [hasCert_remove, hasCert_congr (run_here (batches.headD []) s).1, and_assoc] at next
    rw [List.forall_mem_cons]
    exact next

theorem newest_le {since bound : Int} {entries : List RevocationEntry} :
    newest since entries ≤ bound ↔ since ≤ bound ∧ ∀ entry ∈ entries, entry.revokedAt ≤ bound := by
  induction entries generalizing since with
  | nil => simp [newest]
  | cons entry rest ih =>
    change newest (if since < entry.revokedAt then entry.revokedAt else since) rest ≤ bound ↔ _
    rw [ih, List.forall_mem_cons]
    split <;> constructor
    · rintro ⟨first, others⟩
      exact ⟨by omega, first, others⟩
    · rintro ⟨-, first, others⟩
      exact ⟨first, others⟩
    · rintro ⟨first, others⟩
      exact ⟨first, by omega, others⟩
    · rintro ⟨first, -, others⟩
      exact ⟨first, others⟩

end

section

variable {s : RelayState} {poll : Poll}

theorem sync_eq (s : RelayState) (poll : Poll) : sync s poll =
    (takeIn poll.issuer poll.url (sinceOf s poll) (serve (fetchOf s poll) poll.url (sinceOf s poll))).amid aside
      poll.amid.tail.tail (fetchOf s poll) := rfl

theorem sync_none (silent : serve (fetchOf s poll) poll.url (sinceOf s poll) = none) : (sync s poll).2 = false := by
  rw [sync_eq, silent]
  rfl

theorem fetchOf_certs (s : RelayState) (poll : Poll) : (fetchOf s poll).userCerts = s.userCerts :=
  (run_here _ (startOf s poll)).1.trans (run_here _ s).1

-- A poll that is answered succeeds and takes away whom the answer names.
theorem sync_some {entries : List RevocationEntry}
    (served : serve (fetchOf s poll) poll.url (sinceOf s poll) = some entries) :
    (sync s poll).2 = true ∧ ∀ subject, HasCert (sync s poll).1 poll.issuer subject ↔
      HasCert s poll.issuer subject ∧ ∀ entry ∈ entries, subject ≠ entry.subjectPubkey := by
  rw [sync_eq, served]
  obtain ⟨used, rest⟩ := Handler.amid_bind aside (apply poll.issuer poll.url (nextCursor (sinceOf s poll) entries) entries)
    (fun _ => (pure true : Worker Bool)) poll.amid.tail.tail (fetchOf s poll)
  change (Handler.amid aside (_ >>= _) _ _).2 = true ∧ ∀ subject, HasCert (Handler.amid aside (_ >>= _) _ _).1 _ _ ↔ _
  rw [rest]
  refine ⟨rfl, fun subject => ?_⟩
  change HasCert (Handler.amid aside (apply _ _ _ _) _ _).1 _ _ ↔ _
  rw [apply_certs, hasCert_congr (fetchOf_certs s poll)]

-- The worst is a date past every other: the next cursor fits if no entry has the last one.
theorem cursor_fits {entries : List RevocationEntry}
    (served : serve (fetchOf s poll) poll.url (sinceOf s poll) = some entries) :
    (entries ≠ [] → newest (sinceOf s poll) entries + 1 ≤ I64_MAX) ↔
      ∀ entry ∈ published (fetchOf s poll) poll.url, sinceOf s poll ≤ entry.revokedAt → entry.revokedAt < I64_MAX := by
  have bound : newest (sinceOf s poll) entries + 1 ≤ I64_MAX ↔ newest (sinceOf s poll) entries ≤ I64_MAX - 1 := by omega
  rw [bound, newest_le]
  constructor
  · intro fits entry listed reached
    have inside := (serve_eq_some served).mpr ⟨listed, reached⟩
    have below := (fits (List.ne_nil_of_mem inside)).2 entry inside
    omega
  · intro below some'
    obtain ⟨first, inside⟩ := List.exists_mem_of_ne_nil entries some'
    have last : ∀ entry ∈ entries, sinceOf s poll ≤ entry.revokedAt ∧ entry.revokedAt < I64_MAX := by
      intro entry member
      obtain ⟨listed, reached⟩ := (serve_eq_some served).mp member
      exact ⟨reached, below entry listed reached⟩
    refine ⟨?_, fun entry member => ?_⟩
    · have bounds := last first inside
      omega
    · have bounds := last entry member
      omega

-- The certificates that an answer leaves behind are those that the cursor hides.
theorem gone_iff {entries : List RevocationEntry}
    (served : serve (fetchOf s poll) poll.url (sinceOf s poll) = some entries)
    {entry : RevocationEntry} (listed : entry ∈ published (startOf s poll) poll.url) :
    ¬ HasCert (sync s poll).1 poll.issuer entry.subjectPubkey ↔
      (entry.revokedAt < sinceOf s poll → HasCert s poll.issuer entry.subjectPubkey →
        ∃ later ∈ published (fetchOf s poll) poll.url, later.subjectPubkey = entry.subjectPubkey ∧
          sinceOf s poll ≤ later.revokedAt) := by
  rw [(sync_some served).2]
  constructor
  · intro gone _ held
    obtain ⟨later, inside, same⟩ : ∃ later ∈ entries, entry.subjectPubkey = later.subjectPubkey := by
      by_contra nobody
      exact gone ⟨held, fun later inside same => nobody ⟨later, inside, same⟩⟩
    obtain ⟨known, reached⟩ := (serve_eq_some served).mp inside
    exact ⟨later, known, same.symm, reached⟩
  · rintro reaches ⟨held, spared⟩
    by_cases hidden : entry.revokedAt < sinceOf s poll
    · obtain ⟨later, known, same, reached⟩ := reaches hidden held
      exact spared later ((serve_eq_some served).mpr ⟨known, reached⟩) same.symm
    · have still : entry ∈ published (fetchOf s poll) poll.url := published_run _ listed
      exact spared entry ((serve_eq_some served).mpr ⟨still, by omega⟩) rfl

theorem catchesUp_iff_reaches (s : RelayState) (act : Act) : CatchesUp s act ↔ Reaches s act := by
  cases act with
  | issuer event => exact Iff.rfl
  | poll poll =>
    cases served : serve (fetchOf s poll) poll.url (sinceOf s poll) with
    | none =>
      have fails := sync_none served
      constructor
      · intro _ answered
        rw [served] at answered
        cases answered
      · intro _ succeeds
        rw [fails] at succeeds
        cases succeeds
    | some entries =>
      have fits := cursor_fits served
      constructor
      · intro caught _
        obtain ⟨gone, below⟩ := caught (sync_some served).1
        exact ⟨fun entry listed => (gone_iff served listed).mp (gone entry listed), fits.mp (below entries served)⟩
      · intro reaches _
        obtain ⟨none, below⟩ := reaches (by rw [served]; rfl)
        refine ⟨fun entry listed => (gone_iff served listed).mpr (none entry listed), fun answer same => ?_⟩
        obtain rfl := Option.some.inj (served.symm.trans same)
        exact fits.mpr below

end

-- A pass of the worker is a run of polls, one for each pair that it has listed.
theorem syncAll_polls (pairs : List (String × String)) (batches : List (List IssuerEvent)) (s : RelayState) :
    ∃ polls : List Poll, polls.map (fun poll => (poll.issuer, poll.url)) = pairs ∧
      ((syncAll pairs).amid aside batches s).1 = Runs.run step s (polls.map Act.poll) := by
  induction pairs generalizing batches s with
  | nil => exact ⟨[], rfl, rfl⟩
  | cons pair rest ih =>
    obtain ⟨used, split⟩ := Handler.amid_bind aside (syncOne pair.1 pair.2) (fun _ => syncAll rest) batches s
    let poll : Poll := { issuer := pair.1, url := pair.2, amid := batches }
    obtain ⟨polls, named, same⟩ := ih (batches.drop used) (sync s poll).1
    refine ⟨poll :: polls, by rw [List.map_cons, named], ?_⟩
    change ((syncOne pair.1 pair.2 >>= fun _ => syncAll rest).amid aside batches s).1 = _
    rw [split]
    exact same

theorem tick_polls (order : List (String × String) → List (String × String)) (batches : List (List IssuerEvent))
    (s : RelayState) :
    ∃ polls : List Poll, polls.map (fun poll => (poll.issuer, poll.url)) = order (issuers s) ∧
      ((tick order).amid aside batches s).1 =
        Runs.run step s ((batches.headD []).map Act.issuer ++ polls.map Act.poll) := by
  obtain ⟨polls, named, same⟩ := syncAll_polls (order (issuers (Runs.run aside s (batches.headD [])))) batches.tail
    (Runs.run aside s (batches.headD []))
  have before : Runs.run step s ((batches.headD []).map Act.issuer) = Runs.run aside s (batches.headD []) :=
    List.foldl_map
  refine ⟨polls, ?_, ?_⟩
  · rw [named, issuers, issuers, (run_here _ s).1]
  · rw [Runs.run_append, before]
    exact same

/-- Every poll of a run that succeeds applies what was published when it began exactly if the cursor hides
nothing from it. -/
theorem relay_iff (s : RelayState) (acts : List Act) :
    Runs.Meets step CatchesUp s acts ↔ Runs.Meets step Reaches s acts :=
  Runs.meets_congr (fun _ => True) (fun _ _ _ => trivial) (fun s act _ => catchesUp_iff_reaches s act) trivial acts

-- Two members with a certificate of one issuer, whose clock stands at 100.
def twoCerts : RelayState where
  userCerts := ((∅ : Table UserCert).insert "c1" { masterPubkey := "ann", issuerPubkey := "key", issuerUrl := "https://a/" }).insert
    "c2" { masterPubkey := "bob", issuerPubkey := "key", issuerUrl := "https://a/" }
  hosts := (∅ : Table Host).insert "https://a" { hub := "a" }
  hubs := (∅ : Table IssuerHub).insert "a"
    { issuances := ((∅ : Table Issuance).insert "i1" { subjectPubkey := "ann" }).insert "i2" { subjectPubkey := "bob" }, now := 100 }

def pollKey : Act := .poll { issuer := "key", url := "https://a/" }

-- Bob is revoked in the second of the last revocation that the first poll has seen.
def sameSecond : List Act :=
  [.issuer (.revoke "a" "ann"), pollKey, .issuer (.revoke "a" "bob"), pollKey]

theorem revocation_skipped : ¬ ∀ (s : RelayState) (acts : List Act), Runs.Meets step CatchesUp s acts := by
  intro always
  obtain ⟨-, -, -, caught, -⟩ := always twoCerts sameSecond
  obtain ⟨gone, -⟩ := caught (by decide)
  refine gone { subjectPubkey := "bob", revokedAt := 100 } (by decide) ⟨"c2", ?_⟩
  exact ⟨{ masterPubkey := "bob", issuerPubkey := "key", issuerUrl := "https://a/" }, by decide +kernel, rfl, rfl⟩

end Wavvon.Certs
