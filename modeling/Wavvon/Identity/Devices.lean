import Wavvon.Auth.Doors
import Wavvon.Auth.Sessions
import Wavvon.Identity.RegistryEffect
import Wavvon.Shared.Runs

set_option autoImplicit false

namespace Wavvon

open Std (ExtTreeMap)
open Tables (Nested)

abbrev Devices := Nested String String DeviceRow

def Devices.OnlyMaster (devices : Devices) (subkey master : String) : Prop :=
  ∀ other row, devices.get other subkey = some row → other = master

/-- Every device has one master, and every row names the hub its certificate lists first. -/
structure Coherent (tables : AuthTables) : Prop where
  oneMaster : ∀ subkey master row, tables.subkeyCerts.get master subkey = some row →
    Devices.OnlyMaster tables.subkeyCerts subkey master
  homeHub : ∀ master subkey row, tables.subkeyCerts.get master subkey = some row →
    row.homeHubUrl = row.cert.fallbackHubs.head?.getD ""
  polled : ∀ master subkey row hub, tables.subkeyCerts.get master subkey = some row →
    row.cert.fallbackHubs.head? = some hub → hub ≠ "" → (master, hub) ∈ revocationTargets tables

theorem otherMaster_eq_false {s : AuthState} {subkey master : String} :
    s.otherMaster subkey master = false ↔ Devices.OnlyMaster s.tables.subkeyCerts subkey master := by
  simp only [AuthState.otherMaster, List.any_eq_false, Devices.OnlyMaster, Nested.get]
  constructor
  · intro none other row found
    obtain ⟨inner, outer, registered⟩ := Option.bind_eq_some_iff.mp found
    have listed := ExtTreeMap.mem_toList_iff_getElem?_eq_some.mpr outer
    have present : subkey ∈ inner := ExtTreeMap.mem_iff_isSome_getElem?.mpr (by simp [registered])
    by_contra different
    exact none (other, inner) listed (by simp [different, present])
  · rintro only ⟨other, inner⟩ listed named
    have outer := ExtTreeMap.mem_toList_iff_getElem?_eq_some.mp listed
    obtain ⟨different, present⟩ : other ≠ master ∧ subkey ∈ inner := by simpa using named
    have registered : inner[subkey]? = some inner[subkey] := ExtTreeMap.getElem?_eq_some_getElem present
    exact different (only other inner[subkey] (by simp [outer, registered]))

theorem target_mem {tables : AuthTables} {master subkey : String} {row : DeviceRow}
    (found : tables.subkeyCerts.get master subkey = some row) (named : row.homeHubUrl ≠ "") :
    (master, row.homeHubUrl) ∈ revocationTargets tables := by
  obtain ⟨inner, outer, registered⟩ := Option.bind_eq_some_iff.mp found
  have listed := ExtTreeMap.mem_toList_iff_getElem?_eq_some.mpr outer
  have device := ExtTreeMap.mem_toList_iff_getElem?_eq_some.mpr registered
  refine List.mem_dedup.mpr (List.mem_flatMap.mpr ⟨(master, inner), listed, ?_⟩)
  refine List.mem_map.mpr ⟨(subkey, row), List.mem_filter.mpr ⟨device, ?_⟩, rfl⟩
  simpa using named

theorem coherent_of {tables : AuthTables}
    (oneMaster : ∀ subkey master row, tables.subkeyCerts.get master subkey = some row →
      Devices.OnlyMaster tables.subkeyCerts subkey master)
    (homeHub : ∀ master subkey row, tables.subkeyCerts.get master subkey = some row →
      row.homeHubUrl = row.cert.fallbackHubs.head?.getD "") : Coherent tables where
  oneMaster := oneMaster
  homeHub := homeHub
  polled master subkey row hub found first named := by
    have url := homeHub master subkey row found
    rw [first, Option.getD_some] at url
    exact url ▸ target_mem found (url ▸ named)

theorem coherent_congr {before after : AuthTables} (same : after.subkeyCerts = before.subkeyCerts) :
    Coherent after ↔ Coherent before := by
  have targets : revocationTargets after = revocationTargets before := by
    simp only [revocationTargets, same]
  constructor
  · rintro ⟨one, home, polled⟩
    exact ⟨same ▸ one, same ▸ home, targets ▸ same ▸ polled⟩
  · rintro ⟨one, home, polled⟩
    exact ⟨same.symm ▸ one, same.symm ▸ home, by rw [targets, same]; exact polled⟩

-- What a writer has to make sure of.
theorem coherent_put {before after : AuthTables} (coherent : Coherent before) {row : DeviceRow}
    (written : after.subkeyCerts =
      before.subkeyCerts.put row.cert.masterPubkey row.cert.subkeyPubkey row) :
    Coherent after ↔
      Devices.OnlyMaster before.subkeyCerts row.cert.subkeyPubkey row.cert.masterPubkey ∧
        row.homeHubUrl = row.cert.fallbackHubs.head?.getD "" := by
  have lookup : ∀ master subkey, after.subkeyCerts.get master subkey =
      if master = row.cert.masterPubkey ∧ subkey = row.cert.subkeyPubkey then some row
      else before.subkeyCerts.get master subkey := by
    intro master subkey
    rw [written, Nested.get_put]
  have here := lookup row.cert.masterPubkey row.cert.subkeyPubkey
  rw [if_pos ⟨rfl, rfl⟩] at here
  constructor
  · intro kept
    refine ⟨?_, kept.homeHub _ _ row here⟩
    intro other old found
    by_contra different
    have still := lookup other row.cert.subkeyPubkey
    rw [if_neg (fun same => different same.1), found] at still
    exact different (kept.oneMaster _ _ row here other old still)
  · rintro ⟨only, home⟩
    apply coherent_of
    · intro subkey master held found other old foundOther
      rw [lookup] at found foundOther
      by_cases named : subkey = row.cert.subkeyPubkey
      next =>
        subst named
        have first : master = row.cert.masterPubkey := by
          by_contra different
          rw [if_neg (fun same => different same.1)] at found
          exact different (only master held found)
        have second : other = row.cert.masterPubkey := by
          by_contra different
          rw [if_neg (fun same => different same.1)] at foundOther
          exact different (only other old foundOther)
        exact second.trans first.symm
      next =>
        rw [if_neg (fun same => named same.2)] at found foundOther
        exact coherent.oneMaster subkey master held found other old foundOther
    · intro master subkey held found
      rw [lookup] at found
      split at found
      · cases found
        exact home
      · exact coherent.homeHub master subkey held found

/--
A sign-in that reaches its seat and a completed pairing name a device no other master has registered,
and the pairing's certificate lists first the hub the row already names, none for a new row.
-/
def RegistersOnce (outside : Outside) (keys : Keys) (s : Registry) : RegistryCall → Prop
  | .auth call => ∀ cert, call.Presents (outside.withKeys keys) s.auth cert →
      Devices.OnlyMaster s.auth.tables.subkeyCerts cert.subkeyPubkey cert.masterPubkey
  | .postComplete complete now => Completes keys s complete now →
      Devices.OnlyMaster s.auth.tables.subkeyCerts complete.cert.subkeyPubkey complete.cert.masterPubkey ∧
        (pairedRow s.auth.tables complete.cert).homeHubUrl = complete.cert.fallbackHubs.head?.getD ""
  | _ => True

section

variable {outside : Outside} (farm : FarmOutside) {keys : Keys} {s : Registry} {call : RegistryCall}

theorem registersOnce_iff :
    RegistersOnce outside keys s call ↔
      ∀ row, Writes outside farm keys s row call →
        Devices.OnlyMaster s.auth.tables.subkeyCerts row.cert.subkeyPubkey row.cert.masterPubkey ∧
          row.homeHubUrl = row.cert.fallbackHubs.head?.getD "" := by
  cases call with
  | auth call =>
    constructor
    · rintro once row ⟨cert, presents, rfl⟩
      exact ⟨once cert presents, rfl⟩
    · intro once cert presents
      exact (once (newRow cert) ⟨cert, presents, rfl⟩).1
  | postDevice token master cert now =>
    refine ⟨?_, fun _ => trivial⟩
    rintro _ row ⟨⟨user, _, _, _, _, free⟩, rfl⟩
    exact ⟨otherMaster_eq_false.mp free, rfl⟩
  | postComplete complete now =>
    constructor
    · rintro once row ⟨accepted, rfl⟩
      exact once accepted
    · intro once accepted
      exact once _ ⟨accepted, rfl⟩
  | postRevocation | revocationTick | postOffer | postClaim => exact ⟨fun _ _ => False.elim, fun _ => trivial⟩

theorem next_coherent (coherent : Coherent s.auth.tables) :
    Coherent (s.next outside farm keys call).auth.tables ↔ RegistersOnce outside keys s call := by
  rw [registersOnce_iff farm]
  rcases Registry.next_certs outside farm keys s call with ⟨row, writes, written⟩ | ⟨silent, same⟩
  · rw [coherent_put coherent written]
    constructor
    · intro once other writesOther
      rw [writes_unique writesOther writes]
      exact once
    · intro once
      exact once row writes
  · rw [coherent_congr same]
    exact ⟨fun _ row writes => absurd writes (silent row), fun _ => coherent⟩

end

/--
In every run the device registry stays coherent exactly when no sign-in and no pairing registers a
device a second master already has, and each pairing's certificate agrees with the row about the hub.
-/
theorem coherent_iff (outside : Outside) (farm : FarmOutside) (keys : Keys) (s : Registry)
    (initial : Coherent s.auth.tables) (calls : List RegistryCall) :
    (∀ front, front <+: calls →
        Coherent (Runs.run (Registry.next outside farm keys) s front).auth.tables) ↔
      Runs.Meets (Registry.next outside farm keys) (RegistersOnce outside keys) s calls := by
  apply Runs.always_iff_meets (fun s : Registry => Coherent s.auth.tables)
    (fun s : Registry => Coherent s.auth.tables)
  · intro s coherent
    exact coherent
  · intro s call coherent once
    exact (next_coherent farm coherent).mpr once
  · intro s call coherent twice kept
    exact twice ((next_coherent farm coherent).mp kept)
  · exact initial

def pairedCert (hubs : List String) : SubkeyCert :=
  { masterPubkey := namedKey 1, subkeyPubkey := namedKey 2, deviceLabel := "phone", issuedAt := 10
    notAfter := none, fallbackHubs := hubs, signature := signedBy 1 }

def pairing (hubs : List String) : List RegistryCall :=
  [ .postOffer
      { masterPubkey := namedKey 1, homeHubs := hubs, pairingToken := namedKey 9
        issuedAt := 10, expiresAt := 100, signature := signedBy 1 } 20,
    .postClaim
      { pairingToken := namedKey 9, subkeyPubkey := namedKey 2, deviceLabel := "phone"
        proof := signedBy 2 } 21,
    .postComplete { pairingToken := namedKey 9, cert := pairedCert hubs, wrappedBlobKeyHex := "00" } 22 ]

theorem coherent_empty : Coherent {} := by
  apply coherent_of
  · intro subkey master row found
    simp at found
  · intro master subkey row found
    simp at found

theorem coherent_iff_homeless :
    Coherent ({} : AuthTables) ∧ ∀ front, front <+: pairing [] →
      Coherent (Runs.run (Registry.next softAuthenticator oneTokenFarm openKeys) {} front).auth.tables := by
  refine ⟨coherent_empty, (coherent_iff softAuthenticator oneTokenFarm openKeys {} coherent_empty _).mpr ?_⟩
  refine ⟨trivial, trivial, fun _ => ⟨?_, rfl⟩, trivial⟩
  intro other row found
  exact absurd found (by simp [Registry.next])

-- A pairing like any other: the certificate names a home hub, the row it leaves names none.
theorem coherent_paired :
    ¬ ∀ front, front <+: pairing ["https://home"] →
      Coherent (Runs.run (Registry.next softAuthenticator oneTokenFarm openKeys) {} front).auth.tables := by
  intro always
  have stored : (Runs.run (Registry.next softAuthenticator oneTokenFarm openKeys) {}
      (pairing ["https://home"])).auth.tables.subkeyCerts.get (namedKey 1) (namedKey 2) =
        some { cert := pairedCert ["https://home"], homeHubUrl := "" } := by
    decide +kernel
  have named := (always _ List.prefix_rfl).homeHub _ _ _ stored
  revert named
  decide

end Wavvon
