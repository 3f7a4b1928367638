import Wavvon.Auth.State
import Wavvon.Identity.Wire
import Wavvon.Outbound.Addresses

set_option autoImplicit false

namespace Wavvon.Outbound

open Wire (Bytes)

structure SocketAddr where
  ip : IpAddr
  port : Nat
  deriving DecidableEq

/-- What the url library tells of a parsed url. -/
structure UrlLib (U : Type) where
  parse : String → Option U
  scheme : U → String
  hostStr : U → Option String
  portOrKnownDefault : U → Option Nat
  join : U → String → Option U

structure Response where
  status : Nat
  location : Option String
  contentType : Option String
  body : List (Except String Bytes)

inductive SendError where
  | build (e : String)
  | fetch (e : String)

/--
The net outside. Each lookup and each request has its number, and may be answered otherwise than
the one before; a request comes with the connections that were opened for it.
-/
structure Net (U : Type) where
  lookup : Nat → String → Nat → Option (List SocketAddr)
  literal : String → Option IpAddr
  send : Nat → String → List SocketAddr → U → List SocketAddr × Except SendError Response

-- Without the brackets of an IPv6 literal.
def bareHost (host : String) : String :=
  String.ofList ((host.toList.dropWhile (· == '[')).reverse.dropWhile (· == ']')).reverse

/--
The client connects to a numeric host as it is, and otherwise to none but the addresses it was
built with; the resolver answers a numeric host with itself.
-/
structure Pinned {U : Type} (lib : UrlLib U) (net : Net U) : Prop where
  numeric : ∀ n text port ip addrs, net.literal text = some ip → net.lookup n text port = some addrs →
    ∀ a ∈ addrs, a.ip = ip
  direct : ∀ n host addrs url ip, lib.hostStr url = some host → net.literal (bareHost host) = some ip →
    ∀ a ∈ (net.send n host addrs url).1, a.ip = ip
  overridden : ∀ n host addrs url, lib.hostStr url = some host → net.literal (bareHost host) = none →
    ∀ a ∈ (net.send n host addrs url).1, ∃ b ∈ addrs, b.ip = a.ip

-- A request that was sent: what was looked up for it, and where it went.
structure Hop where
  host : String
  port : Nat
  resolved : List SocketAddr
  connected : List SocketAddr

def bad (m : String) : HttpError := (400, m)

section

variable {U : Type} (lib : UrlLib U) (net : Net U)

def resolveAndCheckSsrf (n : Nat) (host : String) (port : Nat) (allowPrivate : Bool) :
    Except String (List SocketAddr) :=
  match net.lookup n host port with
  | none => .error "dns_failed"
  | some addrs =>
    if addrs.isEmpty then .error "dns_failed"
    else if !allowPrivate && addrs.any fun a => isPrivateIp a.ip then .error "ssrf_blocked"
    else .ok addrs

-- The host of a hop, and the addresses that it may go to.
def checkHop (n : Nat) (url : U) (allowPrivate : Bool) : Except HttpError (String × Nat × List SocketAddr) :=
  if lib.scheme url ≠ "http" ∧ lib.scheme url ≠ "https" then .error (bad "invalid_scheme")
  else
    match lib.hostStr url with
    | none => .error (bad "missing_host")
    | some host =>
      if !allowPrivate && decide (host.toLower = "localhost") then .error (bad "ssrf_blocked")
      else
        let port := (lib.portOrKnownDefault url).getD 80
        match resolveAndCheckSsrf net n (bareHost host) port allowPrivate with
        | .error e => .error (bad e)
        | .ok validated => .ok (host, port, validated)

def sendError : SendError → HttpError
  | .build e => (500, "client_build_error: " ++ e)
  | .fetch e => (502, "fetch_error: " ++ e)

def isRedirection (status : Nat) : Bool := decide (300 ≤ status) && decide (status < 400)

def hopOf (n : Nat) (url : U) (host : String) (port : Nat) (validated : List SocketAddr) : Hop :=
  { host := bareHost host, port := port, resolved := validated, connected := (net.send n host validated url).1 }

-- Follows `left` redirects by hand; the last response is read whatever it is.
def fetchLoop (allowPrivate : Bool) : Nat → Nat → U → List Hop × Except HttpError Response
  | left, n, url =>
    match checkHop lib net n url allowPrivate with
    | .error e => ([], .error e)
    | .ok (host, port, validated) =>
      let hop := hopOf net n url host port validated
      match (net.send n host validated url).2 with
      | .error e => ([hop], .error (sendError e))
      | .ok response =>
        if isRedirection response.status then
          match response.location.bind (lib.join url), left with
          | some next, left + 1 =>
            let rest := fetchLoop allowPrivate left (n + 1) next
            (hop :: rest.1, rest.2)
          | _, _ => ([hop], .ok response)
        else ([hop], .ok response)

-- Reads up to `max` bytes.
def readBody (max : Nat) : List (Except String Bytes) → Bytes → Except HttpError Bytes
  | [], buf => .ok buf
  | .error e :: _, _ => .error (502, "read_error: " ++ e)
  | .ok chunk :: rest, buf =>
    let remaining := max - buf.length
    if remaining ≤ chunk.length then .ok (buf ++ chunk.take remaining) else readBody max rest (buf ++ chunk)

def fetchCappedOpts (urlStr : String) (max : Nat) (allowPrivate : Bool) :
    List Hop × Except HttpError (Bytes × Option String) :=
  match lib.parse urlStr with
  | none => ([], .error (bad "invalid_url"))
  | some url =>
    match fetchLoop lib net allowPrivate 3 0 url with
    | (hops, .error e) => (hops, .error e)
    | (hops, .ok response) => (hops, (readBody max response.body []).map fun bytes => (bytes, response.contentType))

def fetchCapped (urlStr : String) (max : Nat) : List Hop × Except HttpError (Bytes × Option String) :=
  fetchCappedOpts lib net urlStr max false

end

/-- A fetch that reached nothing but addresses it had checked. -/
structure Confined {U : Type} (net : Net U) (max : Nat) (out : List Hop × Except HttpError (Bytes × Option String)) :
    Prop where
  pinned : ∀ i hop, out.1[i]? = some hop → net.lookup i hop.host hop.port = some hop.resolved ∧
    ∀ a ∈ hop.connected, (∃ b ∈ hop.resolved, b.ip = a.ip) ∧ isPrivateIp a.ip = false
  requests : out.1.length ≤ 4
  capped : ∀ bytes contentType, out.2 = .ok (bytes, contentType) → bytes.length ≤ max

section

variable {U : Type} {lib : UrlLib U} {net : Net U}

theorem resolve_checked {n : Nat} {host : String} {port : Nat} {addrs : List SocketAddr}
    (resolved : resolveAndCheckSsrf net n host port false = .ok addrs) :
    net.lookup n host port = some addrs ∧ addrs ≠ [] ∧ ∀ a ∈ addrs, isPrivateIp a.ip = false := by
  unfold resolveAndCheckSsrf at resolved
  cases found : net.lookup n host port with
  | none =>
    rw [found] at resolved
    cases resolved
  | some looked =>
    rw [found] at resolved
    dsimp only at resolved
    split at resolved
    next => cases resolved
    next inhabited =>
      split at resolved
      next => cases resolved
      next clean =>
        cases resolved
        refine ⟨rfl, ?_, ?_⟩
        · rintro rfl
          exact inhabited rfl
        · intro a listed
          by_contra private_
          exact clean (List.any_eq_true.mpr ⟨a, listed, by simpa using private_⟩)

theorem checkHop_ok {n : Nat} {url : U} {host : String} {port : Nat} {addrs : List SocketAddr}
    (checked : checkHop lib net n url false = .ok (host, port, addrs)) :
    lib.hostStr url = some host ∧ resolveAndCheckSsrf net n (bareHost host) port false = .ok addrs := by
  unfold checkHop at checked
  split at checked
  next => cases checked
  next =>
    cases named : lib.hostStr url with
    | none =>
      rw [named] at checked
      cases checked
    | some own =>
      rw [named] at checked
      dsimp only at checked
      split at checked
      next => cases checked
      next =>
        cases resolved : resolveAndCheckSsrf net n (bareHost own) ((lib.portOrKnownDefault url).getD 80) false with
        | error e =>
          rw [resolved] at checked
          cases checked
        | ok validated =>
          rw [resolved] at checked
          cases checked
          exact ⟨rfl, resolved⟩

-- One hop: what it resolved itself, and nowhere else.
theorem hop_confined (pinned : Pinned lib net) {n : Nat} {url : U} {host : String} {port : Nat}
    {addrs : List SocketAddr}
    (checked : checkHop lib net n url false = .ok (host, port, addrs)) :
    net.lookup n (bareHost host) port = some addrs ∧
      ∀ a ∈ (net.send n host addrs url).1, (∃ b ∈ addrs, b.ip = a.ip) ∧ isPrivateIp a.ip = false := by
  obtain ⟨named, resolved⟩ := checkHop_ok checked
  obtain ⟨looked, inhabited, clean⟩ := resolve_checked resolved
  refine ⟨looked, ?_⟩
  intro a opened
  have inside : ∃ b ∈ addrs, b.ip = a.ip := by
    cases numeric : net.literal (bareHost host) with
    | none => exact pinned.overridden n host addrs url named numeric a opened
    | some ip =>
      obtain ⟨b, listed⟩ := List.exists_mem_of_ne_nil addrs inhabited
      refine ⟨b, listed, ?_⟩
      rw [pinned.numeric n (bareHost host) port ip addrs numeric looked b listed,
        pinned.direct n host addrs url ip named numeric a opened]
  obtain ⟨b, listed, same⟩ := inside
  exact ⟨⟨b, listed, same⟩, same ▸ clean b listed⟩

-- A loop stops at its check, or after its request, or goes on with one redirect less.
theorem fetchLoop_cases (lib : UrlLib U) (net : Net U) (left n : Nat) (url : U) :
    (fetchLoop lib net false left n url).1 = [] ∨
      ∃ host port addrs, checkHop lib net n url false = .ok (host, port, addrs) ∧
        ((fetchLoop lib net false left n url).1 = [hopOf net n url host port addrs] ∨
          ∃ rest next, left = rest + 1 ∧ (fetchLoop lib net false left n url).1 =
            hopOf net n url host port addrs :: (fetchLoop lib net false rest (n + 1) next).1) := by
  rw [fetchLoop.eq_def lib net false left n url]
  dsimp only
  cases checked : checkHop lib net n url false with
  | error e => exact .inl rfl
  | ok found =>
    obtain ⟨host, port, addrs⟩ := found
    refine .inr ⟨host, port, addrs, rfl, ?_⟩
    dsimp only
    split
    next => exact .inl rfl
    next response _ =>
      split
      next =>
        split
        next next_ rest _ => exact .inr ⟨rest, next_, rfl, rfl⟩
        next => exact .inl rfl
      next => exact .inl rfl

-- The hops of a loop are numbered from `n` on.
theorem fetchLoop_pinned (pinned : Pinned lib net) (left n : Nat) (url : U) {i : Nat} {hop : Hop}
    (sent : (fetchLoop lib net false left n url).1[i]? = some hop) :
    net.lookup (n + i) hop.host hop.port = some hop.resolved ∧
      ∀ a ∈ hop.connected, (∃ b ∈ hop.resolved, b.ip = a.ip) ∧ isPrivateIp a.ip = false := by
  induction left using Nat.strong_induction_on generalizing n url i with
  | _ left ih =>
    obtain none_ | ⟨host, port, addrs, checked, last | ⟨rest, next, rfl, more⟩⟩ := fetchLoop_cases lib net left n url
    · rw [none_] at sent
      cases sent
    · rw [last] at sent
      cases i with
      | zero =>
        cases sent
        exact hop_confined pinned checked
      | succ i => cases sent
    · rw [more] at sent
      cases i with
      | zero =>
        cases sent
        exact hop_confined pinned checked
      | succ i =>
        have later := ih rest (Nat.lt_succ_self rest) (n + 1) next sent
        rwa [Nat.add_assoc, Nat.add_comm 1 i] at later

theorem fetchLoop_length (lib : UrlLib U) (net : Net U) (left n : Nat) (url : U) :
    (fetchLoop lib net false left n url).1.length ≤ left + 1 := by
  induction left using Nat.strong_induction_on generalizing n url with
  | _ left ih =>
    obtain none_ | ⟨host, port, addrs, checked, last | ⟨rest, next, rfl, more⟩⟩ := fetchLoop_cases lib net left n url
    · rw [none_]
      exact Nat.zero_le _
    · rw [last]
      exact Nat.succ_le_succ (Nat.zero_le left)
    · rw [more]
      exact Nat.succ_le_succ (ih rest (Nat.lt_succ_self rest) (n + 1) next)

theorem readBody_length {max : Nat} {chunks : List (Except String Bytes)} {buf bytes : Bytes} (fits : buf.length ≤ max)
    (read : readBody max chunks buf = .ok bytes) : bytes.length ≤ max := by
  induction chunks generalizing buf with
  | nil =>
    cases read
    exact fits
  | cons chunk rest ih =>
    cases chunk with
    | error e => cases read
    | ok chunk =>
      unfold readBody at read
      dsimp only at read
      split at read
      next full =>
        cases read
        rw [List.length_append, List.length_take]
        omega
      next short =>
        refine ih ?_ read
        rw [List.length_append]
        omega

theorem fetchCapped_confined (pinned : Pinned lib net) (urlStr : String) (max : Nat) :
    Confined net max (fetchCapped lib net urlStr max) := by
  unfold fetchCapped fetchCappedOpts
  cases lib.parse urlStr with
  | none =>
    refine ⟨?_, Nat.zero_le 4, ?_⟩
    · intro i hop sent
      cases sent
    · intro bytes contentType answered
      cases answered
  | some url =>
    have hops : ∀ {i : Nat} {hop : Hop}, (fetchLoop lib net false 3 0 url).1[i]? = some hop →
        net.lookup (0 + i) hop.host hop.port = some hop.resolved ∧
          ∀ a ∈ hop.connected, (∃ b ∈ hop.resolved, b.ip = a.ip) ∧ isPrivateIp a.ip = false :=
      fun sent => fetchLoop_pinned pinned 3 0 url sent
    have few := fetchLoop_length lib net 3 0 url
    dsimp only
    generalize fetchLoop lib net false 3 0 url = out at hops few
    obtain ⟨log, answer⟩ := out
    have own : ∀ i hop, log[i]? = some hop → net.lookup i hop.host hop.port = some hop.resolved ∧
        ∀ a ∈ hop.connected, (∃ b ∈ hop.resolved, b.ip = a.ip) ∧ isPrivateIp a.ip = false := by
      intro i hop sent
      have held := hops sent
      rwa [Nat.zero_add] at held
    cases answer with
    | error e =>
      refine ⟨own, few, ?_⟩
      intro bytes contentType answered
      cases answered
    | ok response =>
      refine ⟨own, few, ?_⟩
      intro bytes contentType answered
      dsimp only at answered
      cases read : readBody max response.body [] with
      | error e =>
        rw [read] at answered
        cases answered
      | ok body =>
        rw [read] at answered
        cases answered
        exact readBody_length (show ([] : Bytes).length ≤ max from Nat.zero_le max) read

end

/--
Every fetch stays on addresses that were checked in the same hop, and an address that hides an inner
one is refused exactly if no Teredo tunnel hides it.
-/
theorem fetch_checked_iff {U : Type} {lib : UrlLib U} {net : Net U} (pinned : Pinned lib net) (urlStr : String)
    (max : Nat) (a : Ipv6Addr) :
    (Confined net max (fetchCapped lib net urlStr max) ∧
      ∀ v4, Embeds a v4 → isGlobalV4 v4 = false → isPrivateIp (.v6 a) = true) ↔
      ∀ client ∈ a.teredoClient, isGlobalV4 client = true := by
  rw [and_iff_right (fetchCapped_confined pinned urlStr max)]
  exact embedded_refused_iff a

-- Every name is a page of one server.
def pages : UrlLib String where
  parse text := some text
  scheme _ := "https"
  hostStr _ := some "pages.example"
  portOrKnownDefault _ := some 443
  join _ target := some target

def pageServer : SocketAddr := { ip := .v4 ⟨(8, 8, 4, 4)⟩, port := 443 }

def oneServer : Net String where
  lookup _ _ _ := some [pageServer]
  literal _ := none
  send _ _ addrs _ := (addrs, .ok { status := 200, location := none, contentType := some "text/html", body := [] })

theorem oneServer_pinned : Pinned pages oneServer where
  numeric _ _ _ _ _ literal := by cases literal
  direct _ _ _ _ _ _ literal := by cases literal
  overridden _ _ _ _ _ _ a opened := ⟨a, opened, rfl⟩

def dnsServer : Ipv6Addr := ⟨0x2606, 0x4700, 0x4700, 0, 0, 0, 0, 0x1111⟩

theorem fetch_checked_iff_pages :
    (Confined oneServer 64 (fetchCapped pages oneServer "https://pages.example/" 64) ∧
      ∀ v4, Embeds dnsServer v4 → isGlobalV4 v4 = false → isPrivateIp (.v6 dnsServer) = true) ↔
      ∀ client ∈ dnsServer.teredoClient, isGlobalV4 client = true :=
  fetch_checked_iff oneServer_pinned "https://pages.example/" 64 dnsServer

-- The Teredo address of 127.0.0.1.
theorem teredo_loopback :
    ¬ ∀ (a : Ipv6Addr) (v4 : Ipv4Addr), Embeds a v4 → isGlobalV4 v4 = false → isPrivateIp (.v6 a) = true := by
  intro refused
  have tunnel := refused ⟨0x2001, 0, 0, 0, 0, 0, 0x80ff, 0xfffe⟩ (.ofSegments (~~~0x80ff) (~~~0xfffe))
    (.teredo 0 0 0 0 0x80ff 0xfffe) (by decide)
  exact absurd tunnel (by decide)

end Wavvon.Outbound
