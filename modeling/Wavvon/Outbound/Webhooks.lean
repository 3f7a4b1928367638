import Wavvon.Outbound.Fetch

set_option autoImplicit false

namespace Wavvon.Outbound

open Wire (Bytes)

def eqIgnoreAsciiCase (a b : String) : Bool := decide (a.toList.map Char.toLower = b.toList.map Char.toLower)

def privateHost : HttpError := bad "URL host must not be a private or loopback address"

section

variable {U : Type} (lib : UrlLib U) (net : Net U)

-- `registered` is the number of the one lookup that a registration makes.
def validateWebhookUrl (registered : Nat) (raw : String) (allowPrivate : Bool) : Except HttpError Unit :=
  match lib.parse raw with
  | none => .error (bad "Invalid URL")
  | some url =>
    if !allowPrivate && decide (lib.scheme url ≠ "https") then .error (bad "URL must use https://")
    else
      match lib.hostStr url with
      | none => .error (bad "URL must have a host")
      | some host =>
        if allowPrivate then .ok ()
        else if eqIgnoreAsciiCase host "localhost" then .error privateHost
        else
          match net.literal host with
          | some ip => if isPrivateIp ip then .error privateHost else .ok ()
          | none =>
            match net.lookup registered host ((lib.portOrKnownDefault url).getD 443) with
            | none => .error (bad "Could not resolve host")
            | some addrs =>
              if addrs.any fun a => isPrivateIp a.ip then .error privateHost
              else if addrs.isEmpty then .error (bad "Could not resolve host")
              else .ok ()

end

-- What the rule refuses unless the operator has opted in.
def internal (allowPrivate : Bool) (ip : IpAddr) : Bool := !allowPrivate && isPrivateIp ip

structure OutgoingWebhook where
  id : String
  url : String
  signingKey : String

structure DeliveryResult where
  success : Bool
  statusCode : Option Nat
  errorMsg : Option String
  deriving DecidableEq

structure Post where
  url : String
  headers : List (String × String)
  body : String
  deriving DecidableEq

/-- How an envelope becomes text, and a text is signed. -/
structure Envelopes (E : Type) where
  toJson : E → Except String String
  hmacSha256 : Bytes → Bytes → Except String Bytes
  hexError : String → String

section

variable {E : Type} (codec : Envelopes E)

def signBody (signingKeyHex : String) (body : Bytes) : Except String String :=
  match hexDecode signingKeyHex with
  | none => .error ("bad signing key: " ++ codec.hexError signingKeyHex)
  | some key => (codec.hmacSha256 key body).map hexEncode

-- The request of an attempt, or the error that ends it before anything is sent.
def signedPost (hubPubkeyHex : String) (webhook : OutgoingWebhook) (timestamp : UInt64) (envelope : E) :
    Except String Post :=
  match codec.toJson envelope with
  | .error e => .error ("serialize error: " ++ e)
  | .ok body =>
    (signBody codec webhook.signingKey (Wire.webhookDeliverySigningBytes timestamp (Wire.strBytes body))).map
      fun signature =>
        { url := webhook.url
          headers := [("Content-Type", "application/json"), ("X-Wavvon-Hub-Pubkey", hubPubkeyHex),
            ("X-Wavvon-Signature-V1", signature), ("X-Wavvon-Timestamp", toString timestamp),
            ("X-Wavvon-Webhook-Id", webhook.id)]
          body := body }

end

/--
The shared client, and the world that it meets: in every attempt the redirects that it follows from a
url, what a name resolves to at each of its hops, which of these addresses are dialed, and how the
last request ends.
-/
structure Client (U : Type) where
  redirects : Nat → U → List U
  resolve : Nat → Nat → String → List IpAddr
  dial : Nat → Nat → List IpAddr → List IpAddr
  unparsed : String → String
  answer : Nat → Except String (Nat × String)

section

variable {U E : Type} (lib : UrlLib U) (net : Net U) (client : Client U) (codec : Envelopes E)

-- A numeric host is dialed as it is.
def Client.dialed (attempt hop : Nat) (host : String) : List IpAddr :=
  match net.literal (bareHost host) with
  | some ip => [ip]
  | none => client.dial attempt hop (client.resolve attempt hop (bareHost host))

def Client.route (attempt : Nat) (raw : String) : List U :=
  match lib.parse raw with
  | none => []
  | some url => url :: client.redirects attempt url

def Client.send (attempt : Nat) (post : Post) : Except String (Nat × String) :=
  match lib.parse post.url with
  | none => .error (client.unparsed post.url)
  | some _ => client.answer attempt

def isSuccess (status : Nat) : Bool := decide (200 ≤ status) && decide (status < 300)

def deliveryResult : Except String (Nat × String) → DeliveryResult
  | .error e => { success := false, statusCode := none, errorMsg := some e }
  | .ok (status, text) =>
    if isSuccess status then { success := true, statusCode := some status, errorMsg := none }
    else { success := false, statusCode := some status, errorMsg := some ("non-2xx status: " ++ text) }

/-- An attempt: the addresses that each of its requests was sent to, and what it came to. -/
structure Attempt where
  hops : List (List IpAddr)
  result : DeliveryResult

def attemptDelivery (attempt : Nat) (hubPubkeyHex : String) (webhook : OutgoingWebhook) (timestamp : UInt64)
    (envelope : E) : Attempt :=
  match signedPost codec hubPubkeyHex webhook timestamp envelope with
  | .error e => { hops := [], result := deliveryResult (.error e) }
  | .ok post =>
    { hops := (client.route lib attempt post.url).mapIdx fun hop url =>
        ((lib.hostStr url).map (client.dialed net attempt hop)).getD []
      result := deliveryResult (client.send lib attempt post) }

/--
One request of an attempt stays outside: a name is answered for it with addresses that are not
internal, and a numeric host is the one that was judged at the registration, or is not internal.
-/
def LeadsOutside (allowPrivate : Bool) (attempt hop : Nat) (host : String) : Prop :=
  match net.literal (bareHost host) with
  | some ip => hop = 0 ∧ bareHost host = host ∨ internal allowPrivate ip = false
  | none => ∀ ip ∈ client.dial attempt hop (client.resolve attempt hop (bareHost host)),
    internal allowPrivate ip = false

def RouteOutside (allowPrivate : Bool) (attempt : Nat) (raw : String) : Prop :=
  ∀ hop url host, (client.route lib attempt raw)[hop]? = some url → lib.hostStr url = some host →
    LeadsOutside net client allowPrivate attempt hop host

end

section

variable {U E : Type} {lib : UrlLib U} {net : Net U} {client : Client U} {codec : Envelopes E}

-- What a registration has judged of a numeric host.
theorem validated_literal {registered : Nat} {raw host : String} {allowPrivate : Bool} {url : U} {ip : IpAddr}
    (accepted : validateWebhookUrl lib net registered raw allowPrivate = .ok ()) (parsed : lib.parse raw = some url)
    (named : lib.hostStr url = some host) (numeric : net.literal host = some ip) :
    internal allowPrivate ip = false := by
  cases allowPrivate with
  | true => rfl
  | false =>
    simp only [validateWebhookUrl, parsed, named, numeric] at accepted
    simp only [internal, Bool.not_false, Bool.true_and]
    by_contra private_
    simp only [Bool.not_eq_false] at private_
    rw [private_] at accepted
    split at accepted
    next => cases accepted
    next =>
      rw [if_neg Bool.false_ne_true] at accepted
      split at accepted
      next => cases accepted
      next => cases accepted

theorem route_head {attempt : Nat} {raw : String} {url : U} (first : (client.route lib attempt raw)[0]? = some url) :
    lib.parse raw = some url := by
  unfold Client.route at first
  cases parsed : lib.parse raw with
  | none =>
    rw [parsed] at first
    cases first
  | some own =>
    rw [parsed] at first
    exact congrArg some (Option.some.inj first)

-- One hop: what it dials is outside exactly if its host leads outside.
theorem dialed_outside {registered attempt hop : Nat} {raw host : String} {allowPrivate : Bool} {url : U}
    (accepted : validateWebhookUrl lib net registered raw allowPrivate = .ok ())
    (visited : (client.route lib attempt raw)[hop]? = some url) (named : lib.hostStr url = some host) :
    (∀ ip ∈ client.dialed net attempt hop host, internal allowPrivate ip = false) ↔
      LeadsOutside net client allowPrivate attempt hop host := by
  unfold Client.dialed LeadsOutside
  cases numeric : net.literal (bareHost host) with
  | none => exact Iff.rfl
  | some ip =>
    simp only [List.mem_singleton, forall_eq]
    constructor
    · exact Or.inr
    · rintro (⟨rfl, plain⟩ | outside)
      · rw [plain] at numeric
        exact validated_literal accepted (route_head visited) named numeric
      · exact outside

theorem mem_hops {attempt : Nat} {hubPubkeyHex : String} {webhook : OutgoingWebhook} {timestamp : UInt64} {envelope : E}
    {post : Post} (signed : signedPost codec hubPubkeyHex webhook timestamp envelope = .ok post) {ips : List IpAddr} :
    ips ∈ (attemptDelivery lib net client codec attempt hubPubkeyHex webhook timestamp envelope).hops ↔
      ∃ hop url, (client.route lib attempt webhook.url)[hop]? = some url ∧
        ((lib.hostStr url).map (client.dialed net attempt hop)).getD [] = ips := by
  have target : post.url = webhook.url := by
    unfold signedPost at signed
    split at signed
    next => cases signed
    next body _ =>
      cases signature : signBody codec webhook.signingKey
          (Wire.webhookDeliverySigningBytes timestamp (Wire.strBytes body)) with
      | error e =>
        rw [signature] at signed
        cases signed
      | ok text =>
        rw [signature] at signed
        cases signed
        rfl
  rw [attemptDelivery, signed]
  simp only [target, List.mem_iff_getElem?, List.getElem?_mapIdx, Option.map_eq_some_iff]

end

/--
An attempt stays outside exactly if nothing is sent at all, or every name that it meets leads outside
when it is looked up for it and every numeric host but the registered one is outside itself.
-/
theorem delivery_outside_iff {U E : Type} {lib : UrlLib U} {net : Net U} (client : Client U) (codec : Envelopes E)
    {registered : Nat} {raw : String} {allowPrivate : Bool}
    (accepted : validateWebhookUrl lib net registered raw allowPrivate = .ok ()) (attempt : Nat)
    (hubPubkeyHex id signingKey : String) (timestamp : UInt64) (envelope : E) :
    (∀ hop ∈ (attemptDelivery lib net client codec attempt hubPubkeyHex ⟨id, raw, signingKey⟩ timestamp envelope).hops,
        ∀ ip ∈ hop, internal allowPrivate ip = false) ↔
      ((signedPost codec hubPubkeyHex ⟨id, raw, signingKey⟩ timestamp envelope).isOk = true →
        RouteOutside lib net client allowPrivate attempt raw) := by
  cases signed : signedPost codec hubPubkeyHex ⟨id, raw, signingKey⟩ timestamp envelope with
  | error e =>
    rw [attemptDelivery, signed]
    simp [Except.isOk, Except.toBool]
  | ok post =>
    have sent : (Except.ok post : Except String Post).isOk = true := rfl
    rw [forall_prop_of_true sent]
    constructor
    · intro outside hop url host visited named
      rw [← dialed_outside accepted visited named]
      refine outside _ ((mem_hops signed).mpr ⟨hop, url, visited, ?_⟩)
      rw [named, Option.map_some, Option.getD_some]
    · intro route ips listed ip dialed
      obtain ⟨hop, url, visited, rfl⟩ := (mem_hops signed).mp listed
      cases named : lib.hostStr url with
      | none =>
        rw [named] at dialed
        cases dialed
      | some host =>
        rw [named] at dialed
        exact (dialed_outside accepted visited named).mpr (route hop url host visited named) ip dialed

def plainText : Envelopes String where
  toJson text := .ok text
  hmacSha256 key _ := .ok key
  hexError _ := "Odd number of digits"

def hookHost : UrlLib String where
  parse text := some text
  scheme _ := "https"
  hostStr _ := some "hook.example"
  portOrKnownDefault _ := some 443
  join _ target := some target

-- The name leads to `later` once the webhook is registered.
def laterAt (later : IpAddr) : Client String where
  redirects _ _ := []
  resolve _ _ _ := [later]
  dial _ _ := id
  unparsed _ := "builder error"
  answer _ := .ok (200, "200 OK")

theorem delivery_outside_iff_hook :
    (∀ hop ∈ (attemptDelivery hookHost oneServer (laterAt pageServer.ip) plainText 0 "hub"
        ⟨"w", "https://hook.example/", "00"⟩ 1700000000 "{}").hops, ∀ ip ∈ hop, internal false ip = false) ↔
      ((signedPost plainText "hub" ⟨"w", "https://hook.example/", "00"⟩ 1700000000 "{}").isOk = true →
        RouteOutside hookHost oneServer (laterAt pageServer.ip) false 0 "https://hook.example/") :=
  delivery_outside_iff (laterAt pageServer.ip) plainText
    (show validateWebhookUrl hookHost oneServer 0 "https://hook.example/" false = .ok () by decide) 0 "hub" "w" "00"
    1700000000 "{}"

-- The name moves to 127.0.0.1 after the registration.
theorem hook_rebound :
    ¬ ∀ (lib : UrlLib String) (net : Net String) (client : Client String) (codec : Envelopes String) (raw : String),
      validateWebhookUrl lib net 0 raw false = .ok () →
      ∀ hop ∈ (attemptDelivery lib net client codec 1 "hub" ⟨"w", raw, "00"⟩ 1700000000 "{}").hops,
        ∀ ip ∈ hop, isPrivateIp ip = false := by
  intro outside
  have reached := outside hookHost oneServer (laterAt (.v4 ⟨(127, 0, 0, 1)⟩)) plainText "https://hook.example/"
    (by decide) [.v4 ⟨(127, 0, 0, 1)⟩] (by decide) (.v4 ⟨(127, 0, 0, 1)⟩) (by decide)
  exact absurd reached (by decide)

end Wavvon.Outbound
