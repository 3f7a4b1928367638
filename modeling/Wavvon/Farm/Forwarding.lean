import Wavvon.Farm.Proxy
import Wavvon.Farm.SlugSpace

set_option autoImplicit false

namespace Wavvon.Farm

open Http
open Offsets (toLower_cases utf8Size_ascii)

-- /rest?query, byte for byte.
def IncomingRequest.ownTarget (req : IncomingRequest) : Bytes := 47 :: req.rest ++ queryText req.query

def expectedValues (req : IncomingRequest) (located : Located) (name : Bytes) : List Bytes :=
  if name = hostName then [Wire.strBytes located.node.authority]
  else if name = forwardedFor then [localAddress]
  else if name = hubSerial then [Wire.strBytes located.serial]
  else valuesOf name req.headers

/-- Either way a request leaves by, it is the one that came in. -/
structure Forwards (lib : ProxyLib) (req : IncomingRequest) (located : Located) : Prop where
  buffered : ∃ sent, proxyBuffered lib req located = .ok sent ∧ sent.target = req.ownTarget
  bridged : ∃ head, soleRequest (bridgeUpgrade req located) = some head ∧ head.target = req.ownTarget ∧
    ∀ name, valuesOf name head.fields = expectedValues req located name

def Relayed (lib : ProxyLib) (db : FarmDb) (req : IncomingRequest) : Prop :=
  ∃ located, locate db req = .ok located ∧ Forwards lib req located

-- In a URL these stand for the segment itself and the one before it.
def dotSegment (segment : Bytes) : Bool :=
  ([".", "..", "%2e", ".%2e", "%2e.", "%2e%2e"].map Wire.strBytes).contains (segment.map toLower)

def beforeQuery (target : Bytes) : Bytes := target.takeWhile fun b => decide (b ≠ 63)

def afterPath (target : Bytes) : Bytes := (target.dropWhile fun b => decide (b ≠ 63)).drop 1

/-- A path and query in the form that a URL library gives to them. -/
structure Settled (lib : ProxyLib) (target : Bytes) : Prop where
  rooted : target.head? = some 47
  segments : ∀ segment ∈ (beforeQuery target).splitOn 47, dotSegment segment = false
  path : ∀ b ∈ beforeQuery target, lib.staysInPath b = true
  query : ∀ b ∈ afterPath target, lib.staysInQuery b = true

instance (lib : ProxyLib) (target : Bytes) : Decidable (Settled lib target) :=
  decidable_of_iff (target.head? = some 47 ∧ (∀ segment ∈ (beforeQuery target).splitOn 47, dotSegment segment = false) ∧
      (beforeQuery target).all lib.staysInPath = true ∧ (afterPath target).all lib.staysInQuery = true)
    ⟨fun ⟨rooted, segments, path, query⟩ => ⟨rooted, segments, List.all_eq_true.mp path, List.all_eq_true.mp query⟩,
      fun settled => ⟨settled.rooted, settled.segments, List.all_eq_true.mpr settled.path,
        List.all_eq_true.mpr settled.query⟩⟩

/-- URLs are settled when they are read, and a settled one is left as it is. -/
structure Documented (lib : ProxyLib) (node : NodeTarget) : Prop where
  settled : ∀ text target, lib.requestTarget (upstreamPrefix lib node ++ text) = some target → Settled lib target
  kept : ∀ text, Settled lib text → lib.requestTarget (upstreamPrefix lib node ++ text) = some text

/-- What the HTTP server lets through. -/
structure Received (req : IncomingRequest) : Prop where
  method : ∀ b ∈ req.method, tokenByte b = true
  rest : ∀ b ∈ req.rest, targetByte b = true
  query : ∀ query ∈ req.query, ∀ b ∈ query, targetByte b = true
  text : ByteArray.IsValidUTF8 ⟨req.rest.toArray⟩
  headers : ∀ field ∈ req.headers, FieldFits field
  body : req.body.length ≤ MAX_BODY

-- Only what `claim_slug` has normalized is stored.
def NormalizedSlugs (db : FarmDb) : Prop := ∀ slug ∈ db.hubSlugs, ∃ raw, normalize raw = .ok slug

def nodeOf (hub : ResolvedHub) (port : Nat) : NodeTarget :=
  { host := hub.host, port := port, tlsMode := hub.tlsMode, certSha256 := hub.certSha256 }

def locatedAt (req : IncomingRequest) (serial : String) (hub : ResolvedHub) (port : Nat) (path : String) : Located :=
  { serial := serial, node := nodeOf hub port, upstreamPathAndQuery := upstreamPath (Wire.strBytes path) ++ queryText req.query }

/-- The segment is the address of a running hub, on a node whose name is one that can be dialed. -/
structure Reached (db : FarmDb) (req : IncomingRequest) (serial : String) (hub : ResolvedHub) (port : Nat) : Prop where
  segment : pathParam req.segment = some serial
  resolved : resolveHub db serial = some hub
  awake : hub.suspendedAt = none
  running : runningPort hub.processPort = some port
  dialed : ∀ b ∈ Wire.strBytes (nodeOf hub port).authority, 32 < b ∧ b < 127

def rewritten : List Bytes := [hostName, forwardedFor, hubSerial]

/-- There is nothing in the request that the proxy turns into something else or leaves out. -/
structure Unaltered (lib : ProxyLib) (req : IncomingRequest) : Prop where
  literal : hasEscape req.rest = false
  relative : req.rest.head? ≠ some 47
  settled : Settled lib req.ownTarget
  visible : ∀ field ∈ req.headers, field.1 ∉ rewritten → field.2.all visibleByte = true
  bodiless : announcesBody req.headers = false

section

variable {lib : ProxyLib} {db : FarmDb} {req : IncomingRequest} {serial : String} {hub : ResolvedHub} {port : Nat}

theorem pathParam_bytes {raw : Bytes} {text : String} (decoded : pathParam raw = some text) :
    Wire.strBytes text = percentDecode raw := by
  rw [pathParam, String.fromUTF8?] at decoded
  split at decoded
  next valid =>
    cases decoded
    rfl
  next => cases decoded

theorem pathParam_literal (received : Received req) (literal : hasEscape req.rest = false) :
    ∃ path, pathParam req.rest = some path ∧ Wire.strBytes path = req.rest := by
  have decoded := percentDecode_literal req.rest literal
  have valid : ByteArray.IsValidUTF8 ⟨(percentDecode req.rest).toArray⟩ := by
    rw [decoded]
    exact received.text
  have found : pathParam req.rest = some (String.fromUTF8 ⟨(percentDecode req.rest).toArray⟩ valid) := by
    rw [pathParam, String.fromUTF8?, dif_pos valid]
  exact ⟨_, found, (pathParam_bytes found).trans decoded⟩

theorem locate_some (reached : Reached db req serial hub port) {path : String}
    (decoded : pathParam req.rest = some path) :
    locate db req = .ok (locatedAt req serial hub port path) := by
  rw [locate, reached.segment, decoded]
  dsimp only
  rw [reached.resolved]
  dsimp only
  rw [if_neg (not_not.mpr reached.awake), reached.running]
  rfl

theorem locate_ok (reached : Reached db req serial hub port) {located : Located} (ok : locate db req = .ok located) :
    ∃ path, pathParam req.rest = some path ∧ located = locatedAt req serial hub port path := by
  cases decoded : pathParam req.rest with
  | none =>
    rw [locate, reached.segment, decoded] at ok
    cases ok
  | some path =>
    rw [locate_some reached decoded] at ok
    cases ok
    exact ⟨path, rfl, rfl⟩

-- What is stripped of an escape or of a slash is missing from the target.
theorem unaltered_of_length {path : String} (decoded : Wire.strBytes path = percentDecode req.rest)
    (long : req.ownTarget.length ≤ (upstreamPath (Wire.strBytes path) ++ queryText req.query).length) :
    hasEscape req.rest = false ∧ req.rest.head? ≠ some 47 := by
  have within : req.rest.length + 1 ≤ (upstreamPath (percentDecode req.rest)).length := by
    rw [decoded] at long
    simp only [IncomingRequest.ownTarget, List.cons_append, List.length_cons, List.length_append] at long
    omega
  have literal : hasEscape req.rest = false := by
    by_contra escaped
    have shrunk := percentDecode_length_lt req.rest (Bool.of_not_eq_false escaped)
    have bound : (upstreamPath (percentDecode req.rest)).length ≤ (percentDecode req.rest).length + 1 := by
      unfold upstreamPath
      split
      · exact Nat.le_add_left _ _
      · split
        · exact Nat.le_succ _
        · exact Nat.le_refl _
    omega
  refine ⟨literal, fun rooted => ?_⟩
  rw [percentDecode_literal _ literal, upstreamPath, if_neg (by rintro none; rw [none] at rooted; cases rooted),
    if_pos rooted] at within
  omega

theorem upstreamPath_own {path : String} (decoded : Wire.strBytes path = req.rest)
    (relative : req.rest.head? ≠ some 47) :
    upstreamPath (Wire.strBytes path) ++ queryText req.query = req.ownTarget := by
  rw [decoded, upstreamPath, IncomingRequest.ownTarget]
  by_cases none : req.rest = []
  · rw [if_pos none, none]
  · rw [if_neg none, if_neg relative]

def Printable (bytes : Bytes) : Prop := ∀ b ∈ bytes, 32 < b ∧ b < 127

instance (bytes : Bytes) : Decidable (Printable bytes) := inferInstanceAs (Decidable (∀ b ∈ bytes, 32 < b ∧ b < 127))

theorem printable_strBytes {text : String} (plain : ∀ c ∈ text.toList, 32 < c.toNat ∧ c.toNat < 127) :
    Printable (Wire.strBytes text) := by
  rw [← String.ofList_toList (s := text), Wire.strBytes_ofList]
  intro b member
  obtain ⟨c, listed, encoded⟩ := List.mem_flatMap.mp member
  obtain ⟨above, below⟩ := plain c listed
  have code : c.val.toNat = c.toNat := rfl
  have short : c.utf8Size = 1 := utf8Size_ascii (below.trans (by decide))
  rw [String.utf8EncodeChar_eq_singleton short, List.mem_singleton] at encoded
  have value : b.toNat = c.toNat := by
    rw [encoded, UInt32.toNat_toUInt8, code]
    exact Nat.mod_eq_of_lt (by omega)
  exact ⟨UInt8.lt_iff_toNat_lt.mpr (by rw [value]; exact above), UInt8.lt_iff_toNat_lt.mpr (by rw [value]; exact below)⟩

-- Whatever resolves is made of characters that a header can carry.
theorem resolved_plain (slugs : NormalizedSlugs db) (resolved : resolveHub db serial = some hub) :
    Printable (Wire.strBytes serial) := by
  refine printable_strBytes ?_
  unfold resolveHub at resolved
  split at resolved
  next key =>
    obtain ⟨-, digits⟩ := Bool.and_eq_true_iff.mp key
    exact fun c listed => hexDigit_plain (List.all_eq_true.mp digits c listed)
  next =>
    obtain ⟨row, found, -⟩ := Option.map_eq_some_iff.mp resolved
    obtain ⟨slug, live, -⟩ := Option.bind_eq_some_iff.mp found
    have stored : db.hubSlugs[toAsciiLowercase serial]? = some slug := (Option.filter_eq_some_iff.mp live).1
    obtain ⟨raw, normal⟩ := slugs _ (Std.ExtTreeMap.mem_iff_isSome_getElem?.mpr (by rw [stored]; rfl))
    intro c listed
    have lowered : c.toLower ∈ (toAsciiLowercase serial).toList := by
      rw [toAsciiLowercase, String.toList_ofList]
      exact List.mem_map_of_mem listed
    have plain := normalize_plain normal _ lowered
    rcases toLower_cases c with ⟨low, high, -⟩ | same
    · omega
    · rwa [same] at plain

theorem printable_fits {bytes : Bytes} (plain : Printable bytes) :
    (∀ b ∈ bytes, valueByte b = true) ∧ (∀ b ∈ bytes, visibleByte b = true) ∧ trimBlanks bytes = bytes := by
  refine ⟨fun b listed => ?_, fun b listed => ?_, trimBlanks_free fun b listed => ?_⟩
  all_goals obtain ⟨above, below⟩ := plain b listed
  · exact decide_eq_true (.inr ⟨UInt8.le_of_lt above, UInt8.ne_of_lt below⟩)
  · exact decide_eq_true (.inr ⟨UInt8.le_of_lt above, below⟩)
  · refine decide_eq_false ?_
    rintro (rfl | rfl)
    · exact absurd above (by decide)
    · exact absurd above (by decide)

set_option maxRecDepth 4000 in
theorem named_fits {name value : Bytes} (known : name ∈ [hostName, forwardedFor, hubSerial]) (plain : Printable value) :
    FieldFits (name, value) := by
  have names : ∀ name ∈ [hostName, forwardedFor, hubSerial],
      name ≠ [] ∧ (∀ b ∈ name, tokenByte b = true) ∧ name.map toLower = name := by decide
  obtain ⟨named, token, lower⟩ := names name known
  obtain ⟨values, -, trimmed⟩ := printable_fits plain
  exact ⟨named, token, lower, values, trimmed⟩

theorem headerInsert_fits {name value : Bytes} {headers : List Field} (fits : FieldFits (name, value))
    (others : ∀ field ∈ headers, FieldFits field) : ∀ field ∈ headerInsert name value headers, FieldFits field := by
  induction headers with
  | nil => exact List.forall_mem_singleton.mpr fits
  | cons field rest ih =>
    obtain ⟨first, later⟩ := List.forall_mem_cons.mp others
    unfold headerInsert
    split
    next =>
      exact List.forall_mem_cons.mpr ⟨fits, fun other listed => later other (List.mem_of_mem_filter listed)⟩
    next => exact List.forall_mem_cons.mpr ⟨first, ih later⟩

def sentField (field : Field) : Bool := decide (field.1 ≠ hostName) && field.2.all visibleByte

-- What of the headers is written, and the host line at the end.
def sentFields (headers : List Field) (authority : Bytes) : List Field :=
  headers.filter sentField ++ [(hostName, authority)]

def sentHead (req : IncomingRequest) (located : Located) : Head where
  method := req.method
  target := located.upstreamPathAndQuery
  fields := sentFields (proxyHeaders req.headers located.serial) (Wire.strBytes located.node.authority)

theorem headerLines_eq (headers : List Field) :
    headers.flatMap headerLine = (headers.filter sentField).flatMap renderField := by
  have colon : Wire.strBytes ": " = [58, 32] := by decide
  have lineEnd : Wire.strBytes "\r\n" = crlf := by decide
  induction headers with
  | nil => rfl
  | cons field rest ih =>
    rw [List.flatMap_cons, ih, headerLine]
    by_cases host : field.1 = hostName
    · rw [if_pos host, List.filter_cons_of_neg (by simp [sentField, host]), List.nil_append]
    · by_cases shown : field.2.all visibleByte = true
      · rw [if_neg host, if_pos shown, List.filter_cons_of_pos (by simp [sentField, host, shown]), List.flatMap_cons,
          renderField, colon, lineEnd]
      · rw [if_neg host, if_neg shown, List.filter_cons_of_neg (by simp [sentField, shown]), List.nil_append]

theorem bridgeUpgrade_eq (req : IncomingRequest) (located : Located) :
    bridgeUpgrade req located = renderHead (sentHead req located) := by
  have blank : Wire.strBytes " " = [32] := by decide
  have version : Wire.strBytes " HTTP/1.1\r\n" = [32] ++ httpVersion ++ crlf := by decide
  have host : Wire.strBytes "host: " = hostName ++ [58, 32] := by decide
  have ending : Wire.strBytes "\r\n\r\n" = crlf ++ crlf := by decide
  rw [bridgeUpgrade, blank, version, host, ending, headerLines_eq]
  simp [renderHead, sentHead, sentFields, renderField]

theorem valuesOf_sent (headers : List Field) (authority name : Bytes) :
    valuesOf name (sentFields headers authority) =
      if name = hostName then [authority] else (valuesOf name headers).filter fun value => value.all visibleByte := by
  unfold sentFields
  induction headers with
  | nil =>
    rw [List.filter_nil, List.nil_append, valuesOf_cons]
    by_cases host : name = hostName
    · rw [if_pos host, if_pos host.symm]
      rfl
    · rw [if_neg host, if_neg (Ne.symm host)]
      rfl
  | cons field rest ih =>
    by_cases kept : sentField field = true
    · obtain ⟨other, shown⟩ := Bool.and_eq_true_iff.mp kept
      rw [List.filter_cons_of_pos kept, List.cons_append, valuesOf_cons, ih, valuesOf_cons]
      by_cases host : name = hostName
      · rw [if_pos host, if_pos host, if_neg (fun same => of_decide_eq_true other (same.trans host)), List.nil_append]
      · rw [if_neg host, if_neg host, List.filter_append]
        by_cases same : field.1 = name
        · simp [same, shown]
        · rw [if_neg same]
          rfl
    · rw [List.filter_cons_of_neg kept, ih, valuesOf_cons]
      by_cases host : name = hostName
      · rw [if_pos host, if_pos host]
      · rw [if_neg host, if_neg host, List.filter_append]
        by_cases same : field.1 = name
        · have hidden : ¬ field.2.all visibleByte = true := fun shown =>
            kept (Bool.and_eq_true_iff.mpr ⟨decide_eq_true fun at' => host (same.symm.trans at'), shown⟩)
          simp [same, hidden]
        · rw [if_neg same]
          rfl

theorem valuesOf_proxyHeaders (plain : Printable (Wire.strBytes serial)) (headers : List Field) (name : Bytes) :
    valuesOf name (proxyHeaders headers serial) =
      if name = hubSerial then [Wire.strBytes serial] else if name = forwardedFor then [localAddress] else valuesOf name headers := by
  have carried : (Wire.strBytes serial).all valueByte = true := List.all_eq_true.mpr (printable_fits plain).1
  rw [proxyHeaders, if_pos carried, valuesOf_headerInsert, valuesOf_headerInsert]

set_option maxRecDepth 4000 in
theorem proxyHeaders_fits (received : Received req) (plain : Printable (Wire.strBytes serial)) :
    ∀ field ∈ proxyHeaders req.headers serial, FieldFits field := by
  have address : Printable localAddress := by decide
  have first := headerInsert_fits (named_fits (by simp) address : FieldFits (forwardedFor,
    localAddress)) received.headers
  rw [proxyHeaders]
  split
  next => exact headerInsert_fits (named_fits (by simp) plain) first
  next => exact first

theorem ownTarget_fits (received : Received req) : ∀ b ∈ req.ownTarget, targetByte b = true := by
  intro b listed
  rcases List.mem_append.mp listed with path | query
  · rcases List.mem_cons.mp path with rfl | later
    · decide
    · exact received.rest b later
  · cases asked : req.query with
    | none =>
      rw [asked] at query
      exact absurd query List.not_mem_nil
    | some text =>
      rw [asked] at query
      rcases List.mem_cons.mp query with rfl | later
      · decide
      · exact received.query text asked b later

theorem sentHead_fits (received : Received req) {located : Located} (plain : Printable (Wire.strBytes located.serial))
    (dialed : Printable (Wire.strBytes located.node.authority)) (own : located.upstreamPathAndQuery = req.ownTarget) :
    HeadFits (sentHead req located) where
  method := received.method
  target := by
    rw [sentHead, own]
    exact ownTarget_fits received
  fields := by
    intro field listed
    rcases List.mem_append.mp listed with kept | host
    · exact proxyHeaders_fits received plain field (List.mem_of_mem_filter kept)
    · rw [List.mem_singleton] at host
      rw [host]
      exact named_fits (by simp) dialed

-- The hub reads the values it should exactly when none of the client's is left out.
theorem sent_expected {located : Located} (plain : Printable (Wire.strBytes located.serial)) :
    (∀ name, valuesOf name (sentHead req located).fields = expectedValues req located name) ↔
      ∀ field ∈ req.headers, field.1 ∉ rewritten → field.2.all visibleByte = true := by
  have others : ∀ name, name ∉ rewritten → ¬ name = hostName ∧ ¬ name = forwardedFor ∧ ¬ name = hubSerial := by
    intro name unwritten
    simpa [rewritten] using unwritten
  constructor
  · intro expected field listed unwritten
    obtain ⟨notHost, notFor, notSerial⟩ := others field.1 unwritten
    have kept := expected field.1
    rw [sentHead, valuesOf_sent, valuesOf_proxyHeaders plain, expectedValues, if_neg notHost, if_neg notHost,
      if_neg notSerial,
      if_neg notSerial, if_neg notFor, List.filter_eq_self] at kept
    exact kept field.2 (List.mem_map.mpr ⟨field, List.mem_filter.mpr ⟨listed, decide_eq_true rfl⟩, rfl⟩)
  · intro visible name
    rw [sentHead, valuesOf_sent, valuesOf_proxyHeaders plain, expectedValues]
    by_cases host : name = hostName
    · rw [if_pos host, if_pos host]
    rw [if_neg host, if_neg host]
    have address : localAddress.all visibleByte = true := by decide
    have serial : (Wire.strBytes located.serial).all visibleByte = true := List.all_eq_true.mpr (printable_fits plain).2.1
    by_cases isFor : name = forwardedFor
    · have apart : ¬ name = hubSerial := by
        rw [isFor]
        decide
      rw [if_neg apart, if_pos isFor, if_pos isFor]
      simp [address]
    by_cases isSerial : name = hubSerial
    · rw [if_pos isSerial, if_neg isFor, if_pos isSerial]
      simp only [List.filter_cons, serial, if_true, List.filter_nil]
    · rw [if_neg isSerial, if_neg isFor, if_neg isFor, if_neg isSerial, List.filter_eq_self]
      intro value listed
      obtain ⟨field, member, rfl⟩ := List.mem_map.mp listed
      obtain ⟨present, same⟩ := List.mem_filter.mp member
      have own : field.1 = name := of_decide_eq_true same
      refine visible field present ?_
      rw [own]
      simp [rewritten, host, isFor, isSerial]

theorem announces_sent {located : Located}
    (expected : ∀ name, valuesOf name (sentHead req located).fields = expectedValues req located name) :
    announcesBody (sentHead req located).fields = announcesBody req.headers := by
  refine announcesBody_congr fun name framing => ?_
  have apart : ¬ name = hostName ∧ ¬ name = forwardedFor ∧ ¬ name = hubSerial := by
    rcases framing with rfl | rfl
    · decide
    · decide
  rw [expected name, expectedValues, if_neg apart.1, if_neg apart.2.1, if_neg apart.2.2]

/-- A request gets through as it came exactly if the proxy finds nothing to decode, settle or leave out. -/
theorem relayed_iff (documented : Documented lib (nodeOf hub port)) (received : Received req)
    (reached : Reached db req serial hub port) (slugs : NormalizedSlugs db) :
    Relayed lib db req ↔ Unaltered lib req := by
  have plain : Printable (Wire.strBytes serial) := resolved_plain slugs reached.resolved
  constructor
  · rintro ⟨located, ok, ⟨sent, buffered, sentTarget⟩, head, sole, target, expected⟩
    obtain ⟨path, decoded, rfl⟩ := locate_ok reached ok
    have bytes := pathParam_bytes decoded
    have long : req.ownTarget.length ≤ (upstreamPath (Wire.strBytes path) ++ queryText req.query).length := by
      have written : bridgeUpgrade req (locatedAt req serial hub port path) =
          req.method ++ 32 :: ((upstreamPath (Wire.strBytes path) ++ queryText req.query) ++ 32 :: (httpVersion ++ crlf ++
            ((sentHead req (locatedAt req serial hub port path)).fields.flatMap renderField ++ crlf))) := by
        rw [bridgeUpgrade_eq]
        simp [renderHead, sentHead, locatedAt]
      rw [← target]
      exact target_length_le (soleRequest_parsed sole) written (not_mem_of_all received.method (by decide))
    obtain ⟨literal, relative⟩ := unaltered_of_length bytes long
    have own : (locatedAt req serial hub port path).upstreamPathAndQuery = req.ownTarget :=
      upstreamPath_own (bytes.trans (percentDecode_literal _ literal)) relative
    have settled : Settled lib req.ownTarget := by
      rw [proxyBuffered, if_neg (Nat.not_lt.mpr received.body)] at buffered
      split at buffered
      next => cases buffered
      next asked found =>
        cases buffered
        exact sentTarget ▸ documented.settled _ _ found
    have shown : Printable (Wire.strBytes (locatedAt req serial hub port path).serial) := plain
    have fits := sentHead_fits received shown reached.dialed own
    rw [bridgeUpgrade_eq, soleRequest_render fits] at sole
    simp only [Option.ite_none_left_eq_some, Option.some.injEq] at sole
    obtain ⟨bodiless, rfl⟩ := sole
    refine ⟨literal, relative, settled, (sent_expected plain).mp expected, ?_⟩
    rw [← announces_sent expected]
    exact Bool.eq_false_iff.mpr bodiless
  · rintro ⟨literal, relative, settled, visible, bodiless⟩
    obtain ⟨path, decoded, bytes⟩ := pathParam_literal received literal
    have own : (locatedAt req serial hub port path).upstreamPathAndQuery = req.ownTarget := upstreamPath_own bytes relative
    have shown : Printable (Wire.strBytes (locatedAt req serial hub port path).serial) := plain
    have expected := (sent_expected shown).mpr visible
    refine ⟨_, locate_some reached decoded, ?_, sentHead req (locatedAt req serial hub port path), ?_, own, expected⟩
    · have asked : lib.requestTarget (upstreamPrefix lib (locatedAt req serial hub port path).node ++ req.ownTarget) =
          some req.ownTarget := documented.kept _ settled
      rw [proxyBuffered, if_neg (Nat.not_lt.mpr received.body), own, asked]
      exact ⟨_, rfl, rfl⟩
    · have fits := sentHead_fits received shown reached.dialed own
      rw [bridgeUpgrade_eq, soleRequest_render fits, announces_sent expected, bodiless]
      rfl

end

-- The one hub of the farm runs beside it, under the name tavern.
def tavernFarm : FarmDb where
  hubs := (∅ : Table HubRow).insert "h1" { ownerPubkey := "ann", name := "Tavern", processPort := some 3001 }
  hubSlugs := (∅ : Table SlugRow).insert "tavern" { displaySlug := "Tavern", hubId := "h1", isCanonical := true, createdAt := 0 }

theorem tavernFarm_slugs : NormalizedSlugs tavernFarm := by
  intro slug stored
  have named : "tavern" = slug := by
    simpa [tavernFarm, Std.ExtTreeMap.mem_insert] using stored
  rw [← named]
  exact ⟨"tavern", by decide⟩

def tavernHub : ResolvedHub :=
  { suspendedAt := none, processPort := some 3001, host := none, tlsMode := "ca", certSha256 := none }

def urlSets : ProxyLib where
  isLoopback host := decide (host = "127.0.0.1")
  requestTarget _ := none
  staysInPath b := decide (33 ≤ b ∧ b ≤ 126 ∧ b ∉ [34, 35, 60, 62, 63, 92, 96, 123, 125])
  staysInQuery b := decide (33 ≤ b ∧ b ≤ 126 ∧ b ∉ [34, 35, 39, 60, 62])

-- Settled text is left alone; of any other it is enough here that it does not stay.
def urls : ProxyLib where
  isLoopback := urlSets.isLoopback
  requestTarget url :=
    let text := url.drop (upstreamPrefix urlSets (nodeOf tavernHub 3001)).length
    some (if Settled urlSets text then text else [47])
  staysInPath := urlSets.staysInPath
  staysInQuery := urlSets.staysInQuery

theorem urls_settled {text : Bytes} : Settled urls text ↔ Settled urlSets text :=
  ⟨fun ⟨rooted, segments, path, query⟩ => ⟨rooted, segments, path, query⟩,
    fun ⟨rooted, segments, path, query⟩ => ⟨rooted, segments, path, query⟩⟩

set_option maxRecDepth 4000 in
theorem urls_documented : Documented urls (nodeOf tavernHub 3001) := by
  have asked : ∀ text, urls.requestTarget (upstreamPrefix urls (nodeOf tavernHub 3001) ++ text) =
      some (if Settled urlSets text then text else [47]) := by
    intro text
    have rest : (upstreamPrefix urls (nodeOf tavernHub 3001) ++ text).drop
        (upstreamPrefix urlSets (nodeOf tavernHub 3001)).length = text := List.drop_left
    change some (if Settled urlSets ((upstreamPrefix urls (nodeOf tavernHub 3001) ++ text).drop
      (upstreamPrefix urlSets (nodeOf tavernHub 3001)).length) then _ else [47]) = _
    rw [rest]
  constructor
  · intro text target found
    rw [asked, Option.some.injEq] at found
    by_cases settled : Settled urlSets text
    · rw [if_pos settled] at found
      exact urls_settled.mpr (found ▸ settled)
    · rw [if_neg settled] at found
      rw [← found]
      exact urls_settled.mpr (by decide)
  · intro text settled
    rw [asked, if_pos (urls_settled.mp settled)]

theorem pathParam_of_bytes {raw : Bytes} {text : String} (bytes : percentDecode raw = Wire.strBytes text) :
    pathParam raw = some text := by
  have array : (⟨(percentDecode raw).toArray⟩ : ByteArray) = text.toByteArray := by
    rw [bytes]
    rfl
  rw [pathParam, array, String.fromUTF8?, dif_pos text.isValidUTF8]
  rfl

def askInfo : IncomingRequest where
  method := Wire.strBytes "GET"
  segment := Wire.strBytes "Tavern"
  rest := Wire.strBytes "v1/info"
  query := some (Wire.strBytes "full=1")
  headers := [(Wire.strBytes "accept", Wire.strBytes "application/json")]

set_option maxRecDepth 4000 in
theorem askInfo_received : Received askInfo where
  method := by decide
  rest := by decide
  query := by
    intro query asked
    cases asked
    decide
  text := "v1/info".isValidUTF8
  headers := List.forall_mem_singleton.mpr
    { named := by decide
      name := by decide
      lower := by decide
      value := by decide
      trimmed := by decide }
  body := Nat.zero_le _

set_option maxRecDepth 4000 in
theorem askInfo_reached : Reached tavernFarm askInfo "Tavern" tavernHub 3001 where
  segment := pathParam_of_bytes (by decide)
  resolved := by decide
  awake := rfl
  running := by decide
  dialed := by decide

theorem relayed_iff_askInfo : Relayed urls tavernFarm askInfo ↔ Unaltered urls askInfo :=
  relayed_iff urls_documented askInfo_received askInfo_reached tavernFarm_slugs

-- The decoded rest ends the request line and goes on with a header of its own.
def smuggled : IncomingRequest :=
  { askInfo with
    rest := Wire.strBytes "info%20HTTP/1.1%0D%0Ax-admitted:%20yes%0D%0Ax-rest:"
    query := none }

set_option maxRecDepth 4000 in
theorem smuggled_received : Received smuggled where
  method := askInfo_received.method
  rest := by decide
  query := by
    intro query asked
    cases asked
  text := "info%20HTTP/1.1%0D%0Ax-admitted:%20yes%0D%0Ax-rest:".isValidUTF8
  headers := askInfo_received.headers
  body := Nat.zero_le _

theorem smuggled_reached : Reached tavernFarm smuggled "Tavern" tavernHub 3001 where
  segment := askInfo_reached.segment
  resolved := askInfo_reached.resolved
  awake := rfl
  running := askInfo_reached.running
  dialed := askInfo_reached.dialed

theorem smuggled_relayed :
    ¬ ∀ (lib : ProxyLib) (db : FarmDb) (req : IncomingRequest) (serial : String) (hub : ResolvedHub) (port : Nat),
      Documented lib (nodeOf hub port) → Received req → Reached db req serial hub port → NormalizedSlugs db →
      Relayed lib db req := by
  intro always
  obtain ⟨located, ok, -, head, sole, target, -⟩ := always urls tavernFarm smuggled "Tavern" tavernHub 3001 urls_documented
    smuggled_received smuggled_reached tavernFarm_slugs
  have decoded : pathParam smuggled.rest = some "info HTTP/1.1\r\nx-admitted: yes\r\nx-rest:" :=
    pathParam_of_bytes (by decide)
  rw [locate_some smuggled_reached decoded] at ok
  cases ok
  have read : (soleRequest (bridgeUpgrade smuggled (locatedAt smuggled "Tavern" tavernHub 3001
      "info HTTP/1.1\r\nx-admitted: yes\r\nx-rest:"))).map (·.target) = some (Wire.strBytes "/info") := by decide +kernel
  rw [sole, Option.map_some, target] at read
  exact absurd read (by decide)

end Wavvon.Farm
