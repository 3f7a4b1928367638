import Wavvon.Hub.Database
import Wavvon.Shared.Offsets
import Wavvon.Shared.Patterns

set_option autoImplicit false

namespace Wavvon.Preview

open Offsets
open Offsets.Casing (Fits eq_of_fold fold fold_ascii map_fold_of_ascii prefix_toLower)
open Patterns (cut cut_eq_some encode_none forall_of_all replaceEach)
open String (utf8Len utf8Len_append)

-- `str::replace`
def replace (s pattern text : String) : String :=
  String.ofList (Patterns.replace pattern.toList text.toList s.toList)

def htmlDecode (s : String) : String :=
  let s := replace s "&amp;" "&"
  let s := replace s "&lt;" "<"
  let s := replace s "&gt;" ">"
  let s := replace s "&quot;" "\""
  let s := replace s "&#39;" "'"
  replace s "&apos;" "'"

def entity (c : Char) : Option (List Char) :=
  if c = '&' then some "&amp;".toList
  else if c = '<' then some "&lt;".toList
  else if c = '>' then some "&gt;".toList
  else if c = '"' then some "&quot;".toList
  else if c = '\'' then some "&#39;".toList
  else none

-- What a page does to text it shows: every character is encoded at once.
def escape (s : String) : String := String.ofList (Patterns.encode entity s.toList)

/-- The entities that a text may spell without being shown as written. -/
def spelled : List String := ["&lt;", "&gt;", "&quot;", "&#39;", "&apos;"]

def contains (s text : String) : Prop := text.toList <:+: s.toList

def passes : List (List Char × List Char) :=
  [("&lt;".toList, ['<']), ("&gt;".toList, ['>']), ("&quot;".toList, ['"']), ("&#39;".toList, ['\'']),
    ("&apos;".toList, ['\''])]

theorem entity_eq_some {c : Char} {e : List Char} (encoded : entity c = some e) :
    (c, e) ∈ [('&', "&amp;".toList), ('<', "&lt;".toList), ('>', "&gt;".toList), ('"', "&quot;".toList),
      ('\'', "&#39;".toList)] := by
  unfold entity at encoded
  split_ifs at encoded <;> simp_all

theorem entities : Patterns.Entities '&' entity := by
  constructor
  · intro c e encoded
    have among := entity_eq_some encoded
    simp only [List.mem_cons, Prod.mk.injEq, List.not_mem_nil, or_false] at among
    rcases among with ⟨rfl, rfl⟩ | ⟨rfl, rfl⟩ | ⟨rfl, rfl⟩ | ⟨rfl, rfl⟩ | ⟨rfl, rfl⟩
    all_goals exact ⟨_, rfl, by decide, forall_of_all (by decide)⟩
  · intro a b e f other first second
    have left := entity_eq_some first
    have right := entity_eq_some second
    simp only [List.mem_cons, Prod.mk.injEq, List.not_mem_nil, or_false] at left right
    rcases left with ⟨rfl, rfl⟩ | ⟨rfl, rfl⟩ | ⟨rfl, rfl⟩ | ⟨rfl, rfl⟩ | ⟨rfl, rfl⟩ <;>
      rcases right with ⟨rfl, rfl⟩ | ⟨rfl, rfl⟩ | ⟨rfl, rfl⟩ | ⟨rfl, rfl⟩ | ⟨rfl, rfl⟩ <;>
      first | exact absurd rfl other | decide

-- Each pass takes one entity out of the encoding, and with it what the text spells like that entity.
theorem htmlDecode_escape (s : String) : htmlDecode (escape s) = String.ofList (replaceEach passes s.toList) := by
  have first := entities.erase '&'
  have second := first.erase '<'
  have third := second.erase '>'
  have fourth := third.erase '"'
  have left : Function.update (Function.update (Function.update (Function.update (Function.update entity '&' none)
      '<' none) '>' none) '"' none) '\'' none = fun _ => none := by
    funext c
    simp only [Function.update_apply, entity]
    split_ifs <;> rfl
  simp only [htmlDecode, escape, replace, String.toList_ofList]
  congr 1
  rw [show "&".toList = ['&'] from rfl, show "<".toList = ['<'] from rfl, show ">".toList = ['>'] from rfl,
    show "\"".toList = ['"'] from rfl, show "'".toList = ['\''] from rfl, entities.replace_mark rfl,
    first.replace_encode rfl (k := '<') rfl, second.replace_encode rfl (k := '>') rfl,
    third.replace_encode rfl (k := '"') rfl, fourth.replace_encode rfl (k := '\'') rfl, left, encode_none]
  rfl

/-- Text comes back from its encoding as it was written, unless it spells an entity itself. -/
theorem htmlDecode_escape_iff (s : String) : htmlDecode (escape s) = s ↔ ∀ text ∈ spelled, ¬ contains s text := by
  rw [htmlDecode_escape, ← String.toList_inj, String.toList_ofList, Patterns.replaceEach_eq_self_iff passes (forall_of_all (by decide))]
  simp only [passes, spelled, contains, List.forall_mem_cons, List.not_mem_nil, false_implies, implies_true, and_true]

-- What is shown for the four characters of `&lt;` is the one it stands for.
theorem htmlDecode_twice : ¬ ∀ s, htmlDecode (escape s) = s := by
  intro always
  have once : htmlDecode (escape "&lt;") = "<" := by decide
  rw [always] at once
  exact absurd once (by decide)

-- A slice off the character boundaries panics, and `spent` is a loop that went on for too long.
inductive Fault where
  | panic
  | spent
  deriving DecidableEq, Repr

def orPanic {A : Type} : Option A → Except Fault A
  | some a => .ok a
  | none => .error .panic

@[simp] theorem orPanic_bind {A B : Type} (a : A) (next : A → Except Fault B) : orPanic (some a) >>= next = next a := rfl

structure Found where
  ogTitle : Option String := none
  ogDescription : Option String := none
  ogImage : Option String := none
  deriving DecidableEq, Repr

/-- Title, description and image of a page. -/
abbrev OgTags := Option String × Option String × Option String

def nonEmpty (text : String) : Option String := if text = "" then none else some text

-- A slice without the blanks around it, if there is more to it.
def trimmed (text : List Char) : Option String := nonEmpty (trim (String.ofList text))

def attrValue (text : List Char) : Option String := (trimmed text).map htmlDecode

section

variable {m : Type → Type} [Monad m] {A : Type}

def firstOf (first second : m (Option A)) : m (Option A) := do
  match ← first with
  | some a => pure (some a)
  | none => second

variable (casing : Casing) (get : String → m (Option String))

def attrMatches (attr value : String) : m Bool := do
  let v ← get attr
  pure (v.any fun v => casing.toLowercase v.toList = casing.toLowercase value.toList)

def eitherMatches (value : String) : m Bool := do
  if ← attrMatches casing get "property" value then pure true
  else attrMatches casing get "name" value

def contentIf (wanted : m Bool) (old : Option String) : m (Option String) := do
  if ← wanted then get "content" else pure old

-- One round of the loop over the `<meta>` tags, by however an attribute of the tag is read.
def readTag (found : Found) : m Found := do
  let ogTitle ← contentIf get (eitherMatches casing get "og:title") found.ogTitle
  let ogDescription ← contentIf get (eitherMatches casing get "og:description") found.ogDescription
  let ogImage ← contentIf get (eitherMatches casing get "og:image") found.ogImage
  let fallback := if ogDescription.isNone then attrMatches casing get "name" "description" else pure false
  let ogDescription ← contentIf get fallback ogDescription
  pure { ogTitle := ogTitle, ogDescription := ogDescription, ogImage := ogImage }

end

section

variable (casing : Casing)

def findCi (haystack : List Char) (start : Nat) (needle : String) : Except Fault (Option Nat) :=
  if utf8Len haystack ≤ start then .ok none
  else do
    let rest ← orPanic (sliceFrom haystack start)
    .ok ((find (casing.toLowercase needle.toList) (casing.toLowercase rest)).map (start + ·))

def getQuoted (tag : List Char) (attr : String) (quote : Char) : Except Fault (Option String) :=
  let pattern := casing.toLowercase attr.toList ++ ['=', quote]
  match find pattern (casing.toLowercase tag) with
  | none => .ok none
  | some idx =>
    let valueStart := idx + utf8Len pattern
    if valueStart < utf8Len tag then do
      let rest ← orPanic (sliceFrom tag valueStart)
      match find [quote] rest with
      | none => .ok none
      | some stop =>
        let val ← orPanic (slice tag valueStart (valueStart + stop))
        .ok (attrValue val)
    else .ok none

def getAttr (tag : List Char) (attr : String) : Except Fault (Option String) :=
  firstOf (getQuoted casing tag attr '"') (getQuoted casing tag attr '\'')

-- The first argument is what the loop may still take.
def metaLoop (head : List Char) : Nat → Nat → Found → Except Fault Found
  | 0, _, _ => .error .spent
  | fuel + 1, pos, found => do
    match ← findCi casing head pos "<meta" with
    | none => .ok found
    | some tagStart =>
      let rest ← orPanic (sliceFrom head tagStart)
      match find ['>'] rest with
      | none => .ok found
      | some stop =>
        let tagEnd := tagStart + stop + 1
        let tag ← orPanic (slice head tagStart tagEnd)
        let found ← readTag casing (getAttr casing tag) found
        metaLoop head fuel tagEnd found

def pageTitle (head : List Char) : Except Fault (Option String) := do
  match ← findCi casing head 0 "<title" with
  | none => .ok none
  | some titleStart =>
    let rest ← orPanic (sliceFrom head titleStart)
    match find ['>'] rest with
    | none => .ok none
    | some close =>
      let contentStart := titleStart + close + 1
      match ← findCi casing head contentStart "</title" with
      | none => .ok none
      | some stop =>
        let raw ← orPanic (slice head contentStart stop)
        .ok (trimmed raw)

def headEnd (html : List Char) : Nat :=
  min (((find "</head>".toList html).or (find "</HEAD>".toList html)).getD (utf8Len html)) (utf8Len html)

def parseOgTags (html : String) : Except Fault OgTags := do
  let head ← orPanic (sliceTo html.toList (headEnd html.toList))
  let found ← metaLoop casing head (utf8Len head + 1) 0 {}
  let title ← pageTitle casing head
  .ok (found.ogTitle.or title, found.ogDescription, found.ogImage)

end

/-! The same page read by its characters, with no offset to go wrong. -/

/-- What is read, and whether every search on the way went over text that keeps its length when lower-cased. -/
structure Reading (A : Type) where
  value : A
  steady : Bool

instance : Monad Reading where
  pure a := { value := a, steady := true }
  bind reading next :=
    { value := (next reading.value).value, steady := reading.steady && (next reading.value).steady }

section

variable (casing : Casing)

def search (word : String) (text : List Char) : Reading (Option (List Char × List Char)) where
  value := cut fold word.toList text
  steady := (cut fold word.toList text).all fun place => casing.Steady place.1

def lowered (name : String) : List Char := name.toList.map Char.toLower

def sought (attr : String) (quote : Char) : List Char := lowered attr ++ ['=', quote]

-- The offset of a value also counts the bytes of what spells the pattern.
def readQuoted (tag : List Char) (attr : String) (quote : Char) : Reading (Option String) :=
  let pattern := sought attr quote
  match cut fold pattern tag with
  | none => pure none
  | some (front, back) =>
    { value := (cut id [quote] (back.drop pattern.length)).bind fun value => attrValue value.1
      steady := casing.Steady (front ++ back.take pattern.length) }

def readAttr (tag : List Char) (attr : String) : Reading (Option String) :=
  firstOf (readQuoted casing tag attr '"') (readQuoted casing tag attr '\'')

def readMetas : Nat → List Char → Found → Reading Found
  | 0, _, found => pure found
  | fuel + 1, text, found => do
    let place ← search casing "<meta" text
    match place.bind fun place => cut id ['>'] place.2 with
    | none => pure found
    | some (tag, close) =>
      let found ← readTag casing (readAttr casing (tag ++ ['>'])) found
      readMetas fuel (close.drop 1) found

def readTitle (text : List Char) : Reading (Option String) := do
  let place ← search casing "<title" text
  match place.bind fun place => cut id ['>'] place.2 with
  | none => pure none
  | some (_, close) =>
    let place ← search casing "</title" (close.drop 1)
    pure (place.bind fun place => trimmed place.1)

def headOf (html : List Char) : List Char :=
  (((cut id "</head>".toList html).or (cut id "</HEAD>".toList html)).map Prod.fst).getD html

def readPage (html : String) : Reading OgTags := do
  let head := headOf html.toList
  let found ← readMetas casing (utf8Len head + 1) head {}
  let title ← readTitle casing head
  pure (found.ogTitle.or title, found.ogDescription, found.ogImage)

end

/-- A relation between the code and the reading that is kept when one step follows another. -/
structure Composes (R : (A : Type) → Except Fault A → Reading A → Prop) : Prop where
  pure {A : Type} (a : A) : R A (pure a) (pure a)
  bind {A B : Type} {code : Except Fault A} {reading : Reading A} {next : A → Except Fault B} {then_ : A → Reading B} :
    R A code reading → (∀ a, R B (next a) (then_ a)) → R B (code >>= next) (reading >>= then_)

namespace Composes

variable {R : (A : Type) → Except Fault A → Reading A → Prop} (composes : Composes R)

include composes

theorem firstOf {A : Type} {first second : Except Fault (Option A)} {firstReading secondReading : Reading (Option A)}
    (related : R _ first firstReading) (later : R _ second secondReading) :
    R _ (firstOf first second) (Preview.firstOf firstReading secondReading) := by
  refine composes.bind related fun found => ?_
  cases found with
  | some a => exact composes.pure (some a)
  | none => exact later

section

variable {casing : Casing} {get : String → Except Fault (Option String)} {read : String → Reading (Option String)}
  (related : ∀ attr, (∀ c ∈ attr.toList, c.toNat < 128) → R _ (get attr) (read attr))

include related

theorem attrMatches {attr : String} (ascii : ∀ c ∈ attr.toList, c.toNat < 128) (value : String) :
    R _ (attrMatches casing get attr value) (Preview.attrMatches casing read attr value) :=
  composes.bind (related attr ascii) fun _ => composes.pure _

theorem eitherMatches (value : String) :
    R _ (eitherMatches casing get value) (Preview.eitherMatches casing read value) := by
  refine composes.bind (composes.attrMatches related (forall_of_all (by decide)) value) fun matched => ?_
  split
  · exact composes.pure true
  · exact composes.attrMatches related (forall_of_all (by decide)) value

theorem contentIf {wanted : Except Fault Bool} {wantedReading : Reading Bool} (same : R _ wanted wantedReading)
    (old : Option String) : R _ (contentIf get wanted old) (Preview.contentIf read wantedReading old) := by
  refine composes.bind same fun wanted => ?_
  split
  · exact related "content" (forall_of_all (by decide))
  · exact composes.pure old

theorem readTag (found : Found) : R _ (readTag casing get found) (Preview.readTag casing read found) := by
  refine composes.bind (composes.contentIf related (composes.eitherMatches related _) _) fun ogTitle => ?_
  refine composes.bind (composes.contentIf related (composes.eitherMatches related _) _) fun ogDescription => ?_
  refine composes.bind (composes.contentIf related (composes.eitherMatches related _) _) fun ogImage => ?_
  refine composes.bind (composes.contentIf related ?_ _) fun _ => composes.pure _
  split
  · exact composes.attrMatches related (forall_of_all (by decide)) _
  · exact composes.pure false

end

end Composes

def Ends {A : Type} (code : Except Fault A) : Prop := code ≠ .error .spent

theorem Ends.bind {A B : Type} {code : Except Fault A} {next : A → Except Fault B} (ends : Ends code)
    (later : ∀ a, code = .ok a → Ends (next a)) : Ends (code >>= next) := by
  cases code with
  | error fault =>
    intro spent
    cases spent
    exact ends rfl
  | ok a => exact later a rfl

theorem Ends.ok {A : Type} (a : A) : Ends (.ok a : Except Fault A) := fun spent => by cases spent

theorem Ends.orPanic {A : Type} (found : Option A) : Ends (orPanic found) := by
  cases found <;> exact fun spent => by cases spent

theorem ends_composes : Composes fun _ code _ => Ends code where
  pure a := .ok a
  bind ends later := ends.bind fun a _ => later a

/-- As long as the searches go over steady text, the code reads what is there. -/
def Agrees {A : Type} (code : Except Fault A) (reading : Reading A) : Prop :=
  reading.steady = true → code = .ok reading.value

theorem agrees_composes : Composes @Agrees where
  pure _ _ := rfl
  bind := by
    intro A B code reading next then_ agrees later steady
    obtain ⟨first, second⟩ := Bool.and_eq_true_iff.mp steady
    rw [agrees first]
    exact later reading.value second

section

variable {casing : Casing} {needle : String} {seen text front back : List Char}

/-- What the parser searches a page for. -/
structure Needle (needle : String) : Prop where
  ascii : ∀ c ∈ needle.toList, c.toNat < 128
  filled : needle.toList ≠ []
  lowered : needle.toList.map Char.toLower = needle.toList
  last : ¬ ['i'] <:+ needle.toList

theorem needles : Needle "<meta" ∧ Needle "<title" ∧ Needle "</title" := by
  refine ⟨?_, ?_, ?_⟩ <;> exact ⟨forall_of_all (by decide), by decide, by decide, by decide⟩

theorem findCi_eq (filled : needle.toList ≠ []) (ascii : ∀ c ∈ needle.toList, c.toNat < 128)
    (fits : Fits (needle.toList.map Char.toLower) text) :
    findCi casing (seen ++ text) (utf8Len seen) needle =
      .ok ((cut fold (needle.toList.map Char.toLower) text).map fun place =>
        utf8Len seen + utf8Len (casing.toLowercase place.1)) := by
  rw [findCi]
  split
  next beyond =>
    rw [utf8Len_append] at beyond
    obtain rfl : text = [] := String.utf8Len_eq_zero.mp (by omega)
    have word := (List.map_eq_nil_iff (f := Char.toLower)).not.mpr filled
    rw [cut, List.map_nil, Patterns.position, if_neg word]
    rfl
  next =>
    rw [sliceFrom_utf8Len, casing.toLowercase_ascii ascii]
    change Except.ok _ = _
    rw [casing.find_toLowercase fits, Option.map_map]
    rfl

theorem search_steady (steady : (search casing needle text).steady = true)
    (found : cut fold needle.toList text = some (front, back)) : casing.Steady front := by
  rw [search] at steady
  dsimp only at steady
  rw [found, Option.all_some] at steady
  exact of_decide_eq_true steady

theorem Needle.fits (plain : Needle needle) (text : List Char) : Fits (needle.toList.map Char.toLower) text := by
  rw [plain.lowered]
  exact ⟨plain.ascii, fun ends => absurd ends plain.last⟩

-- Where the search goes over steady text, the offset it gives is the one of the text found.
theorem Needle.bind (plain : Needle needle) {A : Type} {next : Option Nat → Except Fault A}
    {read : Option (List Char × List Char) → Reading A} (absent : Agrees (next none) (read none))
    (present : ∀ front back, text = front ++ back →
      Agrees (next (some (utf8Len (seen ++ front)))) (read (some (front, back)))) :
    Agrees (findCi casing (seen ++ text) (utf8Len seen) needle >>= next) (search casing needle text >>= read) := by
  intro steady
  obtain ⟨kept, later⟩ := Bool.and_eq_true_iff.mp steady
  rw [findCi_eq plain.filled plain.ascii (plain.fits text), plain.lowered]
  cases parted : cut fold needle.toList text with
  | none =>
    have value : (search casing needle text).value = none := parted
    rw [value] at later
    refine (absent later).trans ?_
    rw [← value]
    rfl
  | some place =>
    obtain ⟨front, back⟩ := place
    have value : (search casing needle text).value = some (front, back) := parted
    rw [value] at later
    have offset : utf8Len seen + utf8Len (casing.toLowercase front) = utf8Len (seen ++ front) := by
      rw [search_steady kept parted, utf8Len_append]
    rw [Option.map_some, offset]
    refine (present front back (cut_eq_some.mp parted).1 later).trans ?_
    rw [← value]
    rfl

theorem cut_char {c : Char} (found : cut id [c] text = some (front, back)) :
    ∃ after, back = c :: after ∧ text = front ++ c :: after := by
  have here := Patterns.cut_prefix found
  rw [List.map_id] at here
  obtain ⟨after, rfl⟩ := here
  exact ⟨after, rfl, (cut_eq_some.mp found).1⟩

section

variable {attr : String} {quote : Char} (ascii : ∀ c ∈ attr.toList, c.toNat < 128) (quoted : quote = '"' ∨ quote = '\'')

include ascii quoted

theorem sought_ascii : ∀ c ∈ sought attr quote, c.toNat < 128 := by
  intro c member
  rcases List.mem_append.mp member with lowered | ends
  · obtain ⟨typed, listed, rfl⟩ := List.mem_map.mp lowered
    exact toLower_ascii.mpr (ascii typed listed)
  · rcases List.mem_pair.mp ends with rfl | rfl
    · decide
    · rcases quoted with rfl | rfl <;> decide

theorem sought_fits (tag : List Char) : Fits (sought attr quote) tag := by
  refine ⟨sought_ascii ascii quoted, fun ends => ?_⟩
  have last : 'i' = quote := by simpa [sought] using ends.getLast (List.cons_ne_nil 'i' [])
  rcases quoted with rfl | rfl <;> exact absurd last (by decide)

theorem getQuoted_agrees (tag : List Char) :
    Agrees (getQuoted casing tag attr quote) (readQuoted casing tag attr quote) := by
  intro steady
  have letters := sought_ascii ascii quoted
  rw [readQuoted] at steady ⊢
  rw [getQuoted, casing.toLowercase_ascii ascii, ← lowered, ← sought, casing.find_toLowercase (sought_fits ascii quoted tag)]
  dsimp only at steady ⊢
  cases parted : cut fold (sought attr quote) tag with
  | none => rfl
  | some place =>
    obtain ⟨front, back⟩ := place
    rw [parted] at steady
    have kept : casing.Steady (front ++ back.take (sought attr quote).length) := of_decide_eq_true steady
    have here := List.prefix_iff_eq_take.mp (Patterns.cut_prefix parted)
    rw [← List.map_take] at here
    have spelled : (back.take (sought attr quote).length).length = (sought attr quote).length := by
      rw [← List.length_map fold, ← here]
    have start : utf8Len (casing.toLowercase front) + utf8Len (sought attr quote) =
        utf8Len (front ++ back.take (sought attr quote).length) := by
      have size : utf8Len (casing.toLowercase (back.take (sought attr quote).length)) = _ :=
        casing.utf8Len_toLowercase_ascii (by rwa [← here])
      rw [← kept, casing.utf8Len_toLowercase_append, utf8Len_ascii letters, size, spelled]
    have whole : tag = front ++ back.take (sought attr quote).length ++ back.drop (sought attr quote).length := by
      rw [(cut_eq_some.mp parted).1, List.append_assoc, List.take_append_drop]
    dsimp only [Option.map_some]
    generalize front ++ back.take (sought attr quote).length = read, back.drop (sought attr quote).length = rest at *
    rw [start, whole, sliceFrom_utf8Len, orPanic_bind, find]
    split
    next within =>
      cases closing : cut id [quote] rest with
      | none => rfl
      | some value =>
        obtain ⟨value, close⟩ := value
        obtain ⟨after, rfl, rfl⟩ := cut_char closing
        dsimp only [Option.map_some]
        rw [slice_utf8Len, orPanic_bind, Option.bind_some]
    next beyond =>
      rw [utf8Len_append] at beyond
      obtain rfl : rest = [] := String.utf8Len_eq_zero.mp (by omega)
      rfl

end

theorem getAttr_agrees (tag : List Char) (attr : String) (ascii : ∀ c ∈ attr.toList, c.toNat < 128) :
    Agrees (getAttr casing tag attr) (readAttr casing tag attr) :=
  agrees_composes.firstOf (getQuoted_agrees ascii (.inl rfl) tag) (getQuoted_agrees ascii (.inr rfl) tag)

theorem cut_char_first {c : Char} (absent : c ∉ front) : cut id [c] (front ++ c :: back) = some (front, c :: back) := by
  induction front with
  | nil => exact Patterns.cut_here (List.prefix_append [c] _)
  | cons d front ih =>
    rw [List.mem_cons, not_or] at absent
    rw [List.cons_append, Patterns.cut_miss, ih absent.2]
    · rfl
    · intro here
      exact absent.1 (List.cons_prefix_cons.mp here).1

theorem metaLoop_agrees {fuel : Nat} (enough : utf8Len text < fuel) (found : Found) :
    Agrees (metaLoop casing (seen ++ text) fuel (utf8Len seen) found) (readMetas casing fuel text found) := by
  induction fuel generalizing seen text found with
  | zero => omega
  | succ fuel ih =>
    rw [metaLoop, readMetas]
    refine needles.1.bind (agrees_composes.pure found) ?_
    rintro front rest rfl
    dsimp only
    rw [← List.append_assoc, sliceFrom_utf8Len, orPanic_bind, Option.bind_some, find]
    cases parted : cut id ['>'] rest with
    | none => exact agrees_composes.pure found
    | some place =>
      obtain ⟨tag, close⟩ := place
      obtain ⟨after, rfl, rfl⟩ := cut_char parted
      have whole : tag ++ '>' :: after = (tag ++ ['>']) ++ after := List.append_cons tag '>' after
      have size : utf8Len (seen ++ front) + utf8Len tag + 1 = utf8Len (seen ++ front) + utf8Len (tag ++ ['>']) := by
        rw [utf8Len_append tag]
        rfl
      dsimp only [Option.map_some]
      rw [size, whole, slice_utf8Len, orPanic_bind]
      refine agrees_composes.bind (agrees_composes.readTag (getAttr_agrees (tag ++ ['>'])) found) fun found => ?_
      rw [← utf8Len_append, ← List.append_assoc]
      refine ih ?_ _
      rw [whole, utf8Len_append, utf8Len_append, utf8Len_append] at enough
      have one : utf8Len ['>'] = 1 := rfl
      omega

theorem pageTitle_agrees (head : List Char) : Agrees (pageTitle casing head) (readTitle casing head) := by
  rw [pageTitle, readTitle]
  change Agrees (findCi casing ([] ++ head) (utf8Len []) "<title" >>= _) _
  refine needles.2.1.bind (agrees_composes.pure none) ?_
  rintro front rest rfl
  dsimp only
  rw [List.nil_append, sliceFrom_utf8Len, orPanic_bind, Option.bind_some, find]
  cases parted : cut id ['>'] rest with
  | none => exact agrees_composes.pure none
  | some place =>
    obtain ⟨tag, close⟩ := place
    obtain ⟨after, rfl, rfl⟩ := cut_char parted
    have size : utf8Len front + utf8Len tag + 1 = utf8Len (front ++ (tag ++ ['>'])) := by
      rw [utf8Len_append, utf8Len_append]
      rfl
    have whole : front ++ (tag ++ '>' :: after) = (front ++ (tag ++ ['>'])) ++ after := by simp
    dsimp only [Option.map_some]
    rw [size, whole]
    refine needles.2.2.bind (agrees_composes.pure none) ?_
    rintro raw rest rfl
    dsimp only
    rw [utf8Len_append (front ++ (tag ++ ['>'])), slice_utf8Len, orPanic_bind, Option.bind_some]
    exact agrees_composes.pure (trimmed raw)

theorem headOf_cut (html : List Char) : ∃ back, html = headOf html ++ back ∧ headEnd html = utf8Len (headOf html) := by
  rw [headOf, headEnd, find, find, ← Option.map_or]
  cases parted : (cut id "</head>".toList html).or (cut id "</HEAD>".toList html) with
  | none => exact ⟨[], (List.append_nil html).symm, Nat.min_self _⟩
  | some place =>
    obtain ⟨front, back⟩ := place
    have whole : html = front ++ back := by
      rcases Option.or_eq_some_iff.mp parted with found | ⟨-, found⟩
      all_goals exact (cut_eq_some.mp found).1
    refine ⟨back, whole, ?_⟩
    rw [whole, utf8Len_append]
    exact Nat.min_eq_left (Nat.le_add_right _ _)

theorem sliceTo_headEnd (html : List Char) : sliceTo html (headEnd html) = some (headOf html) := by
  obtain ⟨back, whole, size⟩ := headOf_cut html
  have front := sliceTo_utf8Len (headOf html) back
  rwa [← whole, ← size] at front

theorem parseOgTags_agrees (casing : Casing) (html : String) : Agrees (parseOgTags casing html) (readPage casing html) := by
  rw [parseOgTags, sliceTo_headEnd, orPanic_bind]
  refine agrees_composes.bind (@metaLoop_agrees casing [] _ _ (Nat.lt_succ_self _) {}) fun found => ?_
  exact agrees_composes.bind (pageTitle_agrees _) fun title => agrees_composes.pure _

theorem findCi_ends (haystack : List Char) (start : Nat) (needle : String) :
    Ends (findCi casing haystack start needle) := by
  rw [findCi]
  split
  · exact .ok none
  · exact (Ends.orPanic _).bind fun rest _ => .ok _

theorem findCi_start {haystack : List Char} {start i : Nat} (found : findCi casing haystack start needle = .ok (some i)) :
    start ≤ i := by
  rw [findCi] at found
  split at found
  · cases found
  · cases sliced : sliceFrom haystack start with
    | none =>
      rw [sliced] at found
      cases found
    | some rest =>
      rw [sliced, orPanic_bind, Except.ok.injEq] at found
      obtain ⟨offset, -, rfl⟩ := Option.map_eq_some_iff.mp found
      exact Nat.le_add_right start offset

theorem getQuoted_ends (tag : List Char) (attr : String) (quote : Char) : Ends (getQuoted casing tag attr quote) := by
  rw [getQuoted]
  dsimp only
  split
  · exact .ok none
  · split
    · refine (Ends.orPanic _).bind fun rest _ => ?_
      split
      · exact .ok none
      · exact (Ends.orPanic _).bind fun val _ => .ok _
    · exact .ok none

theorem getAttr_ends (tag : List Char) (attr : String) : Ends (getAttr casing tag attr) := by
  refine (getQuoted_ends tag attr '"').bind fun found _ => ?_
  cases found with
  | some val => exact .ok (some val)
  | none => exact getQuoted_ends tag attr '\''

-- Every round leaves a tag of at least one byte behind, also when an offset is wrong.
theorem metaLoop_ends {head : List Char} {fuel pos : Nat} (inside : pos ≤ utf8Len head)
    (enough : utf8Len head < pos + fuel) (found : Found) : Ends (metaLoop casing head fuel pos found) := by
  induction fuel generalizing pos found with
  | zero => omega
  | succ fuel ih =>
    rw [metaLoop]
    refine (findCi_ends head pos "<meta").bind fun place located => ?_
    cases place with
    | none => exact .ok found
    | some tagStart =>
      have forward := findCi_start located
      refine (Ends.orPanic _).bind fun rest _ => ?_
      split
      · exact .ok found
      next stop _ =>
        refine (Ends.orPanic _).bind fun tag sliced => ?_
        refine Ends.bind ?_ fun found _ => ?_
        · exact @Composes.readTag _ ends_composes casing _ (readAttr casing tag) (fun attr _ => getAttr_ends tag attr) found
        · have within : tagStart + stop + 1 ≤ utf8Len head := by
            cases part : slice head tagStart (tagStart + stop + 1) with
            | none =>
              rw [part] at sliced
              cases sliced
            | some tag => exact slice_within part
          exact ih within (by omega) found

theorem pageTitle_ends (head : List Char) : Ends (pageTitle casing head) := by
  rw [pageTitle]
  refine (findCi_ends head 0 "<title").bind fun place _ => ?_
  split
  · exact .ok none
  · refine (Ends.orPanic _).bind fun rest _ => ?_
    split
    · exact .ok none
    · refine (findCi_ends head _ "</title").bind fun place _ => ?_
      split
      · exact .ok none
      · exact (Ends.orPanic _).bind fun raw _ => .ok _

/-- Whatever the page, the loop over its tags comes to an end. -/
theorem parseOgTags_ends (casing : Casing) (html : String) : Ends (parseOgTags casing html) := by
  rw [parseOgTags, sliceTo_headEnd, orPanic_bind]
  refine (metaLoop_ends (Nat.zero_le _) (by omega) {}).bind fun found _ => ?_
  exact (pageTitle_ends _).bind fun title _ => .ok _

end

/-- The text has the needle at the byte, ignoring ASCII case. -/
def HasCi (haystack : List Char) (i : Nat) (needle : String) : Prop :=
  ∃ front back, haystack = front ++ back ∧ utf8Len front = i ∧ lowered needle <+: back.map Char.toLower

/-- A needle of ASCII that the search finds where it is: nothing before it changes its length when lower-cased. -/
structure Findable (casing : Casing) (needle : String) (text : List Char) : Prop where
  ascii : ∀ c ∈ needle.toList, c.toNat < 128
  dotted : ['i'] <:+ lowered needle → 'İ' ∉ text
  kelvin : 'k' ∈ lowered needle → '\u212a' ∉ text
  steady : ∀ front back, cut fold (lowered needle) text = some (front, back) → casing.Steady front

section

variable {casing : Casing} {needle : String} {seen text : List Char}

theorem lowered_ascii (ascii : ∀ c ∈ needle.toList, c.toNat < 128) : ∀ c ∈ lowered needle, c.toNat < 128 := by
  intro c member
  obtain ⟨typed, listed, rfl⟩ := List.mem_map.mp member
  exact toLower_ascii.mpr (ascii typed listed)

theorem findCi_has {haystack : List Char} {start i : Nat} (sliced : sliceFrom haystack start = some text)
    (findable : Findable casing needle text) (found : findCi casing haystack start needle = .ok (some i)) :
    HasCi haystack i needle := by
  obtain ⟨seen, rfl, rfl⟩ := sliceFrom_eq_some.mp sliced
  have fits : Fits (lowered needle) text := ⟨lowered_ascii findable.ascii, findable.dotted⟩
  rw [findCi] at found
  split at found
  · cases found
  · rw [sliced, orPanic_bind, casing.toLowercase_ascii findable.ascii, ← lowered, casing.find_toLowercase fits,
      Option.map_map, Except.ok.injEq] at found
    obtain ⟨⟨front, back⟩, parted, rfl⟩ := Option.map_eq_some_iff.mp found
    obtain ⟨rfl, -⟩ := cut_eq_some.mp parted
    refine ⟨seen ++ front, back, (List.append_assoc _ _ _).symm, ?_, ?_⟩
    · rw [utf8Len_append, ← findable.steady front back parted]
      rfl
    · refine prefix_toLower (fun listed inside => ?_) (Patterns.cut_prefix parted)
      exact findable.kelvin listed (List.mem_append_right front inside)

/-- The parser's searches give the offset of the first place that spells the needle, just where they are steady. -/
theorem findCi_first_iff (plain : Needle needle) :
    findCi casing (seen ++ text) (utf8Len seen) needle =
        .ok ((cut fold needle.toList text).map fun place => utf8Len (seen ++ place.1)) ↔
      (search casing needle text).steady = true := by
  rw [findCi_eq plain.filled plain.ascii (plain.fits text), plain.lowered, search, Except.ok.injEq]
  dsimp only
  cases cut fold needle.toList text with
  | none => simp
  | some place =>
    rw [Option.map_some, Option.map_some, Option.some_inj, utf8Len_append, Nat.add_left_cancel_iff, Option.all_some,
      decide_eq_true_iff, Casing.Steady]

end

end Wavvon.Preview
