import Wavvon.Outbound.Preview

set_option autoImplicit false

namespace Wavvon.Preview

open Offsets
open Offsets.Casing (eq_of_fold fold fold_ascii map_fold_of_ascii)
open Patterns (cut forall_of_all)
open String (utf8Len)

/-! Tags written out from their attributes. -/

def quotes : List Char := ['"', '\'']

/-- A name without blanks and the marks of a tag, and a value that ends neither itself nor the tag. -/
structure Attribute where
  name : String
  quote : Char
  value : String
  filled : name ≠ ""
  named : ∀ c ∈ name.toList, c ∉ ' ' :: '=' :: '>' :: quotes
  quoted : quote ∈ quotes
  plain : ∀ c ∈ value.toList, c ∉ '>' :: quotes

def Attribute.body (b : Attribute) : List Char := b.name.toList ++ '=' :: b.quote :: (b.value.toList ++ [b.quote])

def metaStart : List Char := "<meta".toList

def written (attrs : List Attribute) : List Char := attrs.flatMap fun b => ' ' :: b.body

def render (attrs : List Attribute) : List Char := metaStart ++ written attrs ++ ['>']

/-- What stands before an attribute of a tag. -/
def opening (before : List Attribute) : List Char := metaStart ++ written before ++ [' ']

def Attribute.Named (b : Attribute) (attr : String) : Prop := lowered b.name = lowered attr

/-- Another attribute in which the one that is asked for seems to start. -/
def Disturbs (attr : String) (b : Attribute) : Prop :=
  (lowered attr <:+ b.name.toList.map fold ∧ ¬ b.Named attr) ∨ lowered attr ++ ['='] <:+ b.value.toList.map fold

/-- The name of an attribute in ASCII. -/
structure AttrName (attr : String) : Prop where
  filled : attr ≠ ""
  ascii : ∀ c ∈ attr.toList, c.toNat < 128
  plain : ∀ c ∈ attr.toList, c ∉ ' ' :: '=' :: '>' :: quotes

/--
What stands before the attribute keeps its length when lower-cased, and others that end like its start
come after it with the same quotes, or in single quotes next to its value in double ones.
-/
structure Readable (casing : Casing) (attrs : List Attribute) (attr : String) : Prop where
  steady : ∀ before own after, attrs = before ++ own :: after → own.Named attr → casing.Steady (opening before)
  clear : ∀ before b after, attrs = before ++ b :: after → Disturbs attr b → ∃ own ∈ attrs, own.Named attr ∧
    (own.quote = b.quote ∧ own ∈ before ++ [b] ∨ own.quote = '"' ∧ b.quote = '\'' ∧ trim own.value ≠ "")

def Hits (attr : String) (quote : Char) (b : Attribute) : Prop :=
  b.quote = quote ∧ (lowered attr <:+ b.name.toList.map fold ∨ lowered attr ++ ['='] <:+ b.value.toList.map fold)

section

variable {casing : Casing} {attr : String} {quote : Char} {attrs before after : List Attribute} {own : Attribute}

theorem fold_apart {text marks : List Char} (below : ∀ c ∈ marks, c.toNat < 97) (apart : ∀ c ∈ text, c ∉ marks) :
    ∀ c ∈ text.map fold, c ∉ marks := by
  intro c member mark
  obtain ⟨typed, listed, folded⟩ := List.mem_map.mp member
  rw [← eq_of_fold folded (below c mark)] at mark
  exact apart typed listed mark

theorem lowered_eq (name : AttrName attr) : lowered attr = attr.toList.map fold :=
  (map_fold_of_ascii name.ascii).symm

theorem lowered_apart (name : AttrName attr) : ∀ c ∈ lowered attr, c ∉ ' ' :: '=' :: '>' :: quotes := by
  rw [lowered_eq name]
  exact fold_apart (forall_of_all (by decide)) name.plain

theorem fold_quote (quoted : quote ∈ quotes) : fold quote = quote := by
  rcases List.mem_pair.mp quoted with rfl | rfl <;> rfl

-- Within one attribute the pattern ends at the opening quote or at the closing one.
theorem sought_hits (name : AttrName attr) (quoted : quote ∈ quotes) (b : Attribute) :
    sought attr quote <:+: b.body.map fold ↔ Hits attr quote b := by
  have body : b.body.map fold =
      (b.name.toList.map fold ++ ['=']) ++ b.quote :: (b.value.toList.map fold ++ b.quote :: []) := by
    simp [Attribute.body, fold_quote b.quoted, fold_ascii (show '='.toNat < 128 by decide)]
  have word : sought attr quote = (lowered attr ++ ['=']) ++ [quote] := by simp [sought, lowered]
  have plainWord : ∀ c ∈ lowered attr ++ ['='], c ∉ quotes := by
    intro c member
    rcases List.mem_append.mp member with letter | sign
    · exact fun mark => lowered_apart name c letter (by simp [mark])
    · rw [List.mem_singleton.mp sign]
      decide
  have plainName : ∀ c ∈ b.name.toList.map fold ++ ['='], c ∉ quotes := by
    intro c member
    rcases List.mem_append.mp member with letter | sign
    · exact fold_apart (forall_of_all (by decide)) (fun d listed mark => b.named d listed (by simp [mark])) c letter
    · rw [List.mem_singleton.mp sign]
      decide
  have plainValue : ∀ c ∈ b.value.toList.map fold, c ∉ quotes :=
    fold_apart (forall_of_all (by decide)) fun d listed mark => b.plain d listed (List.mem_cons_of_mem _ mark)
  have beyond : ¬ lowered attr ++ ['='] ++ [quote] <:+: [] := by simp
  rw [body, word, Patterns.concat_infix_iff b.quoted quoted plainWord plainName,
    Patterns.concat_infix_iff b.quoted quoted plainWord plainValue, List.suffix_append_self_iff, or_iff_left beyond, Hits,
    and_or_left]

theorem sought_apart (name : AttrName attr) (quoted : quote ∈ quotes) :
    fold ' ' ∉ sought attr quote ∧ fold '>' ∉ sought attr quote := by
  have apart (c : Char) (mark : c = ' ' ∨ c = '>') : c ∉ sought attr quote := by
    intro member
    rcases List.mem_append.mp member with letter | ends
    · exact lowered_apart name c letter (by rcases mark with rfl | rfl <;> simp)
    · rcases mark with rfl | rfl <;> rcases List.mem_pair.mp quoted with rfl | rfl <;> exact absurd ends (by decide)
  exact ⟨apart ' ' (.inl rfl), apart '>' (.inr rfl)⟩

-- What has no occurrence of the pattern in it is passed over, one attribute after the other.
theorem cut_written (name : AttrName attr) (quoted : quote ∈ quotes) {start rest : List Char} {sep : Char}
    (apart : fold sep ∉ sought attr quote) (absent : ¬ sought attr quote <:+: start.map fold)
    (clear : ∀ b ∈ before, ¬ Hits attr quote b) :
    cut fold (sought attr quote) (start ++ written before ++ sep :: rest) =
      (cut fold (sought attr quote) rest).map (Prod.map (start ++ written before ++ [sep] ++ ·) id) := by
  have filled : sought attr quote ≠ [] := by simp [sought]
  induction before generalizing start with
  | nil =>
    rw [written, List.flatMap_nil, List.append_nil]
    exact Patterns.cut_past filled apart absent
  | cons b before ih =>
    obtain ⟨first, later⟩ := List.forall_mem_cons.mp clear
    have next := ih ((sought_hits name quoted b).not.mpr first) later
    have blank : fold ' ' ∉ sought attr quote := (sought_apart name quoted).1
    have split : start ++ written (b :: before) ++ sep :: rest =
        start ++ ' ' :: (b.body ++ written before ++ sep :: rest) := by simp [written]
    rw [split, Patterns.cut_past filled blank absent, next, Option.map_map]
    congr 1
    funext pair
    simp [written, Prod.map]

theorem start_absent (quoted : quote ∈ quotes) : ¬ sought attr quote <:+: metaStart.map fold := by
  intro inside
  have member : quote ∈ metaStart.map fold := inside.subset (by simp [sought])
  rcases List.mem_pair.mp quoted with rfl | rfl <;> exact absurd member (by decide)

theorem cut_render_none (name : AttrName attr) (quoted : quote ∈ quotes) (clear : ∀ b ∈ attrs, ¬ Hits attr quote b) :
    cut fold (sought attr quote) (render attrs) = none := by
  rw [render, cut_written name quoted (sought_apart name quoted).2 (start_absent quoted) clear,
    Patterns.cut_nil (by simp [sought])]
  rfl

theorem named_ascii (name : AttrName attr) (named : own.Named attr) : ∀ c ∈ own.name.toList, c.toNat < 128 := by
  intro c member
  have letter : c.toLower ∈ lowered attr := by
    rw [← named]
    exact List.mem_map_of_mem member
  obtain ⟨typed, listed, same⟩ := List.mem_map.mp letter
  rw [← toLower_ascii, ← same, toLower_ascii]
  exact name.ascii typed listed

theorem named_fold (name : AttrName attr) (named : own.Named attr) : own.name.toList.map fold = lowered attr := by
  rw [← named, lowered]
  exact map_fold_of_ascii (named_ascii name named)

theorem cut_render_some (name : AttrName attr) (named : own.Named attr)
    (clear : ∀ b ∈ before, ¬ Hits attr own.quote b) :
    cut fold (sought attr own.quote) (render (before ++ own :: after)) =
      some (opening before, own.body ++ written after ++ ['>']) := by
  have split : render (before ++ own :: after) =
      metaStart ++ written before ++ ' ' :: (own.body ++ written after ++ ['>']) := by simp [render, written]
  rw [split, cut_written name own.quoted (sought_apart name own.quoted).1 (start_absent own.quoted) clear,
    Patterns.cut_here]
  · simp [opening]
  · have spelled : (own.body ++ written after ++ ['>']).map fold =
        sought attr own.quote ++ ((own.value.toList ++ [own.quote] ++ written after ++ ['>']).map fold) := by
      simp [Attribute.body, sought, named_fold name named, fold_quote own.quoted,
        fold_ascii (show '='.toNat < 128 by decide)]
    rw [spelled]
    exact List.prefix_append _ _

-- The value read is the one of the attribute, in case nothing before it looks like its start.
theorem readQuoted_own (name : AttrName attr) (named : own.Named attr) (clear : ∀ b ∈ before, ¬ Hits attr own.quote b) :
    readQuoted casing (render (before ++ own :: after)) attr own.quote =
      { value := attrValue own.value.toList, steady := casing.Steady (opening before) } := by
  have back : own.body ++ written after ++ ['>'] =
      (own.name.toList ++ ['=', own.quote]) ++ (own.value.toList ++ own.quote :: (written after ++ ['>'])) := by
    simp [Attribute.body]
  have size : (sought attr own.quote).length = (own.name.toList ++ ['=', own.quote]).length := by
    have same := congrArg List.length named
    simpa [lowered, sought] using same.symm
  have ascii : ∀ c ∈ own.name.toList ++ ['=', own.quote], c.toNat < 128 := by
    intro c member
    rcases List.mem_append.mp member with letter | ends
    · exact named_ascii name named c letter
    · rcases List.mem_pair.mp ends with rfl | rfl
      · decide
      · rcases List.mem_pair.mp own.quoted with mark | mark <;> rw [mark] <;> decide
  have closed : own.quote ∉ own.value.toList := fun inside => own.plain _ inside (List.mem_cons_of_mem _ own.quoted)
  rw [readQuoted, cut_render_some name named clear, back, size]
  dsimp only
  rw [List.drop_left, List.take_left, cut_char_first closed]
  simp only [casing.steady_append ascii, Option.bind_some]

theorem firstOf_none {A : Type} (second : Reading (Option A)) :
    firstOf { value := none, steady := true } second = second := rfl

theorem readQuoted_none (name : AttrName attr) (quoted : quote ∈ quotes) (clear : ∀ b ∈ attrs, ¬ Hits attr quote b) :
    readQuoted casing (render attrs) attr quote = pure none := by
  rw [readQuoted, cut_render_none name quoted clear]

theorem attrValue_eq_some {value v : String} :
    attrValue value.toList = some v ↔ trim value ≠ "" ∧ v = htmlDecode (trim value) := by
  rw [attrValue, trimmed, String.ofList_toList, nonEmpty]
  split
  next blank => simp [blank]
  next shown =>
    rw [Option.map_some, Option.some_inj, eq_comm]
    exact (and_iff_right shown).symm

theorem Hits.cases {b : Attribute} (hits : Hits attr quote b) : b.quote = quote ∧ (b.Named attr ∨ Disturbs attr b) := by
  obtain ⟨same, ends | ends⟩ := hits
  · by_cases named : b.Named attr
    · exact ⟨same, .inl named⟩
    · exact ⟨same, .inr (.inl ⟨ends, named⟩)⟩
  · exact ⟨same, .inr (.inr ends)⟩

theorem readAttr_absent (name : AttrName attr) (readable : Readable casing attrs attr)
    (absent : ∀ b ∈ attrs, ¬ b.Named attr) : readAttr casing (render attrs) attr = pure none := by
  have clear (quote : Char) : ∀ b ∈ attrs, ¬ Hits attr quote b := by
    intro b member hits
    obtain ⟨-, named | disturbs⟩ := hits.cases
    · exact absent b member named
    · obtain ⟨before, after, split⟩ := List.append_of_mem member
      obtain ⟨own, listed, named, -⟩ := readable.clear before b after split disturbs
      exact absent own listed named
  rw [readAttr, readQuoted_none name (by decide) (clear '"'), readQuoted_none name (by decide) (clear '\'')]
  rfl

theorem readAttr_present (name : AttrName attr) (readable : Readable casing (before ++ own :: after) attr)
    (distinct : ((before ++ own :: after).map fun b => lowered b.name).Nodup) (named : own.Named attr) :
    readAttr casing (render (before ++ own :: after)) attr = { value := attrValue own.value.toList, steady := true } := by
  have unique : ∀ b ∈ before ++ own :: after, b.Named attr → b = own := fun b member same =>
    List.inj_on_of_nodup_map distinct member (by simp) (same.trans named.symm)
  have fresh : own ∉ before := by
    intro earlier
    rw [List.map_append, List.nodup_append] at distinct
    exact distinct.2.2 _ (List.mem_map_of_mem earlier) _ (List.mem_map_of_mem List.mem_cons_self) rfl
  have steady : casing.Steady (opening before) := readable.steady before own after rfl named
  have clear : ∀ b ∈ before, ¬ Hits attr own.quote b := by
    intro b member hits
    obtain ⟨same, other | disturbs⟩ := hits.cases
    · exact fresh (unique b (List.mem_append_left _ member) other ▸ member)
    · obtain ⟨front, back, rfl⟩ := List.append_of_mem member
      obtain ⟨other, listed, otherNamed, earlier | later⟩ :=
        readable.clear front b (back ++ own :: after) (by simp) disturbs
      · rw [unique other listed otherNamed] at earlier
        exact fresh (by simpa [or_assoc] using Or.inl earlier.2)
      · rw [unique other listed otherNamed, ← same, later.2.1] at later
        exact absurd later.1 (by decide)
  have aside (quote : Char) (differs : own.quote ≠ quote) (blank : own.quote = '"' → trim own.value = "") :
      ∀ b ∈ before ++ own :: after, ¬ Hits attr quote b := by
    intro b member hits
    obtain ⟨same, other | disturbs⟩ := hits.cases
    · rw [unique b member other] at same
      exact differs same
    · obtain ⟨front, back, split⟩ := List.append_of_mem member
      obtain ⟨other, listed, otherNamed, earlier | later⟩ := readable.clear front b back split disturbs
      · rw [unique other listed otherNamed, same] at earlier
        exact differs earlier.1
      · rw [unique other listed otherNamed] at later
        exact later.2.2 (blank later.1)
  have read : readQuoted casing (render (before ++ own :: after)) attr own.quote =
      { value := attrValue own.value.toList, steady := true } := by
    rw [readQuoted_own name named clear, decide_eq_true steady]
  rcases List.mem_pair.mp own.quoted with double | single
  · rw [double] at read
    rw [readAttr, read]
    cases value : attrValue own.value.toList with
    | some v => rfl
    | none =>
      have blank : trim own.value = "" := by
        by_contra shown
        rw [attrValue_eq_some.mpr ⟨shown, rfl⟩] at value
        cases value
      exact readQuoted_none name (by decide) (aside '\'' (by rw [double]; decide) fun _ => blank)
  · rw [single] at read
    rw [readAttr, read, readQuoted_none name (by decide) (aside '"' (by rw [single]; decide) fun double => ?_)]
    · exact firstOf_none _
    · rw [single] at double
      exact absurd double (by decide)

theorem getAttr_rendered (name : AttrName attr) (readable : Readable casing attrs attr)
    (distinct : (attrs.map fun b => lowered b.name).Nodup) :
    ∃ r, getAttr casing (render attrs) attr = .ok r ∧
      ∀ v, r = some v ↔ ∃ own ∈ attrs, own.Named attr ∧ trim own.value ≠ "" ∧ v = htmlDecode (trim own.value) := by
  have agrees : Agrees (getAttr casing (render attrs) attr) _ := getAttr_agrees (render attrs) attr name.ascii
  by_cases present : ∃ own ∈ attrs, own.Named attr
  · obtain ⟨own, member, named⟩ := present
    obtain ⟨before, after, rfl⟩ := List.append_of_mem member
    have read := readAttr_present name readable distinct named
    refine ⟨_, agrees (by rw [read]), fun v => ?_⟩
    rw [read, attrValue_eq_some]
    constructor
    · exact fun shown => ⟨own, member, named, shown⟩
    · rintro ⟨other, listed, same, shown⟩
      rwa [List.inj_on_of_nodup_map distinct listed member (same.trans named.symm)] at shown
  · have absent : ∀ b ∈ attrs, ¬ b.Named attr := fun b member named => present ⟨b, member, named⟩
    have read := readAttr_absent name readable absent
    refine ⟨_, agrees (by rw [read]; rfl), fun v => ?_⟩
    rw [read]
    exact iff_of_false (fun found => by cases found) fun ⟨own, member, named, _⟩ => absent own member named

end

/--
The loop over the tags of a page ends; a page whose searches go over steady text is read as it stands, without a
panic; what the search finds is there; and an attribute of a written tag is found if nothing else looks like its start.
-/
theorem preview_reads (casing : Casing) :
    (∀ html, Ends (parseOgTags casing html)) ∧
    (∀ html, (readPage casing html).steady = true → parseOgTags casing html = .ok (readPage casing html).value) ∧
    (∀ haystack start needle text i, sliceFrom haystack start = some text → Findable casing needle text →
      findCi casing haystack start needle = .ok (some i) → HasCi haystack i needle) ∧
    (∀ needle seen text, Needle needle →
      (findCi casing (seen ++ text) (utf8Len seen) needle =
          .ok ((cut fold needle.toList text).map fun place => utf8Len (seen ++ place.1)) ↔
        (search casing needle text).steady = true)) ∧
    ∀ attrs attr, AttrName attr → (attrs.map fun b : Attribute => lowered b.name).Nodup → Readable casing attrs attr →
      ∃ r, getAttr casing (render attrs) attr = .ok r ∧
        ∀ v, r = some v ↔ ∃ own ∈ attrs, own.Named attr ∧ trim own.value ≠ "" ∧ v = htmlDecode (trim own.value) :=
  ⟨parseOgTags_ends casing, parseOgTags_agrees casing, fun _ _ _ _ _ sliced findable => findCi_has sliced findable,
    fun _ _ _ plain => findCi_first_iff plain,
    fun _ _ name distinct readable => getAttr_rendered name readable distinct⟩

-- The mappings of ASCII and of the characters with one of their own in the searches; the others are left as they are.
def mappings : Casing where
  lower c := if c = 'İ' then ['i', '\u0307'] else if c = '\u212a' then ['k'] else if c = 'Σ' then ['σ'] else [c.toLower]
  endsWord _ _ := false
  ascii c below := by
    have other (d : Char) (beyond : 128 ≤ d.toNat) : c ≠ d := by
      rintro rfl
      omega
    rw [if_neg (other 'İ' (by decide)), if_neg (other '\u212a' (by decide)), if_neg (other 'Σ' (by decide))]
  sigma := by decide
  dotted := by decide
  kelvin := by decide
  beyond c above dotted kelvin := by
    rw [if_neg dotted, if_neg kelvin]
    split
    · exact ⟨List.cons_ne_nil _ _, forall_of_all (by decide)⟩
    · refine ⟨List.cons_ne_nil _ _, fun d member => ?_⟩
      rw [List.mem_singleton.mp member, ← not_lt, toLower_ascii]
      exact not_lt.mpr above

def doubleQuoted (name value : String) (filled : name ≠ "") (named : ∀ c ∈ name.toList, c ∉ ' ' :: '=' :: '>' :: quotes)
    (plain : ∀ c ∈ value.toList, c ∉ '>' :: quotes) : Attribute :=
  { name := name, quote := '"', value := value, filled := filled, named := named, quoted := by decide, plain := plain }

def content : Attribute := doubleQuoted "content" "y" (by decide) (forall_of_all (by decide)) (forall_of_all (by decide))

def dataContent : Attribute := doubleQuoted "data-content" "x" (by decide) (forall_of_all (by decide)) (forall_of_all (by decide))

-- A page with letters past ASCII, none of which changes its length, and a tag with the one attribute.
theorem preview_reads_page :
    parseOgTags mappings "<META property='og:title' content='é &amp; x'><title>t</title>İ</head>" =
        .ok (some "é & x", none, none) ∧
      ∃ r, getAttr mappings (render [content]) "content" = .ok r ∧ (r = some "y" ↔ ∃ own ∈ [content], own.Named "content" ∧
        trim own.value ≠ "" ∧ "y" = htmlDecode (trim own.value)) := by
  have reads := preview_reads mappings
  have name : AttrName "content" := ⟨by decide, forall_of_all (by decide), forall_of_all (by decide)⟩
  have alone : Readable mappings [content] "content" := by
    have only (before after : List Attribute) (b : Attribute) (split : [content] = before ++ b :: after) :
        before = [] ∧ b = content := by
      rcases List.singleton_eq_append_iff.mp split with ⟨rfl, rest⟩ | ⟨-, rest⟩
      · exact ⟨rfl, (List.cons_eq_cons.mp rest).1⟩
      · cases rest
    constructor
    · intro before own after split named
      rw [(only before after own split).1]
      decide +kernel
    · intro before b after split disturbs
      rw [(only before after b split).2] at disturbs
      rcases disturbs with ⟨-, other⟩ | ends
      · exact absurd rfl other
      · exact absurd ends (by decide +kernel)
  constructor
  · rw [reads.2.1 _ (by decide +kernel)]
    decide +kernel
  · obtain ⟨r, read, values⟩ := reads.2.2.2.2 [content] "content" name (by decide +kernel) alone
    exact ⟨r, read, values "y"⟩

-- Six characters that grow by a byte each put the tag into the middle of the last one.
theorem preview_misreads :
    (¬ ∀ html, ∃ tags, parseOgTags mappings html = .ok tags) ∧
      ¬ ∀ attrs attr, AttrName attr → (attrs.map fun b : Attribute => lowered b.name).Nodup →
        ∃ r, getAttr mappings (render attrs) attr = .ok r ∧ ∀ v, r = some v ↔
          ∃ own ∈ attrs, own.Named attr ∧ trim own.value ≠ "" ∧ v = htmlDecode (trim own.value) := by
  constructor
  · intro always
    obtain ⟨tags, read⟩ := always "İİİİİİ<metaé"
    have panics : parseOgTags mappings "İİİİİİ<metaé" = .error .panic := by decide +kernel
    rw [panics] at read
    cases read
  · intro always
    obtain ⟨r, read, values⟩ := always [dataContent, content] "content" ⟨by decide, forall_of_all (by decide), forall_of_all (by decide)⟩ (by decide +kernel)
    have other : getAttr mappings (render [dataContent, content]) "content" = .ok (some "x") := by decide +kernel
    rw [other, Except.ok.injEq] at read
    obtain ⟨own, member, named, -, value⟩ := (values "x").mp read.symm
    rcases List.mem_pair.mp member with rfl | rfl
    · exact absurd named (by unfold Attribute.Named; decide +kernel)
    · exact absurd value (by decide +kernel)

end Wavvon.Preview
