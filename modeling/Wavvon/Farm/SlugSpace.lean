import Wavvon.Farm.State

set_option autoImplicit false

namespace Wavvon.Farm

open Offsets (toLower_cases utf8Len_ascii)

section

variable {raw x y slug : String} {c : Char}

theorem slugChar_iff : slugChar c = true ↔ 65 ≤ c.toNat ∧ c.toNat ≤ 90 ∨ 97 ≤ c.toNat ∧ c.toNat ≤ 122 ∨
    48 ≤ c.toNat ∧ c.toNat ≤ 57 ∨ c.toNat = 45 ∨ c.toNat = 95 := by
  have spelled : slugChar c = (decide ('A'.val ≤ c.val ∧ c.val ≤ 'Z'.val) ||
      decide ('a'.val ≤ c.val) && decide (c.val ≤ 'z'.val) || decide ('0'.val ≤ c.val) && decide (c.val ≤ '9'.val) ||
      c == '-' || c == '_') := rfl
  have named : ∀ d : Char, c = d ↔ c.toNat = d.toNat := fun d => Char.toNat_inj.symm
  have hyphen : '-'.toNat = 45 := rfl
  have underscore : '_'.toNat = 95 := rfl
  simp only [spelled, Bool.or_eq_true, Bool.and_eq_true, decide_eq_true_eq, beq_iff_eq, UInt32.le_iff_toNat_le, named,
    hyphen, underscore, or_assoc]
  exact Iff.rfl

theorem isAsciiHexDigit_iff : isAsciiHexDigit c = true ↔ 48 ≤ c.toNat ∧ c.toNat ≤ 57 ∨
    97 ≤ c.toNat ∧ c.toNat ≤ 102 ∨ 65 ≤ c.toNat ∧ c.toNat ≤ 70 := by
  simp only [isAsciiHexDigit, Char.isDigit, Bool.or_eq_true, Bool.and_eq_true, decide_eq_true_eq, Char.le_def,
    UInt32.le_iff_toNat_le, ge_iff_le, or_assoc]
  exact Iff.rfl

theorem slugChar_plain (fits : slugChar c = true) : 32 < c.toNat ∧ c.toNat < 127 := by
  rw [slugChar_iff] at fits
  omega

theorem hexDigit_plain (fits : isAsciiHexDigit c = true) : 32 < c.toNat ∧ c.toNat < 127 := by
  rw [isAsciiHexDigit_iff] at fits
  omega

theorem normalize_plain (ok : normalize raw = .ok slug) : ∀ c ∈ slug.toList, 32 < c.toNat ∧ c.toNat < 127 := by
  obtain ⟨fitting, rfl, -⟩ := normalize_ok ok
  intro c listed
  rw [toAsciiLowercase, String.toList_ofList] at listed
  obtain ⟨typed, member, rfl⟩ := List.mem_map.mp listed
  obtain ⟨above, below⟩ := slugChar_plain (List.all_eq_true.mp fitting typed member)
  rcases toLower_cases typed with ⟨low, high, lowered⟩ | same
  · omega
  · rw [same]
    exact ⟨above, below⟩

theorem isWhitespace_plain (plain : 32 < c.toNat ∧ c.toNat < 127) : isWhitespace c = false := by
  simp only [isWhitespace, decide_eq_false_iff_not]
  omega

theorem isWhitespace_toLower (c : Char) : isWhitespace c.toLower = isWhitespace c := by
  rcases toLower_cases c with ⟨low, high, lowered⟩ | same
  · rw [isWhitespace_plain (by omega), isWhitespace_plain (by omega)]
  · rw [same]

theorem slugChar_toLower (c : Char) : slugChar c.toLower = slugChar c := by
  rw [Bool.eq_iff_iff, slugChar_iff, slugChar_iff]
  rcases toLower_cases c with ⟨low, high, lowered⟩ | same
  · omega
  · rw [same]

theorem trim_plain (plain : ∀ c ∈ x.toList, 32 < c.toNat ∧ c.toNat < 127) : trim x = x := by
  have kept : ∀ cs : List Char, (∀ c ∈ cs, 32 < c.toNat ∧ c.toNat < 127) → cs.dropWhile isWhitespace = cs := by
    intro cs shown
    cases cs with
    | nil => rfl
    | cons c rest => exact List.dropWhile_cons_of_neg (by simp [isWhitespace_plain (shown c List.mem_cons_self)])
  have back : ∀ c ∈ x.toList.reverse, 32 < c.toNat ∧ c.toNat < 127 := by
    intro c inside
    exact plain c (List.mem_reverse.mp inside)
  rw [trim, kept _ plain, kept _ back, List.reverse_reverse, String.ofList_toList]

theorem trim_toAsciiLowercase (x : String) : trim (toAsciiLowercase x) = toAsciiLowercase (trim x) := by
  have drops : ∀ cs : List Char, (cs.map Char.toLower).dropWhile isWhitespace =
      (cs.dropWhile isWhitespace).map Char.toLower := by
    intro cs
    rw [List.dropWhile_map]
    congr 2
    funext c
    exact isWhitespace_toLower c
  simp only [trim, toAsciiLowercase, String.toList_ofList, drops, ← List.map_reverse]

theorem toAsciiLowercase_length (x : String) : (toAsciiLowercase x).toList.length = x.toList.length := by
  rw [toAsciiLowercase, String.toList_ofList, List.length_map]

-- The verdict is the same whatever the capitals.
theorem normalize_toAsciiLowercase (x : String) : normalize (toAsciiLowercase x) = normalize x := by
  have chars : (toAsciiLowercase (trim x)).toList.all slugChar = (trim x).toList.all slugChar := by
    rw [toAsciiLowercase, String.toList_ofList, List.all_map]
    congr 1
    funext c
    exact slugChar_toLower c
  simp only [normalize, trim_toAsciiLowercase, toAsciiLowercase_idem, toAsciiLowercase_length, chars]

theorem normalize_stable (ok : normalize raw = .ok slug) : normalize slug = .ok slug := by
  obtain ⟨fits, lowered, -⟩ := normalize_ok ok
  have plain : trim (trim raw) = trim raw :=
    trim_plain fun c inside => slugChar_plain (List.all_eq_true.mp fits c inside)
  have trimmed : normalize (trim raw) = normalize raw := by
    simp only [normalize, plain]
  rw [lowered, normalize_toAsciiLowercase, trimmed, ok, lowered]

theorem normalize_long (long : MAX_LEN < (trim x).toList.length) : normalize x = .error .tooLong := by
  have filled : ¬ (trim x).toList.length < MIN_LEN := by
    have lengths : MIN_LEN < MAX_LEN := by decide
    omega
  rw [normalize, if_neg filled, if_pos long]

theorem utf8ByteSize_plain (plain : ∀ c ∈ x.toList, 32 < c.toNat ∧ c.toNat < 127) :
    x.utf8ByteSize = x.toList.length := by
  have size := String.utf8ByteSize_ofList x.toList
  rw [String.ofList_toList] at size
  rw [size, utf8Len_ascii fun c member => (plain c member).2.trans (by decide)]

theorem looksLikePubkey_long (key : looksLikePubkey x = true) : normalize x = .error .tooLong := by
  rw [looksLikePubkey, Bool.and_eq_true, decide_eq_true_eq, List.all_eq_true] at key
  have plain : ∀ c ∈ x.toList, 32 < c.toNat ∧ c.toNat < 127 := fun c inside => hexDigit_plain (key.2 c inside)
  refine normalize_long ?_
  rw [trim_plain plain, ← utf8ByteSize_plain plain, key.1]
  decide

end

/-- A slug is never the shape of a key, in whatever capitals it comes, and a key is never taken for a slug. -/
theorem slugs_apart (x : String) :
    (∀ slug, normalize x = .ok slug →
      normalize slug = .ok slug ∧ looksLikePubkey slug = false ∧ toAsciiLowercase slug = slug ∧
      (∀ y, toAsciiLowercase y = toAsciiLowercase x → normalize y = .ok slug) ∧
      ∀ (db : FarmDb) (segment : String), toAsciiLowercase segment = toAsciiLowercase slug →
        looksLikePubkey segment = false ∧ resolveHub db segment = (hubBySlug db slug).map (resolvedRow db)) ∧
    (looksLikePubkey x = true → ∃ e, normalize x = .error e) := by
  constructor
  · intro slug ok
    obtain ⟨-, lowered, foreign⟩ := normalize_ok ok
    have lower : toAsciiLowercase slug = slug := by
      rw [lowered, toAsciiLowercase_idem]
    refine ⟨normalize_stable ok, foreign, lower, ?_, ?_⟩
    · intro y same
      rw [← normalize_toAsciiLowercase, same, normalize_toAsciiLowercase, ok]
    · intro db segment same
      have other : looksLikePubkey segment = false := by
        rw [Bool.eq_false_iff]
        intro key
        have refused := looksLikePubkey_long key
        rw [← normalize_toAsciiLowercase, same, lower, normalize_stable ok] at refused
        cases refused
      rw [resolveHub, other, same, lower]
      exact ⟨rfl, rfl⟩
  · intro key
    exact ⟨.tooLong, looksLikePubkey_long key⟩

-- The tavern's slug in other capitals, and a key of sixty-four digits.
theorem slugs_apart_tavern :
    (normalize "tavern" = .ok "tavern" ∧ looksLikePubkey "TAVERN" = false) ∧
      ∃ e, normalize (String.ofList (List.replicate 64 '7')) = .error e := by
  have ok : normalize " Tavern" = .ok "tavern" := by decide
  have tavern := (slugs_apart " Tavern").1 "tavern" ok
  have key : looksLikePubkey (String.ofList (List.replicate 64 '7')) = true := by decide
  exact ⟨⟨tavern.1, (tavern.2.2.2.2 {} "TAVERN" (by decide)).1⟩, (slugs_apart _).2 key⟩

end Wavvon.Farm
