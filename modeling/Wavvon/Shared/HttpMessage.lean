import Mathlib.Data.List.DropRight

set_option autoImplicit false

namespace Http

abbrev Bytes := List UInt8

def hexValue (b : UInt8) : Option UInt8 :=
  if 48 ≤ b ∧ b ≤ 57 then some (b - 48)
  else if 65 ≤ b ∧ b ≤ 70 then some (b - 55)
  else if 97 ≤ b ∧ b ≤ 102 then some (b - 87)
  else none

-- A percent sign that no two hex digits follow stands for itself.
def percentDecode : Bytes → Bytes
  | 37 :: hi :: lo :: rest =>
    match hexValue hi, hexValue lo with
    | some high, some low => (high * 16 + low) :: percentDecode rest
    | _, _ => 37 :: percentDecode (hi :: lo :: rest)
  | b :: rest => b :: percentDecode rest
  | [] => []

def hasEscape : Bytes → Bool
  | 37 :: hi :: lo :: rest => ((hexValue hi).isSome && (hexValue lo).isSome) || hasEscape (hi :: lo :: rest)
  | _ :: rest => hasEscape rest
  | [] => false

theorem percentDecode_literal (text : Bytes) (literal : hasEscape text = false) : percentDecode text = text := by
  fun_induction percentDecode text with
  | case1 hi lo rest high low isHigh isLow ih =>
    rw [hasEscape, isHigh, isLow] at literal
    cases literal
  | case2 hi lo rest notBoth ih =>
    rw [hasEscape, Bool.or_eq_false_iff] at literal
    rw [ih literal.2]
  | case3 b rest plain ih =>
    rw [hasEscape.eq_2 b rest plain] at literal
    rw [ih literal]
  | case4 => rfl

theorem percentDecode_length_le (text : Bytes) : (percentDecode text).length ≤ text.length := by
  fun_induction percentDecode text with
  | case1 hi lo rest high low isHigh isLow ih =>
    simp only [List.length_cons]
    omega
  | case2 hi lo rest notBoth ih =>
    simp only [List.length_cons] at ih ⊢
    omega
  | case3 b rest plain ih =>
    simp only [List.length_cons]
    omega
  | case4 => exact Nat.le_refl _

theorem percentDecode_length_lt (text : Bytes) (escaped : hasEscape text = true) :
    (percentDecode text).length < text.length := by
  fun_induction percentDecode text with
  | case1 hi lo rest high low isHigh isLow ih =>
    have shrunk := percentDecode_length_le rest
    simp only [List.length_cons]
    omega
  | case2 hi lo rest notBoth ih =>
    rw [hasEscape] at escaped
    have later : hasEscape (hi :: lo :: rest) = true := by
      rcases Bool.or_eq_true_iff.mp escaped with both | later
      · obtain ⟨isHigh, isLow⟩ := Bool.and_eq_true_iff.mp both
        obtain ⟨high, highValue⟩ := Option.isSome_iff_exists.mp isHigh
        obtain ⟨low, lowValue⟩ := Option.isSome_iff_exists.mp isLow
        exact absurd lowValue (notBoth high low highValue)
      · exact later
    have shrunk := ih later
    simp only [List.length_cons] at shrunk ⊢
    omega
  | case3 b rest plain ih =>
    rw [hasEscape.eq_2 b rest plain] at escaped
    have shrunk := ih escaped
    simp only [List.length_cons]
    omega
  | case4 => cases escaped

abbrev Field := Bytes × Bytes

structure Head where
  method : Bytes
  target : Bytes
  fields : List Field
  deriving DecidableEq, Repr

-- "HTTP/1.1"
def httpVersion : Bytes := [72, 84, 84, 80, 47, 49, 46, 49]

def crlf : Bytes := [13, 10]

def renderField (field : Field) : Bytes := field.1 ++ [58, 32] ++ field.2 ++ crlf

def renderHead (head : Head) : Bytes :=
  head.method ++ [32] ++ head.target ++ [32] ++ httpVersion ++ crlf ++ head.fields.flatMap renderField ++ crlf

def upperByte (b : UInt8) : Bool := decide (65 ≤ b ∧ b ≤ 90)

def lowerByte (b : UInt8) : Bool := decide (97 ≤ b ∧ b ≤ 122)

def digitByte (b : UInt8) : Bool := decide (48 ≤ b ∧ b ≤ 57)

-- Letters, digits and !#$%&'*+-.^_|~ with the backquote.
def tokenByte (b : UInt8) : Bool :=
  upperByte b || lowerByte b || digitByte b ||
    decide (b ∈ [33, 35, 36, 37, 38, 39, 42, 43, 45, 46, 94, 95, 96, 124, 126])

-- No control characters and no blank.
def targetByte (b : UInt8) : Bool := decide (32 < b ∧ b ≠ 127)

def valueByte (b : UInt8) : Bool := decide (b = 9 ∨ 32 ≤ b ∧ b ≠ 127)

def blank (b : UInt8) : Bool := decide (b = 9 ∨ b = 32)

def trimBlanks (value : Bytes) : Bytes := (value.dropWhile blank).rdropWhile blank

def toLower (b : UInt8) : UInt8 := if upperByte b then b + 32 else b

-- Up to the first line break.
def takeLine : Bytes → Option (Bytes × Bytes)
  | 13 :: 10 :: rest => some ([], rest)
  | b :: rest => (takeLine rest).map fun split => (b :: split.1, split.2)
  | [] => none

def splitFirst (separator : UInt8) : Bytes → Option (Bytes × Bytes)
  | [] => none
  | b :: rest =>
    if b = separator then some ([], rest)
    else (splitFirst separator rest).map fun split => (b :: split.1, split.2)

def parseRequestLine (line : Bytes) : Option (Bytes × Bytes) := do
  let (method, rest) ← splitFirst 32 line
  let (target, version) ← splitFirst 32 rest
  if version = httpVersion ∧ method.all tokenByte ∧ target.all targetByte then some (method, target) else none

-- Names are read without regard to case.
def parseField (line : Bytes) : Option Field := do
  let (name, value) ← splitFirst 58 line
  if name ≠ [] ∧ name.all tokenByte ∧ value.all valueByte then some (name.map toLower, trimBlanks value) else none

def parseFields : Nat → Bytes → Option (List Field × Bytes)
  | 0, _ => none
  | fuel + 1, input => do
    let (line, rest) ← takeLine input
    if line = [] then some ([], rest)
    else
      let field ← parseField line
      let (fields, left) ← parseFields fuel rest
      some (field :: fields, left)

def parseHead (input : Bytes) : Option (Head × Bytes) := do
  let (line, rest) ← takeLine input
  let (method, target) ← parseRequestLine line
  let (fields, left) ← parseFields (rest.length + 1) rest
  some ({ method := method, target := target, fields := fields }, left)

def valuesOf (name : Bytes) (fields : List Field) : List Bytes :=
  (fields.filter fun field => decide (field.1 = name)).map (·.2)

-- "transfer-encoding"
def transferEncoding : Bytes := [116, 114, 97, 110, 115, 102, 101, 114, 45, 101, 110, 99, 111, 100, 105, 110, 103]

-- "content-length"
def contentLength : Bytes := [99, 111, 110, 116, 101, 110, 116, 45, 108, 101, 110, 103, 116, 104]

-- A reader waits for more: chunks, or as many bytes as were counted out.
def announcesBody (fields : List Field) : Bool :=
  !(valuesOf transferEncoding fields).isEmpty ||
    (valuesOf contentLength fields).any fun value => value.any fun b => decide (b ≠ 48)

-- The bytes are one request that has no body, and nothing follows it.
def soleRequest (input : Bytes) : Option Head :=
  match parseHead input with
  | some (head, []) => if announcesBody head.fields then none else some head
  | _ => none

/-- What a reader of the protocol takes for one field. -/
structure FieldFits (field : Field) : Prop where
  named : field.1 ≠ []
  name : ∀ b ∈ field.1, tokenByte b = true
  lower : field.1.map toLower = field.1
  value : ∀ b ∈ field.2, valueByte b = true
  trimmed : trimBlanks field.2 = field.2

structure HeadFits (head : Head) : Prop where
  method : ∀ b ∈ head.method, tokenByte b = true
  target : ∀ b ∈ head.target, targetByte b = true
  fields : ∀ field ∈ head.fields, FieldFits field

theorem takeLine_append {line : Bytes} (unbroken : (13 : UInt8) ∉ line) (rest : Bytes) :
    takeLine (line ++ crlf ++ rest) = some (line, rest) := by
  induction line with
  | nil => rfl
  | cons b line ih =>
    obtain ⟨first, later⟩ := List.ne_and_not_mem_of_not_mem_cons unbroken
    have step : takeLine (b :: (line ++ crlf ++ rest)) =
        (takeLine (line ++ crlf ++ rest)).map fun split => (b :: split.1, split.2) := by
      refine takeLine.eq_2 b _ fun _ same _ => first same.symm
    rw [List.cons_append, List.cons_append, step, ih later]
    rfl

theorem takeLine_eq {input line rest : Bytes} (taken : takeLine input = some (line, rest)) :
    input = line ++ crlf ++ rest := by
  fun_induction takeLine input generalizing line with
  | case1 rest =>
    cases taken
    rfl
  | case2 b more unbroken ih =>
    obtain ⟨⟨front, back⟩, split, same⟩ := Option.map_eq_some_iff.mp taken
    cases same
    rw [ih split]
    rfl
  | case3 => cases taken

theorem splitFirst_append {separator : UInt8} {front : Bytes} (free : separator ∉ front) (back : Bytes) :
    splitFirst separator (front ++ separator :: back) = some (front, back) := by
  induction front with
  | nil => simp [splitFirst]
  | cons b front ih =>
    obtain ⟨first, later⟩ := List.ne_and_not_mem_of_not_mem_cons free
    rw [List.cons_append, splitFirst, if_neg (Ne.symm first), ih later]
    rfl

theorem splitFirst_eq {separator : UInt8} {text front back : Bytes}
    (split : splitFirst separator text = some (front, back)) :
    text = front ++ separator :: back ∧ separator ∉ front := by
  induction text generalizing front with
  | nil => cases split
  | cons b text ih =>
    unfold splitFirst at split
    by_cases here : b = separator
    · rw [if_pos here] at split
      cases split
      exact ⟨by rw [here, List.nil_append], List.not_mem_nil⟩
    · rw [if_neg here] at split
      obtain ⟨⟨more, left⟩, found, same⟩ := Option.map_eq_some_iff.mp split
      cases same
      obtain ⟨rfl, free⟩ := ih found
      exact ⟨rfl, List.not_mem_cons_of_ne_of_not_mem (Ne.symm here) free⟩

theorem not_mem_of_all {p : UInt8 → Bool} {bytes : Bytes} (all : ∀ b ∈ bytes, p b = true) {b : UInt8}
    (fails : p b = false) :
    b ∉ bytes := by
  intro member
  rw [all b member] at fails
  cases fails

-- The blank after the colon goes with the value's own.
theorem trimBlanks_blank (value : Bytes) : trimBlanks (32 :: value) = trimBlanks value := by
  rw [trimBlanks, List.dropWhile_cons_of_pos (by decide)]
  rfl

theorem parseField_render {field : Field} (fits : FieldFits field) :
    parseField (field.1 ++ [58, 32] ++ field.2) = some field := by
  have line : field.1 ++ [58, 32] ++ field.2 = field.1 ++ 58 :: (32 :: field.2) := by simp
  have free : (58 : UInt8) ∉ field.1 := not_mem_of_all fits.name (by decide)
  have values : (32 :: field.2).all valueByte = true := by
    rw [List.all_cons, List.all_eq_true.mpr fits.value]
    rfl
  have checked : field.1 ≠ [] ∧ field.1.all tokenByte = true ∧ (32 :: field.2).all valueByte = true :=
    ⟨fits.named, List.all_eq_true.mpr fits.name, values⟩
  rw [parseField, line, splitFirst_append free, Option.bind_eq_bind, Option.bind_some]
  dsimp only
  rw [if_pos checked, fits.lower, trimBlanks_blank, fits.trimmed]

theorem parseFields_render {fields : List Field} (fits : ∀ field ∈ fields, FieldFits field) (rest : Bytes) (fuel : Nat)
    (enough : fields.length < fuel) : parseFields fuel (fields.flatMap renderField ++ crlf ++ rest) = some (fields,
    rest) := by
  induction fields generalizing fuel with
  | nil =>
    obtain ⟨fuel, rfl⟩ := Nat.exists_eq_succ_of_ne_zero (Nat.pos_iff_ne_zero.mp enough)
    rfl
  | cons field fields ih =>
    obtain ⟨fuel, rfl⟩ := Nat.exists_eq_succ_of_ne_zero (Nat.ne_of_gt (Nat.lt_of_le_of_lt (Nat.zero_le _) enough))
    obtain ⟨first, later⟩ := List.forall_mem_cons.mp fits
    have unbroken : (13 : UInt8) ∉ field.1 ++ [58, 32] ++ field.2 := by
      have name : (13 : UInt8) ∉ field.1 := not_mem_of_all first.name (by decide)
      have value : (13 : UInt8) ∉ field.2 := not_mem_of_all first.value (by decide)
      simp [name, value]
    have text : (field :: fields).flatMap renderField ++ crlf ++ rest =
        (field.1 ++ [58, 32] ++ field.2) ++ crlf ++ (fields.flatMap renderField ++ crlf ++ rest) := by
      simp [renderField, List.flatMap_cons]
    have taken : field.1 ++ [58, 32] ++ field.2 ≠ [] := by simp
    have others := ih later fuel (Nat.lt_of_succ_lt_succ enough)
    rw [text, parseFields, takeLine_append unbroken, Option.bind_eq_bind, Option.bind_some]
    dsimp only
    rw [if_neg taken, parseField_render first, Option.bind_eq_bind, Option.bind_some, others]
    rfl

theorem length_le_rendered (fields : List Field) : fields.length ≤ (fields.flatMap renderField).length := by
  induction fields with
  | nil => exact Nat.le_refl _
  | cons field fields ih =>
    simp only [List.length_cons, List.flatMap_cons, List.length_append, renderField, crlf, List.length_nil]
    omega

/-- A head that fits reads back as it was written. -/
theorem parseHead_render {head : Head} (fits : HeadFits head) (rest : Bytes) :
    parseHead (renderHead head ++ rest) = some (head, rest) := by
  have text : renderHead head ++ rest =
      (head.method ++ 32 :: (head.target ++ 32 :: httpVersion)) ++ crlf ++ (head.fields.flatMap renderField ++ crlf ++ rest) := by
    simp [renderHead]
  have method : (13 : UInt8) ∉ head.method := not_mem_of_all fits.method (by decide)
  have target : (13 : UInt8) ∉ head.target := not_mem_of_all fits.target (by decide)
  have unbroken : (13 : UInt8) ∉ head.method ++ 32 :: (head.target ++ 32 :: httpVersion) := by
    simp [method, target, httpVersion]
  have words : parseRequestLine (head.method ++ 32 :: (head.target ++ 32 :: httpVersion)) = some (head.method,
    head.target) := by
    rw [parseRequestLine, splitFirst_append (not_mem_of_all fits.method (by decide)), Option.bind_eq_bind,
      Option.bind_some]
    dsimp only
    rw [splitFirst_append (not_mem_of_all fits.target (by decide)), Option.bind_some]
    exact if_pos ⟨rfl, List.all_eq_true.mpr fits.method, List.all_eq_true.mpr fits.target⟩
  have enough : head.fields.length < (head.fields.flatMap renderField ++ crlf ++ rest).length + 1 := by
    have counted := length_le_rendered head.fields
    simp only [List.length_append]
    omega
  rw [text, parseHead, takeLine_append unbroken, Option.bind_eq_bind, Option.bind_some]
  dsimp only
  rw [words, Option.bind_eq_bind, Option.bind_some]
  dsimp only
  rw [parseFields_render fits.fields rest _ enough]
  rfl

theorem front_unique {separator : UInt8} {front other back rest : Bytes}
    (same : front ++ separator :: back = other ++ separator :: rest)
    (free : separator ∉ front) (free' : separator ∉ other) : front = other ∧ back = rest := by
  have split := splitFirst_append free back
  rw [same, splitFirst_append free' rest] at split
  cases split
  exact ⟨rfl, rfl⟩

theorem front_length_le {separator : UInt8} {front other back rest : Bytes}
    (same : front ++ separator :: back = other ++ separator :: rest) (free : separator ∉ front) :
    front.length ≤ other.length := by
  induction front generalizing other with
  | nil => exact Nat.zero_le _
  | cons b front ih =>
    cases other with
    | nil =>
      obtain ⟨here, -⟩ := List.cons_eq_cons.mp same
      exact absurd (here ▸ List.mem_cons_self) free
    | cons c other =>
      obtain ⟨-, later⟩ := List.cons_eq_cons.mp same
      have shorter := ih later (fun member => free (List.mem_cons_of_mem _ member))
      simp only [List.length_cons]
      omega

/-- The target that is read is no longer than what was written between the blanks. -/
theorem target_length_le {input method text rest left : Bytes} {head : Head}
    (parsed : parseHead input = some (head, left)) (written : input = method ++ 32 :: (text ++ 32 :: rest))
    (free : (32 : UInt8) ∉ method) : head.target.length ≤ text.length := by
  rw [parseHead, Option.bind_eq_bind] at parsed
  obtain ⟨⟨line, more⟩, taken, parsed⟩ := Option.bind_eq_some_iff.mp parsed
  dsimp only at parsed
  obtain ⟨⟨readMethod, target⟩, words, parsed⟩ := Option.bind_eq_some_iff.mp parsed
  dsimp only at parsed
  obtain ⟨⟨fields, leftover⟩, -, parsed⟩ := Option.bind_eq_some_iff.mp parsed
  cases parsed
  rw [parseRequestLine, Option.bind_eq_bind] at words
  obtain ⟨⟨first, others⟩, split, words⟩ := Option.bind_eq_some_iff.mp words
  dsimp only at words
  obtain ⟨⟨second, version⟩, splitAgain, words⟩ := Option.bind_eq_some_iff.mp words
  simp only [Option.ite_none_right_eq_some, Option.some.injEq, Prod.mk.injEq] at words
  obtain ⟨-, rfl, rfl⟩ := words
  obtain ⟨rfl, clear⟩ := splitFirst_eq split
  obtain ⟨rfl, apart⟩ := splitFirst_eq splitAgain
  have bytes := takeLine_eq taken
  rw [written] at bytes
  simp only [List.append_assoc, List.cons_append] at bytes
  obtain ⟨-, texts⟩ := front_unique bytes.symm clear free
  exact front_length_le texts apart

theorem soleRequest_render {head : Head} (fits : HeadFits head) :
    soleRequest (renderHead head) = if announcesBody head.fields then none else some head := by
  have parsed := parseHead_render fits []
  rw [List.append_nil] at parsed
  rw [soleRequest, parsed]

theorem soleRequest_parsed {input : Bytes} {head : Head} (sole : soleRequest input = some head) :
    parseHead input = some (head, []) := by
  unfold soleRequest at sole
  split at sole
  next found parsed =>
    simp only [Option.ite_none_left_eq_some, Option.some.injEq] at sole
    obtain ⟨-, rfl⟩ := sole
    exact parsed
  next => cases sole

theorem trimBlanks_free {value : Bytes} (free : ∀ b ∈ value, blank b = false) : trimBlanks value = value := by
  have front : value.dropWhile blank = value := by
    cases value with
    | nil => rfl
    | cons b rest => exact List.dropWhile_cons_of_neg (by simp [free b List.mem_cons_self])
  rw [trimBlanks, front, List.rdropWhile_eq_self_iff]
  intro some'
  simp [free _ (List.getLast_mem some')]

theorem announcesBody_congr {fields others : List Field}
    (same : ∀ name, name = transferEncoding ∨ name = contentLength → valuesOf name fields = valuesOf name others) :
    announcesBody fields = announcesBody others := by
  rw [announcesBody, announcesBody, same _ (.inl rfl), same _ (.inr rfl)]

end Http
