import Wavvon.Hub.Database
import Wavvon.Shared.Patterns

set_option autoImplicit false

namespace Wavvon.Farm

open Patterns (FirstAt position splitOn)

abbrev Octets := List UInt8

/-- What a read of the stream answers: bytes, none at its end, or an error. -/
structure ReadError where
  kind : String
  text : String
  deriving DecidableEq, Repr

structure ResponseHead where
  status : Nat
  headers : List (String × String)
  deriving DecidableEq, Repr

def doubleCrlf : Octets := [13, 10, 13, 10]

def findDoubleCrlf (buf : Octets) : Option Nat := position doubleCrlf buf

def replacement : Char := Char.ofNat 0xFFFD

def isContinuation (b : UInt8) : Bool := decide (0x80 ≤ b ∧ b ≤ 0xBF)

-- The second bytes that keep a sequence shortest and out of the surrogates.
def secondFits (a b : UInt8) : Bool :=
  if a = 0xE0 then decide (0xA0 ≤ b ∧ b ≤ 0xBF)
  else if a = 0xED then decide (0x80 ≤ b ∧ b ≤ 0x9F)
  else if a = 0xF0 then decide (0x90 ≤ b ∧ b ≤ 0xBF)
  else if a = 0xF4 then decide (0x80 ≤ b ∧ b ≤ 0x8F)
  else isContinuation b

def low6 (b : UInt8) : Nat := b.toNat % 64

-- The character that a byte begins, and how many bytes more it takes; a sequence that breaks off is replaced as a whole.
def charAt (a : UInt8) (rest : Octets) : Char × Nat :=
  if a < 0x80 then (Char.ofNat a.toNat, 0)
  else
    match rest with
    | b :: more =>
      if 0xC2 ≤ a ∧ a ≤ 0xDF then
        if isContinuation b then (Char.ofNat (a.toNat % 32 * 64 + low6 b), 1) else (replacement, 0)
      else if 0xE0 ≤ a ∧ a ≤ 0xF4 ∧ secondFits a b then
        match more with
        | c :: last =>
          if isContinuation c then
            if a ≤ 0xEF then (Char.ofNat (a.toNat % 16 * 4096 + low6 b * 64 + low6 c), 2)
            else
              match last with
              | d :: _ =>
                if isContinuation d then
                  (Char.ofNat (a.toNat % 8 * 262144 + low6 b * 4096 + low6 c * 64 + low6 d), 3)
                else (replacement, 2)
              | [] => (replacement, 2)
          else (replacement, 1)
        | [] => (replacement, 1)
      else (replacement, 0)
    | [] => (replacement, 0)

def lossyFrom : Nat → Octets → List Char
  | _, [] => []
  | skip + 1, _ :: rest => lossyFrom skip rest
  | 0, a :: rest => (charAt a rest).1 :: lossyFrom (charAt a rest).2 rest

-- `String::from_utf8_lossy`
def fromUtf8Lossy (bytes : Octets) : List Char := lossyFrom 0 bytes

def splitOnce (c : Char) (line : List Char) : Option (String × String) :=
  match line.span (· ≠ c) with
  | (_, []) => none
  | (name, _ :: value) => some (String.ofList name, String.ofList value)

def words (line : List Char) : List (List Char) := (line.splitOnP isWhitespace).filter (· ≠ [])

def readStatus (line : List Char) : Nat :=
  (words line)[1]?.bind (fun word => parseUnsigned (2 ^ 16) (String.ofList word)) |>.getD 502

def parseResponseHead (bytes : Octets) : ResponseHead :=
  let lines := splitOn ['\r', '\n'] (fromUtf8Lossy bytes)
  { status := readStatus (lines.headD [])
    headers := ((lines.tail.filter (· ≠ [])).filterMap (splitOnce ':')).map fun field => (trim field.1, trim field.2) }

def closedEarly : ReadError := ⟨"UnexpectedEof", "hub closed connection during upgrade handshake"⟩

def tooLarge : ReadError := ⟨"InvalidData", "upgrade response headers too large"⟩

-- The reads that are left are what the stream still holds.
def headLoop (buf : Octets) : List (Except ReadError Octets) →
    Except ReadError (Nat × Octets) × List (Except ReadError Octets)
  | [] => (.error closedEarly, [])
  | .error e :: reads => (.error e, reads)
  | .ok chunk :: reads =>
    if chunk = [] then (.error closedEarly, reads)
    else
      let buf := buf ++ chunk
      match findDoubleCrlf buf with
      | some pos => (.ok (pos + 4, buf), reads)
      | none => if 64 * 1024 < buf.length then (.error tooLarge, reads) else headLoop buf reads

def readResponseHead (stream : List (Except ReadError Octets)) :
    Except ReadError (ResponseHead × Octets) × List (Except ReadError Octets) :=
  match headLoop [] stream with
  | (.error e, rest) => (.error e, rest)
  | (.ok (headerEnd, buf), rest) => (.ok (parseResponseHead (buf.take headerEnd), buf.drop headerEnd), rest)

example : parseResponseHead ([72, 84, 84, 80, 47, 49, 46, 49, 32, 49, 48, 49, 32, 13, 10, 85, 58, 32, 0xC3, 0xA9, 13, 10,
    13, 10] : Octets) = { status := 101, headers := [("U", "é")] } := by decide +kernel

/-- A stream that hands over these bytes in reads of its own choice, as the buffer of 512 bytes lets it. -/
structure Cut (b : Octets) (reads : List Octets) : Prop where
  whole : reads.flatten = b
  sizes : ∀ chunk ∈ reads, chunk ≠ [] ∧ chunk.length ≤ 512

section

variable {b buf : Octets} {reads : List Octets}

-- The search starts over on the grown buffer: it first succeeds with the read that brings the last of the four bytes.
theorem headLoop_found {i : Nat} (fits : i + 4 ≤ 64 * 1024) (filled : ∀ chunk ∈ reads, chunk ≠ [])
    (first : FirstAt doubleCrlf (buf ++ reads.flatten) i) (unfound : buf.length < i + 4) :
    ∃ front rest, reads = front ++ rest ∧ i + 4 ≤ (buf ++ front.flatten).length ∧
      headLoop buf (reads.map .ok) = (.ok (i + 4, buf ++ front.flatten), rest.map .ok) := by
  induction reads generalizing buf with
  | nil =>
    have room := first.here.length_le
    rw [List.flatten_nil, List.append_nil, List.length_drop] at room
    have four : doubleCrlf.length = 4 := rfl
    omega
  | cons chunk reads ih =>
    obtain ⟨byte, later⟩ := List.forall_mem_cons.mp filled
    rw [List.flatten_cons, ← List.append_assoc] at first
    rw [List.map_cons, headLoop, if_neg byte]
    by_cases whole : i + 4 ≤ (buf ++ chunk).length
    · have found : findDoubleCrlf (buf ++ chunk) = some i := Patterns.position_front first whole
      refine ⟨[chunk], reads, rfl, ?_, ?_⟩
      · rw [List.flatten_singleton]
        exact whole
      · dsimp only
        rw [found, List.flatten_singleton]
    · have missing : findDoubleCrlf (buf ++ chunk) = none :=
        Patterns.position_front_none (by decide) first (by rw [show doubleCrlf.length = 4 from rfl]; omega)
      obtain ⟨front, rest, rfl, room, done⟩ := ih later first (by omega)
      refine ⟨chunk :: front, rest, rfl, ?_, ?_⟩
      · rw [List.flatten_cons, ← List.append_assoc]
        exact room
      · dsimp only
        rw [missing, if_neg (by omega), done, List.flatten_cons, List.append_assoc]

theorem headLoop_missing (missing : ¬ doubleCrlf <:+: buf ++ reads.flatten) :
    ∃ e, (headLoop buf (reads.map .ok)).1 = .error e := by
  induction reads generalizing buf with
  | nil => exact ⟨closedEarly, rfl⟩
  | cons chunk reads ih =>
    rw [List.flatten_cons, ← List.append_assoc] at missing
    rw [List.map_cons, headLoop]
    split
    · exact ⟨closedEarly, rfl⟩
    · have unfound : findDoubleCrlf (buf ++ chunk) = none :=
        Patterns.position_eq_none.mpr fun inside => missing (inside.trans (List.prefix_append _ _).isInfix)
      dsimp only
      rw [unfound]
      dsimp only
      split
      · exact ⟨tooLarge, rfl⟩
      · exact ih missing

end

/--
However the stream hands it over, a head that ends within the limit is read as it stands, and what
was read beyond it, followed by what was not read, is what came after it; without an end the answer
is an error.
-/
theorem readResponseHead_cut (b : Octets) (reads : List Octets) (cut : Cut b reads) :
    (∀ i, FirstAt doubleCrlf b i → i + 4 ≤ 65536 → ∃ (leftover : Octets) (rest : List Octets),
      readResponseHead (reads.map .ok) = (.ok (parseResponseHead (b.take (i + 4)), leftover), rest.map .ok) ∧
        leftover ++ rest.flatten = b.drop (i + 4)) ∧
    (¬ doubleCrlf <:+: b → ∃ e, (readResponseHead (reads.map .ok)).1 = .error e) := by
  obtain ⟨rfl, sizes⟩ := cut
  constructor
  · intro i first fits
    have start : FirstAt doubleCrlf ([] ++ reads.flatten) i := first
    obtain ⟨front, rest, rfl, room, done⟩ := headLoop_found fits (fun chunk member => (sizes chunk member).1)
      start (Nat.succ_pos _)
    rw [List.nil_append] at room done
    refine ⟨front.flatten.drop (i + 4), rest, ?_, ?_⟩
    · rw [readResponseHead, done, List.flatten_append, List.take_append_of_le_length room]
    · rw [List.flatten_append, List.drop_append_of_le_length room]
  · intro missing
    have absent : ¬ doubleCrlf <:+: [] ++ reads.flatten := missing
    obtain ⟨e, failed⟩ := headLoop_missing absent
    refine ⟨e, ?_⟩
    unfold readResponseHead
    split
    next answered =>
      rw [answered] at failed
      cases failed
      rfl
    next answered =>
      rw [answered] at failed
      cases failed

-- "HTTP/1.1 101 S\r\nA:b\r\n\r\n" and two bytes of the upgraded protocol.
def switching : Octets :=
  [72, 84, 84, 80, 47, 49, 46, 49, 32, 49, 48, 49, 32, 83, 13, 10, 65, 58, 98, 13, 10, 13, 10, 129, 0]

-- The end is torn apart by the second read, and the third brings a frame along.
theorem readResponseHead_cut_switching : ∃ (leftover : Octets) (rest : List Octets),
    readResponseHead ([switching.take 7, (switching.drop 7).take 14, switching.drop 21].map .ok) =
      (.ok ({ status := 101, headers := [("A", "b")] }, leftover), rest.map .ok) ∧ leftover ++ rest.flatten = [129, 0] := by
  have cut : Cut switching [switching.take 7, (switching.drop 7).take 14, switching.drop 21] :=
    ⟨by decide, by decide⟩
  have first : FirstAt doubleCrlf switching 19 := ⟨by decide, by decide⟩
  obtain ⟨leftover, rest, answered, replayed⟩ := (readResponseHead_cut switching _ cut).1 19 first (by decide)
  have parsed : parseResponseHead (switching.take (19 + 4)) = { status := 101, headers := [("A", "b")] } := by
    decide +kernel
  rw [parsed] at answered
  exact ⟨leftover, rest, answered, replayed⟩

end Wavvon.Farm
