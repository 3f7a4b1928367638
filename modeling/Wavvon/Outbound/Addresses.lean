import Mathlib.Tactic.Common

set_option autoImplicit false

namespace Wavvon.Outbound

structure Ipv4Addr where
  octets : BitVec 8 × BitVec 8 × BitVec 8 × BitVec 8
  deriving DecidableEq

/-- The eight segments of an address. -/
structure Ipv6Addr where
  s0 : BitVec 16
  s1 : BitVec 16
  s2 : BitVec 16
  s3 : BitVec 16
  s4 : BitVec 16
  s5 : BitVec 16
  s6 : BitVec 16
  s7 : BitVec 16
  deriving DecidableEq

inductive IpAddr where
  | v4 (addr : Ipv4Addr)
  | v6 (addr : Ipv6Addr)
  deriving DecidableEq

-- Two segments as four octets, the high one of each first.
def Ipv4Addr.ofSegments (hi lo : BitVec 16) : Ipv4Addr where
  octets := ((hi >>> 8).setWidth 8, hi.setWidth 8, (lo >>> 8).setWidth 8, lo.setWidth 8)

def Ipv6Addr.toIpv4Mapped (a : Ipv6Addr) : Option Ipv4Addr :=
  if a.s0 = 0 ∧ a.s1 = 0 ∧ a.s2 = 0 ∧ a.s3 = 0 ∧ a.s4 = 0 ∧ a.s5 = 0xffff then some (.ofSegments a.s6 a.s7) else none

def isGlobalV4 (a : Ipv4Addr) : Bool :=
  match a.octets with
  | (o0, o1, o2, _) =>
    !(o0 == 0
      || o0 == 10
      || (o0 == 100 && (o1 &&& 0xc0) == 64)
      || o0 == 127
      || (o0 == 169 && o1 == 254)
      || (o0 == 172 && (o1 &&& 0xf0) == 16)
      || (o0 == 192 && o1 == 0 && o2 == 0)
      || (o0 == 192 && o1 == 0 && o2 == 2)
      || (o0 == 192 && o1 == 168)
      || (o0 == 198 && (o1 &&& 0xfe) == 18)
      || (o0 == 198 && o1 == 51 && o2 == 100)
      || (o0 == 203 && o1 == 0 && o2 == 113)
      || decide (224 ≤ o0))

def Ipv6Addr.isNat64 (a : Ipv6Addr) : Prop :=
  a.s0 = 0x64 ∧ a.s1 = 0xff9b ∧ a.s2 = 0 ∧ a.s3 = 0 ∧ a.s4 = 0 ∧ a.s5 = 0

instance (a : Ipv6Addr) : Decidable a.isNat64 := inferInstanceAs (Decidable (_ ∧ _))

def isPrivateIp : IpAddr → Bool
  | .v4 addr => !isGlobalV4 addr
  | .v6 addr =>
    match addr.toIpv4Mapped with
    | some embedded => !isGlobalV4 embedded
    | none =>
      if addr.isNat64 then !isGlobalV4 (.ofSegments addr.s6 addr.s7)
      else if addr.s0 &&& 0xe000 ≠ 0x2000 then true
      else (addr.s0 == 0x2001 && addr.s1 == 0x0db8) || addr.s0 == 0x2002

/-- The standard ways for an IPv6 address to carry an IPv4 address. -/
inductive Embeds : Ipv6Addr → Ipv4Addr → Prop where
  | mapped (hi lo : BitVec 16) : Embeds ⟨0, 0, 0, 0, 0, 0xffff, hi, lo⟩ (.ofSegments hi lo)
  | compatible (hi lo : BitVec 16) : Embeds ⟨0, 0, 0, 0, 0, 0, hi, lo⟩ (.ofSegments hi lo)
  | nat64 (hi lo : BitVec 16) : Embeds ⟨0x64, 0xff9b, 0, 0, 0, 0, hi, lo⟩ (.ofSegments hi lo)
  | sixToFour (hi lo s3 s4 s5 s6 s7 : BitVec 16) : Embeds ⟨0x2002, hi, lo, s3, s4, s5, s6, s7⟩ (.ofSegments hi lo)
  -- Teredo writes the address of the client with all its bits flipped.
  | teredo (s2 s3 s4 s5 hi lo : BitVec 16) :
    Embeds ⟨0x2001, 0, s2, s3, s4, s5, hi, lo⟩ (.ofSegments (~~~hi) (~~~lo))

def Ipv6Addr.teredoClient (a : Ipv6Addr) : Option Ipv4Addr :=
  if a.s0 = 0x2001 ∧ a.s1 = 0 then some (.ofSegments (~~~a.s6) (~~~a.s7)) else none

section

variable {a : Ipv6Addr} {v4 : Ipv4Addr}

-- What is left of the checks for an address in 2000::/3.
theorem isPrivateIp_unicast {s : BitVec 16} (first : a.s0 = s) (unicast : s &&& 0xe000 = 0x2000) (mapped : s ≠ 0)
    (nat64 : s ≠ 0x64) : isPrivateIp (.v6 a) = ((s == 0x2001 && a.s1 == 0x0db8) || s == 0x2002) := by
  subst first
  have plain : a.toIpv4Mapped = none := if_neg fun held => mapped held.1
  have apart : ¬ a.isNat64 := fun held => nat64 held.1
  rw [isPrivateIp, plain]
  dsimp only
  rw [if_neg apart, if_neg (not_not.mpr unicast)]

-- Every form but Teredo is refused with the address it embeds.
theorem Embeds.judged (embeds : Embeds a v4) (inside : isGlobalV4 v4 = false) :
    isPrivateIp (.v6 a) = true ∨ a.teredoClient = some v4 := by
  cases embeds with
  | mapped hi lo =>
    refine .inl ?_
    rw [isPrivateIp, Ipv6Addr.toIpv4Mapped, if_pos (by simp)]
    simp [inside]
  | compatible hi lo => exact .inl (by simp [isPrivateIp, Ipv6Addr.toIpv4Mapped, Ipv6Addr.isNat64])
  | nat64 hi lo =>
    refine .inl ?_
    simp [isPrivateIp, Ipv6Addr.toIpv4Mapped, Ipv6Addr.isNat64, inside]
  | sixToFour hi lo s3 s4 s5 s6 s7 =>
    refine .inl ?_
    rw [isPrivateIp_unicast (s := 0x2002) rfl (by decide) (by decide) (by decide)]
    exact Bool.or_eq_true_iff.mpr (.inr (by decide))
  | teredo s2 s3 s4 s5 hi lo => exact .inr (if_pos ⟨rfl, rfl⟩)

theorem teredo_allowed {client : Ipv4Addr} (tunnels : a.teredoClient = some client) :
    Embeds a client ∧ isPrivateIp (.v6 a) = false := by
  obtain ⟨s0, s1, s2, s3, s4, s5, s6, s7⟩ := a
  unfold Ipv6Addr.teredoClient at tunnels
  split at tunnels
  next prefixed =>
    obtain ⟨rfl, rfl⟩ : s0 = 0x2001 ∧ s1 = 0 := prefixed
    cases tunnels
    refine ⟨.teredo s2 s3 s4 s5 s6 s7, ?_⟩
    rw [isPrivateIp_unicast (s := 0x2001) rfl (by decide) (by decide) (by decide)]
    show ((0x2001 : BitVec 16) == 0x2001 && (0 : BitVec 16) == 0x0db8 || (0x2001 : BitVec 16) == 0x2002) = false
    decide
  next => cases tunnels

-- An address that hides an inner one is refused, unless a Teredo tunnel hides it.
theorem embedded_refused_iff (a : Ipv6Addr) :
    (∀ v4, Embeds a v4 → isGlobalV4 v4 = false → isPrivateIp (.v6 a) = true) ↔
      ∀ client ∈ a.teredoClient, isGlobalV4 client = true := by
  constructor
  · intro refused client tunnels
    obtain ⟨embeds, allowed⟩ := teredo_allowed tunnels
    by_contra inside
    have private_ := refused client embeds (Bool.not_eq_true _ ▸ inside)
    rw [allowed] at private_
    cases private_
  · intro outside v4 embeds inside
    obtain judged | tunnels := embeds.judged inside
    · exact judged
    · rw [outside v4 tunnels] at inside
      cases inside

end

end Wavvon.Outbound
