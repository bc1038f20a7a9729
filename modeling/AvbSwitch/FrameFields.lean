/-
Reading the fields of a frame back after stores into it.

A field is read from the octets it covers: it is what was stored there last, and it is left
alone by what is stored elsewhere.  The lemmas are meant for
`simp (disch := omega) only [...]`, with the addresses given as numbers.
-/
import AvbSwitch.PortAnnounce

open Octets

namespace Gptp

variable {m m' : Mem} {a b v : ℕ} {x : UInt8} {xs : List UInt8} {c : ClockIdentity}

/-! ### Two octets -/

theorem shortAt_congr (h : ∀ k, a ≤ k → k < a + 2 → m' k = m k) : shortAt m' a = shortAt m a := by
  rw [shortAt, shortAt, h a (by omega) (by omega), h (a + 1) (by omega) (by omega)]

theorem shortAt_put2_same : shortAt (put2 m a v) a = Short.put v := by
  rw [shortAt, Short.put, put2, put_other (by omega), put_same, put_same]

theorem shortAt_put (h : b < a ∨ a + 2 ≤ b) : shortAt (put m b x) a = shortAt m a :=
  shortAt_congr fun _ _ _ => put_other (by omega)

theorem shortAt_put2 (h : b + 2 ≤ a ∨ a + 2 ≤ b) : shortAt (put2 m b v) a = shortAt m a := by
  rw [put2, shortAt_put (by omega), shortAt_put (by omega)]

theorem shortAt_putList (h : b + xs.length ≤ a ∨ a + 2 ≤ b) :
    shortAt (putList m b xs) a = shortAt m a :=
  shortAt_congr fun _ _ _ => putList_frame (by omega)

/-- A value of sixteen bits comes back. -/
theorem Short.get_put (h : v < 65536) : (Short.put v).get = v := by
  rw [Short.get, Short.put, UInt8.toNat_ofNat', UInt8.toNat_ofNat']
  omega

theorem Short.put_get {s : Short} : Short.put s.get = s := by
  obtain ⟨hi, lo⟩ := s
  have hhi := hi.toNat_lt
  have hlo := lo.toNat_lt
  rw [Short.put, Short.get, Short.mk.injEq, ← UInt8.toNat_inj, ← UInt8.toNat_inj,
    UInt8.toNat_ofNat', UInt8.toNat_ofNat']
  constructor <;> simp only <;> omega

theorem Short.get_lt {s : Short} : s.get < 65536 := by
  have hhi := s.hi.toNat_lt
  have hlo := s.lo.toNat_lt
  rw [Short.get]
  omega

theorem Short.get_inj {s s' : Short} : s.get = s'.get ↔ s = s' := by
  constructor
  · intro h
    rw [← @Short.put_get s, ← @Short.put_get s', h]
  · exact fun h => h ▸ rfl

/-- Of a larger value the low sixteen bits come back. -/
theorem Short.get_put_mod : (Short.put v).get = v % 65536 := by
  rw [Short.get, Short.put, UInt8.toNat_ofNat', UInt8.toNat_ofNat']
  omega

/-! ### Eight octets -/

theorem clockIdentityAt_congr (h : ∀ k, a ≤ k → k < a + 8 → m' k = m k) :
    clockIdentityAt m' a = clockIdentityAt m a := by
  rw [clockIdentityAt, clockIdentityAt]
  exact congrArg _ (funext fun k => h _ (by omega) (by omega))

theorem clockIdentityAt_putList_same : clockIdentityAt (putList m a c.toList) a = c := by
  rw [clockIdentityAt]
  ext k hk
  rw [Vector.getElem_ofFn, holds_putList.getElem (by rwa [Vector.length_toList]),
    Vector.getElem_toList]

theorem clockIdentityAt_put (h : b < a ∨ a + 8 ≤ b) :
    clockIdentityAt (put m b x) a = clockIdentityAt m a :=
  clockIdentityAt_congr fun _ _ _ => put_other (by omega)

theorem clockIdentityAt_put2 (h : b + 2 ≤ a ∨ a + 8 ≤ b) :
    clockIdentityAt (put2 m b v) a = clockIdentityAt m a := by
  rw [put2, clockIdentityAt_put (by omega), clockIdentityAt_put (by omega)]

theorem clockIdentityAt_putList (h : b + xs.length ≤ a ∨ a + 8 ≤ b) :
    clockIdentityAt (putList m b xs) a = clockIdentityAt m a :=
  clockIdentityAt_congr fun _ _ _ => putList_frame (by omega)

end Gptp
