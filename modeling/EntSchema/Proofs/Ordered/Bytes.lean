import EntSchema.Proofs.Schema.Literals
import Mathlib.Data.String.Basic

/-!
# The order of bytes

Texts are compared character by character. That is how their bytes compare, too. A character is
written in one to four bytes, and the first byte tells how many there are, with more of them for
greater characters. Behind the first byte there are digits to the base 64, so characters of one
length are written as greater bytes when they are greater (`Ascending.continued`). Either way two
characters differ in their bytes before the shorter one ends, and what follows them does not matter.
-/

namespace EntSchema.Ordered

open Schema (bytesOf bytesOf_cons)

/-- Greater numbers are written as greater bytes, whatever follows. -/
def Ascending (bound : Nat) (write : Nat → List UInt8) : Prop :=
  ∀ m n, m < n → n < bound → ∀ s t, write m ++ s < write n ++ t

theorem byte_lt {m n : Nat} (h : m < n) (hn : n < 256) : UInt8.ofNat m < UInt8.ofNat n := by
  rw [UInt8.lt_iff_toNat_lt, UInt8.toNat_ofNat_of_lt' (h.trans hn), UInt8.toNat_ofNat_of_lt' hn]
  exact h

theorem ascending_lead {bound offset : Nat} (h : bound + offset ≤ 256) :
    Ascending bound fun n => [UInt8.ofNat (n % bound + offset)] := by
  intro m n hlt hn s t
  refine List.cons_lt_cons_iff.2 (.inl (byte_lt ?_ ?_))
  · rw [Nat.mod_eq_of_lt hn, Nat.mod_eq_of_lt (hlt.trans hn)]
    omega
  · rw [Nat.mod_eq_of_lt hn]
    omega

/-- One more digit to the base 64. -/
theorem Ascending.continued {bound : Nat} {write : Nat → List UInt8} (h : Ascending bound write) :
    Ascending (64 * bound) fun n => write (n / 64) ++ [UInt8.ofNat (n % 64 + 128)] := by
  intro m n hlt hn s t
  simp only [List.append_assoc]
  rcases Nat.lt_or_ge (m / 64) (n / 64) with hdigits | hdigits
  · exact h _ _ hdigits (by omega) _ _
  · have hsame : m / 64 = n / 64 := by omega
    rw [hsame]
    refine List.append_left_lt (List.cons_lt_cons_iff.2 (.inl (byte_lt ?_ ?_)))
    · omega
    · omega

/-- **A greater character is written as greater bytes**, whatever follows. -/
theorem encode_lt_encode {c d : Char} (h : c < d) (s t : List UInt8) :
    String.utf8EncodeChar c ++ s < String.utf8EncodeChar d ++ t := by
  have hcode : c.val.toNat < d.val.toNat := UInt32.lt_iff_toNat_lt.1 h
  have hbound : d.val.toNat < 8 * 64 * 64 * 64 := by
    rcases d.valid with hlow | ⟨-, hhigh⟩
    · omega
    · omega
  have htwo := (ascending_lead (show 32 + 192 ≤ 256 by decide)).continued
  have hthree := (ascending_lead (show 16 + 224 ≤ 256 by decide)).continued.continued
  have hfour := (ascending_lead (show 8 + 240 ≤ 256 by decide)).continued.continued.continued
  simp only [Nat.div_div_eq_div_mul, Nat.reduceMul] at hthree hfour
  have hlead {m n : Nat} {rest rest' : List UInt8} (hlt : m < n) (hn : n < 256) :
      UInt8.ofNat m :: rest < UInt8.ofNat n :: rest' :=
    List.cons_lt_cons_iff.2 (.inl (byte_lt hlt hn))
  simp only [String.utf8EncodeChar]
  generalize c.val.toNat = m at hcode ⊢
  generalize d.val.toNat = n at hcode hbound ⊢
  -- A character of fewer bytes has the smaller first byte; else the digits decide.
  split
  · split
    · exact hlead hcode (by omega)
    split
    · exact hlead (by omega) (by omega)
    split
    · exact hlead (by omega) (by omega)
    · exact hlead (by omega) (by omega)
  rw [if_neg (show ¬n ≤ 127 by omega)]
  split
  · split
    · exact htwo m n hcode (by omega) s t
    split
    · exact hlead (by omega) (by omega)
    · exact hlead (by omega) (by omega)
  rw [if_neg (show ¬n ≤ 2047 by omega)]
  split
  · split
    · exact hthree m n hcode (by omega) s t
    · exact hlead (by omega) (by omega)
  · rw [if_neg (show ¬n ≤ 65535 by omega)]
    exact hfour m n hcode (by omega) s t

/-- **Texts are ordered as their bytes are.** -/
theorem bytesOf_lt {s t : List Char} (h : s < t) : bytesOf s < bytesOf t := by
  induction s generalizing t with
  | nil =>
    cases t with
    | nil => exact absurd h (List.lt_irrefl [])
    | cons d more =>
      have hne : bytesOf (d :: more) ≠ bytesOf [] := by
        intro heq
        cases Schema.bytesOf_injective heq
      obtain ⟨byte, bytes, hbytes⟩ := List.exists_cons_of_ne_nil hne
      rw [hbytes]
      exact List.nil_lt_cons byte bytes
  | cons c rest ih =>
    cases t with
    | nil => exact absurd h (List.not_lt_nil (c :: rest))
    | cons d more =>
      rw [bytesOf_cons, bytesOf_cons]
      rcases List.cons_lt_cons_iff.1 h with hless | ⟨rfl, hrest⟩
      · exact encode_lt_encode hless _ _
      · exact List.append_left_lt (ih hrest)

theorem bytesOf_lt_of_text_lt {s t : String} (h : s < t) : bytesOf s.toList < bytesOf t.toList :=
  bytesOf_lt (String.lt_iff_toList_lt.1 h)

end EntSchema.Ordered
