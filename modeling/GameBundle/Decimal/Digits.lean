/-!
# Decimal digits

The digits of a natural number, most significant first and without leading
zeros, and the number that a run of digits denotes. Reading the digits of a
number gives the number back.
-/

namespace GameBundle.Decimal

def digitChar (digit : Nat) : Char := Char.ofNat (48 + digit)

def digitValue (c : Char) : Nat := c.toNat - 48

def isDigit (c : Char) : Bool := '0' ≤ c && c ≤ '9'

def value (digits : List Char) (start : Nat) : Nat :=
  digits.foldl (fun n c => n * 10 + digitValue c) start

/-- Digits of `n`; zero has one. -/
def digits (n : Nat) : List Char :=
  if n < 10 then [digitChar n] else digits (n / 10) ++ [digitChar (n % 10)]

def text (n : Nat) : String := String.ofList (digits n)

def signedText : Int → String
  | .ofNat n => text n
  | .negSucc n => "-" ++ text (n + 1)

theorem digitValue_digitChar {digit : Nat} (small : digit < 10) :
    digitValue (digitChar digit) = digit := by
  have all : ∀ d : Fin 10, digitValue (digitChar d) = d := by decide
  exact all ⟨digit, small⟩

theorem value_append (front back : List Char) (start : Nat) :
    value (front ++ back) start = value back (value front start) := by
  simp [value]

theorem value_digits (n : Nat) : value (digits n) 0 = n := by
  induction n using Nat.strongRecOn with
  | ind n ih =>
    rw [digits]
    split
    · rename_i small
      simp [value, digitValue_digitChar small]
    · rename_i large
      rw [value_append, ih (n / 10) (by omega)]
      simp only [value, List.foldl_cons, List.foldl_nil]
      rw [digitValue_digitChar (Nat.mod_lt n (by omega))]
      omega

theorem digits_injective {m n : Nat} (same : digits m = digits n) : m = n := by
  rw [← value_digits m, same, value_digits]

/-- The digits are those that numbers are shown with. -/
theorem text_eq_toString (n : Nat) : text n = toString n := by
  have char {digit : Nat} (small : digit < 10) : digitChar digit = Nat.digitChar digit := by
    have all : ∀ d : Fin 10, digitChar d = Nat.digitChar d := by decide
    exact all ⟨digit, small⟩
  have same : digits n = Nat.toDigits 10 n := by
    induction n using Nat.strongRecOn with
    | ind n ih =>
      rw [digits, Nat.toDigits_eq_if (by decide)]
      split
      · rename_i small
        rw [char small]
      · rename_i large
        rw [ih (n / 10) (by omega), char (Nat.mod_lt n (by omega))]
  rw [text, same]
  exact Nat.repr_eq_ofList_toDigits.symm

theorem isDigit_digitChar {digit : Nat} (small : digit < 10) :
    isDigit (digitChar digit) = true := by
  have all : ∀ d : Fin 10, isDigit (digitChar d) = true := by decide
  exact all ⟨digit, small⟩

theorem isDigit_of_mem_digits {n : Nat} {c : Char} (member : c ∈ digits n) : isDigit c = true := by
  induction n using Nat.strongRecOn with
  | ind n ih =>
    rw [digits] at member
    split at member
    · rename_i small
      rw [List.mem_singleton.mp member]
      exact isDigit_digitChar small
    · rcases List.mem_append.mp member with front | last
      · exact ih (n / 10) (by omega) front
      · rw [List.mem_singleton.mp last]
        exact isDigit_digitChar (Nat.mod_lt n (by omega))

end GameBundle.Decimal
