import GameBundle.Proofs.Bundle.GeneratedScript
import Mathlib.Data.List.Chain

/-!
# Names that are mangled alike

A mangled character is given by the digits of its code point, and nothing ends them: digits
behind the character may be taken for more of them. Names are mangled alike exactly when they
differ in nothing else, and files, namespaces and methods are told apart as far as mangled
names are. A digit also follows every underscore of a mangled name, so the two that part the
halves of a behavior's namespace keep it apart from the namespace of every layout.
-/

namespace GameBundle

namespace Script

/-- Names that differ only in which digits belong to the code point of a mangled character and
which stand behind it. -/
inductive Confusable : List Char → List Char → Prop
  | nil : Confusable [] []
  | cons {name other : List Char} (c : Char) (rest : Confusable name other) :
    Confusable (c :: name) (c :: other)
  | shorter {name other digits : List Char} {c d : Char} (foreign : isPlain c = false)
    (other_foreign : isPlain d = false)
    (shared : Decimal.digits d.toNat = Decimal.digits c.toNat ++ digits)
    (rest : Confusable name other) : Confusable (c :: (digits ++ name)) (d :: other)
  | longer {name other digits : List Char} {c d : Char} (foreign : isPlain c = false)
    (other_foreign : isPlain d = false)
    (shared : Decimal.digits c.toNat = Decimal.digits d.toNat ++ digits)
    (rest : Confusable name other) : Confusable (c :: name) (d :: (digits ++ other))

/-- Whether no digit stands right behind a mangled character. -/
def IsClear (name : List Char) : Prop :=
  name.IsChain fun c d => isPlain c = false → Decimal.isDigit d = false

variable {name other front back : List Char} {c d : Char}

theorem mangleChars_append (front back : List Char) :
    mangleChars (front ++ back) = mangleChars front ++ mangleChars back := List.flatMap_append

theorem mangleChars_cons (c : Char) (name : List Char) :
    mangleChars (c :: name) = mangleChar c ++ mangleChars name := rfl

theorem mangleChar_of_plain (plain : isPlain c = true) : mangleChar c = [c] := if_pos plain

theorem mangleChar_of_foreign (foreign : isPlain c = false) :
    mangleChar c = '_' :: Decimal.digits c.toNat :=
  if_neg (Bool.eq_false_iff.mp foreign)

theorem mangleChars_of_plain (plain : ∀ c ∈ name, isPlain c = true) : mangleChars name = name := by
  induction name with
  | nil => rfl
  | cons c name ih =>
    rw [List.forall_mem_cons] at plain
    rw [mangleChars_cons, mangleChar_of_plain plain.1, ih plain.2, List.singleton_append]

theorem mangleChars_eq_nil_iff : mangleChars name = [] ↔ name = [] := by
  cases name with
  | nil => simp [mangleChars]
  | cons c name =>
    rw [mangleChars_cons, mangleChar]
    split <;> simp

theorem isPlain_of_mem_digits {n : Nat} {digits : List Char} (within : digits <:+: Decimal.digits n) :
    ∀ d ∈ digits, isPlain d = true := fun _ member =>
  isPlain_of_isDigit (Decimal.isDigit_of_mem_digits (within.subset member))

/-- Letters and digits that a mangled name starts with are those of the name. -/
theorem exists_of_mangleChars_eq_append (plain : ∀ c ∈ front, isPlain c = true)
    (same : mangleChars name = front ++ back) :
    ∃ rest, name = front ++ rest ∧ mangleChars rest = back := by
  induction front generalizing name with
  | nil => exact ⟨name, rfl, same⟩
  | cons letter front ih =>
    rw [List.forall_mem_cons] at plain
    cases name with
    | nil => cases same
    | cons c name =>
      rw [mangleChars_cons] at same
      cases own : isPlain c with
      | true =>
        rw [mangleChar_of_plain own] at same
        obtain ⟨rfl, behind⟩ := List.cons.inj same
        obtain ⟨rest, rfl, mangled⟩ := ih plain.2 behind
        exact ⟨rest, rfl, mangled⟩
      | false =>
        rw [mangleChar_of_foreign own] at same
        obtain ⟨rfl, -⟩ := List.cons.inj same
        exact absurd plain.1 (by decide)

/-- Text of letters and digits is the mangled form of nothing but itself. -/
theorem mangle_eq_iff_of_plain {name text : String} (plain : ∀ c ∈ text.toList, isPlain c = true) :
    mangle name = text ↔ name = text := by
  constructor
  · intro same
    have mangled : mangleChars name.toList = text.toList ++ [] := by
      rw [List.append_nil, ← same, mangle, String.toList_ofList]
    obtain ⟨rest, whole, empty⟩ := exists_of_mangleChars_eq_append plain mangled
    rw [mangleChars_eq_nil_iff.mp empty, List.append_nil] at whole
    exact String.toList_inj.mp whole
  · rintro rfl
    rw [mangle, mangleChars_of_plain plain, String.ofList_toList]

theorem Confusable.mangleChars_eq (confusable : Confusable name other) :
    mangleChars name = mangleChars other := by
  induction confusable with
  | nil => rfl
  | cons c rest ih => rw [mangleChars_cons, mangleChars_cons, ih]
  | @shorter name other digits c d foreign other_foreign shared rest ih =>
    have plain := isPlain_of_mem_digits (shared ▸ (List.suffix_append _ digits).isInfix)
    rw [mangleChars_cons, mangleChars_cons, mangleChars_append, mangleChars_of_plain plain, ih,
      mangleChar_of_foreign foreign, mangleChar_of_foreign other_foreign, shared]
    simp
  | @longer name other digits c d foreign other_foreign shared rest ih =>
    have plain := isPlain_of_mem_digits (shared ▸ (List.suffix_append _ digits).isInfix)
    rw [mangleChars_cons, mangleChars_cons, mangleChars_append, mangleChars_of_plain plain, ih,
      mangleChar_of_foreign foreign, mangleChar_of_foreign other_foreign, shared]
    simp

theorem confusable_of_mangleChars_eq (same : mangleChars name = mangleChars other) :
    Confusable name other := by
  -- each step takes at least one character off both names
  induction measured : name.length using Nat.strongRecOn generalizing name other with
  | ind size ih =>
  cases name with
  | nil =>
    cases other with
    | nil => exact .nil
    | cons d other =>
      rw [mangleChars_cons, mangleChar] at same
      split at same <;> cases same
  | cons c name =>
    cases other with
    | nil =>
      rw [mangleChars_cons, mangleChar] at same
      split at same <;> cases same
    | cons d other =>
      have shrink : name.length < size := by
        rw [← measured]
        exact Nat.lt_succ_self _
      rw [mangleChars_cons, mangleChars_cons] at same
      cases own : isPlain c with
      | true =>
        rw [mangleChar_of_plain own] at same
        cases theirs : isPlain d with
        | true =>
          rw [mangleChar_of_plain theirs] at same
          obtain ⟨rfl, behind⟩ := List.cons.inj same
          exact .cons c (ih _ shrink behind rfl)
        | false =>
          rw [mangleChar_of_foreign theirs] at same
          obtain ⟨rfl, -⟩ := List.cons.inj same
          exact absurd own (by decide)
      | false =>
        rw [mangleChar_of_foreign own] at same
        cases theirs : isPlain d with
        | true =>
          rw [mangleChar_of_plain theirs] at same
          obtain ⟨rfl, -⟩ := List.cons.inj same
          exact absurd theirs (by decide)
        | false =>
          rw [mangleChar_of_foreign theirs] at same
          have behind := (List.cons.inj same).2
          rcases List.append_eq_append_iff.mp behind with ⟨digits, shared, tail⟩ | ⟨digits, shared, tail⟩
          · have plain := isPlain_of_mem_digits (shared ▸ (List.suffix_append _ digits).isInfix)
            obtain ⟨rest, rfl, mangled⟩ := exists_of_mangleChars_eq_append plain tail
            refine .shorter own theirs shared (ih _ ?_ mangled rfl)
            rw [List.length_append] at shrink
            omega
          · have plain := isPlain_of_mem_digits (shared ▸ (List.suffix_append _ digits).isInfix)
            obtain ⟨rest, rfl, mangled⟩ := exists_of_mangleChars_eq_append plain tail
            exact .longer own theirs shared (ih _ shrink mangled.symm rfl)

theorem mangle_eq_iff_confusable (name other : String) :
    mangle name = mangle other ↔ Confusable name.toList other.toList := by
  unfold mangle
  rw [String.ofList_inj]
  exact ⟨confusable_of_mangleChars_eq, Confusable.mangleChars_eq⟩

/-- Digits that a mangled character leaves to the text behind it are not there. -/
theorem digits_eq_nil_of_isClear {n : Nat} {digits : List Char} (foreign : isPlain c = false)
    (within : digits <:+: Decimal.digits n) (clear : IsClear (c :: (digits ++ name))) :
    digits = [] := by
  cases digits with
  | nil => rfl
  | cons digit digits =>
    have first := (List.isChain_cons_cons.mp clear).1 foreign
    rw [Decimal.isDigit_of_mem_digits (within.subset List.mem_cons_self)] at first
    cases first

theorem Confusable.eq_of_isClear (confusable : Confusable name other) (clear : IsClear name)
    (other_clear : IsClear other) : name = other := by
  have same {c d : Char} (codes : Decimal.digits c.toNat = Decimal.digits d.toNat) : c = d :=
    Char.toNat_inj.mp (Decimal.digits_injective codes)
  induction confusable with
  | nil => rfl
  | cons c rest ih => rw [ih clear.tail other_clear.tail]
  | @shorter name other digits c d foreign other_foreign shared rest ih =>
    obtain rfl := digits_eq_nil_of_isClear foreign (shared ▸ (List.suffix_append _ digits).isInfix)
      clear
    rw [List.append_nil] at shared
    rw [same shared, List.nil_append, ih clear.tail other_clear.tail]
  | @longer name other digits c d foreign other_foreign shared rest ih =>
    obtain rfl := digits_eq_nil_of_isClear other_foreign
      (shared ▸ (List.suffix_append _ digits).isInfix) other_clear
    rw [List.append_nil] at shared
    rw [same shared, List.nil_append, ih clear.tail other_clear.tail]

theorem isPlain_of_lt_ten {n : Nat} (small : n < 10) : isPlain (Char.ofNat n) = false := by
  have all : ∀ digit : Fin 10, isPlain (Char.ofNat digit) = false := by decide
  exact all ⟨n, small⟩

theorem toNat_of_lt_ten {n : Nat} (small : n < 10) : (Char.ofNat n).toNat = n := by
  have all : ∀ digit : Fin 10, (Char.ofNat digit).toNat = digit := by decide
  exact all ⟨n, small⟩

/-- The digits of a number begin with the digit of a smaller one. -/
theorem exists_digits_eq_cons (n : Nat) :
    ∃ first < 10, ∃ rest, Decimal.digits n = Decimal.digits first ++ rest := by
  induction n using Nat.strongRecOn with
  | ind n ih =>
    by_cases small : n < 10
    · exact ⟨n, small, [], (List.append_nil _).symm⟩
    · obtain ⟨first, below, rest, same⟩ := ih (n / 10) (by omega)
      refine ⟨first, below, rest ++ [Decimal.digitChar (n % 10)], ?_⟩
      rw [Decimal.digits, if_neg small, same, List.append_assoc]

/-- A mangled character with more than one digit may also be one with a single digit, and the
other digits stand behind it. -/
theorem exists_double {name : String} (held : c ∈ name.toList) (foreign : isPlain c = false)
    (large : 10 ≤ c.toNat) : ∃ other, other ≠ name ∧ mangle other = mangle name := by
  obtain ⟨front, back, whole⟩ := List.append_of_mem held
  obtain ⟨first, small, rest, shared⟩ := exists_digits_eq_cons c.toNat
  refine ⟨String.ofList (front ++ Char.ofNat first :: (rest ++ back)), ?_, ?_⟩
  · intro same
    rw [← String.toList_inj, String.toList_ofList, whole] at same
    obtain ⟨rfl, -⟩ := List.cons.inj (List.append_cancel_left same)
    rw [toNat_of_lt_ten small] at large
    omega
  · have one (name : List Char) : Confusable name name := by
      induction name with
      | nil => exact .nil
      | cons c name ih => exact .cons c ih
    have both : Confusable (Char.ofNat first :: (rest ++ back)) (c :: back) := by
      refine .shorter (isPlain_of_lt_ten small) foreign ?_ (one back)
      rw [toNat_of_lt_ten small, shared]
    unfold mangle
    rw [String.toList_ofList, whole, mangleChars_append, mangleChars_append, both.mangleChars_eq]

/-- Behind every underscore of a mangled name stands a digit. -/
theorem exists_digit_of_mangleChars (same : mangleChars name = front ++ '_' :: back) :
    ∃ digit rest, back = digit :: rest ∧ Decimal.isDigit digit = true := by
  induction name generalizing front with
  | nil => simp [mangleChars] at same
  | cons c name ih =>
    rw [mangleChars_cons] at same
    rcases List.append_eq_append_iff.mp same with ⟨more, -, tail⟩ | ⟨more, own, tail⟩
    · exact ih tail
    · cases more with
      | nil =>
        rw [← List.nil_append ('_' :: back)] at tail
        exact ih tail.symm
      | cons mark more =>
        obtain ⟨rfl, behind⟩ := List.cons.inj tail
        cases plain : isPlain c with
        | true =>
          rw [mangleChar_of_plain plain] at own
          have member : '_' ∈ [c] := own ▸ List.mem_append_right front List.mem_cons_self
          rw [← List.mem_singleton.mp member] at plain
          exact absurd plain (by decide)
        | false =>
          rw [mangleChar_of_foreign plain] at own
          cases front with
          | nil =>
            obtain ⟨-, digits⟩ := List.cons.inj own
            have inhabited : Decimal.digits c.toNat ≠ [] := by
              rw [Decimal.digits]
              split <;> simp
            obtain ⟨digit, rest, whole⟩ := List.exists_cons_of_ne_nil inhabited
            refine ⟨digit, rest ++ mangleChars name, ?_, ?_⟩
            · rw [behind, ← digits, whole]
              rfl
            · exact Decimal.isDigit_of_mem_digits (whole ▸ List.mem_cons_self)
          | cons mark front =>
            have digits := (List.cons.inj own).2
            have member : '_' ∈ Decimal.digits c.toNat :=
              digits ▸ List.mem_append_right front List.mem_cons_self
            exact absurd member (Decimal.not_mem_digits (by decide) _)

theorem mangleChars_parted {name other next last : List Char}
    (same : mangleChars name ++ '_' :: '_' :: next = mangleChars other ++ '_' :: '_' :: last) :
    mangleChars name = mangleChars other ∧ next = last := by
  have stop {name front more next last : List Char} (shared : mangleChars name = front ++ more)
      (tail : '_' :: '_' :: next = more ++ '_' :: '_' :: last) : more = [] := by
    cases more with
    | nil => rfl
    | cons mark more =>
      obtain ⟨rfl, behind⟩ := List.cons.inj tail
      obtain ⟨digit, rest, rfl, isDigit⟩ := exists_digit_of_mangleChars shared
      obtain ⟨rfl, -⟩ := List.cons.inj behind
      exact absurd isDigit (by decide)
  rcases List.append_eq_append_iff.mp same with ⟨more, shared, tail⟩ | ⟨more, shared, tail⟩
  · obtain rfl := stop shared tail
    rw [List.append_nil] at shared
    exact ⟨shared.symm, by simpa using tail⟩
  · obtain rfl := stop shared tail
    rw [List.append_nil] at shared
    exact ⟨shared, by simpa using tail.symm⟩

theorem behaviorNamespace_eq_iff (extension behavior other_extension other_behavior : String) :
    behaviorNamespace extension behavior = behaviorNamespace other_extension other_behavior ↔
      mangle extension = mangle other_extension ∧ mangle behavior = mangle other_behavior := by
  constructor
  · intro same
    have bar : "__".toList = ['_', '_'] := by decide
    simp only [behaviorNamespace, ← String.toList_inj, String.toList_append, List.append_assoc,
      List.append_cancel_left_eq, bar] at same
    simp only [mangle, String.toList_ofList, List.cons_append, List.nil_append] at same
    obtain ⟨first, second⟩ := mangleChars_parted same
    exact ⟨congrArg String.ofList first, congrArg String.ofList second⟩
  · rintro ⟨first, second⟩
    rw [behaviorNamespace, behaviorNamespace, first, second]

theorem layoutNamespace_eq_iff (layout other : String) :
    layoutNamespace layout = layoutNamespace other ↔ mangle layout = mangle other := by
  unfold layoutNamespace
  rw [String.append_left_inj, String.append_right_inj]

end Script

theorem GeneratedScript.behaviorFile_eq_iff
    (extension behavior other_extension other_behavior : String) :
    behaviorFile extension behavior = behaviorFile other_extension other_behavior ↔
      Script.mangle extension = Script.mangle other_extension ∧
        Script.mangle behavior = Script.mangle other_behavior := by
  constructor
  · intro same
    have dash : "-".toList = ['-'] := by decide
    have free (name : String) : '-' ∉ (Script.mangle name).toList :=
      Script.not_mem_mangle (by decide) (by decide) name
    simp only [behaviorFile, ← String.toList_inj, String.toList_append, List.append_assoc,
      List.append_cancel_left_eq, dash, List.singleton_append] at same
    have clean : '-' ∉ (Script.mangle behavior).toList ++ ".js".toList := by
      rw [List.mem_append, not_or]
      exact ⟨free behavior, by decide⟩
    obtain ⟨first, -, second⟩ :=
      (List.append_cons_inj_of_notMem (free extension) clean).mp same
    exact ⟨String.toList_inj.mp first, String.toList_inj.mp (List.append_cancel_right second)⟩
  · rintro ⟨first, second⟩
    rw [behaviorFile, behaviorFile, first, second]

theorem Behavior.methodName_eq_mangle (function : String) :
    Behavior.methodName function = Script.mangle function := by
  unfold Behavior.methodName
  split
  · rename_i listed
    have all : ∀ name ∈ Behavior.lifecycleMethods, Script.mangle name = name := by decide +kernel
    exact (all function (List.contains_iff_mem.mp listed)).symm
  · rfl

/-- Names are mangled alike exactly when they differ in nothing but which digits belong to
code points, so names without digits behind mangled characters are told apart. A name with a
mangled character beyond the first ten code points has a double. Files and namespaces of
behaviors, namespaces of layouts and names of methods are told apart as mangled names are. -/
theorem Script.mangle_tells_apart (name other : String) :
    (mangle name = mangle other ↔ Confusable name.toList other.toList) ∧
    (IsClear name.toList → IsClear other.toList →
      (mangle name = mangle other ↔ name = other)) ∧
    ((∃ c ∈ name.toList, isPlain c = false ∧ 10 ≤ c.toNat) →
      ∃ double, double ≠ name ∧ mangle double = mangle name) ∧
    (∀ behavior behavior' : String,
      (GeneratedScript.behaviorFile name behavior =
          GeneratedScript.behaviorFile other behavior' ↔
        mangle name = mangle other ∧ mangle behavior = mangle behavior') ∧
      (behaviorNamespace name behavior = behaviorNamespace other behavior' ↔
        mangle name = mangle other ∧ mangle behavior = mangle behavior')) ∧
    (layoutNamespace name = layoutNamespace other ↔ mangle name = mangle other) ∧
    (Behavior.methodName name = Behavior.methodName other ↔ mangle name = mangle other) := by
  refine ⟨mangle_eq_iff_confusable name other, fun clear other_clear => ⟨fun same => ?_, ?_⟩,
    fun ⟨c, held, foreign, large⟩ => exists_double held foreign large,
    fun _ _ => ⟨GeneratedScript.behaviorFile_eq_iff _ _ _ _, behaviorNamespace_eq_iff _ _ _ _⟩,
    layoutNamespace_eq_iff name other, ?_⟩
  · have confusable := (mangle_eq_iff_confusable name other).mp same
    exact String.toList_inj.mp (confusable.eq_of_isClear clear other_clear)
  · rintro rfl
    rfl
  · rw [Behavior.methodName_eq_mangle, Behavior.methodName_eq_mangle]

/-- A blank before the digit zero, and the letter of code point 320. -/
example : Script.mangle " 0" = Script.mangle "ŀ" := by decide +kernel

namespace Script

variable {name tail front back : List Char}

/-- Two underscores meet nowhere in a mangled name, nor where it ends. -/
theorem mangleChars_append_ne (clean : '_' ∉ tail) :
    mangleChars name ++ tail ≠ front ++ '_' :: '_' :: back := by
  intro same
  rcases List.append_eq_append_iff.mp same with ⟨more, -, behind⟩ | ⟨more, inside, behind⟩
  · apply clean
    rw [behind]
    exact List.mem_append_right more List.mem_cons_self
  · cases more with
    | nil =>
      apply clean
      rw [← List.nil_append tail, ← behind]
      exact List.mem_cons_self
    | cons mark more =>
      obtain ⟨rfl, next⟩ := List.cons.inj behind
      obtain ⟨digit, rest, rfl, isDigit⟩ := exists_digit_of_mangleChars inside
      obtain ⟨rfl, -⟩ := List.cons.inj next
      exact absurd isDigit (by decide)

theorem behaviorNamespace_ne_layoutNamespace (extension behavior layout : String) :
    behaviorNamespace extension behavior ≠ layoutNamespace layout := by
  intro same
  have opening : "kiln.evtsExt__".toList = "kiln.".toList ++ "evtsExt".toList ++ ['_', '_'] := by
    decide
  have clean : '_' ∉ "Code".toList := by decide
  simp only [behaviorNamespace, layoutNamespace, ← String.toList_inj, String.toList_append,
    opening, List.append_assoc, List.append_cancel_left_eq, mangle, String.toList_ofList] at same
  exact mangleChars_append_ne clean same.symm

/-- The namespace of a behavior names extension and behavior as far as mangled names do, and
it is never that of a layout. -/
theorem behaviorNamespace_unambiguous (extension behavior : String) :
    (∀ other_extension other_behavior,
      behaviorNamespace extension behavior = behaviorNamespace other_extension other_behavior ↔
        mangle extension = mangle other_extension ∧ mangle behavior = mangle other_behavior) ∧
    ∀ layout, behaviorNamespace extension behavior ≠ layoutNamespace layout :=
  ⟨behaviorNamespace_eq_iff extension behavior,
    behaviorNamespace_ne_layoutNamespace extension behavior⟩

end Script

end GameBundle
