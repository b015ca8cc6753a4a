import GameBundle.Template
import Mathlib.Data.List.Basic
import Mathlib.Data.List.Infix
import Mathlib.Data.List.Nodup

/-!
# Segmentation of templates

A template has exactly one cut from left to right into tokens and single characters in
which every token is the longest one at its place. Filling puts the values of the tokens
together along that cut. The cut is one of the template and the tokens, so neither the
values nor the order of distinct tokens decide what is replaced, and looking at first
bytes before tokens are compared leaves nothing out.
-/

namespace GameBundle.Template

inductive Segment where
  | plain (c : Char)
  | token (name : List Char)
deriving DecidableEq, Repr

/-- A token that a text starts with, when it starts with no longer one. -/
structure IsLongest (tokens : List (List Char)) (text token : List Char) : Prop where
  listed : token ∈ tokens
  nonempty : token ≠ []
  starts : token <+: text
  longest : ∀ other ∈ tokens, other <+: text → other.length ≤ token.length

/-- No token stands at the start of a text. -/
def NoneStarts (tokens : List (List Char)) (text : List Char) : Prop :=
  ∀ token ∈ tokens, token ≠ [] → ¬token <+: text

instance (tokens : List (List Char)) (text : List Char) : Decidable (NoneStarts tokens text) :=
  inferInstanceAs (Decidable (∀ token ∈ tokens, token ≠ [] → ¬token <+: text))

/-- The cut of a text into tokens, each the longest at its place, and characters between
them at which no token starts. -/
inductive Segmentation (tokens : List (List Char)) : List Char → List Segment → Prop
  | done : Segmentation tokens [] []
  | token {text name : List Char} {segments : List Segment}
      (longest : IsLongest tokens text name)
      (later : Segmentation tokens (text.drop name.length) segments) :
      Segmentation tokens text (.token name :: segments)
  | plain {c : Char} {rest : List Char} {segments : List Segment}
      (none : NoneStarts tokens (c :: rest)) (later : Segmentation tokens rest segments) :
      Segmentation tokens (c :: rest) (.plain c :: segments)

/-- The value of a token; of several substitutions for it the last counts. -/
def valueOf (substitutions : List Substitution) (token : List Char) : List Char :=
  (substitutions.reverse.lookup token).getD token

/-- What takes the place of a segment. -/
def Segment.fill (substitutions : List Substitution) : Segment → List Char
  | .plain c => [c]
  | .token name => valueOf substitutions name

/-- The part of the template that a segment is cut from. -/
def Segment.source : Segment → List Char
  | .plain c => [c]
  | .token name => name

variable {tokens : List (List Char)} {substitutions : List Substitution} {text token : List Char}

theorem IsLongest.unique {other : List Char} (one : IsLongest tokens text token)
    (two : IsLongest tokens text other) : token = other := by
  have lengths : token.length = other.length :=
    le_antisymm (two.longest token one.listed one.starts) (one.longest other two.listed two.starts)
  obtain ⟨back, rfl⟩ := one.starts
  obtain ⟨more, same⟩ := two.starts
  exact (List.append_inj same.symm lengths).1

theorem NoneStarts.not_isLongest (none : NoneStarts tokens text) : ¬IsLongest tokens text token :=
  fun longest => none token longest.listed longest.nonempty longest.starts

theorem not_isLongest_nil : ¬IsLongest tokens [] token :=
  fun longest => longest.nonempty (List.prefix_nil.mp longest.starts)

namespace Segmentation

variable {segments : List Segment}

/-- There is at most one cut. -/
theorem unique {other : List Segment} (one : Segmentation tokens text segments)
    (two : Segmentation tokens text other) : segments = other := by
  induction one generalizing other with
  | done =>
    cases two with
    | done => rfl
    | token longest later => exact absurd longest not_isLongest_nil
  | token longest later ih =>
    cases two with
    | done => exact absurd longest not_isLongest_nil
    | token again rest =>
      obtain rfl := longest.unique again
      rw [ih rest]
    | plain none rest => exact absurd longest none.not_isLongest
  | plain none later ih =>
    cases two with
    | token longest rest => exact absurd longest none.not_isLongest
    | plain again rest => rw [ih rest]

theorem flatMap_source (cut : Segmentation tokens text segments) :
    segments.flatMap Segment.source = text := by
  induction cut with
  | done => rfl
  | token longest later ih =>
    obtain ⟨back, rfl⟩ := longest.starts
    rw [List.drop_left] at ih
    rw [List.flatMap_cons, ih, Segment.source]
  | plain none later ih => rw [List.flatMap_cons, ih, Segment.source, List.singleton_append]

/-- A text in which no token starts is cut into its characters. -/
theorem plainly {front rest : List Char}
    (none : ∀ tail ∈ front.tails, tail ≠ [] → NoneStarts tokens (tail ++ rest))
    (later : Segmentation tokens rest segments) :
    Segmentation tokens (front ++ rest) (front.map .plain ++ segments) := by
  induction front with
  | nil => exact later
  | cons c front ih =>
    rw [List.tails_cons, List.forall_mem_cons] at none
    exact .plain (none.1 (List.cons_ne_nil c front)) (ih none.2)

theorem congr {other : List (List Char)} (same : ∀ token, token ∈ tokens ↔ token ∈ other)
    (cut : Segmentation tokens text segments) : Segmentation other text segments := by
  induction cut with
  | done => exact .done
  | token longest later ih =>
    refine .token ⟨(same _).mp longest.listed, longest.nonempty, longest.starts, ?_⟩ ih
    exact fun rival listed => longest.longest rival ((same rival).mpr listed)
  | plain none later ih =>
    exact .plain (fun rival listed => none rival ((same rival).mpr listed)) ih

end Segmentation

/-- The first of the items with the greatest value is behind smaller ones only. -/
theorem maxOn?_eq_some {α : Type} {size : α → Nat} {items : List α} {item : α}
    (found : items.maxOn? size = some item) :
    (∀ other ∈ items, size other ≤ size item) ∧
      ∃ front back, items = front ++ item :: back ∧ ∀ other ∈ front, size other < size item := by
  induction items generalizing item with
  | nil => simp at found
  | cons first rest ih =>
    rw [List.maxOn?_cons, Option.some.injEq] at found
    cases greatest : rest.maxOn? size with
    | none =>
      rw [greatest] at found
      have alone : rest = [] := by
        by_contra inhabited
        have some := (List.isSome_maxOn?_iff (f := size)).mpr inhabited
        rw [greatest] at some
        cases some
      obtain rfl : first = item := found
      subst alone
      exact ⟨by simp, [], [], rfl, by simp⟩
    | some other =>
      rw [greatest] at found
      obtain ⟨bound, front, back, rfl, smaller⟩ := ih greatest
      rw [Option.elim_some, maxOn_eq_if] at found
      split at found
      · rename_i above
        subst found
        refine ⟨List.forall_mem_cons.mpr ⟨le_rfl, fun rival member => ?_⟩, [], _, rfl, by simp⟩
        exact (bound rival member).trans above
      · rename_i below
        subst found
        have less : size first < size other := by omega
        refine ⟨List.forall_mem_cons.mpr ⟨less.le, bound⟩, first :: front, back, rfl, ?_⟩
        exact List.forall_mem_cons.mpr ⟨less, smaller⟩

/-- The longest token is looked up with the last value entered for it. -/
theorem longest?_eq_some {value : List Char}
    (found : longest? substitutions text = some (token, value)) :
    IsLongest (substitutions.map Prod.fst) text token ∧ valueOf substitutions token = value := by
  obtain ⟨bound, front, back, listed, smaller⟩ := maxOn?_eq_some found
  have member : (token, value) ∈ substitutions.reverse.filter _ := List.maxOn?_mem found
  simp only [List.mem_filter, List.mem_reverse, Bool.and_eq_true, decide_eq_true_eq,
    List.isPrefixOf_iff_prefix] at member
  obtain ⟨entered, nonempty, starts⟩ := member
  refine ⟨⟨List.mem_map_of_mem entered, nonempty, starts, ?_⟩, ?_⟩
  · intro other other_listed other_starts
    obtain ⟨⟨other, held⟩, other_entered, rfl⟩ := List.mem_map.mp other_listed
    by_cases blank : other = []
    · simp [blank]
    · refine bound (other, held) ?_
      simp only [List.mem_filter, List.mem_reverse, Bool.and_eq_true, decide_eq_true_eq,
        List.isPrefixOf_iff_prefix]
      exact ⟨other_entered, blank, other_starts⟩
  · -- what stands before the pair in the reversed list is no candidate or is shorter
    obtain ⟨ahead, rest, whole, kept, later⟩ := List.filter_eq_append_iff.mp listed
    obtain ⟨skipped, behind, rfl, unfit, -, -⟩ := List.filter_eq_cons_iff.mp later
    have looked : substitutions.reverse.lookup token = some value := by
      refine List.lookup_eq_some_iff.mpr ⟨ahead ++ skipped, behind, by simp [whole], ?_⟩
      rintro ⟨other, held⟩ before
      rw [bne_iff_ne]
      rintro rfl
      have fits : (decide (token ≠ []) && token.isPrefixOf text) = true := by
        simp [nonempty, List.isPrefixOf_iff_prefix.mpr starts]
      rcases List.mem_append.mp before with first | second
      · have inside : (token, held) ∈ front := kept ▸ List.mem_filter.mpr ⟨first, fits⟩
        exact absurd (smaller _ inside) (lt_irrefl _)
      · exact absurd fits (unfit _ second)
    rw [valueOf, looked, Option.getD_some]

theorem longest?_eq_none (missing : longest? substitutions text = none) :
    NoneStarts (substitutions.map Prod.fst) text := by
  intro token listed nonempty starts
  obtain ⟨⟨token, value⟩, entered, rfl⟩ := List.mem_map.mp listed
  rw [longest?] at missing
  have empty := mt List.isSome_maxOn?_iff.mpr (Option.not_isSome_iff_eq_none.mpr missing)
  have none := List.filter_eq_nil_iff.mp (not_not.mp empty) (token, value)
    (List.mem_reverse.mpr entered)
  simp only [Bool.and_eq_true, decide_eq_true_eq, List.isPrefixOf_iff_prefix] at none
  exact none ⟨nonempty, starts⟩

/-- Every template has a cut. -/
theorem exists_segmentation (tokens : List (List Char)) (text : List Char) :
    ∃ segments, Segmentation tokens text segments := by
  have same : (tokens.map fun token => (token, ([] : List Char))).map Prod.fst = tokens := by
    rw [List.map_map]
    exact List.map_id tokens
  induction measured : text.length using Nat.strongRecOn generalizing text with
  | ind size ih =>
    cases found : longest? (tokens.map fun token => (token, [])) text with
    | some entry =>
      obtain ⟨longest, -⟩ := longest?_eq_some found
      rw [same] at longest
      have shorter : (text.drop entry.1.length).length < size := by
        have positive := List.length_pos_iff.mpr longest.nonempty
        have fits := longest.starts.length_le
        rw [List.length_drop]
        omega
      obtain ⟨segments, later⟩ := ih _ shorter _ rfl
      exact ⟨_, .token longest later⟩
    | none =>
      cases text with
      | nil => exact ⟨[], .done⟩
      | cons c rest =>
        have none := longest?_eq_none found
        rw [same] at none
        obtain ⟨segments, later⟩ := ih rest.length (by simp [← measured]) rest rfl
        exact ⟨_, .plain none later⟩

/-- Candidates among which are all places where a token starts. -/
def Spots (tokens : List (List Char)) (candidate : List Char → Bool) : Prop :=
  ∀ text, ∀ token ∈ tokens, token ≠ [] → token <+: text → candidate text = true

theorem spots_startsWithin (substitutions : List Substitution) :
    Spots (substitutions.map Prod.fst) (startsWithin (firstBytes substitutions)) := by
  intro text token listed nonempty starts
  obtain ⟨c, rest, rfl⟩ := List.exists_cons_of_ne_nil nonempty
  obtain ⟨back, rfl⟩ := starts
  obtain ⟨⟨_, value⟩, entered, rfl⟩ := List.mem_map.mp listed
  obtain ⟨byte, bytes, encoded⟩ := List.exists_cons_of_ne_nil (String.utf8EncodeChar_ne_nil (c := c))
  have first : firstByte? (c :: rest) = some byte := by simp [firstByte?, encoded]
  have whole : firstByte? (c :: rest ++ back) = some byte := first
  rw [startsWithin, whole, Option.any_some, List.contains_iff_mem, firstBytes, List.mem_filterMap]
  exact ⟨_, entered, first⟩

theorem scan_eq_of_segmentation {candidate : List Char → Bool} {segments : List Segment}
    (spots : Spots (substitutions.map Prod.fst) candidate)
    (cut : Segmentation (substitutions.map Prod.fst) text segments) :
    scan candidate substitutions text = segments.flatMap (Segment.fill substitutions) := by
  induction cut with
  | done => rw [scan, List.flatMap_nil]
  | @token text name segments longest later ih =>
    cases text with
    | nil => exact absurd longest not_isLongest_nil
    | cons c rest =>
      have spotted := spots (c :: rest) name longest.listed longest.nonempty longest.starts
      rw [scan, if_pos spotted]
      cases found : longest? substitutions (c :: rest) with
      | none => exact absurd longest (longest?_eq_none found).not_isLongest
      | some entry =>
        obtain ⟨again, value⟩ := longest?_eq_some found
        obtain rfl := longest.unique again
        have behind : rest.drop (entry.1.length - 1) = (c :: rest).drop entry.1.length := by
          obtain ⟨size, positive⟩ := Nat.exists_eq_succ_of_ne_zero
            (List.length_pos_iff.mpr longest.nonempty).ne'
          rw [positive, List.drop_succ_cons, Nat.succ_sub_one]
        rw [List.flatMap_cons, ← ih, Segment.fill, value, ← behind]
  | @plain c rest segments none later ih =>
    have missing : (if candidate (c :: rest) then longest? substitutions (c :: rest)
        else Option.none) = Option.none := by
      split
      · cases found : longest? substitutions (c :: rest) with
        | none => rfl
        | some entry => exact absurd (longest?_eq_some found).1 none.not_isLongest
      · rfl
    rw [scan, missing, List.flatMap_cons, ← ih, Segment.fill, List.singleton_append]

theorem fillChars_eq_of_segmentation {segments : List Segment}
    (cut : Segmentation (substitutions.map Prod.fst) text segments) :
    fillChars substitutions text = segments.flatMap (Segment.fill substitutions) :=
  scan_eq_of_segmentation (spots_startsWithin substitutions) cut

/-- A text is a template in which every token gave way to its value, along the cut into tokens. -/
def IsFilled (template : String) (pairs : List (String × String)) (text : String) : Prop :=
  ∃ cut, Segmentation (pairs.map fun pair => pair.1.toList) template.toList cut ∧
    text.toList = cut.flatMap
      (Segment.fill (pairs.map fun pair => (pair.1.toList, pair.2.toList)))

theorem isFilled_fill (template : String) (pairs : List (String × String)) :
    IsFilled template pairs (fill template pairs) := by
  obtain ⟨cut, cuts⟩ := exists_segmentation ((characters pairs).map Prod.fst) template.toList
  have tokens : (characters pairs).map Prod.fst = pairs.map fun pair => pair.1.toList :=
    List.map_map
  refine ⟨cut, tokens ▸ cuts, ?_⟩
  rw [fill, String.toList_ofList, fillChars_eq_of_segmentation cuts]
  rfl

theorem fillChars_congr {other : List Substitution}
    (same : ∀ token, token ∈ substitutions.map Prod.fst ↔ token ∈ other.map Prod.fst)
    (values : ∀ token ∈ substitutions.map Prod.fst,
      valueOf substitutions token = valueOf other token) :
    fillChars substitutions text = fillChars other text := by
  obtain ⟨segments, cut⟩ := exists_segmentation (substitutions.map Prod.fst) text
  rw [fillChars_eq_of_segmentation cut, fillChars_eq_of_segmentation (cut.congr same)]
  induction cut with
  | done => rfl
  | token longest later ih =>
    rw [List.flatMap_cons, List.flatMap_cons, ih, Segment.fill, Segment.fill,
      values _ longest.listed]
  | plain none later ih => rw [List.flatMap_cons, List.flatMap_cons, ih, Segment.fill, Segment.fill]

theorem valueOf_of_last {front back : List Substitution} {value : List Char}
    (last : token ∉ back.map Prod.fst) : valueOf (front ++ (token, value) :: back) token = value := by
  have absent : back.reverse.lookup token = none := by
    rw [List.lookup_eq_none_iff]
    rintro ⟨other, held⟩ member
    rw [bne_iff_ne]
    rintro rfl
    exact last (List.mem_map_of_mem (List.mem_reverse.mp member))
  have reversed : (front ++ (token, value) :: back).reverse =
      back.reverse ++ (token, value) :: front.reverse := by simp
  rw [valueOf, reversed, List.lookup_append, absent, Option.none_or, List.lookup_cons_self,
    Option.getD_some]

theorem valueOf_of_mem {value : List Char} (distinct : (substitutions.map Prod.fst).Nodup)
    (entered : (token, value) ∈ substitutions) : valueOf substitutions token = value := by
  obtain ⟨front, back, rfl⟩ := List.append_of_mem entered
  rw [List.map_append, List.map_cons, List.nodup_append] at distinct
  exact valueOf_of_last (List.nodup_cons.mp distinct.2.1).1

/-- A pair counts for nothing when its token comes again. -/
theorem valueOf_of_repeated {front back : List Substitution} {value : List Char}
    (again : token ∈ back.map Prod.fst) (sought : List Char) :
    valueOf (front ++ (token, value) :: back) sought = valueOf (front ++ back) sought := by
  have reversed : (front ++ (token, value) :: back).reverse =
      (back.reverse ++ [(token, value)]) ++ front.reverse := by simp
  rw [valueOf, valueOf, reversed, List.reverse_append, List.lookup_append, List.lookup_append,
    List.lookup_append]
  by_cases same : sought = token
  · obtain ⟨entry, member, entered⟩ := List.mem_map.mp again
    have found : (back.reverse.lookup sought).isSome = true :=
      List.lookup_isSome_iff.mpr ⟨entry, List.mem_reverse.mpr member, by simp [same, entered]⟩
    obtain ⟨kept, looked⟩ := Option.isSome_iff_exists.mp found
    rw [looked, Option.some_or]
  · have apart : (sought == token) = false := by simpa using same
    rw [List.lookup_cons, apart, List.lookup_nil, Option.or_none]

theorem map_fst_characters (pairs : List (String × String)) :
    (characters pairs).map Prod.fst = (pairs.map Prod.fst).map String.toList := by
  simp [characters]

theorem nodup_characters {pairs : List (String × String)}
    (distinct : (pairs.map Prod.fst).Nodup) : ((characters pairs).map Prod.fst).Nodup := by
  rw [map_fst_characters]
  exact distinct.map fun one other => String.toList_inj.mp

/-- A template in which tokens start at one place only is filled there. -/
theorem IsFilled.around {front token value back text : String} {pairs : List (String × String)}
    {tokens : List (List Char)} (filled : IsFilled (front ++ token ++ back) pairs text)
    (named : pairs.map (fun pair => pair.1.toList) = tokens) (distinct : tokens.Nodup)
    (entered : (token, value) ∈ pairs)
    (longest : IsLongest tokens (token.toList ++ back.toList) token.toList)
    (before : ∀ tail ∈ front.toList.tails, tail ≠ [] →
      NoneStarts tokens (tail ++ (token.toList ++ back.toList)))
    (behind : ∀ tail ∈ back.toList.tails, tail ≠ [] → NoneStarts tokens tail) :
    text = front ++ value ++ back := by
  obtain ⟨other, again, same⟩ := filled
  subst named
  have last : Segmentation (pairs.map fun pair => pair.1.toList) (back.toList ++ [])
      (back.toList.map .plain ++ []) := by
    refine .plainly (fun tail member inhabited => ?_) .done
    rw [List.append_nil]
    exact behind tail member inhabited
  rw [List.append_nil, List.append_nil] at last
  have cut := Segmentation.plainly before (.token longest (by rwa [List.drop_left]))
  rw [String.toList_append, String.toList_append, List.append_assoc] at again
  have plain (substitutions : List Substitution) (text : List Char) :
      (text.map Segment.plain).flatMap (Segment.fill substitutions) = text := by
    rw [List.flatMap_map]
    exact List.flatMap_singleton' text
  have replaced : valueOf (pairs.map fun pair => (pair.1.toList, pair.2.toList)) token.toList =
      value.toList := by
    refine valueOf_of_mem ?_ (List.mem_map_of_mem entered)
    rwa [List.map_map]
  rw [← String.toList_inj, same, again.unique cut, List.flatMap_append, List.flatMap_cons, plain,
    plain, Segment.fill, replaced, String.toList_append, String.toList_append, List.append_assoc]

/-- A template is filled along its one cut, which the tokens alone decide. Distinct tokens
may come in any order, a pair whose token comes again can be left out, and the same text
results when tokens are looked for everywhere. -/
theorem fill_along_cut (template : String) (pairs : List (String × String)) :
    (∃! cut, Segmentation ((characters pairs).map Prod.fst) template.toList cut) ∧
    (∀ cut, Segmentation ((characters pairs).map Prod.fst) template.toList cut →
      cut.flatMap Segment.source = template.toList ∧
      ∀ others : List (String × String), others.map Prod.fst = pairs.map Prod.fst →
        fill template others = String.ofList (cut.flatMap (Segment.fill (characters others)))) ∧
    (∀ others, pairs.Perm others → (pairs.map Prod.fst).Nodup →
      fill template others = fill template pairs) ∧
    (∀ front token value back, pairs = front ++ (token, value) :: back →
      token ∈ back.map Prod.fst → fill template pairs = fill template (front ++ back)) ∧
    fill template pairs =
      String.ofList (scan (fun _ => true) (characters pairs) template.toList) := by
  obtain ⟨cut, cuts⟩ := exists_segmentation ((characters pairs).map Prod.fst) template.toList
  refine ⟨⟨cut, cuts, fun other again => again.unique cuts⟩, ?_, ?_, ?_, ?_⟩
  · intro other again
    refine ⟨again.flatMap_source, fun others same => ?_⟩
    rw [map_fst_characters, ← same, ← map_fst_characters] at again
    rw [fill, fillChars_eq_of_segmentation again]
  · intro others permuted distinct
    have mapped : (characters pairs).Perm (characters others) := permuted.map _
    have tokens := mapped.map Prod.fst
    refine congrArg String.ofList (fillChars_congr (fun token => tokens.mem_iff.symm) ?_)
    intro token listed
    obtain ⟨⟨_, value⟩, entered, rfl⟩ := List.mem_map.mp listed
    have kept := nodup_characters distinct
    rw [valueOf_of_mem (tokens.nodup_iff.mp kept) entered,
      valueOf_of_mem kept (mapped.mem_iff.mpr entered)]
  · rintro front token value back rfl again
    have parted : characters (front ++ (token, value) :: back) =
        characters front ++ (token.toList, value.toList) :: characters back := by simp [characters]
    have joined : characters (front ++ back) = characters front ++ characters back :=
      List.map_append
    have repeated : token.toList ∈ (characters back).map Prod.fst := by
      rw [map_fst_characters]
      exact List.mem_map_of_mem again
    rw [fill, fill, parted, joined]
    refine congrArg String.ofList (fillChars_congr (fun sought => ?_) fun sought _ => ?_)
    · simp only [List.map_append, List.map_cons, List.mem_append, List.mem_cons]
      constructor
      · rintro (inside | rfl | behind)
        · exact .inl inside
        · exact .inr repeated
        · exact .inr behind
      · exact Or.imp_right .inr
    · exact valueOf_of_repeated repeated sought
  · rw [fill, fillChars_eq_of_segmentation cuts,
      scan_eq_of_segmentation (fun _ _ _ _ _ => rfl) cuts]

/-- The longer of two tokens is taken, and the text put in its place is left as it is. -/
example : fill "ab abc" [("ab", "abc"), ("abc", "x"), ("ab", "abc!")] = "abc! x" := by
  decide +kernel

end GameBundle.Template
