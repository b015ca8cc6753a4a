import GameBundle.Proofs.Json.Spelling

/-!
# Strings inside documents

A document falls into fragments: the strings that are values, and single characters of all else.
The keys of objects are no fragments of their own. Strings that are values can be spelled anew
wherever they stand, and the document then has the value that the new spellings give.
-/

namespace GameBundle.Json

open Quoted (Letter textOf literal)

inductive Fragment where
  | char (c : Char)
  | string (letters : List Letter)

namespace Fragment

def chars : Fragment → List Char
  | .char c => [c]
  | .string letters => literal letters

def respell (f : List Letter → List Letter) : Fragment → Fragment
  | .char c => .char c
  | .string letters => .string (f letters)

@[simp] theorem respell_char (f : List Letter → List Letter) (c : Char) :
    respell f (.char c) = .char c := rfl

@[simp] theorem chars_char (c : Char) : (char c).chars = [c] := rfl

@[simp] theorem chars_string (letters : List Letter) :
    (string letters).chars = literal letters := rfl

theorem chars_ne_nil (fragment : Fragment) : fragment.chars ≠ [] := by
  cases fragment <;> simp [literal]

end Fragment

def apart (chars : List Char) : List Fragment := chars.map .char

@[simp] theorem apart_nil : apart [] = [] := rfl

@[simp] theorem apart_cons (c : Char) (chars : List Char) :
    apart (c :: chars) = .char c :: apart chars := rfl

@[simp] theorem apart_append (front back : List Char) :
    apart (front ++ back) = apart front ++ apart back := List.map_append

@[simp] theorem flatMap_apart (chars : List Char) :
    (apart chars).flatMap Fragment.chars = chars := by
  induction chars with
  | nil => rfl
  | cons c chars ih => simp [ih]

@[simp] theorem map_apart (f : List Letter → List Letter) (chars : List Char) :
    (apart chars).map (Fragment.respell f) = apart chars := by
  simp [apart, Function.comp_def]

mutual

def Spelling.fragments : Spelling → List Fragment
  | .string letters => [.string letters]
  | .array items => .char '[' :: items.fragments []
  | .object members => .char '{' :: members.fragments []
  | spelling => apart spelling.chars

def ItemSpellings.fragments (lead : List Char) : ItemSpellings → List Fragment
  | .close front => apart (front.chars ++ [']'])
  | .item front value back rest =>
    apart (lead ++ front.chars) ++ (value.fragments ++
      (apart back.chars ++ rest.fragments [',']))

def MemberSpellings.fragments (lead : List Char) : MemberSpellings → List Fragment
  | .close front => apart (front.chars ++ ['}'])
  | .member front key middle ahead value back rest =>
    apart (lead ++ (front.chars ++ (literal key ++ (middle.chars ++ ':' :: ahead.chars)))) ++
      (value.fragments ++ (apart back.chars ++ rest.fragments [',']))

end

mutual

def Spelling.respell (f : List Letter → List Letter) : Spelling → Spelling
  | .string letters => .string (f letters)
  | .array items => .array (items.respell f)
  | .object members => .object (members.respell f)
  | spelling => spelling

def ItemSpellings.respell (f : List Letter → List Letter) : ItemSpellings → ItemSpellings
  | .close front => .close front
  | .item front value back rest => .item front (value.respell f) back (rest.respell f)

def MemberSpellings.respell (f : List Letter → List Letter) : MemberSpellings → MemberSpellings
  | .close front => .close front
  | .member front key middle ahead value back rest =>
    .member front key middle ahead (value.respell f) back (rest.respell f)

end

mutual

/-- The fragments leave nothing of the text out. -/
theorem Spelling.flatMap_fragments : ∀ spelling : Spelling,
    spelling.fragments.flatMap Fragment.chars = spelling.chars
  | .null => rfl
  | .bool _ => flatMap_apart _
  | .number _ => flatMap_apart _
  | .string letters => List.append_nil _
  | .array items => by
    simp [Spelling.fragments, Spelling.chars, ItemSpellings.flatMap_fragments]
  | .object members => by
    simp [Spelling.fragments, Spelling.chars, MemberSpellings.flatMap_fragments]

theorem ItemSpellings.flatMap_fragments (lead : List Char) : ∀ items : ItemSpellings,
    (items.fragments lead).flatMap Fragment.chars = items.chars lead
  | .close front => flatMap_apart _
  | .item front value back rest => by
    simp [ItemSpellings.fragments, ItemSpellings.chars, Spelling.flatMap_fragments value,
      ItemSpellings.flatMap_fragments [','] rest]

theorem MemberSpellings.flatMap_fragments (lead : List Char) : ∀ members : MemberSpellings,
    (members.fragments lead).flatMap Fragment.chars = members.chars lead
  | .close front => flatMap_apart _
  | .member front key middle ahead value back rest => by
    simp [MemberSpellings.fragments, MemberSpellings.chars, Spelling.flatMap_fragments value,
      MemberSpellings.flatMap_fragments [','] rest]

end

variable (f : List Letter → List Letter) (read : List Letter → String)

mutual

theorem Spelling.fragments_respell : ∀ spelling : Spelling,
    (spelling.respell f).fragments = spelling.fragments.map (Fragment.respell f)
  | .null => rfl
  | .bool _ => (map_apart _ _).symm
  | .number _ => (map_apart _ _).symm
  | .string letters => rfl
  | .array items => by
    simp [Spelling.respell, Spelling.fragments, ItemSpellings.fragments_respell]
  | .object members => by
    simp [Spelling.respell, Spelling.fragments, MemberSpellings.fragments_respell]

theorem ItemSpellings.fragments_respell (lead : List Char) : ∀ items : ItemSpellings,
    (items.respell f).fragments lead = (items.fragments lead).map (Fragment.respell f)
  | .close front => (map_apart _ _).symm
  | .item front value back rest => by
    simp [ItemSpellings.respell, ItemSpellings.fragments, Spelling.fragments_respell value,
      ItemSpellings.fragments_respell [','] rest]

theorem MemberSpellings.fragments_respell (lead : List Char) : ∀ members : MemberSpellings,
    (members.respell f).fragments lead = (members.fragments lead).map (Fragment.respell f)
  | .close front => (map_apart _ _).symm
  | .member front key middle ahead value back rest => by
    simp [MemberSpellings.respell, MemberSpellings.fragments, Spelling.fragments_respell value,
      MemberSpellings.fragments_respell [','] rest]

end

mutual

/-- New spellings are read in the place of the old ones. -/
theorem Spelling.valueBy_respell : ∀ spelling : Spelling,
    (spelling.respell f).valueBy read = spelling.valueBy fun letters => read (f letters)
  | .null => rfl
  | .bool _ => rfl
  | .number _ => rfl
  | .string letters => rfl
  | .array items => by
    rw [Spelling.respell, Spelling.valueBy, ItemSpellings.valuesBy_respell items, Spelling.valueBy]
  | .object members => by
    rw [Spelling.respell, Spelling.valueBy, MemberSpellings.valuesBy_respell members,
      Spelling.valueBy]

theorem ItemSpellings.valuesBy_respell : ∀ items : ItemSpellings,
    (items.respell f).valuesBy read = items.valuesBy fun letters => read (f letters)
  | .close front => by simp [ItemSpellings.respell, ItemSpellings.valuesBy]
  | .item front value back rest => by
    rw [ItemSpellings.respell, ItemSpellings.valuesBy, Spelling.valueBy_respell value,
      ItemSpellings.valuesBy_respell rest, ItemSpellings.valuesBy]

theorem MemberSpellings.valuesBy_respell : ∀ (members : MemberSpellings)
    (entries : Dictionary Json), (members.respell f).valuesBy read entries =
      members.valuesBy (fun letters => read (f letters)) entries
  | .close front, _ => by simp [MemberSpellings.respell, MemberSpellings.valuesBy]
  | .member front key middle ahead value back rest, entries => by
    rw [MemberSpellings.respell, MemberSpellings.valuesBy, Spelling.valueBy_respell value,
      MemberSpellings.valuesBy_respell rest, MemberSpellings.valuesBy]

end

mutual

theorem Spelling.depth_respell : ∀ spelling : Spelling,
    (spelling.respell f).depth = spelling.depth
  | .null => rfl
  | .bool _ => rfl
  | .number _ => rfl
  | .string letters => rfl
  | .array items => by
    rw [Spelling.respell, Spelling.depth, ItemSpellings.depth_respell items, Spelling.depth]
  | .object members => by
    rw [Spelling.respell, Spelling.depth, MemberSpellings.depth_respell members, Spelling.depth]

theorem ItemSpellings.depth_respell : ∀ items : ItemSpellings,
    (items.respell f).depth = items.depth
  | .close front => by rw [ItemSpellings.respell]
  | .item front value back rest => by
    rw [ItemSpellings.respell, ItemSpellings.depth, Spelling.depth_respell value,
      ItemSpellings.depth_respell rest, ItemSpellings.depth]

theorem MemberSpellings.depth_respell : ∀ members : MemberSpellings,
    (members.respell f).depth = members.depth
  | .close front => by rw [MemberSpellings.respell]
  | .member front key middle ahead value back rest => by
    rw [MemberSpellings.respell, MemberSpellings.depth, Spelling.depth_respell value,
      MemberSpellings.depth_respell rest, MemberSpellings.depth]

end

namespace Document

variable (document : Document)

def fragments : List Fragment :=
  apart document.front.chars ++ (document.spelling.fragments ++ apart document.back.chars)

def respell : Document :=
  { document with spelling := document.spelling.respell f }

theorem flatMap_fragments : document.fragments.flatMap Fragment.chars = document.chars := by
  simp [fragments, chars, Spelling.flatMap_fragments]

theorem fragments_respell :
    (document.respell f).fragments = document.fragments.map (Fragment.respell f) := by
  simp [fragments, respell, Spelling.fragments_respell]

theorem valueBy_respell :
    (document.respell f).valueBy read = document.valueBy fun letters => read (f letters) :=
  document.spelling.valueBy_respell f read

theorem depth_respell : (document.respell f).depth = document.depth :=
  document.spelling.depth_respell f

end Document

end GameBundle.Json
