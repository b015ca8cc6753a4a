import GameBundle.Proofs.Json.Stable

/-!
# Records that take what they encode

A record is made by storing members into the blank record, so what each store keeps holds of
the record in the end. A record whose members store back one by one is taken in its encoded
form.
-/

namespace GameBundle.Json

def keys : Json → List String
  | .object members => members.map Prod.fst
  | _ => []

variable {ρ : Type}

namespace Field

variable {α : Type} {setting : Setting} {absence : Absence} {name : String} {decode : Decoder α}
  {set : α → ρ → ρ}

def Keeps (field : Field ρ) (setting : Setting) (holds : ρ → Prop) : Prop :=
  ∀ draft record stored, field.store setting draft record = .ok stored → holds record → holds stored

def AllKeep (fields : List (Field ρ)) (setting : Setting) (holds : ρ → Prop) : Prop :=
  ∀ field ∈ fields, field.Keeps setting holds

namespace AllKeep

variable {fields : List (Field ρ)} {holds : ρ → Prop}

theorem nil : AllKeep [] setting holds := by simp [AllKeep]

theorem cons
    (kept : ∀ {draft value record}, decode setting draft = .ok value → holds record →
      holds (set value record))
    (others : AllKeep fields setting holds) :
    AllKeep (make absence name decode set :: fields) setting holds := by
  intro field member
  rcases List.mem_cons.mp member with rfl | behind
  · intro draft record stored done held
    obtain ⟨value, taken, last⟩ := bind_eq_ok done
    cases last
    exact kept taken held
  · exact others field behind

/-- A field that a property does not depend on. -/
theorem skip (apart : ∀ {value record}, holds record → holds (set value record))
    (others : AllKeep fields setting holds) :
    AllKeep (make absence name decode set :: fields) setting holds :=
  cons (fun _ held => apart held) others

end AllKeep

theorem store_of_reads {encode : α → Json} {value : α} (reads : decode.Reads encode setting value)
    (record : ρ) : (make absence name decode set).store setting (.ofJson (encode value)) record =
      .ok (set value record) := by
  show (decode setting (.ofJson (encode value)) >>= fun value => pure (set value record)) = _
  rw [bind_ok reads]
  rfl

end Field

namespace RecordType

variable {type : RecordType ρ} {setting inner : Setting}

section Keeps

variable {holds : ρ → Prop}

theorem holds_storeMembers (keeps : Field.AllKeep type.fields setting holds) :
    ∀ {members : Members} {met names : List String} {record last : ρ},
      type.storeMembers setting members met record = .ok (names, last) → holds record → holds last
  | .close, _, _, _, _, done, held => by
    cases done
    exact held
  | .broken _, _, _, _, _, done, _ => by cases done
  | .member key draft rest, met, _, record, last, done, held => by
    obtain ⟨name, -, done⟩ := bind_eq_ok done
    split at done
    · obtain ⟨-, -, done⟩ := bind_eq_ok done
      exact holds_storeMembers keeps done held
    · rename_i field found
      split at done
      · cases done
      · obtain ⟨stored, first, done⟩ := bind_eq_ok done
        have kept := keeps field (List.mem_of_find?_eq_some found) _ _ _ first held
        exact holds_storeMembers keeps done kept

theorem holds_storeItems {total : Nat} :
    ∀ {fields : List (Field ρ)} {items : Items} {position : Nat} {record last : ρ},
      Field.AllKeep fields setting holds →
        type.storeItems setting total fields items position record = .ok last →
          holds record → holds last
  | [], .close, _, _, _, _, done, held => by
    cases done
    exact held
  | [], .broken _, _, _, _, _, done, _ => by cases done
  | [], .item _ _, _, _, _, _, done, _ => by cases done
  | field :: fields, .close, position, _, _, keeps, done, held => by
    unfold storeItems at done
    split at done
    · have others := fun other member => keeps other (List.mem_cons_of_mem _ member)
      exact holds_storeItems others done held
    · cases done
  | field :: fields, .broken _, _, _, _, _, done, _ => by cases done
  | field :: fields, .item draft rest, position, _, _, keeps, done, held => by
    obtain ⟨stored, first, done⟩ := bind_eq_ok done
    exact holds_storeItems (fun other member => keeps other (List.mem_cons_of_mem _ member)) done
      (keeps field List.mem_cons_self _ _ _ first held)

end Keeps

/-- What holds of the blank record and is kept by every field holds of a record that is taken. -/
theorem holds_of_decode (holds : Setting → ρ → Prop) {draft : Draft} {record : ρ}
    (taken : type.decode setting draft = .ok record) :
    ∃ inner, setting.enter = .ok inner ∧ (Field.AllKeep type.fields inner (holds inner) →
      holds inner type.blank → holds inner record) := by
  unfold decode at taken
  split at taken
  · obtain ⟨inner, opened, taken⟩ := bind_eq_ok taken
    obtain ⟨⟨names, stored⟩, done, taken⟩ := bind_eq_ok taken
    refine ⟨inner, opened, fun keeps blank => ?_⟩
    dsimp only at taken
    split at taken
    · cases taken
    · cases taken
      exact holds_storeMembers keeps done blank
  · obtain ⟨inner, opened, done⟩ := bind_eq_ok taken
    exact ⟨inner, opened, fun keeps blank => holds_storeItems keeps done blank⟩
  · cases taken

/-- Storing members one after the other makes one record out of another. -/
inductive Stores (type : RecordType ρ) (setting : Setting) :
    List (String × Json) → ρ → ρ → Prop where
  | nil {record : ρ} : Stores type setting [] record record
  | cons {key : String} {json : Json} {rest : List (String × Json)} {field : Field ρ}
      {record stored last : ρ}
      (known : type.fields.find? (fun field => field.name == key) = some field)
      (first : field.store setting (.ofJson json) record = .ok stored)
      (others : Stores type setting rest stored last) :
      Stores type setting ((key, json) :: rest) record last

theorem Stores.append {front back : List (String × Json)} {record stored last : ρ}
    (first : type.Stores setting front record stored)
    (second : type.Stores setting back stored last) :
    type.Stores setting (front ++ back) record last := by
  induction first with
  | nil => exact second
  | cons known store _ ih => exact .cons known store (ih second)

/-- Keys without repetition that include those of all required fields. -/
def Covers (type : RecordType ρ) (keys : List String) : Prop :=
  keys.Nodup ∧ ∀ field ∈ type.fields, field.absence = .fault → field.name ∈ keys

instance (type : RecordType ρ) (keys : List String) : Decidable (type.Covers keys) :=
  inferInstanceAs (Decidable (_ ∧ _))

theorem storeMembers_of_stores {members : List (String × Json)} {record last : ρ}
    (stores : type.Stores setting members record last) {met : List String}
    (nodup : (members.map Prod.fst).Nodup) (fresh : ∀ key ∈ members.map Prod.fst, key ∉ met) :
    type.storeMembers setting (.ofList members) met record =
      .ok ((members.map Prod.fst).reverse ++ met, last) := by
  induction stores generalizing met with
  | nil => rfl
  | @cons key json rest field record stored last known first others ih =>
    rw [List.map_cons] at nodup fresh
    obtain ⟨apart, nodup⟩ := List.nodup_cons.mp nodup
    have new : met.contains key = false := by
      simpa using fresh key List.mem_cons_self
    have later : ∀ name ∈ rest.map Prod.fst, name ∉ key :: met := by
      intro name member
      rw [List.mem_cons, not_or]
      refine ⟨?_, fresh name (List.mem_cons_of_mem _ member)⟩
      rintro rfl
      exact apart member
    rw [Members.ofList, storeMembers, bind_ok rfl]
    simp only [known, new]
    rw [if_neg (by simp), bind_ok first, ih nodup later]
    simp

theorem decode_of_stores {members : List (String × Json)} {record : ρ}
    (opened : setting.enter = .ok inner) (covers : type.Covers (Json.object members).keys)
    (stores : type.Stores inner members type.blank record) :
    type.decode setting (.ofJson (.object members)) = .ok record := by
  have complete : type.missing? ((members.map Prod.fst).reverse ++ []) = none := by
    simp only [missing?, Option.map_eq_none_iff, List.find?_eq_none]
    intro field member
    by_cases needed : field.absence = .fault
    · have present : field.name ∈ members.map Prod.fst := covers.2 field member needed
      simp only [List.append_nil, List.contains_reverse]
      simpa [needed] using present
    · simp [needed]
  rw [Draft.ofJson, decode, bind_ok opened,
    bind_ok (storeMembers_of_stores stores covers.1 (by simp))]
  dsimp only
  rw [complete]

/-- A record type whose records are taken in their encoded form: some property holds of the blank
record, every field keeps it, and it lets the members of a record be stored back. -/
structure Faithful (type : RecordType ρ) (encode : ρ → Json) (depth : Nat)
    (holds : Setting → ρ → Prop) : Prop where
  blank : ∀ {setting : Setting}, depth ≤ setting.room → holds setting type.blank
  keeps : ∀ {setting : Setting}, depth ≤ setting.room →
    Field.AllKeep type.fields setting (holds setting)
  covers : ∀ record : ρ, type.Covers (encode record).keys
  stores : ∀ {setting : Setting} {record : ρ}, holds setting record →
    ∃ members, encode record = .object members ∧ type.Stores setting members type.blank record

/-- Records whose keys are always the same need not be asked one by one. -/
theorem covers_of_blank {encode : ρ → Json}
    (same : ∀ record, (encode record).keys = (encode type.blank).keys)
    (covers : type.Covers (encode type.blank).keys) (record : ρ) :
    type.Covers (encode record).keys := by
  rw [same]
  exact covers

section Faithful

variable {encode : ρ → Json} {depth : Nat} {holds : Setting → ρ → Prop}

theorem Faithful.reads (faithful : type.Faithful encode depth holds)
    (opened : setting.enter = .ok inner) {record : ρ} (held : holds inner record) :
    type.decode.Reads encode setting record := by
  obtain ⟨members, shape, stores⟩ := faithful.stores held
  have covers := faithful.covers record
  rw [shape] at covers
  rw [Decoder.Reads, shape]
  exact decode_of_stores opened covers stores

theorem Faithful.of_decode (faithful : type.Faithful encode depth holds)
    (free : depth + 1 ≤ setting.room) {draft : Draft} {record : ρ}
    (taken : type.decode setting draft = .ok record) :
    ∃ inner, setting.enter = .ok inner ∧ holds inner record := by
  obtain ⟨inner, opened, held⟩ := holds_of_decode holds taken
  have room := Setting.room_of_enter opened
  have enough : depth ≤ inner.room := by omega
  exact ⟨inner, opened, held (faithful.keeps enough) (faithful.blank enough)⟩

theorem Faithful.stable (faithful : type.Faithful encode depth holds) :
    Decoder.Stable (depth + 1) type.decode encode := by
  intro setting draft record free taken
  obtain ⟨inner, opened, held⟩ := faithful.of_decode free taken
  exact faithful.reads opened held

end Faithful

end RecordType

end GameBundle.Json
