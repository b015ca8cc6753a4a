import GameBundle.Json.Decoder
import GameBundle.Proofs.Dictionary

/-!
# Decoders that take what they encode

A decoder is stable when it takes whatever it has taken in its encoded form, too. Stability goes
from the items to a list and to a dictionary, once a container more may be opened. Values of any
shape are stable because decoding puts their members in order.
-/

namespace GameBundle.Json

theorem bind_eq_ok {α β : Type} {first : Except Fault α} {next : α → Except Fault β} {b : β}
    (done : (first >>= next) = .ok b) : ∃ a, first = .ok a ∧ next a = .ok b := by
  cases first with
  | error cause => cases done
  | ok a => exact ⟨a, rfl, done⟩

theorem bind_ok {α β : Type} {first : Except Fault α} {a : α} (done : first = .ok a)
    (next : α → Except Fault β) : (first >>= next) = next a := by
  rw [done]
  rfl

theorem Setting.enter_of_pos {setting : Setting} {room : Nat} (free : room < setting.room) :
    ∃ inner, setting.enter = .ok inner ∧ room ≤ inner.room := by
  obtain ⟨total, fromText⟩ := setting
  cases total with
  | zero => exact absurd free (Nat.not_lt_zero room)
  | succ total => exact ⟨⟨total, fromText⟩, rfl, Nat.le_of_lt_succ free⟩

theorem Setting.room_of_enter {setting inner : Setting} (opened : setting.enter = .ok inner) :
    setting.room = inner.room + 1 := by
  obtain ⟨total, fromText⟩ := setting
  cases total with
  | zero => cases opened
  | succ total =>
    cases opened
    rfl

namespace Decoder

variable {α β : Type}

theorem exists_of_ofText {decode : Decoder α} {text : String} {value : α}
    (read : decode.ofText text = .ok value) : ∃ draft, decode .ofText draft = .ok value := by
  obtain ⟨taken, done, last⟩ := bind_eq_ok read
  refine ⟨(Draft.ofText text).1, ?_⟩
  have same : taken = value := by
    dsimp only at last
    split at last
    · split at last
      · exact Except.ok.inj last
      · cases last
    · exact Except.ok.inj last
  rw [← same]
  exact done

/-- A value is taken back in its encoded form. -/
def Reads (decode : Decoder α) (encode : α → Json) (setting : Setting) (value : α) : Prop :=
  decode setting (.ofJson (encode value)) = .ok value

/-- Whatever a decoder takes, it takes back in its encoded form, once that many containers
may still be opened. -/
def Stable (depth : Nat) (decode : Decoder α) (encode : α → Json) : Prop :=
  ∀ {setting : Setting} {draft : Draft} {value : α}, depth ≤ setting.room →
    decode setting draft = .ok value → decode.Reads encode setting value

theorem stable_of_reads {depth : Nat} {decode : Decoder α} {encode : α → Json}
    (reads : ∀ setting value, depth ≤ setting.room → decode.Reads encode setting value) :
    Stable depth decode encode :=
  fun enough _ => reads _ _ enough

theorem text_reads (setting : Setting) (value : String) : text.Reads .string setting value := rfl

theorem text_stable : Stable 0 text .string := stable_of_reads fun _ _ _ => text_reads _ _

theorem unsigned_reads {bits value : Nat} (fits : value < Nat.pow 2 bits) (setting : Setting) :
    (unsigned bits).Reads .natural setting value := by
  have inside : (0 : Int) ≤ value ∧ (value : Int) < Nat.pow 2 bits :=
    ⟨Int.natCast_nonneg value, Int.ofNat_lt.mpr fits⟩
  show (if (0 : Int) ≤ value ∧ (value : Int) < Nat.pow 2 bits then _ else _) = _
  rw [if_pos inside]
  rfl

theorem lt_of_unsigned {bits : Nat} {setting : Setting} {draft : Draft} {value : Nat}
    (taken : unsigned bits setting draft = .ok value) : value < Nat.pow 2 bits := by
  unfold unsigned at taken
  dsimp only at taken
  split at taken
  · split at taken
    · rename_i inside
      cases taken
      have below := inside.2
      omega
    · cases taken
  · cases taken

/-- A decoder whose values are looked at in a way that can be undone. -/
theorem map_stable {depth : Nat} {decode : Decoder β} {encode : β → Json} {f : β → α} {g : α → β}
    (same : ∀ b, g (f b) = b) (stable : Stable depth decode encode) :
    Stable depth (.map f decode) fun a => encode (g a) := by
  intro setting draft value enough taken
  obtain ⟨b, first, last⟩ := bind_eq_ok taken
  cases last
  have back := stable enough first
  unfold Reads at back ⊢
  unfold map
  dsimp only
  rw [same, bind_ok back]
  rfl

end Decoder

theorem Items.decode_ofList {α : Type} {decode : Draft → Except Fault α} (encode : α → Json)
    {values : List α} (reads : ∀ value ∈ values, decode (.ofJson (encode value)) = .ok value) :
    (Items.ofList (values.map encode)).decode decode = .ok values := by
  induction values with
  | nil => rfl
  | cons value rest ih =>
    have first := reads value List.mem_cons_self
    have others := ih fun held member => reads held (List.mem_cons_of_mem _ member)
    rw [List.map_cons, Items.ofList, Items.decode, bind_ok first, bind_ok others]
    rfl

theorem Items.exists_of_decode {α : Type} {decode : Draft → Except Fault α} :
    ∀ {items : Items} {values : List α}, items.decode decode = .ok values →
      ∀ value ∈ values, ∃ draft, decode draft = .ok value
  | .close, _, taken, value, member => by
    cases taken
    cases member
  | .broken _, _, taken, _, _ => by cases taken
  | .item draft rest, _, taken, value, member => by
    obtain ⟨first, head, taken⟩ := bind_eq_ok taken
    obtain ⟨others, tail, taken⟩ := bind_eq_ok taken
    cases taken
    rcases List.mem_cons.mp member with rfl | behind
    · exact ⟨draft, head⟩
    · exact exists_of_decode tail value behind

namespace Decoder

variable {α : Type} {decode : Decoder α} {encode : α → Json} {depth : Nat}

theorem list_reads {setting inner : Setting} (opened : setting.enter = .ok inner) {values : List α}
    (reads : ∀ value ∈ values, decode.Reads encode inner value) :
    (list decode).Reads (.list encode) setting values := by
  show (setting.enter >>= fun inner =>
    (Items.ofList (values.map encode)).decode (decode inner)) = _
  rw [bind_ok opened]
  exact Items.decode_ofList encode reads

theorem list_reads_nil {setting : Setting} (free : 1 ≤ setting.room) :
    (list decode).Reads (.list encode) setting [] := by
  obtain ⟨inner, opened, -⟩ := Setting.enter_of_pos free
  exact list_reads opened (by simp)

theorem list_stable (stable : Stable depth decode encode) :
    Stable (depth + 1) (list decode) (.list encode) := by
  intro setting draft values enough taken
  unfold list at taken
  split at taken
  · obtain ⟨inner, opened, taken⟩ := bind_eq_ok taken
    refine list_reads opened fun value member => ?_
    obtain ⟨draft, held⟩ := Items.exists_of_decode taken value member
    have room := Setting.room_of_enter opened
    exact stable (by omega) held
  · cases taken

end Decoder

theorem Members.decode_ofList {α : Type} {decode : Draft → Except Fault α} (encode : α → Json)
    (known : Dictionary α) {entries : Dictionary α}
    (increasing : Dictionary.Increasing (known ++ entries))
    (reads : ∀ entry ∈ entries, decode (.ofJson (encode entry.2)) = .ok entry.2) :
    (Members.ofList (entries.map fun entry => (entry.1, encode entry.2))).decode decode known =
      .ok (known ++ entries) := by
  induction entries generalizing known with
  | nil => simp [Members.ofList, Members.decode]
  | cons entry rest ih =>
    obtain ⟨key, value⟩ := entry
    have first := reads _ List.mem_cons_self
    have last : ∀ entry ∈ known, entry.1 < key := fun entry member =>
      (List.pairwise_append.mp increasing).2.2 entry member (key, value) List.mem_cons_self
    have others := ih (known ++ [(key, value)]) (by simpa using increasing)
      fun held member => reads held (List.mem_cons_of_mem _ member)
    rw [List.map_cons, Members.ofList, Members.decode, bind_ok rfl, bind_ok first,
      Dictionary.insert_of_last last, others, List.append_assoc]
    rfl

/-- A dictionary with increasing keys whose values all have some property. -/
def Holds {α : Type} (good : α → Prop) (entries : Dictionary α) : Prop :=
  Dictionary.Increasing entries ∧ ∀ entry ∈ entries, good entry.2

theorem Holds.insert {α : Type} {good : α → Prop} {entries : Dictionary α}
    (holds : Holds good entries) (key : String) {value : α} (new : good value) :
    Holds good (entries.insert key value) := by
  refine ⟨holds.1.insert, fun entry member => ?_⟩
  rcases Dictionary.mem_of_mem_insert member with rfl | old
  · exact new
  · exact holds.2 entry old

theorem Members.holds_decode {α : Type} {decode : Draft → Except Fault α} {good : α → Prop}
    (sound : ∀ {draft value}, decode draft = .ok value → good value) :
    ∀ {members : Members} {known entries : Dictionary α},
      members.decode decode known = .ok entries → Holds good known → Holds good entries
  | .close, _, _, taken, holds => by
    cases taken
    exact holds
  | .broken _, _, _, taken, _ => by cases taken
  | .member key draft rest, _, _, taken, holds => by
    obtain ⟨name, -, taken⟩ := bind_eq_ok taken
    obtain ⟨value, head, taken⟩ := bind_eq_ok taken
    exact holds_decode sound taken (holds.insert name (sound head))

namespace Decoder

variable {α : Type} {decode : Decoder α} {encode : α → Json} {depth : Nat}

theorem dictionary_reads {setting inner : Setting} (opened : setting.enter = .ok inner)
    {entries : Dictionary α} (holds : Holds (decode.Reads encode inner) entries) :
    (dictionary decode).Reads
      (fun entries => .object (entries.map fun entry => (entry.1, encode entry.2))) setting
        entries := by
  show (setting.enter >>= fun inner => Members.decode (decode inner) []
    (Members.ofList (entries.map fun entry => (entry.1, encode entry.2)))) = _
  rw [bind_ok opened]
  exact Members.decode_ofList encode [] holds.1 holds.2

theorem dictionary_stable (stable : Stable depth decode encode) :
    Stable (depth + 1) (dictionary decode)
      fun entries => .object (entries.map fun entry => (entry.1, encode entry.2)) := by
  intro setting draft entries enough taken
  unfold dictionary at taken
  split at taken
  · obtain ⟨inner, opened, taken⟩ := bind_eq_ok taken
    have room := Setting.room_of_enter opened
    have sound {draft value} (held : decode inner draft = .ok value) :
        decode.Reads encode inner value := stable (by omega) held
    exact dictionary_reads opened (Members.holds_decode sound taken ⟨.nil, by simp⟩)
  · cases taken

end Decoder

theorem Items.decodeValues_eq (setting : Setting) :
    ∀ items : Items, items.decodeValues setting = items.decode (Draft.decodeValue setting)
  | .close => rfl
  | .broken _ => rfl
  | .item draft rest => by rw [decodeValues, decode, decodeValues_eq setting rest]

theorem Members.decodeValues_eq (setting : Setting) :
    ∀ (members : Members) (known : Dictionary Json), members.decodeValues setting known =
      members.decode (Draft.decodeValue setting) known
  | .close, _ => rfl
  | .broken _, _ => rfl
  | .member key draft rest, known => by
    simp only [decodeValues, decode, decodeValues_eq setting rest]

mutual

theorem Draft.decodeValue_ofJson : ∀ {draft : Draft} {setting : Setting} {value : Json},
    draft.decodeValue setting = .ok value → (Draft.ofJson value).decodeValue setting = .ok value
  | .null, _, _, taken => by cases taken; rfl
  | .bool _, _, _, taken => by cases taken; rfl
  | .number _, _, _, taken => by cases taken; rfl
  | .string _, _, _, taken => by cases taken; rfl
  | .flawed _, _, _, taken => by cases taken
  | .array items, setting, _, taken => by
    obtain ⟨inner, opened, taken⟩ := bind_eq_ok taken
    obtain ⟨values, held, taken⟩ := bind_eq_ok taken
    cases taken
    have back : (Items.ofList values).decode (Draft.decodeValue inner) = .ok values := by
      simpa using Items.decode_ofList id (Items.decodeValue_ofJson held)
    rw [Draft.ofJson, Draft.decodeValue, bind_ok opened, Items.decodeValues_eq, bind_ok back]
    rfl
  | .object members, setting, _, taken => by
    obtain ⟨inner, opened, taken⟩ := bind_eq_ok taken
    obtain ⟨entries, held, taken⟩ := bind_eq_ok taken
    cases taken
    have holds := Members.decodeValue_ofJson held ⟨.nil, by simp⟩
    have back : (Members.ofList entries).decode (Draft.decodeValue inner) [] = .ok entries := by
      simpa using Members.decode_ofList id [] holds.1 holds.2
    rw [Draft.ofJson, Draft.decodeValue, bind_ok opened, Members.decodeValues_eq, bind_ok back]
    rfl

theorem Items.decodeValue_ofJson : ∀ {items : Items} {setting : Setting} {values : List Json},
    items.decodeValues setting = .ok values →
      ∀ value ∈ values, (Draft.ofJson value).decodeValue setting = .ok value
  | .close, _, _, taken, _, member => by
    cases taken
    cases member
  | .broken _, _, _, taken, _, _ => by cases taken
  | .item draft rest, setting, _, taken, value, member => by
    obtain ⟨first, head, taken⟩ := bind_eq_ok taken
    obtain ⟨others, tail, taken⟩ := bind_eq_ok taken
    cases taken
    rcases List.mem_cons.mp member with rfl | behind
    · exact Draft.decodeValue_ofJson head
    · exact Items.decodeValue_ofJson tail value behind

theorem Members.decodeValue_ofJson : ∀ {members : Members} {setting : Setting}
    {known entries : Dictionary Json}, members.decodeValues setting known = .ok entries →
      Holds (fun value => (Draft.ofJson value).decodeValue setting = .ok value) known →
        Holds (fun value => (Draft.ofJson value).decodeValue setting = .ok value) entries
  | .close, _, _, _, taken, holds => by
    cases taken
    exact holds
  | .broken _, _, _, _, taken, _ => by cases taken
  | .member key draft rest, setting, _, _, taken, holds => by
    obtain ⟨name, -, taken⟩ := bind_eq_ok taken
    obtain ⟨value, head, taken⟩ := bind_eq_ok taken
    exact Members.decodeValue_ofJson taken (holds.insert name (Draft.decodeValue_ofJson head))

end

namespace Decoder

theorem value_stable : Stable 0 value id := fun _ taken => Draft.decodeValue_ofJson taken

theorem array_eq_list : Json.array = Json.list id := by
  funext values
  simp [Json.list]

theorem values_stable : Stable 1 (list value) .array := by
  rw [array_eq_list]
  exact list_stable value_stable

theorem values_reads_nil {setting : Setting} (free : 1 ≤ setting.room) :
    (list value).Reads .array setting [] := by
  rw [array_eq_list]
  exact list_reads_nil free

end Decoder

end GameBundle.Json
