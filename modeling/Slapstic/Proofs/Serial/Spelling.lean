import Slapstic.Serial.Board
import Slapstic.Proofs.Part.Label

/-!
# Proofs/Serial/Spelling — many spellings in JSON, one written form

There are several ways in which a JSON value **spells** a part, a host, a phase, a trigger, a setup
or a save state (`Spelling`): a part by its number or by a label that denotes it, a host or a phase
without fields by its name, bare or tagged, and a record by an object with its fields among the
members or by an array of them.  A JSON value reads as what it spells and as nothing else, so all
spellings of a value are rewritten alike, as the form in which it is written (`Json.Canonical`).

The engine is the inversion of a reader, `Decoded.bind_eq_ok_iff`: it succeeds exactly if the
reading of each of its fields does.
-/

namespace Slapstic

/-! ## Readers that succeed -/

namespace Decoded

variable {α β : Type}

theorem bind_eq_ok_iff {x : Decoded α} {f : α → Decoded β} {b : β} :
    (x >>= f) = .ok b ↔ ∃ a, x = .ok a ∧ f a = .ok b := by
  cases x <;> simp [bind, Except.bind]

theorem map_eq_ok_iff {x : Decoded α} {f : α → β} {b : β} :
    Except.map f x = .ok b ↔ ∃ a, x = .ok a ∧ f a = b := by
  cases x <;> simp [Except.map]

theorem pure_eq_ok_iff {a b : α} : (pure a : Decoded α) = .ok b ↔ a = b := by
  simp [pure, Except.pure]

theorem require_eq_ok_iff {value? : Option α} {a : α} :
    require value? = .ok a ↔ value? = some a := by
  cases value? <;> simp [require]

end Decoded

namespace Json

theorem toNatBelow_eq_ok_iff {json : Json} {bound n : Nat} :
    json.toNatBelow bound = .ok n ↔ json = .nat n ∧ n < bound := by
  constructor
  · intro read
    unfold toNatBelow at read
    split at read
    next m =>
      split at read
      next lt =>
        obtain rfl := Except.ok.inj read
        exact ⟨rfl, lt⟩
      next => cases read
    next => cases read
  · rintro ⟨rfl, lt⟩
    exact toNatBelow_nat lt

theorem toByte_eq_ok_iff {json : Json} {byte : UInt8} :
    json.toByte = .ok byte ↔ json = .ofByte byte := by
  constructor
  · intro read
    obtain ⟨n, below, rfl⟩ := Decoded.map_eq_ok_iff.mp read
    obtain ⟨rfl, lt⟩ := toNatBelow_eq_ok_iff.mp below
    rw [ofByte, UInt8.toNat_ofNat_of_lt' lt]
  · rintro rfl
    exact toByte_ofByte byte

theorem toWord_eq_ok_iff {json : Json} {word : UInt16} :
    json.toWord = .ok word ↔ json = .ofWord word := by
  constructor
  · intro read
    obtain ⟨n, below, rfl⟩ := Decoded.map_eq_ok_iff.mp read
    obtain ⟨rfl, lt⟩ := toNatBelow_eq_ok_iff.mp below
    rw [ofWord, UInt16.toNat_ofNat_of_lt' lt]
  · rintro rfl
    exact toWord_ofWord word

section Members

variable {α : Type} {members : List (String × Json)} {name : String}

theorem readMember_eq_ok_some_iff {read : Json → Decoded α} {a : α} {kind : Json → Prop}
    (reads : ∀ value, read value = .ok a ↔ kind value) :
    readMember members name read = .ok (some a) ↔
      ∃ value, members.lookup name = some value ∧ kind value := by
  unfold readMember
  split
  next value found => simp [found, Decoded.map_eq_ok_iff, reads]
  next absent => simp [absent]

theorem readMember_eq_ok_none_iff (read : Json → Decoded α) :
    readMember members name read = .ok none ↔ members.lookup name = none := by
  unfold readMember
  split
  next value found => simp [found, Decoded.map_eq_ok_iff]
  next absent => simp [absent]

end Members

/-! ## Shapes of spellings -/

/-- **A name in JSON**, bare or tagged: over nothing in an object of its own. -/
inductive Names (name : String) : Json → Prop where
  | bare : Names name (.str name)
  | tagged : Names name (.obj [(name, .null)])

/-- **An object has given members**, among any others. -/
def Includes (members fields : List (String × Json)) : Prop :=
  ∀ field ∈ fields, members.lookup field.1 = some field.2

@[simp] theorem includes_nil (members : List (String × Json)) : Includes members [] :=
  List.forall_mem_nil _

@[simp] theorem includes_cons {members fields : List (String × Json)} {field : String × Json} :
    Includes members (field :: fields) ↔
      members.lookup field.1 = some field.2 ∧ Includes members fields :=
  List.forall_mem_cons

/-- **A JSON value has fields of given kinds**: an object has them among its members, an array as
its items. -/
inductive HasFields (fields : List (String × (Json → Prop))) : Json → Prop where
  | members {members : List (String × Json)}
      (found : ∀ field ∈ fields, ∃ value, members.lookup field.1 = some value ∧ field.2 value) :
      HasFields fields (.obj members)
  | items {items : List Json} (kinds : List.Forall₂ (fun field item => field.2 item) fields items) :
      HasFields fields (.arr items)

theorem hasFields_obj_iff {fields : List (String × (Json → Prop))}
    {members : List (String × Json)} : HasFields fields (.obj members) ↔
      ∀ field ∈ fields, ∃ value, members.lookup field.1 = some value ∧ field.2 value :=
  ⟨fun | .members found => found, .members⟩

theorem hasFields_arr_iff {fields : List (String × (Json → Prop))} {items : List Json} :
    HasFields fields (.arr items) ↔ List.Forall₂ (fun field item => field.2 item) fields items :=
  ⟨fun | .items kinds => kinds, .items⟩

/-! ## Canonical forms -/

/-- **Many forms to read and one to write**: what is written reads back, a JSON value reads as what
it spells, and it is rewritten to the written form of a value exactly if it spells the value. -/
structure Canonical {α : Type} (write : α → Json) (read : Json → Decoded α)
    (Spells : α → Json → Prop) : Prop where
  read_write : ∀ a, read (write a) = .ok a
  read_iff : ∀ a json, read json = .ok a ↔ Spells a json
  rewrite_iff : ∀ a json, (read json).map write = .ok (write a) ↔ Spells a json

/-- No two values have one written form, hence rewriting needs no case of its own. -/
theorem Canonical.of_read {α : Type} {write : α → Json} {read : Json → Decoded α}
    {Spells : α → Json → Prop} (read_write : ∀ a, read (write a) = .ok a)
    (read_iff : ∀ {a json}, read json = .ok a ↔ Spells a json) : Canonical write read Spells where
  read_write := read_write
  read_iff _ _ := read_iff
  rewrite_iff a json := by
    have injective : Function.Injective write := fun a b eq =>
      Except.ok.inj ((read_write a).symm.trans (eq ▸ read_write b))
    rw [← read_iff, Decoded.map_eq_ok_iff]
    constructor
    · rintro ⟨b, ok, eq⟩
      rwa [← injective eq]
    · exact fun ok => ⟨a, ok, rfl⟩

end Json

/-! ## Parts -/

namespace PartNumber

/-- **A JSON value spells a part**: it is the part's number, or a label that denotes the number. -/
inductive Spelling (part : PartNumber) : Json → Prop where
  | number : Spelling part (.ofWord part.number)
  | label {label : String} (denotes : Denotes label part.number.toNat) : Spelling part (.str label)

theorem ofJson_eq_ok_iff {json : Json} {part : PartNumber} :
    ofJson json = .ok part ↔ Spelling part json := by
  constructor
  · intro read
    unfold ofJson at read
    split at read
    next label => exact .label (ofJson_str_eq_ok_iff.mp read)
    next =>
      obtain ⟨number, word, sorted⟩ := Decoded.bind_eq_ok_iff.mp read
      obtain rfl := Json.toWord_eq_ok_iff.mp word
      cases found : ofNumber number with
      | error => simp [found, Except.mapError] at sorted
      | ok named =>
        obtain rfl : named = part := by simpa [found, Except.mapError] using sorted
        rw [ofNumber_eq_ok_iff.mp found]
        exact .number
  · rintro (_ | denotes)
    · exact ofJson_toJson part
    · exact ofJson_str_eq_ok_iff.mpr denotes

theorem canonical : Json.Canonical toJson ofJson Spelling := .of_read ofJson_toJson ofJson_eq_ok_iff

end PartNumber

/-! ## Hosts -/

namespace Host

/-- **A JSON value spells a host**: it is the host's name. -/
def Spelling (host : Host) : Json → Prop := Json.Names host.name

theorem ofName?_eq_some_iff {name : String} {host : Host} :
    ofName? name = some host ↔ host.name = name := by
  constructor
  · intro found
    exact eq_of_beq (List.find?_some (p := fun host : Host => host.name == name) found)
  · rintro rfl
    cases host <;> rfl

theorem ofJson_eq_ok_iff {json : Json} {host : Host} :
    ofJson json = .ok host ↔ Spelling host json := by
  constructor
  · intro read
    unfold ofJson at read
    split at read
    next name =>
      obtain rfl := ofName?_eq_some_iff.mp (Decoded.require_eq_ok_iff.mp read)
      exact .bare
    next name =>
      obtain rfl := ofName?_eq_some_iff.mp (Decoded.require_eq_ok_iff.mp read)
      exact .tagged
    next => cases read
  · have found := Decoded.require_eq_ok_iff.mpr (ofName?_eq_some_iff.mpr (rfl : host.name = _))
    rintro (_ | _) <;> exact found

theorem ofJson_toJson (host : Host) : ofJson host.toJson = .ok host := ofJson_eq_ok_iff.mpr .bare

theorem canonical : Json.Canonical toJson ofJson Spelling := .of_read ofJson_toJson ofJson_eq_ok_iff

end Host

/-! ## Phases -/

namespace Phase

/-- **A JSON value spells a phase**: without fields by its name, with fields by an object of them
under the name. -/
inductive Spelling (phase : Phase) : Json → Prop where
  | plain {json : Json} (fields_eq : phase.fields = []) (names : Json.Names phase.tag json) :
      Spelling phase json
  | fields {members : List (String × Json)} (fields_ne : phase.fields ≠ [])
      (includes : Json.Includes members phase.fields) :
      Spelling phase (.obj [(phase.tag, .obj members)])

theorem ofTag?_eq_some_iff {tag : String} {phase : Phase} :
    ofTag? tag = some phase ↔ phase.fields = [] ∧ phase.tag = tag := by
  constructor
  · intro found
    refine ⟨?_, eq_of_beq (List.find?_some (p := fun phase : Phase => phase.tag == tag) found)⟩
    have mem := List.mem_of_find?_eq_some found
    simp only [plain, List.mem_cons, List.not_mem_nil, or_false] at mem
    rcases mem with rfl | rfl | rfl | rfl | rfl | rfl <;> rfl
  · rintro ⟨fields_eq, rfl⟩
    cases phase with
    | disabled | enabled | alternate1 | alternate2 | bitwise1 | additive1 => rfl
    | alternate3 | bitwise2 | bitwise3 | additive2 | additive3 => cases fields_eq

theorem byteField_eq_ok_iff {members : List (String × Json)} {name : String} {byte : UInt8} :
    byteField members name = .ok byte ↔ members.lookup name = some (.ofByte byte) := by
  simp [byteField, Decoded.bind_eq_ok_iff, Decoded.require_eq_ok_iff,
    Json.readMember_eq_ok_some_iff fun _ => Json.toByte_eq_ok_iff]

/-- **Fields read as the phase that has them.** -/
theorem ofFields_eq_ok_iff {tag : String} {members : List (String × Json)} {phase : Phase} :
    ofFields tag members = .ok phase ↔
      phase.fields ≠ [] ∧ phase.tag = tag ∧ Json.Includes members phase.fields := by
  constructor
  · intro read
    unfold ofFields at read
    split at read
    all_goals
      simp only [Decoded.bind_eq_ok_iff, Decoded.pure_eq_ok_iff, byteField_eq_ok_iff,
        reduceCtorEq] at read
    case h_2 =>
      obtain ⟨bank, bank_eq, toggle, toggle_eq, rfl⟩ := read
      simp [fields, pending?, toggle?, tag, bank_eq, toggle_eq]
    all_goals
      obtain ⟨bank, bank_eq, rfl⟩ := read
      simp [fields, pending?, toggle?, tag, bank_eq]
  · rintro ⟨fields_ne, rfl, includes⟩
    cases phase with
    | disabled | enabled | alternate1 | alternate2 | bitwise1 | additive1 =>
      exact absurd rfl fields_ne
    | alternate3 bank | bitwise3 bank | additive2 bank | additive3 bank =>
      have bank_eq := byteField_eq_ok_iff.mpr (includes ("bank", .ofByte bank) List.mem_cons_self)
      simp [ofFields, tag, bank_eq]
    | bitwise2 bank toggle =>
      have bank_eq := byteField_eq_ok_iff.mpr (includes ("bank", .ofByte bank) List.mem_cons_self)
      have toggle_eq := byteField_eq_ok_iff.mpr
        (includes ("toggle", .ofByte toggle) (List.mem_cons_of_mem _ List.mem_cons_self))
      simp [ofFields, tag, Decoded.bind_eq_ok_iff, bank_eq, toggle_eq]

theorem ofJson_eq_ok_iff {json : Json} {phase : Phase} :
    ofJson json = .ok phase ↔ Spelling phase json := by
  constructor
  · intro read
    unfold ofJson at read
    split at read
    next tag =>
      obtain ⟨fields_eq, rfl⟩ := ofTag?_eq_some_iff.mp (Decoded.require_eq_ok_iff.mp read)
      exact .plain fields_eq .bare
    next tag =>
      obtain ⟨fields_eq, rfl⟩ := ofTag?_eq_some_iff.mp (Decoded.require_eq_ok_iff.mp read)
      exact .plain fields_eq .tagged
    next tag members =>
      obtain ⟨fields_ne, rfl, includes⟩ := ofFields_eq_ok_iff.mp read
      exact .fields fields_ne includes
    next => cases read
  · rintro (⟨fields_eq, names⟩ | ⟨fields_ne, includes⟩)
    · have found := Decoded.require_eq_ok_iff.mpr (ofTag?_eq_some_iff.mpr ⟨fields_eq, rfl⟩)
      cases names <;> exact found
    · exact ofFields_eq_ok_iff.mpr ⟨fields_ne, rfl, includes⟩

theorem canonical : Json.Canonical toJson ofJson Spelling := .of_read ofJson_toJson ofJson_eq_ok_iff

end Phase

/-! ## Triggers -/

namespace Trigger

/-- **A JSON value spells a trigger**: its fields are the mask and the value. -/
def Spelling (trigger : Trigger) : Json → Prop :=
  Json.HasFields [("mask", (· = .ofWord trigger.mask)), ("value", (· = .ofWord trigger.value))]

theorem ofJson_eq_ok_iff {json : Json} {trigger : Trigger} :
    ofJson json = .ok trigger ↔ Spelling trigger json := by
  cases json with
  | null | bool | int | real | str => exact iff_of_false nofun nofun
  | obj members =>
    simp only [ofJson, Decoded.bind_eq_ok_iff, Decoded.pure_eq_ok_iff, Decoded.require_eq_ok_iff,
      Spelling, Json.hasFields_obj_iff, List.forall_mem_cons,
      ← Json.readMember_eq_ok_some_iff fun _ => Json.toWord_eq_ok_iff]
    constructor
    · rintro ⟨_, mask, _, value, _, rfl, _, rfl, rfl⟩
      exact ⟨mask, value, List.forall_mem_nil _⟩
    · rintro ⟨mask, value, -⟩
      exact ⟨_, mask, _, value, _, rfl, _, rfl, rfl⟩
  | arr items =>
    match items with
    | [] | [_] | _ :: _ :: _ :: _ =>
      exact iff_of_false nofun (by simp [Spelling, Json.hasFields_arr_iff])
    | [mask, value] =>
      simp only [ofJson, Decoded.bind_eq_ok_iff, Decoded.pure_eq_ok_iff, Spelling,
        Json.hasFields_arr_iff, List.forall₂_cons, ← Json.toWord_eq_ok_iff]
      constructor
      · rintro ⟨_, mask, _, value, rfl⟩
        exact ⟨mask, value, .nil⟩
      · rintro ⟨mask, value, -⟩
        exact ⟨_, mask, _, value, rfl⟩

theorem ofJson_toJson (trigger : Trigger) : ofJson trigger.toJson = .ok trigger := by
  refine ofJson_eq_ok_iff.mpr (.members ?_)
  simp only [List.forall_mem_cons]
  exact ⟨⟨_, rfl, rfl⟩, ⟨_, rfl, rfl⟩, List.forall_mem_nil _⟩

theorem canonical : Json.Canonical toJson ofJson Spelling := .of_read ofJson_toJson ofJson_eq_ok_iff

end Trigger

/-! ## Setups -/

namespace Setup

/-- **A JSON value spells a setup**: its fields are the part and the host, or the part alone if the
host is a 68000. -/
@[mk_iff]
inductive Spelling (setup : Setup) (json : Json) : Prop where
  | whole (fields : Json.HasFields
      [("chip", setup.part.Spelling), ("host", setup.host.Spelling)] json)
  | hostless (host_eq : setup.host = .m68000) (absent : json.get? "host" = none)
      (fields : Json.HasFields [("chip", setup.part.Spelling)] json)

theorem ofJson_eq_ok_iff {json : Json} {setup : Setup} :
    ofJson json = .ok setup ↔ Spelling setup json := by
  obtain ⟨part, driver⟩ := setup
  cases json with
  | null | bool | int | real | str =>
    refine iff_of_false nofun ?_
    rintro (⟨⟨⟩⟩ | ⟨-, -, ⟨⟩⟩)
  | obj members =>
    simp only [ofJson, Decoded.bind_eq_ok_iff, Decoded.pure_eq_ok_iff, Decoded.require_eq_ok_iff,
      spelling_iff, Json.hasFields_obj_iff, List.forall_mem_cons, Json.get?_obj,
      ← Json.readMember_eq_ok_some_iff fun _ => PartNumber.ofJson_eq_ok_iff,
      ← Json.readMember_eq_ok_some_iff fun _ => Host.ofJson_eq_ok_iff,
      ← Json.readMember_eq_ok_none_iff Host.ofJson]
    -- The host is read whether it is there or not; absent it counts as a 68000.
    constructor
    · rintro ⟨_, chip, host?, host, _, rfl, eq⟩
      obtain ⟨rfl, rfl⟩ := mk.inj eq
      cases host? with
      | none => exact .inr ⟨rfl, host, chip, List.forall_mem_nil _⟩
      | some => exact .inl ⟨chip, host, List.forall_mem_nil _⟩
    · rintro (⟨chip, host, -⟩ | ⟨rfl, host, chip, -⟩)
      · exact ⟨_, chip, _, host, _, rfl, rfl⟩
      · exact ⟨_, chip, _, host, _, rfl, rfl⟩
  | arr items =>
    match items with
    | [] => exact iff_of_false nofun (by simp [spelling_iff, Json.hasFields_arr_iff])
    | [chip] =>
      simp only [ofJson, Decoded.bind_eq_ok_iff, Decoded.pure_eq_ok_iff, spelling_iff,
        Json.hasFields_arr_iff, List.forall₂_cons, ← PartNumber.ofJson_eq_ok_iff]
      constructor
      · rintro ⟨_, chip, eq⟩
        obtain ⟨rfl, rfl⟩ := mk.inj eq
        exact .inr ⟨rfl, rfl, chip, .nil⟩
      · rintro (⟨-, ⟨⟩⟩ | ⟨rfl, -, chip, -⟩)
        exact ⟨_, chip, rfl⟩
    | [chip, host] =>
      simp only [ofJson, Decoded.bind_eq_ok_iff, Decoded.pure_eq_ok_iff, spelling_iff,
        Json.hasFields_arr_iff, List.forall₂_cons, ← PartNumber.ofJson_eq_ok_iff,
        ← Host.ofJson_eq_ok_iff]
      constructor
      · rintro ⟨_, chip, _, host, eq⟩
        obtain ⟨rfl, rfl⟩ := mk.inj eq
        exact .inl ⟨chip, host, .nil⟩
      · rintro (⟨chip, host, -⟩ | ⟨-, -, -, ⟨⟩⟩)
        exact ⟨_, chip, _, host, rfl⟩
    | _ :: _ :: _ :: _ =>
      simp [ofJson, Decoded.bind_eq_ok_iff, spelling_iff, Json.hasFields_arr_iff]

theorem ofJson_toJson (setup : Setup) : ofJson setup.toJson = .ok setup := by
  refine ofJson_eq_ok_iff.mpr (.whole (.members ?_))
  simp only [List.forall_mem_cons]
  exact ⟨⟨_, rfl, .number⟩, ⟨_, rfl, .bare⟩, List.forall_mem_nil _⟩

theorem canonical : Json.Canonical toJson ofJson Spelling := .of_read ofJson_toJson ofJson_eq_ok_iff

end Setup

/-! ## Save states -/

namespace SaveState

/-- **A JSON value spells a save state**: its fields are the part, the phase and the bank. -/
def Spelling (state : SaveState) : Json → Prop :=
  Json.HasFields [("chip", state.part.Spelling), ("state", state.phase.Spelling),
    ("bank", (· = .ofByte state.bank))]

theorem ofJson_eq_ok_iff {json : Json} {state : SaveState} :
    ofJson json = .ok state ↔ Spelling state json := by
  cases json with
  | null | bool | int | real | str => exact iff_of_false nofun nofun
  | obj members =>
    simp only [ofJson, Decoded.bind_eq_ok_iff, Decoded.pure_eq_ok_iff, Decoded.require_eq_ok_iff,
      Spelling, Json.hasFields_obj_iff, List.forall_mem_cons,
      ← Json.readMember_eq_ok_some_iff fun _ => PartNumber.ofJson_eq_ok_iff,
      ← Json.readMember_eq_ok_some_iff fun _ => Phase.ofJson_eq_ok_iff,
      ← Json.readMember_eq_ok_some_iff fun _ => Json.toByte_eq_ok_iff]
    constructor
    · rintro ⟨_, bank, _, chip, _, phase, _, rfl, _, rfl, _, rfl, rfl⟩
      exact ⟨chip, phase, bank, List.forall_mem_nil _⟩
    · rintro ⟨chip, phase, bank, -⟩
      exact ⟨_, bank, _, chip, _, phase, _, rfl, _, rfl, _, rfl, rfl⟩
  | arr items =>
    match items with
    | [] => exact iff_of_false nofun (by simp [Spelling, Json.hasFields_arr_iff])
    | [_] | [_, _] | _ :: _ :: _ :: _ :: _ =>
      simp [ofJson, Decoded.bind_eq_ok_iff, Spelling, Json.hasFields_arr_iff]
    | [chip, phase, bank] =>
      simp only [ofJson, Decoded.bind_eq_ok_iff, Decoded.pure_eq_ok_iff, Spelling,
        Json.hasFields_arr_iff, List.forall₂_cons, ← PartNumber.ofJson_eq_ok_iff,
        ← Phase.ofJson_eq_ok_iff, ← Json.toByte_eq_ok_iff]
      constructor
      · rintro ⟨_, chip, _, phase, _, bank, rfl⟩
        exact ⟨chip, phase, bank, .nil⟩
      · rintro ⟨chip, phase, bank, -⟩
        exact ⟨_, chip, _, phase, _, bank, rfl⟩

theorem canonical : Json.Canonical toJson ofJson Spelling := .of_read ofJson_toJson ofJson_eq_ok_iff

end SaveState

end Slapstic
