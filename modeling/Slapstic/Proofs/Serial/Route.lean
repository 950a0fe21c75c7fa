import Slapstic.Proofs.Serial.Record

/-!
# Proofs/Serial/Route — the ways to come by a part

A part comes from a number, from a label, or from JSON, alone or with the fields of a setup or a
save state around it.  Each of these **routes** is told a number, or a text that denotes none
(`Route.Tells`), and what it is told decides: a part that comes of it has the number, which is one
of the seventeen, and a bad number or text gives the one error that it gives on every route
(`routes_agree`).

Every part finds its own entry: its place in the catalog is computed in sixteen bits, and neither
does that wrap around nor does the place lie outside (`Catalog.finds`).

In a record the reading of the part is the only one that can fail for a part
(`Decoded.partError?_bind`).  What comes after it cannot hide its error; what comes before it can.
-/

namespace Slapstic

/-! ## Finding an entry -/

/-- **The entry that a chip works from.** -/
def Chip.profile (chip : Chip) : Profile := chip.part.profile

namespace Catalog

/-- **The place of a number in the catalog**, in sixteen bits: the first number comes first, and the
gap at 102 takes no place. -/
def place (number : UInt16) : Nat := if number = 101 then 0 else (number - 102).toNat

/-- **A part finds its own entry**: its number is one of seventeen, the difference that gives its
place is none below zero, and the entry at that place is the part's, also for a chip of the part. -/
structure Finds (part : PartNumber) : Prop where
  listed : part.number.toNat ∈
    [101, 103, 104, 105, 106, 107, 108, 109, 110, 111, 112, 113, 114, 115, 116, 117, 118]
  no_underflow : part.number ≠ 101 → 102 ≤ part.number
  place_lt : place part.number < profiles.size
  entry_eq : profiles[place part.number]? = some part.profile
  part_eq : part.profile.part = part
  chip_eq : ∀ host, (Chip.powerUp part host).profile.part = part

theorem place_number : ∀ part : PartNumber, place part.number = part.index := by decide

theorem listed_number : ∀ part : PartNumber, part.number.toNat ∈
    [101, 103, 104, 105, 106, 107, 108, 109, 110, 111, 112, 113, 114, 115, 116, 117, 118] := by
  decide

/-- **Every part finds its own entry.** -/
theorem finds (part : PartNumber) : Finds part where
  listed := listed_number part
  no_underflow ne := by
    have low := UInt16.le_iff_toNat_le.mp part.known.1.1
    have first : part.number.toNat ≠ 101 := fun eq => ne (UInt16.toNat_inj.mp eq)
    rw [UInt16.le_iff_toNat_le]
    simp only [UInt16.reduceToNat] at low ⊢
    omega
  place_lt := by
    rw [place_number]
    exact part.index.isLt
  entry_eq := by
    rw [place_number]
    exact Vector.getElem?_eq_getElem part.index.isLt
  part_eq := part.part_profile
  chip_eq _ := part.part_profile

end Catalog

/-! ## What is told -/

/-- **What a route is told**: a number of sixteen bits, or a text that denotes none. -/
inductive Told where
  | number (number : UInt16)
  | text (label : String)

namespace Told

/-- **What is wrong with it**: 102 is reserved, other numbers outside the series are unknown, and
a text without a number is malformed. -/
def error? : Told → Option PartError
  | number n =>
    if n = 102 then some (.reserved 102)
    else if 101 ≤ n ∧ n ≤ 118 then none else some (.unknown n)
  | text label => some (.malformed label)

/-- The wording of what is wrong with it. -/
def complaint? : Told → Option String
  | number n =>
    if n = 102 then some "slapstic 137412-102 has never been seen"
    else if 101 ≤ n ∧ n ≤ 118 then none
    else some ("unknown slapstic number: " ++ Text.decimal n.toNat)
  | text label => some ("malformed slapstic part number: " ++ Text.quoted label)

/-- The part that it names, or what is wrong with it. -/
def sort : Told → Except PartError PartNumber
  | number n => PartNumber.ofNumber n
  | text label => .error (.malformed label)

theorem message_error? (told : Told) : told.error?.map PartError.message = told.complaint? := by
  have reserved : (PartError.reserved 102).message = "slapstic 137412-102 has never been seen" := by
    decide
  unfold error? complaint?
  split
  · split
    · exact congrArg some reserved
    · split <;> rfl
  · rfl

end Told

/-- **What a label tells**: the number that it denotes, or itself. -/
inductive LabelTells (label : String) : Told → Prop where
  | number {n : UInt16} (denotes : PartNumber.Denotes label n.toNat) : LabelTells label (.number n)
  | text (none : ∀ n : UInt16, ¬ PartNumber.Denotes label n.toNat) : LabelTells label (.text label)

/-- **What a JSON value tells**: an integer the number, a string what it tells as a label. -/
inductive JsonTells : Json → Told → Prop where
  | number (n : UInt16) : JsonTells (.ofWord n) (.number n)
  | label {label : String} {told : Told} (tells : LabelTells label told) :
      JsonTells (.str label) told

/-! ## Fields of a record -/

namespace Json

/-- **The field for the part** in a record: the member of that name, or the first item. -/
def partField? : Json → Option Json
  | .obj members => members.lookup "chip"
  | .arr (value :: _) => some value
  | _ => none

/-- What there is for a bank among the members is a byte. -/
def BankReads (json : Json) : Prop :=
  ∀ bank, json.get? "bank" = some bank → ∃ byte, bank = .ofByte byte

/-- A record whose first field is the part has it as its field for the part. -/
theorem HasFields.exists_partField {kind : Json → Prop} {rest : List (String × (Json → Prop))}
    {json : Json} (fields : HasFields (("chip", kind) :: rest) json) :
    ∃ value, json.partField? = some value ∧ kind value := by
  cases fields with
  | members found => exact found _ List.mem_cons_self
  | items kinds =>
    cases kinds with
    | cons head => exact ⟨_, rfl, head⟩

end Json

/-! ## Routes -/

/-- **A way to come by a part.** -/
inductive Route where
  /-- The number is checked. -/
  | number (number : UInt16)
  /-- The number's entry is looked up in the catalog. -/
  | entry (number : UInt16)
  /-- A chip is made of the number. -/
  | chip (number : UInt16) (host : Host)
  /-- A setup is made of the number. -/
  | setup (number : UInt16) (host : Host)
  /-- A label is read. -/
  | label (label : String)
  /-- A JSON value is read as a part. -/
  | partJson (json : Json)
  /-- A JSON value is read as a setup. -/
  | setupJson (json : Json)
  /-- A JSON value is read as a save state. -/
  | stateJson (json : Json)

namespace Route

/-- **The part that comes of a route**, or the error: of a catalog entry the part that it is of, and
of a chip the part that its entry is of. -/
def outcome : Route → Decoded PartNumber
  | number n => (PartNumber.ofNumber n).mapError .part
  | entry n => ((Catalog.lookup n).map Profile.part).mapError .part
  | chip n host => ((Chip.ofNumber n host).map fun chip => chip.profile.part).mapError .part
  | setup n host => ((Setup.ofNumber n host).map Setup.part).mapError .part
  | label s => (PartNumber.ofLabel s).mapError .part
  | partJson json => PartNumber.ofJson json
  | setupJson json => (Setup.ofJson json).map Setup.part
  | stateJson json => (SaveState.ofJson json).map SaveState.part

/-- A route asks for nothing but the part. -/
def direct : Route → Bool
  | setupJson _ | stateJson _ => false
  | _ => true

/-- **What a route is told.**  A record tells what its field for the part tells, if the reading gets
that far: of a save state that is an object the bank is read first. -/
inductive Tells : Route → Told → Prop where
  | number (n : UInt16) : Tells (.number n) (.number n)
  | entry (n : UInt16) : Tells (.entry n) (.number n)
  | chip (n : UInt16) (host : Host) : Tells (.chip n host) (.number n)
  | setup (n : UInt16) (host : Host) : Tells (.setup n host) (.number n)
  | label {s : String} {told : Told} (tells : LabelTells s told) : Tells (.label s) told
  | partJson {json : Json} {told : Told} (tells : JsonTells json told) : Tells (.partJson json) told
  | setupJson {json value : Json} {told : Told} (field : json.partField? = some value)
      (tells : JsonTells value told) : Tells (.setupJson json) told
  | stateJson {json value : Json} {told : Told} (bank : json.BankReads)
      (field : json.partField? = some value) (tells : JsonTells value told) :
      Tells (.stateJson json) told

end Route

/-! ## Errors of a part -/

namespace Decoded

variable {α β : Type}

/-- **What is wrong with the part**, if a reading fails for one. -/
def partError? : Decoded α → Option PartError
  | .error (.part error) => some error
  | .error .malformed | .ok _ => none

theorem partError?_eq_some_iff {x : Decoded α} {error : PartError} :
    x.partError? = some error ↔ x = .error (.part error) := by
  unfold partError?
  split <;> simp

theorem partError?_of_ofForm {x : Decoded α} (formal : OfForm x) : x.partError? = none := by
  cases x with
  | ok a => rfl
  | error error =>
    obtain rfl := formal error rfl
    rfl

@[simp] theorem partError?_map (x : Decoded α) (f : α → β) :
    partError? (Except.map f x) = x.partError? := by
  cases x with
  | ok a => rfl
  | error error => cases error <;> rfl

theorem mapError_eq_ok_iff {x : Except PartError α} {a : α} :
    x.mapError DecodeError.part = .ok a ↔ x = .ok a := by
  cases x <;> simp [Except.mapError]

/-- **What comes after the part cannot hide its error**, nor be mistaken for it. -/
theorem partError?_bind (x : Decoded α) {f : α → Decoded β} (formal : ∀ a, OfForm (f a)) :
    partError? (x >>= f) = x.partError? := by
  cases x with
  | ok a => exact partError?_of_ofForm (formal a)
  | error error => cases error <;> rfl

end Decoded

/-! ## Labels and JSON values -/

namespace Told

/-- **A label is sorted like what it tells**, errors included. -/
theorem ofLabel_of_tells {label : String} {told : Told} (tells : LabelTells label told) :
    PartNumber.ofLabel label = told.sort := by
  cases tells with
  | number denotes => exact PartNumber.ofLabel_of_denotes denotes
  | text none => exact PartNumber.ofLabel_of_not_denotes none

/-- **So is a JSON value.** -/
theorem ofJson_of_tells {json : Json} {told : Told} (tells : JsonTells json told) :
    PartNumber.ofJson json = told.sort.mapError .part := by
  cases tells with
  | number n =>
    change (Json.ofWord n).toWord.bind _ = _
    rw [Json.toWord_ofWord]
    rfl
  | label tells => rw [← ofLabel_of_tells tells]; rfl

/-- What it is sorted as is what it says that is wrong. -/
theorem partError?_sort (told : Told) :
    Decoded.partError? (told.sort.mapError .part) = told.error? := by
  cases told with
  | text label => rfl
  | number n =>
    rw [sort, error?]
    cases sorted : PartNumber.ofNumber n with
    | ok part =>
      obtain rfl := PartNumber.ofNumber_eq_ok_iff.mp sorted
      rw [if_neg part.known.2, if_pos part.known.1]
      rfl
    | error error =>
      obtain ⟨outside, rfl⟩ | ⟨rfl, rfl⟩ := PartNumber.ofNumber_eq_error_iff.mp sorted
      · have seen : n ≠ 102 := by
          rintro rfl
          exact outside (by decide)
        rw [if_neg seen, if_neg outside]
        rfl
      · rfl

end Told

theorem exists_labelTells (label : String) : ∃ told, LabelTells label told := by
  by_cases found : ∃ n : UInt16, PartNumber.Denotes label n.toNat
  · obtain ⟨n, denotes⟩ := found
    exact ⟨_, .number denotes⟩
  · exact ⟨_, .text (not_exists.mp found)⟩

/-- **A JSON value that fails for a part has told something.** -/
theorem exists_jsonTells {json : Json} {error : PartError}
    (failed : (PartNumber.ofJson json).partError? = some error) : ∃ told, JsonTells json told := by
  unfold PartNumber.ofJson at failed
  split at failed
  next label =>
    obtain ⟨told, tells⟩ := exists_labelTells label
    exact ⟨told, .label tells⟩
  next =>
    cases word : json.toWord with
    | ok n =>
      obtain rfl := Json.toWord_eq_ok_iff.mp word
      exact ⟨_, .number n⟩
    | error cause =>
      obtain rfl := json.ofForm_toWord cause word
      rw [word] at failed
      cases failed

/-- A JSON value that spells a part tells its number. -/
theorem PartNumber.Spelling.tells {part : PartNumber} {json : Json} (spells : part.Spelling json) :
    JsonTells json (.number part.number) := by
  cases spells with
  | number => exact .number _
  | label denotes => exact .label (.number denotes)

/-! ## Records -/

/-- What a record fails for, if its field for the part does. -/
def Json.partFieldError? (json : Json) : Option PartError :=
  json.partField?.bind fun value => (PartNumber.ofJson value).partError?

theorem Json.partError?_readMember (members : List (String × Json)) :
    (readMember members "chip" PartNumber.ofJson).partError? = (obj members).partFieldError? := by
  rw [readMember, partFieldError?, partField?]
  cases members.lookup "chip" with
  | none => rfl
  | some value => exact Decoded.partError?_map _ _

/-- **A setup fails for a part if its field for the part does.** -/
theorem Setup.partError?_ofJson (json : Json) :
    (ofJson json).partError? = json.partFieldError? := by
  match json with
  | .null | .bool _ | .int _ | .real _ | .str _ | .arr [] => rfl
  | .obj members =>
    rw [← Json.partError?_readMember]
    refine Decoded.partError?_bind _ fun part? => ?_
    exact .bind (Json.ofForm_readMember Host.ofForm_ofJson members "host") fun _ =>
      .bind (.require part?) fun _ => .ok _
  | .arr (value :: rest) =>
    refine Decoded.partError?_bind _ fun part => ?_
    split
    · exact .ok _
    · exact .bind (Host.ofForm_ofJson _) fun _ => .ok _
    · exact .malformed

/-- A bank that is a byte, or not there, is read. -/
theorem Json.bankReads_obj_iff {members : List (String × Json)} :
    (obj members).BankReads ↔ ∃ bank?, readMember members "bank" toByte = .ok bank? := by
  unfold BankReads readMember
  rw [get?_obj]
  split
  next value found =>
    simp only [found, Option.some.injEq, forall_eq', Decoded.map_eq_ok_iff, toByte_eq_ok_iff]
    exact ⟨fun ⟨byte, eq⟩ => ⟨_, byte, eq, rfl⟩, fun ⟨_, byte, eq, _⟩ => ⟨byte, eq⟩⟩
  next absent => simp [absent]

/-- **So does a save state**, once its bank is read. -/
theorem SaveState.partError?_ofJson {json : Json} (bank : json.BankReads) :
    (ofJson json).partError? = json.partFieldError? := by
  match json with
  | .null | .bool _ | .int _ | .real _ | .str _ | .arr [] => rfl
  | .obj members =>
    obtain ⟨bank?, read⟩ := Json.bankReads_obj_iff.mp bank
    rw [← Json.partError?_readMember, ofJson, read]
    refine Decoded.partError?_bind (Json.readMember members "chip" PartNumber.ofJson)
      fun part? => ?_
    exact .bind (Json.ofForm_readMember Phase.ofForm_ofJson members "state") fun phase? =>
      .bind (.require part?) fun _ => .bind (.require phase?) fun _ =>
        .bind (.require bank?) fun _ => .ok _
  | .arr (value :: rest) =>
    refine Decoded.partError?_bind _ fun part => ?_
    split
    · exact .bind (Phase.ofForm_ofJson _) fun _ => .bind (Json.ofForm_toByte _) fun _ => .ok _
    · exact .malformed

/-- A save state that fails for a part has had its bank read. -/
theorem SaveState.bankReads_of_partError? {json : Json} {error : PartError}
    (failed : (ofJson json).partError? = some error) : json.BankReads := by
  match json with
  | .null | .bool _ | .int _ | .real _ | .str _ => cases failed
  | .arr _ => exact fun _ found => nomatch found
  | .obj members =>
    rw [Json.bankReads_obj_iff]
    cases read : Json.readMember members "bank" Json.toByte with
    | ok bank? => exact ⟨bank?, rfl⟩
    | error cause =>
      obtain rfl := Json.ofForm_readMember Json.ofForm_toByte members "bank" cause read
      rw [ofJson, read] at failed
      cases failed

/-- A save state has its bank read. -/
theorem SaveState.Spelling.bankReads {state : SaveState} {json : Json}
    (spells : state.Spelling json) : json.BankReads := by
  cases spells with
  | members found =>
    intro other eq
    simp only [List.forall_mem_cons] at found
    obtain ⟨-, -, ⟨bank, bank_eq, rfl⟩, -⟩ := found
    exact ⟨state.bank, Option.some.inj (eq.symm.trans bank_eq)⟩
  | items => exact fun _ found => nomatch found

/-! ## What is told decides -/

namespace Route

variable {route : Route} {told : Told}

/-- **A direct route gives what it is told, sorted.**  What is made of a part keeps it. -/
theorem outcome_of_direct (direct : route.direct = true) (tells : route.Tells told) :
    route.outcome = told.sort.mapError .part := by
  cases tells with
  | number n => rfl
  | entry n | chip n host | setup n host =>
    simp only [outcome, Catalog.lookup, Chip.ofNumber, Setup.ofNumber, Told.sort]
    cases PartNumber.ofNumber n with
    | error error => rfl
    | ok part => simp [Except.map, Except.mapError, Chip.profile, Chip.powerUp]
  | label tells => rw [outcome, Told.ofLabel_of_tells tells]
  | partJson tells => exact Told.ofJson_of_tells tells
  | setupJson | stateJson => cases direct

/-- **What is wrong with what a route is told is what the route fails for.** -/
theorem partError?_outcome (tells : route.Tells told) : route.outcome.partError? = told.error? := by
  have field_error {json value : Json} (field : json.partField? = some value)
      (tells : JsonTells value told) : json.partFieldError? = told.error? := by
    rw [Json.partFieldError?, field, Option.bind_some, Told.ofJson_of_tells tells,
      Told.partError?_sort]
  cases tells with
  | number | entry | chip | setup | label | partJson =>
    rw [outcome_of_direct rfl (by constructor <;> assumption), Told.partError?_sort]
  | setupJson field tells =>
    rw [outcome, Decoded.partError?_map, Setup.partError?_ofJson, field_error field tells]
  | stateJson bank field tells =>
    rw [outcome, Decoded.partError?_map, SaveState.partError?_ofJson bank, field_error field tells]

/-- **A route that fails for a part has been told something.** -/
theorem exists_tells {error : PartError} (failed : route.outcome.partError? = some error) :
    ∃ told, route.Tells told := by
  cases route with
  | number n => exact ⟨_, .number n⟩
  | entry n => exact ⟨_, .entry n⟩
  | chip n host => exact ⟨_, .chip n host⟩
  | setup n host => exact ⟨_, .setup n host⟩
  | label s =>
    obtain ⟨told, tells⟩ := exists_labelTells s
    exact ⟨told, .label tells⟩
  | partJson json =>
    obtain ⟨told, tells⟩ := exists_jsonTells failed
    exact ⟨told, .partJson tells⟩
  | setupJson json =>
    rw [outcome, Decoded.partError?_map, Setup.partError?_ofJson] at failed
    obtain ⟨value, field, failed⟩ := Option.bind_eq_some_iff.mp failed
    obtain ⟨told, tells⟩ := exists_jsonTells failed
    exact ⟨told, .setupJson field tells⟩
  | stateJson json =>
    rw [outcome, Decoded.partError?_map] at failed
    have bank := SaveState.bankReads_of_partError? failed
    rw [SaveState.partError?_ofJson bank] at failed
    obtain ⟨value, field, failed⟩ := Option.bind_eq_some_iff.mp failed
    obtain ⟨told, tells⟩ := exists_jsonTells failed
    exact ⟨told, .stateJson bank field tells⟩

/-- **A part that comes of a route has the number that the route is told.** -/
theorem tells_of_outcome {part : PartNumber} (ok : route.outcome = .ok part) :
    route.Tells (.number part.number) := by
  cases route with
  | number n | entry n | chip n host | setup n host =>
    rw [outcome_of_direct rfl (by constructor)] at ok
    rw [← PartNumber.ofNumber_eq_ok_iff.mp (Decoded.mapError_eq_ok_iff.mp ok)]
    constructor
  | label s =>
    exact .label (.number (PartNumber.ofLabel_eq_ok_iff.mp (Decoded.mapError_eq_ok_iff.mp ok)))
  | partJson json => exact .partJson (PartNumber.ofJson_eq_ok_iff.mp ok).tells
  | setupJson json =>
    obtain ⟨setup, read, rfl⟩ := Decoded.map_eq_ok_iff.mp ok
    have field : ∃ value, json.partField? = some value ∧ setup.part.Spelling value := by
      obtain fields | ⟨-, -, fields⟩ := Setup.ofJson_eq_ok_iff.mp read
      · exact fields.exists_partField
      · exact fields.exists_partField
    obtain ⟨value, field, spells⟩ := field
    exact .setupJson field spells.tells
  | stateJson json =>
    obtain ⟨state, read, rfl⟩ := Decoded.map_eq_ok_iff.mp ok
    have fields := SaveState.ofJson_eq_ok_iff.mp read
    obtain ⟨value, field, spells⟩ := Json.HasFields.exists_partField fields
    exact .stateJson fields.bankReads field spells.tells

/-- A direct route that is told the number of a part gives the part. -/
theorem outcome_of_tells {part : PartNumber} (direct : route.direct = true)
    (tells : route.Tells (.number part.number)) : route.outcome = .ok part := by
  rw [outcome_of_direct direct tells, Told.sort, PartNumber.ofNumber_number]
  rfl

end Route

/-! ## All routes agree -/

/-- **All routes to a part agree.**  A part that comes of one has the number that the route is told
and finds its own entry, and a route that asks for nothing but the part gives it whenever it is told
the number.  A route fails for a part exactly if it is told what names none, a number or a text, and
then the error and its wording are those of what it is told. -/
theorem routes_agree :
    (∀ (route : Route) part, route.outcome = .ok part →
      route.Tells (.number part.number) ∧ Catalog.Finds part) ∧
    (∀ (route : Route) (part : PartNumber), route.direct = true →
      route.Tells (.number part.number) → route.outcome = .ok part) ∧
    (∀ (route : Route) told, route.Tells told →
      route.outcome.partError? = told.error? ∧
        route.outcome.partError?.map PartError.message = told.complaint?) ∧
    ∀ (route : Route) error, route.outcome = .error (.part error) →
      ∃ told, route.Tells told ∧ told.error? = some error := by
  refine ⟨fun route part ok => ⟨Route.tells_of_outcome ok, Catalog.finds part⟩,
    fun route part direct tells => Route.outcome_of_tells direct tells,
    fun route told tells => ?_, fun route error failed => ?_⟩
  · rw [Route.partError?_outcome tells]
    exact ⟨rfl, told.message_error?⟩
  · rw [← Decoded.partError?_eq_some_iff] at failed
    obtain ⟨told, tells⟩ := Route.exists_tells failed
    exact ⟨told, tells, (Route.partError?_outcome tells).symm.trans failed⟩

/-- The reserved number as a label in a save state whose phase is none, and as a number in a setup
whose host is none; the first part by its label between spaces, and a chip of the last part. -/
theorem routes_agree_reserved :
    let state : Route := .stateJson
      (.obj [("bank", .nat 3), ("chip", .str "137412-+0102"), ("state", .str "asleep")])
    let setup : Route := .setupJson (.arr [.nat 102, .str "z80"])
    let first : Route := .label " 137412-101 "
    let last : Route := .chip 118 .t11
    (state.Tells (.number 102) ∧ state.outcome.partError? = some (.reserved 102) ∧
      state.outcome.partError?.map PartError.message =
        some "slapstic 137412-102 has never been seen") ∧
    (setup.outcome = .error (.part (.reserved 102)) ∧
      ∃ told, setup.Tells told ∧ told.error? = some (.reserved 102)) ∧
    (first.outcome = .ok Catalog.part101.part ∧ first.Tells (.number 101) ∧
      Catalog.Finds Catalog.part101.part) ∧
    last.direct = true ∧ last.Tells (.number 118) ∧ last.outcome = .ok Catalog.part118.part := by
  intro state setup first last
  obtain ⟨found, given, decided, told⟩ := routes_agree
  have label : LabelTells "137412-+0102" (.number 102) :=
    .number (PartNumber.labelNumber?_eq_some_iff.mp rfl)
  have state_tells : state.Tells (.number 102) :=
    .stateJson (fun _ eq => ⟨3, (Option.some.inj eq).symm⟩) rfl (.label label)
  exact ⟨⟨state_tells, decided state _ state_tells⟩,
    ⟨rfl, told setup _ rfl⟩,
    ⟨rfl, found first _ rfl⟩,
    rfl, .chip 118 .t11, given last _ rfl (.chip 118 .t11)⟩

end Slapstic
