import Slapstic.Proofs.Serial.Spelling

/-!
# Proofs/Serial/Record — an object against the array of its fields

A trigger, a setup or a save state reads from an object as it reads from the array of its fields.
The two take the fields in different orders, which matters to a failure only: the first reading that
fails decides the error (`Decoded.last_first_ne_iff`).  Since only the reading of a part fails for
another reason than the form of the JSON value (`Decoded.OfForm`), the errors differ in one case
(`SaveState.ofJson_obj_ne_arr_iff`).
-/

namespace Slapstic

/-! ## Readings that fail for the form -/

/-- **A reading that fails for the form alone**, if it fails: it names no part. -/
def Decoded.OfForm {α : Type} (x : Decoded α) : Prop :=
  ∀ error, x = .error error → error = .malformed

namespace Decoded.OfForm

variable {α β : Type}

theorem ok (a : α) : OfForm (.ok a) := nofun

theorem malformed : OfForm (.error .malformed : Decoded α) :=
  fun _ eq => (Except.error.inj eq).symm

theorem map {x : Decoded α} (f : α → β) (formal : OfForm x) : OfForm (Except.map f x) := by
  cases x with
  | ok a => exact ok (f a)
  | error error =>
    obtain rfl := formal error rfl
    exact malformed

theorem bind {x : Decoded α} {f : α → Decoded β} (formal : OfForm x) (rest : ∀ a, OfForm (f a)) :
    OfForm (x >>= f) := by
  cases x with
  | ok a => exact rest a
  | error error =>
    obtain rfl := formal error rfl
    exact malformed

theorem require (value? : Option α) : OfForm (Decoded.require value?) := by
  cases value? with
  | some a => exact ok a
  | none => exact malformed

end Decoded.OfForm

/-- **The order of readings shows in the error only**, and only if the reading that is moved to the
front fails for the form and the one that was there for a part. -/
theorem Decoded.last_first_ne_iff {α β γ δ : Type} (x : Decoded α) {y : Decoded β} {z : Decoded γ}
    (formal_y : OfForm y) (formal_z : OfForm z) (f : α → β → γ → δ) :
    (do let c ← z; let a ← x; let b ← y; return f a b c) ≠
        (do let a ← x; let b ← y; let c ← z; return f a b c) ↔
      (∃ error, x = .error (.part error)) ∧ ∀ c, z ≠ .ok c := by
  cases z with
  | ok c =>
    refine iff_of_false (not_not.mpr ?_) fun fails => fails.2 c rfl
    cases x with
    | error => rfl
    | ok => cases y <;> rfl
  | error error =>
    obtain rfl := formal_z error rfl
    -- In front `z` fails as malformed; in its own place `x` is asked before it, and then `y`.
    cases x with
    | error error => cases error <;> simp [bind, Except.bind]
    | ok a =>
      refine iff_of_false (not_not.mpr ?_) nofun
      cases y with
      | ok => rfl
      | error error =>
        obtain rfl := formal_y error rfl
        rfl

theorem Json.ofForm_toNatBelow (json : Json) (bound : Nat) :
    Decoded.OfForm (json.toNatBelow bound) := by
  unfold toNatBelow
  split
  · split
    · exact .ok _
    · exact .malformed
  · exact .malformed

theorem Json.ofForm_toByte (json : Json) : Decoded.OfForm json.toByte :=
  .map _ (json.ofForm_toNatBelow 256)

theorem Json.ofForm_toWord (json : Json) : Decoded.OfForm json.toWord :=
  .map _ (json.ofForm_toNatBelow 65536)

/-- A member is read for its form if its value is. -/
theorem Json.ofForm_readMember {α : Type} {read : Json → Decoded α}
    (formal : ∀ value, Decoded.OfForm (read value)) (members : List (String × Json))
    (name : String) : Decoded.OfForm (readMember members name read) := by
  unfold readMember
  split
  next value _ => exact .map _ (formal value)
  next => exact .ok _

theorem Host.ofForm_ofJson (json : Json) : Decoded.OfForm (ofJson json) := by
  unfold ofJson
  split
  · exact .require _
  · exact .require _
  · exact .malformed

namespace Phase

theorem ofForm_byteField (members : List (String × Json)) (name : String) :
    Decoded.OfForm (byteField members name) :=
  .bind (Json.ofForm_readMember Json.ofForm_toByte members name) .require

theorem ofForm_ofFields (tag : String) (members : List (String × Json)) :
    Decoded.OfForm (ofFields tag members) := by
  have field := ofForm_byteField members
  unfold ofFields
  split
  case h_2 => exact .bind (field "bank") fun _ => .bind (field "toggle") fun _ => .ok _
  case h_6 => exact .malformed
  all_goals exact .bind (field "bank") fun _ => .ok _

theorem ofForm_ofJson (json : Json) : Decoded.OfForm (ofJson json) := by
  unfold ofJson
  split
  · exact .require _
  · exact .require _
  · exact ofForm_ofFields _ _
  · exact .malformed

end Phase

/-! ## Members and items -/

namespace Json

theorem readMember_eq_map {α : Type} {members : List (String × Json)} {name : String}
    {value : Json} (found : members.lookup name = some value) (read : Json → Decoded α) :
    readMember members name read = (read value).map some := by
  rw [readMember, found]

/-- **An object and the array of its fields** are of the same kinds. -/
theorem hasFields_obj_iff_arr {fields : List (String × (Json → Prop))}
    {members : List (String × Json)} {items : List Json}
    (found : List.Forall₂ (fun field item => members.lookup field.1 = some item) fields items) :
    HasFields fields (.obj members) ↔ HasFields fields (.arr items) := by
  rw [hasFields_obj_iff, hasFields_arr_iff]
  induction found with
  | nil => simp
  | cons head _ ih =>
    rw [List.forall_mem_cons, List.forall₂_cons, ih, head]
    simp

end Json

/-! ## Triggers and setups -/

/-- An object and the array of its fields read alike, errors included. -/
theorem Trigger.ofJson_obj_eq_arr {members : List (String × Json)} {mask value : Json}
    (includes : Json.Includes members [("mask", mask), ("value", value)]) :
    ofJson (.obj members) = ofJson (.arr [mask, value]) := by
  simp only [Json.includes_cons] at includes
  obtain ⟨mask_eq, value_eq, -⟩ := includes
  simp only [ofJson, Json.readMember_eq_map mask_eq, Json.readMember_eq_map value_eq]
  cases mask.toWord with
  | error => rfl
  | ok => cases value.toWord <;> rfl

/-- Of a setup too: both take the part first. -/
theorem Setup.ofJson_obj_eq_arr {members : List (String × Json)} {chip host : Json}
    (includes : Json.Includes members [("chip", chip), ("host", host)]) :
    ofJson (.obj members) = ofJson (.arr [chip, host]) := by
  simp only [Json.includes_cons] at includes
  obtain ⟨chip_eq, host_eq, -⟩ := includes
  simp only [ofJson, Json.readMember_eq_map chip_eq, Json.readMember_eq_map host_eq]
  cases PartNumber.ofJson chip with
  | error => rfl
  | ok => cases Host.ofJson host <;> rfl

/-- An absent host is one that the array leaves out. -/
theorem Setup.ofJson_obj_eq_arr_of_absent {members : List (String × Json)} {chip : Json}
    (found : members.lookup "chip" = some chip) (absent : members.lookup "host" = none) :
    ofJson (.obj members) = ofJson (.arr [chip]) := by
  have host : Json.readMember members "host" Host.ofJson = .ok none :=
    (Json.readMember_eq_ok_none_iff _).mpr absent
  simp only [ofJson, Json.readMember_eq_map found, host]
  cases PartNumber.ofJson chip <;> rfl

/-! ## Save states -/

namespace SaveState

variable {members : List (String × Json)} {chip phase bank : Json}

/-- **An object is a save state exactly if the array of its fields is**, and the same one. -/
theorem ofJson_obj_iff_arr
    (includes : Json.Includes members [("chip", chip), ("state", phase), ("bank", bank)])
    (state : SaveState) :
    ofJson (.obj members) = .ok state ↔ ofJson (.arr [chip, phase, bank]) = .ok state := by
  simp only [Json.includes_cons] at includes
  obtain ⟨chip_eq, phase_eq, bank_eq, -⟩ := includes
  rw [ofJson_eq_ok_iff, ofJson_eq_ok_iff]
  exact Json.hasFields_obj_iff_arr (.cons chip_eq (.cons phase_eq (.cons bank_eq .nil)))

/-- **Where an object and the array of its fields differ**: of a wrong part and what is no byte for
the bank, the object reports the bank and the array the part. -/
theorem ofJson_obj_ne_arr_iff
    (includes : Json.Includes members [("chip", chip), ("state", phase), ("bank", bank)]) :
    ofJson (.obj members) ≠ ofJson (.arr [chip, phase, bank]) ↔
      (∃ error, PartNumber.ofJson chip = .error (.part error)) ∧
        ∀ byte, bank ≠ .ofByte byte := by
  simp only [Json.includes_cons] at includes
  obtain ⟨chip_eq, phase_eq, bank_eq, -⟩ := includes
  -- All members are there, so what an object misses at the end plays no part.
  have object : ofJson (.obj members) = (do
      let selected ← bank.toByte
      let part ← PartNumber.ofJson chip
      let held ← Phase.ofJson phase
      return { part, phase := held, bank := selected }) := by
    simp only [ofJson, Json.readMember_eq_map chip_eq, Json.readMember_eq_map phase_eq,
      Json.readMember_eq_map bank_eq]
    cases bank.toByte with
    | error => rfl
    | ok =>
      cases PartNumber.ofJson chip with
      | error => rfl
      | ok => cases Phase.ofJson phase <;> rfl
  have differ := Decoded.last_first_ne_iff (PartNumber.ofJson chip) (Phase.ofForm_ofJson phase)
    bank.ofForm_toByte fun part held selected =>
      ({ part, phase := held, bank := selected } : SaveState)
  rw [object]
  refine differ.trans ?_
  simp only [ne_eq, Json.toByte_eq_ok_iff]

example : ofJson (.obj [("chip", .nat 102), ("state", .null), ("bank", .null)]) =
      .error .malformed ∧
    ofJson (.arr [.nat 102, .null, .null]) = .error (.part (.reserved 102)) :=
  ⟨rfl, rfl⟩

end SaveState

/-! ## All spellings agree -/

/-- **All spellings of a value agree.**  Parts, hosts, phases, triggers, setups and save states read
back as they were written; a JSON value reads as what it spells and is rewritten to the written form
of that.  An object and the array of its fields are the same trigger, the same setup or the same
save state, if any; and if none, the errors are the same too, but for a save state with a wrong part
and what is no byte for the bank. -/
theorem spellings_agree :
    (Json.Canonical PartNumber.toJson PartNumber.ofJson PartNumber.Spelling ∧
      Json.Canonical Host.toJson Host.ofJson Host.Spelling ∧
      Json.Canonical Phase.toJson Phase.ofJson Phase.Spelling ∧
      Json.Canonical Trigger.toJson Trigger.ofJson Trigger.Spelling ∧
      Json.Canonical Setup.toJson Setup.ofJson Setup.Spelling ∧
      Json.Canonical SaveState.toJson SaveState.ofJson SaveState.Spelling) ∧
    (∀ members mask value, Json.Includes members [("mask", mask), ("value", value)] →
      Trigger.ofJson (.obj members) = Trigger.ofJson (.arr [mask, value])) ∧
    (∀ members chip, members.lookup "chip" = some chip →
      (∀ host, members.lookup "host" = some host →
        Setup.ofJson (.obj members) = Setup.ofJson (.arr [chip, host])) ∧
      (members.lookup "host" = none →
        Setup.ofJson (.obj members) = Setup.ofJson (.arr [chip]))) ∧
    ∀ members chip phase bank,
      Json.Includes members [("chip", chip), ("state", phase), ("bank", bank)] →
      (∀ state, SaveState.ofJson (.obj members) = .ok state ↔
        SaveState.ofJson (.arr [chip, phase, bank]) = .ok state) ∧
      (SaveState.ofJson (.obj members) ≠ SaveState.ofJson (.arr [chip, phase, bank]) ↔
        (∃ error, PartNumber.ofJson chip = .error (.part error)) ∧
          ∀ byte, bank ≠ .ofByte byte) := by
  refine ⟨⟨PartNumber.canonical, Host.canonical, Phase.canonical, Trigger.canonical,
    Setup.canonical, SaveState.canonical⟩, ?_, ?_, ?_⟩
  · exact fun _ _ _ => Trigger.ofJson_obj_eq_arr
  · intro members chip chip_eq
    refine ⟨fun host host_eq => ?_, Setup.ofJson_obj_eq_arr_of_absent chip_eq⟩
    exact Setup.ofJson_obj_eq_arr (by simp [chip_eq, host_eq])
  · exact fun _ _ _ _ includes =>
      ⟨SaveState.ofJson_obj_iff_arr includes, SaveState.ofJson_obj_ne_arr_iff includes⟩

/-- One object with the members of all three, read as each of them, and a setup without a host. -/
theorem spellings_agree_one_object :
    let chip : Json := .str " 137412-+0104"
    let members : List (String × Json) := [("bank", .nat 1), ("value", .nat 5),
      ("host", .str "T11"), ("state", .obj [("Enabled", .null)]), ("mask", .nat 7), ("chip", chip)]
    (Json.Includes members [("mask", .nat 7), ("value", .nat 5)] ∧
      Trigger.ofJson (.obj members) = .ok ⟨7, 5⟩) ∧
    (members.lookup "chip" = some chip ∧ members.lookup "host" = some (.str "T11") ∧
      Setup.ofJson (.obj members) = .ok { part := Catalog.part104.part, host := .t11 }) ∧
    (List.lookup "host" [("chip", chip)] = none ∧
      Setup.ofJson (.obj [("chip", chip)]) = .ok { part := Catalog.part104.part }) ∧
    Json.Includes members [("chip", chip), ("state", .obj [("Enabled", .null)]),
        ("bank", .nat 1)] ∧
      SaveState.ofJson (.obj members) =
        .ok { part := Catalog.part104.part, phase := .enabled, bank := 1 } := by
  intro chip members
  have trigger : Json.Includes members [("mask", .nat 7), ("value", .nat 5)] := by
    simp only [Json.includes_cons]
    exact ⟨rfl, rfl, Json.includes_nil _⟩
  have state : Json.Includes members [("chip", chip), ("state", .obj [("Enabled", .null)]),
      ("bank", .nat 1)] := by
    simp only [Json.includes_cons]
    exact ⟨rfl, rfl, rfl, Json.includes_nil _⟩
  obtain ⟨-, triggers, setups, states⟩ := spellings_agree
  exact ⟨⟨trigger, triggers members _ _ trigger⟩,
    ⟨rfl, rfl, (setups members chip rfl).1 _ rfl⟩,
    ⟨rfl, (setups [("chip", chip)] chip rfl).2 rfl⟩,
    state, ((states members _ _ _ state).1 _).mpr rfl⟩

end Slapstic
