import Slapstic.Part.Number
import Slapstic.Part.Patterns

/-!
# Part/Catalog — the seventeen parts and what drives them

One **profile** for each part: its patterns, the boards that carry it, and whether its patterns were
checked against the real chip.  The parts of the first revision are 101 to 110, those of the second
111 to 118.  103 and 110 have the same patterns, and so have 106 and 109.

* `PartNumber.part_profile` — the entry that a part finds is its own.
-/

namespace Slapstic

/-- **What is known of a part.** -/
structure Profile extends Patterns where
  part : PartNumber
  /-- Its patterns were checked against the real chip. -/
  confirmed : Bool := true
  /-- The boards known to carry it. -/
  games : List String

namespace Catalog

/-! ## First revision -/

/-- Part 101. -/
def part101 : Profile where
  part := ⟨101, by decide⟩
  confirmed := false
  games := ["Empire Strikes Back", "Tetris"]
  select := #v[0x0080, 0x0090, 0x00A0, 0x00B0]
  alternate :=
    { first := none, second := ⟨0x1FFF, 0x1DFF⟩, third := ⟨0x1FFC, 0x1B5C⟩
      fourth := ⟨0x1FCF, 0x0080⟩, shift := 0 }
  scheme := .bitwise
      { arm := ⟨0x1FF0, 0x1540⟩, clear0 := ⟨0x1FF3, 0x1540⟩, set0 := ⟨0x1FF3, 0x1541⟩
        clear1 := ⟨0x1FF3, 0x1542⟩, set1 := ⟨0x1FF3, 0x1543⟩, escape := ⟨0x1FF8, 0x1550⟩ }

/-- Part 103. -/
def part103 : Profile where
  part := ⟨103, by decide⟩
  games := ["Marble Madness"]
  select := #v[0x0040, 0x0050, 0x0060, 0x0070]
  alternate :=
    { first := some ⟨0x007F, 0x002D⟩, second := ⟨0x3FFF, 0x3D14⟩, third := ⟨0x3FFC, 0x3D24⟩
      fourth := ⟨0x3FCF, 0x0040⟩, shift := 0 }
  scheme := .bitwise
      { arm := ⟨0x3FF0, 0x34C0⟩, clear0 := ⟨0x3FF3, 0x34C0⟩, set0 := ⟨0x3FF3, 0x34C1⟩
        clear1 := ⟨0x3FF3, 0x34C2⟩, set1 := ⟨0x3FF3, 0x34C3⟩, escape := ⟨0x3FF8, 0x34D0⟩ }

/-- Part 104. -/
def part104 : Profile where
  part := ⟨104, by decide⟩
  games := ["Gauntlet"]
  select := #v[0x0020, 0x0028, 0x0030, 0x0038]
  alternate :=
    { first := some ⟨0x007F, 0x0069⟩, second := ⟨0x3FFF, 0x3735⟩, third := ⟨0x3FFC, 0x3764⟩
      fourth := ⟨0x3FE7, 0x0020⟩, shift := 0 }
  scheme := .bitwise
      { arm := ⟨0x3FF0, 0x3D90⟩, clear0 := ⟨0x3FF3, 0x3D90⟩, set0 := ⟨0x3FF3, 0x3D91⟩
        clear1 := ⟨0x3FF3, 0x3D92⟩, set1 := ⟨0x3FF3, 0x3D93⟩, escape := ⟨0x3FF8, 0x3DA0⟩ }

/-- Part 105. -/
def part105 : Profile where
  part := ⟨105, by decide⟩
  games := ["Indiana Jones and the Temple of Doom", "Paperboy"]
  select := #v[0x0010, 0x0014, 0x0018, 0x001C]
  alternate :=
    { first := some ⟨0x007F, 0x003D⟩, second := ⟨0x3FFF, 0x0092⟩, third := ⟨0x3FFC, 0x00A4⟩
      fourth := ⟨0x3FF3, 0x0010⟩, shift := 0 }
  scheme := .bitwise
      { arm := ⟨0x3FF0, 0x35B0⟩, clear0 := ⟨0x3FF3, 0x35B0⟩, set0 := ⟨0x3FF3, 0x35B1⟩
        clear1 := ⟨0x3FF3, 0x35B2⟩, set1 := ⟨0x3FF3, 0x35B3⟩, escape := ⟨0x3FF8, 0x35C0⟩ }

/-- Part 106. -/
def part106 : Profile where
  part := ⟨106, by decide⟩
  games := ["Gauntlet II"]
  select := #v[0x0008, 0x000A, 0x000C, 0x000E]
  alternate :=
    { first := some ⟨0x007F, 0x002B⟩, second := ⟨0x3FFF, 0x0052⟩, third := ⟨0x3FFC, 0x0064⟩
      fourth := ⟨0x3FF9, 0x0008⟩, shift := 0 }
  scheme := .bitwise
      { arm := ⟨0x3FF0, 0x3DA0⟩, clear0 := ⟨0x3FF3, 0x3DA0⟩, set0 := ⟨0x3FF3, 0x3DA1⟩
        clear1 := ⟨0x3FF3, 0x3DA2⟩, set1 := ⟨0x3FF3, 0x3DA3⟩, escape := ⟨0x3FF8, 0x3DB0⟩ }

/-- Part 107. -/
def part107 : Profile where
  part := ⟨107, by decide⟩
  games := ["Peter Packrat", "Xybots", "2-Player Gauntlet", "720 Degrees"]
  select := #v[0x0018, 0x001A, 0x001C, 0x001E]
  alternate :=
    { first := some ⟨0x007F, 0x006B⟩, second := ⟨0x3FFF, 0x3D52⟩, third := ⟨0x3FFC, 0x3D64⟩
      fourth := ⟨0x3FF9, 0x0018⟩, shift := 0 }
  scheme := .bitwise
      { arm := ⟨0x3FF0, 0x00A0⟩, clear0 := ⟨0x3FF3, 0x00A0⟩, set0 := ⟨0x3FF3, 0x00A1⟩
        clear1 := ⟨0x3FF3, 0x00A2⟩, set1 := ⟨0x3FF3, 0x00A3⟩, escape := ⟨0x3FF8, 0x00B0⟩ }

/-- Part 108. -/
def part108 : Profile where
  part := ⟨108, by decide⟩
  games := ["Road Runner", "Super Sprint"]
  select := #v[0x0028, 0x002A, 0x002C, 0x002E]
  alternate :=
    { first := some ⟨0x007F, 0x001F⟩, second := ⟨0x3FFF, 0x3772⟩, third := ⟨0x3FFC, 0x3764⟩
      fourth := ⟨0x3FF9, 0x0028⟩, shift := 0 }
  scheme := .bitwise
      { arm := ⟨0x3FF0, 0x0060⟩, clear0 := ⟨0x3FF3, 0x0060⟩, set0 := ⟨0x3FF3, 0x0061⟩
        clear1 := ⟨0x3FF3, 0x0062⟩, set1 := ⟨0x3FF3, 0x0063⟩, escape := ⟨0x3FF8, 0x0070⟩ }

/-- Part 109. -/
def part109 : Profile where
  part := ⟨109, by decide⟩
  games := ["Championship Sprint", "Road Blasters"]
  select := #v[0x0008, 0x000A, 0x000C, 0x000E]
  alternate :=
    { first := some ⟨0x007F, 0x002B⟩, second := ⟨0x3FFF, 0x0052⟩, third := ⟨0x3FFC, 0x0064⟩
      fourth := ⟨0x3FF9, 0x0008⟩, shift := 0 }
  scheme := .bitwise
      { arm := ⟨0x3FF0, 0x3DA0⟩, clear0 := ⟨0x3FF3, 0x3DA0⟩, set0 := ⟨0x3FF3, 0x3DA1⟩
        clear1 := ⟨0x3FF3, 0x3DA2⟩, set1 := ⟨0x3FF3, 0x3DA3⟩, escape := ⟨0x3FF8, 0x3DB0⟩ }

/-- Part 110. -/
def part110 : Profile where
  part := ⟨110, by decide⟩
  games := ["Road Blasters", "APB"]
  select := #v[0x0040, 0x0050, 0x0060, 0x0070]
  alternate :=
    { first := some ⟨0x007F, 0x002D⟩, second := ⟨0x3FFF, 0x3D14⟩, third := ⟨0x3FFC, 0x3D24⟩
      fourth := ⟨0x3FCF, 0x0040⟩, shift := 0 }
  scheme := .bitwise
      { arm := ⟨0x3FF0, 0x34C0⟩, clear0 := ⟨0x3FF3, 0x34C0⟩, set0 := ⟨0x3FF3, 0x34C1⟩
        clear1 := ⟨0x3FF3, 0x34C2⟩, set1 := ⟨0x3FF3, 0x34C3⟩, escape := ⟨0x3FF8, 0x34D0⟩ }

/-! ## Second revision -/

/-- Part 111. -/
def part111 : Profile where
  part := ⟨111, by decide⟩
  games := ["Pit Fighter (Aug 09 1990)"]
  select := #v[0x0042, 0x0052, 0x0062, 0x0072]
  alternate :=
    { first := some ⟨0x007F, 0x000A⟩, second := ⟨0x3FFF, 0x28A4⟩, third := ⟨0x0784, 0x0080⟩
      fourth := ⟨0x3FCF, 0x0042⟩, shift := 0 }
  scheme := .additive
      { arm := ⟨0x3FFF, 0x00A1⟩, confirm := ⟨0x3FFF, 0x00A2⟩, plus1 := ⟨0x3C4F, 0x284D⟩
        plus2 := ⟨0x3A5F, 0x285D⟩, escape := ⟨0x3FF8, 0x2800⟩ }

/-- Part 112. -/
def part112 : Profile where
  part := ⟨112, by decide⟩
  games := ["Pit Fighter (Aug 22 1990)"]
  select := #v[0x002C, 0x003C, 0x006C, 0x007C]
  alternate :=
    { first := some ⟨0x007F, 0x0014⟩, second := ⟨0x3FFF, 0x29A0⟩, third := ⟨0x0073, 0x0010⟩
      fourth := ⟨0x3FAF, 0x002C⟩, shift := 2 }
  scheme := .additive
      { arm := ⟨0x3FFF, 0x2DCE⟩, confirm := ⟨0x3FFF, 0x2DCF⟩, plus1 := ⟨0x3DEF, 0x15E2⟩
        plus2 := ⟨0x3FBF, 0x15A2⟩, escape := ⟨0x3FFC, 0x1450⟩ }

/-- Part 113. -/
def part113 : Profile where
  part := ⟨113, by decide⟩
  games := ["Pit Fighter (Oct 09 1990)"]
  select := #v[0x0008, 0x0018, 0x0028, 0x0038]
  alternate :=
    { first := some ⟨0x007F, 0x0059⟩, second := ⟨0x3FFF, 0x11A5⟩, third := ⟨0x0860, 0x0800⟩
      fourth := ⟨0x3FCF, 0x0008⟩, shift := 3 }
  scheme := .additive
      { arm := ⟨0x3FFF, 0x049B⟩, confirm := ⟨0x3FFF, 0x049C⟩, plus1 := ⟨0x3FCF, 0x3EC7⟩
        plus2 := ⟨0x3EDF, 0x3ED7⟩, escape := ⟨0x3FFF, 0x3FB2⟩ }

/-- Part 114. -/
def part114 : Profile where
  part := ⟨114, by decide⟩
  games := ["Pit Fighter (Nov 01 1990)"]
  select := #v[0x0040, 0x0048, 0x0050, 0x0058]
  alternate :=
    { first := some ⟨0x007F, 0x0016⟩, second := ⟨0x3FFF, 0x24DE⟩, third := ⟨0x3871, 0x0000⟩
      fourth := ⟨0x3FE7, 0x0040⟩, shift := 1 }
  scheme := .additive
      { arm := ⟨0x3FFF, 0x0AB7⟩, confirm := ⟨0x3FFF, 0x0AB8⟩, plus1 := ⟨0x3F63, 0x0D40⟩
        plus2 := ⟨0x3FD9, 0x0DC8⟩, escape := ⟨0x3FFF, 0x0AB0⟩ }

/-- Part 115. -/
def part115 : Profile where
  part := ⟨115, by decide⟩
  games := ["Race Drivin' DSK board"]
  select := #v[0x0020, 0x0022, 0x0024, 0x0026]
  alternate :=
    { first := some ⟨0x007F, 0x0054⟩, second := ⟨0x3FFF, 0x3E01⟩, third := ⟨0x3879, 0x0029⟩
      fourth := ⟨0x3FF9, 0x0020⟩, shift := 1 }
  scheme := .additive
      { arm := ⟨0x3FFF, 0x2591⟩, confirm := ⟨0x3FFF, 0x2592⟩, plus1 := ⟨0x3FE6, 0x3402⟩
        plus2 := ⟨0x3FB4, 0x3410⟩, escape := ⟨0x3FFF, 0x34A2⟩ }

/-- Part 116. -/
def part116 : Profile where
  part := ⟨116, by decide⟩
  games := ["Hydra", "Tournament Cyberball 2072"]
  select := #v[0x0044, 0x004C, 0x0054, 0x005C]
  alternate :=
    { first := some ⟨0x007F, 0x0069⟩, second := ⟨0x3FFF, 0x2BAB⟩, third := ⟨0x387C, 0x0808⟩
      fourth := ⟨0x3FE7, 0x0044⟩, shift := 0 }
  scheme := .additive
      { arm := ⟨0x3FFF, 0x3F7C⟩, confirm := ⟨0x3FFF, 0x3F7D⟩, plus1 := ⟨0x3DB2, 0x3C12⟩
        plus2 := ⟨0x3FE3, 0x3E43⟩, escape := ⟨0x3FFF, 0x2BA8⟩ }

/-- Part 117. -/
def part117 : Profile where
  part := ⟨117, by decide⟩
  games := ["Race Drivin' main board"]
  select := #v[0x0008, 0x001A, 0x002C, 0x003E]
  alternate :=
    { first := some ⟨0x007F, 0x007D⟩, second := ⟨0x3FFF, 0x3580⟩, third := ⟨0x0079, 0x0020⟩
      fourth := ⟨0x3FC9, 0x0008⟩, shift := 1 }
  scheme := .additive
      { arm := ⟨0x3FFF, 0x0676⟩, confirm := ⟨0x3FFF, 0x0677⟩, plus1 := ⟨0x3E62, 0x1A42⟩
        plus2 := ⟨0x3E35, 0x1A11⟩, escape := ⟨0x3FFF, 0x1A42⟩ }

/-- Part 118. -/
def part118 : Profile where
  part := ⟨118, by decide⟩
  games := ["Rampart", "Vindicators Part II"]
  select := #v[0x0014, 0x0034, 0x0054, 0x0074]
  alternate :=
    { first := some ⟨0x007F, 0x0002⟩, second := ⟨0x3FFF, 0x1950⟩, third := ⟨0x0067, 0x0020⟩
      fourth := ⟨0x3F9F, 0x0014⟩, shift := 3 }
  scheme := .additive
      { arm := ⟨0x3FFF, 0x1958⟩, confirm := ⟨0x3FFF, 0x1959⟩, plus1 := ⟨0x3F73, 0x3052⟩
        plus2 := ⟨0x3F67, 0x3042⟩, escape := ⟨0x3FF8, 0x30E0⟩ }

/-! ## The whole series -/

/-- **The profiles**, in the order of their part numbers. -/
def profiles : Vector Profile 17 :=
  #v[part101, part103, part104, part105, part106, part107, part108, part109, part110, part111,
    part112, part113, part114, part115, part116, part117, part118]

end Catalog

/-- **The profile of a part.** -/
def PartNumber.profile (part : PartNumber) : Profile := Catalog.profiles[part.index]

/-- The profile of the part with a given number. -/
def Catalog.lookup (number : UInt16) : Except PartError Profile :=
  (PartNumber.ofNumber number).map PartNumber.profile

/-- A part finds its own entry. -/
@[simp] theorem PartNumber.part_profile : ∀ part : PartNumber, part.profile.part = part := by
  decide

/-- The patterns of a part. -/
def PartNumber.patterns (part : PartNumber) : Patterns := part.profile.toPatterns

/-- The bank a part powers up in. -/
def PartNumber.startingBank (part : PartNumber) : UInt8 := part.patterns.scheme.startingBank

end Slapstic
