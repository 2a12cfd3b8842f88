import StrategyLab.Adapters.Validation
import StrategyLab.Lib.Json
import StrategyLab.Lib.Table
import Mathlib.Data.String.Basic

/-! The append-only registry of strategy versions and the table it is kept in. -/

namespace StrategyLab

/-- How far a version has come. -/
inductive StrategyVersionStatus where
  | applyReady
  | active
  | previous
  | retired
  deriving DecidableEq, Repr

/-- The side of the market a version trades. -/
inductive Direction where
  | long
  | short
  deriving DecidableEq, Repr

/-- The letter of a direction in a display id. -/
def Direction.letter : Direction → String
  | .long => "L"
  | .short => "S"

/-- The ranges of the digits that are no decimal digits: superscripts, circled digits and such. -/
def otherDigits : List (Nat × Nat) :=
  [(0xB2, 0xB3), (0xB9, 0xB9), (0x1369, 0x1371), (0x19DA, 0x19DA), (0x2070, 0x2070),
    (0x2074, 0x2079), (0x2080, 0x2089), (0x2460, 0x2468), (0x2474, 0x247C), (0x2488, 0x2490),
    (0x24EA, 0x24EA), (0x24F5, 0x24FD), (0x24FF, 0x24FF), (0x2776, 0x277E), (0x2780, 0x2788),
    (0x278A, 0x2792), (0x10A40, 0x10A43), (0x10E60, 0x10E68), (0x11052, 0x1105A),
    (0x1F100, 0x1F10A)]

/-- A character that `isdigit` accepts. -/
def isDigitChar (c : Char) : Bool :=
  isDecimal c || otherDigits.any fun range => range.1 ≤ c.toNat && c.toNat ≤ range.2

/-- One version of a strategy. -/
structure StrategyVersion where
  strategyVersionId : String
  familyId : String
  candidateId : String
  specFingerprint : String
  specRules : Json
  validationSummary : Json
  status : StrategyVersionStatus
  createdAt : String
  displayId : Option String
  direction : Option Direction
  approvedAt : Option String
  activatedAt : Option String
  deactivatedAt : Option String
  retiredAt : Option String
  retiredReason : Option String

/-- The versions of a family, oldest first. -/
structure StrategyVersionRegistry where
  versions : List StrategyVersion

namespace StrategyVersionRegistry

/-- A registry without versions. -/
def empty : StrategyVersionRegistry := ⟨[]⟩

/-- The display id with a sequence number, which is padded to three digits. -/
def displayId (stem : String) (sequence : Nat) : String :=
  let digits := toString sequence
  stem ++ String.ofList (List.replicate (3 - digits.length) '0') ++ digits

/-- The display id of the next version: its day, its direction, and a number not used before. -/
def nextDisplayId (registry : StrategyVersionRegistry) (at_ : String)
    (direction : Option Direction) : Option String :=
  match direction with
  | none => none
  | some direction =>
    let date := (at_.toList.take 10).filter (· ≠ '-')
    if date.length ≠ 8 ∨ !date.all isDigitChar then none
    else
      let stem := String.ofList (date.drop 2) ++ "-" ++ Direction.letter direction
      let used := registry.versions.filterMap (·.displayId)
      -- Among one more number than there are used ones, one is free.
      let free := (List.range (used.length + 1)).find? fun n => displayId stem (n + 1) ∉ used
      free.map fun n => displayId stem (n + 1)

/-- Append a version that may be activated once a human approves it. -/
def registerApplyReady (registry : StrategyVersionRegistry) (uuid familyId candidateId : String)
    (specFingerprint : String) (specRules validationSummary : Json) (at_ : String)
    (direction : Option Direction) : StrategyVersionRegistry × StrategyVersion :=
  let version : StrategyVersion :=
    { strategyVersionId := s!"strategy-version:{uuid}", familyId, candidateId, specFingerprint,
      specRules, validationSummary, status := .applyReady, createdAt := at_,
      displayId := registry.nextDisplayId at_ direction, direction, approvedAt := some at_,
      activatedAt := none, deactivatedAt := none, retiredAt := none, retiredReason := none }
  (⟨registry.versions ++ [version]⟩, version)

/-- Every version that was registered. -/
def history (registry : StrategyVersionRegistry) : List StrategyVersion := registry.versions

end StrategyVersionRegistry

/-- A stored registry. -/
structure StrategyFamilyRow where
  familyId : String
  registry : StrategyVersionRegistry
  updatedAt : String

/-- The stored registries, one for each family. -/
abbrev StrategyFamilies := Table StrategyFamilyRow.familyId

namespace StrategyFamilies

/-- The registry of a family, which is empty until it is saved. -/
def get (families : StrategyFamilies) (familyId : String) : StrategyVersionRegistry :=
  match families.find? familyId with
  | some row => row.registry
  | none => .empty

/-- Store the registry of a family. -/
def save (families : StrategyFamilies) (familyId : String) (registry : StrategyVersionRegistry)
    (now : String) : StrategyFamilies :=
  families.replace ⟨familyId, registry, now⟩

/-- After a registry is saved, its family reads it and every other family reads as before. -/
theorem get_save (families : StrategyFamilies) (familyId : String)
    (registry : StrategyVersionRegistry) (now other : String) :
    (families.save familyId registry now).get other =
      if other = familyId then registry else families.get other := by
  simp only [get, save, Table.find?_replace]
  by_cases same : other = familyId
  · rw [if_pos same, if_pos same]
  · rw [if_neg same, if_neg same]

end StrategyFamilies

end StrategyLab
