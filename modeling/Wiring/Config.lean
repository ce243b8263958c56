import Wiring.Stereotype
import Wiring.Text.Blank
import Wiring.Text.Lowercase
import Wiring.Text.Order

namespace Wiring

inductive Feature where
  | autowired
  | bean
  | componentScan
  | classImport
  deriving DecidableEq, Repr

namespace Feature

def name : Feature → String
  | autowired => "autowired"
  | bean => "bean"
  | componentScan => "componentscan"
  | classImport => "import"

def all : List Feature := [autowired, bean, componentScan, classImport]

def ofName? (s : String) : Option Feature := all.find? (fun f => f.name == s)

end Feature

abbrev StereotypeMap := List (String × Stereotype)

namespace StereotypeMap

def get? (m : StereotypeMap) (key : String) : Option Stereotype :=
  (m.find? (fun p => p.1 == key)).map (·.2)

def set (m : StereotypeMap) (key : String) (s : Stereotype) : StereotypeMap :=
  if m.any (fun p => p.1 == key) then m.map (fun p => if p.1 == key then (key, s) else p)
  else m ++ [(key, s)]

def setAll (m : StereotypeMap) (entries : List (String × Stereotype)) : StereotypeMap :=
  entries.foldl (fun m p => m.set p.1 p.2) m

theorem get?_eq_none {m : StereotypeMap} {key : String} (h : key ∉ m.map (·.1)) :
    m.get? key = none := by
  rw [get?, Option.map_eq_none_iff, List.find?_eq_none]
  intro p hp hkey
  exact h (List.mem_map.mpr ⟨p, hp, beq_iff_eq.mp hkey⟩)

end StereotypeMap

def defaultStereotypes : StereotypeMap :=
  [("SpringBootApplication", .springBootApplication), ("Configuration", .configuration),
   ("Controller", .controller), ("RestController", .controller), ("Service", .service),
   ("Repository", .repository), ("Component", .component)]

def defaultSkipDirs : List String :=
  [".git", ".idea", "env", ".github", ".gitlab", "target", "build", "out", "bin", ".vscode",
   "node_modules", "__pycache__", ".gradle"]

structure Config where
  extension : String
  stereotypes : StereotypeMap
  features : List Feature
  workers : Int
  skipDirs : List String

namespace Config

def default : Config :=
  ⟨".java", defaultStereotypes, [.autowired, .bean, .classImport], 1, defaultSkipDirs⟩

def hasFeature (c : Config) (f : Feature) : Bool := c.features.contains f

end Config

inductive ConfigError where
  | unknownFeatures (names : List String)
  | tooFewWorkers (count : Int)
  | unknownLanguage (name : String)
  deriving DecidableEq, Repr

def ConfigError.message : ConfigError → String
  | unknownFeatures names =>
    "unknown feature(s) " ++ ", ".intercalate names ++ "; expected any of " ++
      ", ".intercalate (Feature.all.map Feature.name)
  | tooFewWorkers count => s!"max_workers must be at least 1, got {count}"
  | unknownLanguage name => "Unsupported language: " ++ name

/-- The settings that were made so far; `none` stands for the default. -/
structure Setup where
  features : Option (List Feature)
  stereotypes : Option StereotypeMap
  workers : Option Int
  skipDirs : Option (List String)

namespace Setup

open Wiring.Text

def empty : Setup := ⟨none, none, none, none⟩

def normalName (s : String) : String := lowercase (String.ofList (trim s.toList))

def withFeatures (s : Setup) (names : List String) : Except ConfigError Setup :=
  let requested := (names.map normalName).filter (fun n => !n.isEmpty)
  match requested.filter (fun n => (Feature.ofName? n).isNone) with
  | [] => .ok { s with
      features := some (Feature.all.filter (fun f => requested.contains f.name)) }
  | unknown => .error (.unknownFeatures (unknown.eraseDups.mergeSort precedes))

def withStereotypes (s : Setup) (entries : List (String × Stereotype)) : Setup :=
  let distinct := StereotypeMap.setAll [] entries
  let bare := distinct.map (fun p => (String.ofList (p.1.toList.dropWhile (· == '@')), p.2))
  { s with stereotypes := some (StereotypeMap.setAll defaultStereotypes bare) }

def withWorkers (s : Setup) (count : Int) : Except ConfigError Setup :=
  if count < 1 then .error (.tooFewWorkers count) else .ok { s with workers := some count }

def withSkipDirs (s : Setup) (dirs : List String) : Setup :=
  { s with skipDirs := some dirs.eraseDups }

def build (s : Setup) : Config :=
  { Config.default with
    features := s.features.getD Config.default.features
    stereotypes := s.stereotypes.getD Config.default.stereotypes
    workers := s.workers.getD Config.default.workers
    skipDirs := s.skipDirs.getD Config.default.skipDirs }

end Setup

def Config.full : Config := { Config.default with features := Feature.all }

def Config.forLanguage (language : String) (c : Config) : Except ConfigError Config :=
  let name := Text.lowercase language
  if name = "java" then .ok c else .error (.unknownLanguage name)

end Wiring
