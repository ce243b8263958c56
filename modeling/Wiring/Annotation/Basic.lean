import Wiring.Text.Dotted

namespace Wiring

/-- A class reference written `name.class` is a class literal; a bare name may mean a constant. -/
inductive Value where
  | string (value : String)
  | reference (name : String) (isClass : Bool)
  | literal (text : String)
  | list (items : List Value)

structure Annotation where
  name : String
  positional : List Value
  named : List (String × Value)

namespace Annotation

inductive Kind where
  | configuration
  | springBootApplication
  | component
  | service
  | repository
  | controller
  | restController
  | classImport
  | componentScan
  | bean
  | autowired
  | other
  deriving DecidableEq, Repr

namespace Kind

def name : Kind → String
  | configuration => "Configuration"
  | springBootApplication => "SpringBootApplication"
  | component => "Component"
  | service => "Service"
  | repository => "Repository"
  | controller => "Controller"
  | restController => "RestController"
  | classImport => "Import"
  | componentScan => "ComponentScan"
  | bean => "Bean"
  | autowired => "Autowired"
  | other => "opaque"

def named : List Kind :=
  [configuration, springBootApplication, component, service, repository, controller,
   restController, classImport, componentScan, bean, autowired]

def ofName (s : String) : Kind := (named.find? (fun k => k.name == s)).getD other

theorem ofName_name (k : Kind) : ofName k.name = k := by
  cases k <;> decide

theorem ofName_eq_iff {k : Kind} (hk : k ≠ other) {s : String} : ofName s = k ↔ s = k.name := by
  constructor
  · rintro rfl
    unfold ofName at hk ⊢
    cases h : named.find? (fun k => k.name == s) with
    | none => simp [h] at hk
    | some j =>
      have hname : (j.name == s) = true := List.find?_some (p := fun k : Kind => k.name == s) h
      exact (beq_iff_eq.mp hname).symm
  · rintro rfl
    exact ofName_name k

end Kind

def simpleName (a : Annotation) : String := Text.simpleName a.name

def kind (a : Annotation) : Kind := Kind.ofName a.simpleName

theorem kind_eq_iff {a : Annotation} {k : Kind} (hk : k ≠ .other) :
    a.kind = k ↔ a.simpleName = k.name := Kind.ofName_eq_iff hk

def keyword? (a : Annotation) (key : String) : Option Value :=
  (a.named.find? (fun p => p.1 == key)).map (·.2)

def value? (a : Annotation) : Option Value :=
  match a.positional with
  | [] => a.keyword? "value"
  | [v] => some v
  | vs => some (.list vs)

def hasArguments (a : Annotation) : Bool := !a.positional.isEmpty || !a.named.isEmpty

end Annotation

end Wiring
