import Wiring.Stereotype

namespace Wiring

inductive Entity where
  | configuration (className package : String)
  | component (className : String) (stereotype : Stereotype) (package : String)
  | classImport (source target : String)
  | scan (source package : String)
  | bean (source target method beanName : String) (parameterTypes : List String)
  | autowired (source target : String) (byConstructor : Bool) (member : String)
  deriving DecidableEq, Repr

structure Batch (α : Type) where
  path : String
  package : String
  entities : List α

end Wiring
