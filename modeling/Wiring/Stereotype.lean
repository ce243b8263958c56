namespace Wiring

inductive Stereotype where
  | springBootApplication
  | controller
  | service
  | repository
  | configuration
  | component
  deriving DecidableEq, Repr

namespace Stereotype

def all : List Stereotype :=
  [springBootApplication, controller, service, repository, configuration, component]

def name : Stereotype → String
  | springBootApplication => "SpringBootApplication"
  | controller => "Controller"
  | service => "Service"
  | repository => "Repository"
  | configuration => "Configuration"
  | component => "Component"

def label (s : Stereotype) : String := "@" ++ s.name

def color : Stereotype → String
  | springBootApplication => "#2c9162"
  | controller => "#7050bf"
  | service => "#a81347"
  | repository => "#e06907"
  | configuration => "#28a9e0"
  | component => "#ffc400"

def rank : Stereotype → Nat
  | springBootApplication => 0
  | controller => 1
  | service => 2
  | repository => 3
  | configuration => 4
  | component => 5

def ofName? (s : String) : Option Stereotype := all.find? (fun t => t.name == s)

def best (s t : Stereotype) : Stereotype := if t.rank < s.rank then t else s

def mostSpecific? : List Stereotype → Option Stereotype
  | [] => none
  | s :: ss => some (ss.foldl best s)

theorem rank_injective {s t : Stereotype} (h : s.rank = t.rank) : s = t := by
  cases s <;> cases t <;> first | rfl | cases h

end Stereotype

end Wiring
