import Wiring.Proofs.Command.Settings
import Wiring.Proofs.Setup.Marks

namespace Wiring

open Wiring.Text

namespace Setup

inductive Call where
  | features (names : List String)
  | stereotypes (marks : Marks)
  | workers (count : Int)
  | skipDirs (dirs : List String)
  | build

inductive Answer where
  | done
  | refused (e : ConfigError)
  | built (c : Config)

namespace Call

def features? : Call → Option (List String)
  | features names => some names
  | _ => none

def marks? : Call → Option Marks
  | stereotypes marks => some marks
  | _ => none

def workers? : Call → Option Int
  | workers count => some count
  | _ => none

def skipDirs? : Call → Option (List String)
  | skipDirs dirs => some dirs
  | _ => none

def IsWrong : Call → Prop
  | features names => ∃ n ∈ names, trim n.toList ≠ [] ∧ normalName n ∉ Feature.all.map Feature.name
  | workers count => count < 1
  | _ => False

instance : DecidablePred IsWrong
  | features names =>
    inferInstanceAs (Decidable (∃ n ∈ names,
      trim n.toList ≠ [] ∧ normalName n ∉ Feature.all.map Feature.name))
  | workers count => inferInstanceAs (Decidable (count < 1))
  | stereotypes _ | skipDirs _ | build => inferInstanceAs (Decidable False)

end Call

namespace Answer

def isRefused : Answer → Bool
  | refused _ => true
  | _ => false

def config? : Answer → Option Config
  | built c => some c
  | _ => none

end Answer

def settle (s : Setup) : Except ConfigError Setup → Setup × Answer
  | .ok t => (t, .done)
  | .error e => (s, .refused e)

def step (s : Setup) : Call → Setup × Answer
  | .features names => s.settle (s.withFeatures names)
  | .stereotypes marks => (s.withStereotypes marks.entries, .done)
  | .workers count => s.settle (s.withWorkers count)
  | .skipDirs dirs => (s.withSkipDirs dirs, .done)
  | .build => (s, .built s.build)

def history (s : Setup) : List Call → List (Call × Answer)
  | [] => []
  | call :: calls => (call, (s.step call).2) :: (s.step call).1.history calls

def accepted (h : List (Call × Answer)) : List Call :=
  (h.filter (fun p => !p.2.isRefused)).map (·.1)

def configs (h : List (Call × Answer)) : List Config := h.filterMap (fun p => p.2.config?)

def last? {α : Type} (setting? : Call → Option α) (calls : List Call) : Option α :=
  (calls.filterMap setting?).getLast?

end Setup

/-- The configuration that the calls ask for: of each setting what the last call for it says, or
else the default. -/
structure Config.SetBy (c : Config) (calls : List Setup.Call) : Prop where
  extension : c.extension = Config.default.extension
  features : ∀ name, name ∈ c.features.map Feature.name ↔
    match Setup.last? Setup.Call.features? calls with
    | some names => ∃ n ∈ names, trim n.toList ≠ [] ∧ Setup.normalName n = name
    | none => name ∈ Config.default.features.map Feature.name
  stereotypes : ∀ name, c.stereotypes.get? name =
    ((Setup.last? Setup.Call.marks? calls).bind (fun m => m.get? name)).or
      (defaultStereotypes.get? name)
  workers : c.workers = (Setup.last? Setup.Call.workers? calls).getD Config.default.workers
  skipDirs : ∀ dir, dir ∈ c.skipDirs ↔
    dir ∈ (Setup.last? Setup.Call.skipDirs? calls).getD Config.default.skipDirs

theorem Feature.name_ne_empty (f : Feature) : f.name ≠ "" := by
  cases f <;> decide

namespace Setup

def asked (names : List String) : List Feature :=
  Feature.all.filter (fun f => ∃ n ∈ names, normalName n = f.name)

def effect (s : Setup) : Call → Setup
  | .features names => { s with features := some (asked names) }
  | .stereotypes marks => { s with stereotypes := some marks.onDefault }
  | .workers count => { s with workers := some count }
  | .skipDirs dirs => { s with skipDirs := some dirs.eraseDups }
  | .build => s

def reply (s : Setup) : Call → Answer
  | .build => .built s.build
  | _ => .done

variable {s : Setup} {call : Call} {calls : List Call}

theorem mem_asked {names : List String} {name : String} :
    name ∈ (asked names).map Feature.name ↔
      name ∈ Feature.all.map Feature.name ∧ ∃ n ∈ names, normalName n = name := by
  simp only [asked, List.mem_map, List.mem_filter, decide_eq_true_eq]
  constructor
  · rintro ⟨f, ⟨hf, hn⟩, rfl⟩
    exact ⟨⟨f, hf, rfl⟩, hn⟩
  · rintro ⟨⟨f, hf, rfl⟩, hn⟩
    exact ⟨f, ⟨hf, hn⟩, rfl⟩

theorem withFeatures_eq {names : List String} (h : ¬ (Call.features names).IsWrong) :
    s.withFeatures names = .ok { s with features := some (asked names) } := by
  cases hs : s.withFeatures names with
  | error e => exact absurd (withFeatures_error_iff.mp ⟨e, hs⟩) h
  | ok t =>
    rw [withFeatures] at hs
    split at hs
    · cases hs
      have hasked : ∀ f : Feature,
          ((names.map normalName).filter (fun n => !n.isEmpty)).contains f.name =
            decide (∃ n ∈ names, normalName n = f.name) := by
        intro f
        simp [List.mem_filter, Feature.name_ne_empty f]
      simp only [hasked, asked]
    · cases hs

theorem step_of_wrong (h : call.IsWrong) : ∃ e, s.step call = (s, .refused e) := by
  cases call with
  | features names =>
    obtain ⟨e, he⟩ := withFeatures_error_iff.mpr h
    exact ⟨e, by rw [step, he, settle]⟩
  | workers count =>
    obtain ⟨e, he⟩ := withWorkers_error_iff.mpr h
    exact ⟨e, by rw [step, he, settle]⟩
  | _ => exact h.elim

theorem step_of_not_wrong (h : ¬ call.IsWrong) : s.step call = (s.effect call, s.reply call) := by
  cases call with
  | features names => rw [step, withFeatures_eq h]; rfl
  | stereotypes marks => rw [step, withStereotypes_marks]; rfl
  | workers count => exact congrArg s.settle (if_neg h)
  | _ => rfl

theorem isRefused_reply : (s.reply call).isRefused = false := by
  cases call <;> rfl

theorem isRefused_step : (s.step call).2.isRefused = true ↔ call.IsWrong := by
  by_cases h : call.IsWrong
  · obtain ⟨e, he⟩ := step_of_wrong (s := s) h
    rw [he]
    exact iff_of_true rfl h
  · rw [step_of_not_wrong h]
    exact iff_of_false (by rw [isRefused_reply]; exact Bool.false_ne_true) h

def after (s : Setup) (calls : List Call) : Setup := calls.foldl (fun s call => (s.step call).1) s

theorem history_getElem? (s : Setup) (calls : List Call) (i : Nat) :
    (s.history calls)[i]? =
      calls[i]?.map (fun call => (call, ((s.after (calls.take i)).step call).2)) := by
  induction calls generalizing s i with
  | nil => rfl
  | cons call calls ih =>
    cases i with
    | zero => rfl
    | succ i => exact ih (s.step call).1 i

theorem history_take (s : Setup) (calls : List Call) (i : Nat) :
    (s.history calls).take i = s.history (calls.take i) := by
  induction calls generalizing s i with
  | nil => simp [history]
  | cons call calls ih =>
    cases i with
    | zero => rfl
    | succ i => exact congrArg ((call, (s.step call).2) :: ·) (ih (s.step call).1 i)

theorem after_eq (s : Setup) (calls : List Call) :
    s.after calls = (calls.filter (fun call => ¬ call.IsWrong)).foldl effect s := by
  induction calls generalizing s with
  | nil => rfl
  | cons call calls ih =>
    have hrest : s.after (call :: calls) = (s.step call).1.after calls := rfl
    rw [hrest, ih]
    by_cases h : call.IsWrong
    · obtain ⟨e, he⟩ := step_of_wrong (s := s) h
      rw [he, List.filter_cons_of_neg (by simpa using h)]
    · rw [step_of_not_wrong h, List.filter_cons_of_pos (by simpa using h)]
      rfl

theorem history_map_fst (s : Setup) (calls : List Call) : (s.history calls).map (·.1) = calls := by
  induction calls generalizing s with
  | nil => rfl
  | cons call calls ih => exact congrArg (call :: ·) (ih (s.step call).1)

theorem history_filter (s : Setup) (calls : List Call) :
    s.history (calls.filter (fun call => ¬ call.IsWrong)) =
      (s.history calls).filter (fun p => !p.2.isRefused) := by
  induction calls generalizing s with
  | nil => rfl
  | cons call calls ih =>
    rw [history]
    by_cases h : call.IsWrong
    · obtain ⟨e, he⟩ := step_of_wrong (s := s) h
      rw [he, List.filter_cons_of_neg (by simpa using h),
        List.filter_cons_of_neg (by simp [Answer.isRefused])]
      exact ih s
    · rw [step_of_not_wrong h, List.filter_cons_of_pos (by simpa using h),
        List.filter_cons_of_pos (by simp [isRefused_reply]), history, step_of_not_wrong h, ih]

theorem accepted_history (s : Setup) (calls : List Call) :
    accepted (s.history calls) = calls.filter (fun call => ¬ call.IsWrong) := by
  rw [accepted, ← history_filter, history_map_fst]

theorem configs_filter (h : List (Call × Answer)) :
    configs (h.filter (fun p => !p.2.isRefused)) = configs h := by
  rw [configs, configs, List.filterMap_filter]
  apply List.filterMap_congr
  rintro ⟨call, answer⟩ -
  cases answer <;> rfl

theorem last?_cons {α : Type} (setting? : Call → Option α) (call : Call) (calls : List Call) :
    last? setting? (call :: calls) = (last? setting? calls).or (setting? call) := by
  rw [last?, last?, List.filterMap_cons]
  cases setting? call with
  | none => exact (Option.or_none).symm
  | some a =>
    rw [List.getLast?_cons]
    cases (calls.filterMap setting?).getLast? <;> rfl

theorem mem_of_last? {α : Type} {setting? : Call → Option α} {a : α} (make : α → Call)
    (hmake : ∀ call, setting? call = some a → call = make a) (h : last? setting? calls = some a) :
    make a ∈ calls := by
  obtain ⟨call, hcall, ha⟩ := List.mem_filterMap.mp (List.mem_of_getLast? h)
  exact hmake call ha ▸ hcall

theorem Call.eq_features {names : List String} (h : call.features? = some names) :
    call = .features names := by
  cases call with
  | features _ => cases h; rfl
  | _ => cases h

theorem Call.eq_workers {count : Int} (h : call.workers? = some count) : call = .workers count := by
  cases call with
  | workers _ => cases h; rfl
  | _ => cases h

theorem view_effects {α β : Type} (view : Setup → Option β) (setting? : Call → Option α)
    (value : α → β) (hempty : view empty = none)
    (h : ∀ s call, view (s.effect call) = ((setting? call).map value).or (view s))
    (calls : List Call) :
    view (calls.foldl effect empty) = (last? setting? calls).map value := by
  -- from any setup on, since the calls before may have made the setting already
  have hfrom : ∀ s, view (calls.foldl effect s) =
      ((last? setting? calls).map value).or (view s) := by
    induction calls with
    | nil => exact fun _ => rfl
    | cons call calls ih =>
      intro s
      rw [List.foldl_cons, ih, h, last?_cons]
      cases last? setting? calls <;> rfl
  rw [hfrom, hempty, Option.or_none]

theorem mem_asked_of_not_wrong {names : List String} (h : ¬ (Call.features names).IsWrong)
    {name : String} : name ∈ (asked names).map Feature.name ↔
      ∃ n ∈ names, trim n.toList ≠ [] ∧ normalName n = name := by
  rw [mem_asked]
  constructor
  · rintro ⟨hname, n, hn, rfl⟩
    refine ⟨n, hn, ?_, rfl⟩
    intro hblank
    obtain ⟨f, -, hf⟩ := List.mem_map.mp hname
    exact Feature.name_ne_empty f (hf.trans (normalName_eq_empty.mpr hblank))
  · rintro ⟨n, hn, hblank, rfl⟩
    refine ⟨?_, n, hn, rfl⟩
    by_contra hunknown
    exact h ⟨n, hn, hblank, hunknown⟩

theorem setBy_effects (h : ∀ call ∈ calls, ¬ call.IsWrong) :
    (calls.foldl effect empty).build.SetBy calls where
  extension := rfl
  features := by
    have hview := view_effects Setup.features Call.features? asked rfl
      (by intro s call; cases call <;> rfl) calls
    intro name
    rw [build, hview]
    cases hlast : last? Call.features? calls with
    | none => exact Iff.rfl
    | some names => exact mem_asked_of_not_wrong (h _ (mem_of_last? .features (fun _ => Call.eq_features) hlast))
  stereotypes := by
    have hview := view_effects Setup.stereotypes Call.marks? Marks.onDefault rfl
      (by intro s call; cases call <;> rfl) calls
    intro name
    rw [build, hview]
    cases last? Call.marks? calls with
    | none => rfl
    | some marks => exact marks.get?_onDefault name
  workers := by
    have hview := view_effects Setup.workers Call.workers? id rfl
      (by intro s call; cases call <;> rfl) calls
    rw [build, hview, Option.map_id_fun, id]
  skipDirs := by
    have hview := view_effects Setup.skipDirs Call.skipDirs? List.eraseDups rfl
      (by intro s call; cases call <;> rfl) calls
    intro dir
    rw [build, hview]
    cases last? Call.skipDirs? calls with
    | none => exact Iff.rfl
    | some dirs => exact List.mem_eraseDups

theorem one_le_workers {c : Config} (hc : c.SetBy calls) (h : ∀ call ∈ calls, ¬ call.IsWrong) :
    1 ≤ c.workers := by
  rw [hc.workers]
  cases hlast : last? Call.workers? calls with
  | none => decide
  | some count => exact Int.not_lt.mp (h _ (mem_of_last? .workers (fun _ => Call.eq_workers) hlast))

theorem not_isWrong_of_mem_accepted (h : call ∈ accepted (s.history calls)) : ¬ call.IsWrong := by
  rw [accepted_history] at h
  simpa using (List.mem_filter.mp h).2

theorem setBy_after (calls : List Call) :
    (empty.after calls).build.SetBy (accepted (empty.history calls)) := by
  have hright : ∀ call ∈ accepted (empty.history calls), ¬ call.IsWrong :=
    fun _ => not_isWrong_of_mem_accepted
  rw [accepted_history] at hright ⊢
  rw [after_eq]
  exact setBy_effects hright

theorem getElem?_history_build {i : Nat} (h : calls[i]? = some .build) :
    (s.history calls)[i]? = some (.build, .built (s.after (calls.take i)).build) := by
  rw [history_getElem?, h]
  rfl

theorem config?_step {c : Config} (h : (s.step call).2.config? = some c) : c = s.build := by
  by_cases hwrong : call.IsWrong
  · obtain ⟨e, he⟩ := step_of_wrong (s := s) hwrong
    rw [he] at h
    cases h
  · rw [step_of_not_wrong hwrong] at h
    cases call with
    | build => cases h; rfl
    | _ => cases h

theorem exists_after_of_mem_configs {c : Config} (h : c ∈ configs (s.history calls)) :
    ∃ i, c = (s.after (calls.take i)).build := by
  obtain ⟨p, hp, hc⟩ := List.mem_filterMap.mp h
  obtain ⟨i, hi⟩ := List.mem_iff_getElem?.mp hp
  rw [history_getElem?] at hi
  obtain ⟨call, -, rfl⟩ := Option.map_eq_some_iff.mp hi
  exact ⟨i, config?_step hc⟩

/-- Whatever is called, and with refusals anywhere in between: a call is refused exactly if it asks
for something wrong, each build is what the calls before it that were not refused ask for, without
the refused calls the same configurations are built, and no configuration has a feature that there is
not or is without a worker. -/
theorem built_by_last_accepted (calls : List Call) :
    let h := empty.history calls
    (∀ (i : Nat) (call : Call), calls[i]? = some call →
      ∃ a : Answer, h[i]? = some (call, a) ∧ (a.isRefused = true ↔ call.IsWrong)) ∧
    (∀ i : Nat, calls[i]? = some .build →
      ∃ c : Config, h[i]? = some (.build, .built c) ∧ c.SetBy (accepted (h.take i))) ∧
    configs (empty.history (accepted h)) = configs h ∧
    ∀ c ∈ configs h, 1 ≤ c.workers ∧
      ∀ name ∈ c.features.map Feature.name, name ∈ ["import", "componentscan", "autowired", "bean"] := by
  intro h
  refine ⟨?_, ?_, ?_, ?_⟩
  · intro i call hcall
    refine ⟨((empty.after (calls.take i)).step call).2, ?_, isRefused_step⟩
    rw [history_getElem?, hcall]
    rfl
  · intro i hbuild
    refine ⟨_, getElem?_history_build hbuild, ?_⟩
    rw [history_take]
    exact setBy_after _
  · rw [accepted_history, history_filter, configs_filter]
  · intro c hc
    obtain ⟨i, rfl⟩ := exists_after_of_mem_configs hc
    constructor
    · exact one_le_workers (setBy_after _) (fun _ => not_isWrong_of_mem_accepted)
    · intro name hname
      obtain ⟨f, -, rfl⟩ := List.mem_map.mp hname
      cases f <;> decide

theorem built_by_last_accepted_between :
    let marks : Marks := ⟨[("@Job", .service), ("Service", .component)], by decide⟩
    let calls : List Call :=
      [.features ["bean", "beans"], .workers 4, .features [" Import ", ""], .stereotypes marks,
        .workers 0, .build]
    let h := empty.history calls
    calls[4]? = some (.workers 0) ∧ (∃ a, h[4]? = some (.workers 0, a) ∧ a.isRefused = true) ∧
      calls[5]? = some .build ∧
      ∃ c, h[5]? = some (.build, .built c) ∧ c ∈ configs h ∧ 1 ≤ c.workers ∧ c.workers = 4 ∧
        (∀ name, name ∈ c.features.map Feature.name ↔ name = "import") ∧
        c.stereotypes.get? "Job" = some .service ∧
        c.stereotypes.get? "Service" = some .component ∧
        c.stereotypes.get? "Controller" = some .controller := by
  intro marks calls h
  obtain ⟨hanswers, hbuilds, -, hsound⟩ := built_by_last_accepted calls
  obtain ⟨a, ha, hrefused⟩ := hanswers 4 (.workers 0) rfl
  obtain ⟨c, hc, hset⟩ := hbuilds 5 rfl
  have haccepted : accepted (h.take 5) =
      [.workers 4, .features [" Import ", ""], .stereotypes marks] := by rfl
  rw [haccepted] at hset
  have hmem : c ∈ configs h := List.mem_filterMap.mpr ⟨_, List.mem_of_getElem? hc, rfl⟩
  have hnames : ∀ name, name ∈ c.features.map Feature.name ↔ name = "import" := by
    intro name
    rw [hset.features]
    show (∃ n ∈ [" Import ", ""], trim n.toList ≠ [] ∧ normalName n = name) ↔ _
    have himport : normalName " Import " = "import" := by decide +kernel
    have hblank : trim "".toList = [] := by decide +kernel
    have hvisible : trim " Import ".toList ≠ [] := by decide +kernel
    constructor
    · rintro ⟨n, hn, hne, rfl⟩
      rcases List.mem_cons.mp hn with rfl | hn
      · exact himport
      · rw [List.mem_singleton.mp hn] at hne
        exact absurd hblank hne
    · rintro rfl
      exact ⟨_, List.mem_cons_self, hvisible, himport⟩
  refine ⟨rfl, ⟨a, ha, hrefused.mpr (by decide)⟩, rfl, c, hc, hmem, (hsound c hmem).1, hset.workers,
    hnames, ?_, ?_, ?_⟩
  · rw [hset.stereotypes]
    decide +kernel
  · rw [hset.stereotypes]
    decide +kernel
  · rw [hset.stereotypes]
    decide +kernel

end Setup

end Wiring
