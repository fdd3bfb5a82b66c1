import ServiceHarness.Proofs.Plan.Defects
import ServiceHarness.Proofs.Settings.Precedence

/-!
# The first obstacle to a plan

Settings can stand in the way of a plan in several places at once.  `Settings.obstacles` lists
everything that does, in the order in which it is told: the defects of the declarations, selected or
not, the paths and the commands that do not come about, and the defects of the plan that would be
made.  Each part of the making of a plan `Reports` a part of this list, which means that it fails
for the first entry or, if there is none, does not fail; hence so does the whole
(`resolve_firstObstacle`).
-/

namespace ServiceHarness

/-! ### Reporting the first fault -/

/-- The computation fails for the first of the faults, and has an outcome if there is none. -/
def Reports {ε α : Type} (faults : List ε) : Except ε α → Prop
  | .ok _ => faults = []
  | .error e => faults.head? = some e

namespace Reports

variable {ε ε' α β : Type} {faults faults' : List ε} {x : Except ε α}

/-- A computation fails for a fault exactly if that is the first one. -/
theorem eq_error_iff (h : Reports faults x) (e : ε) :
  x = .error e ↔ faults.head? = some e
  := by
  cases x with
  | ok a =>
    obtain rfl : faults = [] := h
    simp
  | error e' =>
    have hhead : faults.head? = some e' := h
    simp [hhead]

/-- A computation fails exactly if there are faults. -/
theorem exists_error_iff (h : Reports faults x) :
  (∃ e, x = .error e) ↔ faults ≠ []
  := by
  simp only [h.eq_error_iff, ← Option.isSome_iff_exists, List.isSome_head?, ne_eq]

/-- Where one computation goes on from another, the faults of the first come first, and those of the
second matter only if there are none of the first. -/
theorem bind {f : α → Except ε β} (hx : Reports faults x)
    (hf : ∀ a, x = .ok a → Reports faults' (f a)) :
  Reports (faults ++ faults') (x >>= f)
  := by
  cases x with
  | ok a =>
    obtain rfl : faults = [] := hx
    exact hf a rfl
  | error e =>
    have hhead : faults.head? = some e := hx
    change (faults ++ faults').head? = some e
    rw [List.head?_append, hhead]
    rfl

/-- An outcome that is only looked at, and made another one, is no place for faults. -/
theorem returning (hx : Reports faults x) (f : α → β) :
  Reports faults (x >>= fun a => pure (f a))
  := by
  rw [← List.append_nil faults]
  apply hx.bind
  intro a _
  rfl

theorem mapError (hx : Reports faults x) (f : ε → ε') :
  Reports (faults.map f) (x.mapError f)
  := by
  cases x with
  | ok a =>
    obtain rfl : faults = [] := hx
    rfl
  | error e =>
    have hhead : faults.head? = some e := hx
    change (faults.map f).head? = some (f e)
    rw [List.head?_map, hhead]
    rfl

/-- Computations that are gone through in a row report their faults in a row. -/
theorem mapM {f : α → Except ε β} {faultsOf : α → List ε}
    (hf : ∀ a, Reports (faultsOf a) (f a)) :
    ∀ l : List α, Reports (l.flatMap faultsOf) (l.mapM f)
  | [] => rfl
  | a :: rest => by
    rw [List.mapM_cons, List.flatMap_cons]
    apply (hf a).bind
    intro b _
    apply (mapM hf rest).returning

end Reports

/-! ### Declarations -/

/-- What is wrong with the words of a command: that there are none, or that the first one, which is
the program, is blank.  Words that are not given are not wrong. -/
def argvDefects (owner : String) : Option (List String) → List Defect
  | none => []
  | some argv => if argv.head?.all Text.isBlankText then [.emptyCommand owner] else []

/-- What is wrong with a declaration: the command that builds the service, the one that runs it, and
the name. -/
def Declaration.defects (d : Declaration) : List Defect :=
  argvDefects d.name d.build
    ++ argvDefects d.name d.run
    ++ (if Text.isBlankText d.name then [.broken .serviceNamed] else [])

theorem broken_notMem_argvDefects (rule : Rule) (owner : String) (given : Option (List String)) :
  .broken rule ∉ argvDefects owner given
  := by
  cases given with
  | none => exact List.not_mem_nil
  | some argv => simp [argvDefects]

/-- The only rule that a declaration can break is that a service has a name. -/
theorem Declaration.rule_of_mem_defects (d : Declaration) {rule : Rule}
    (h : .broken rule ∈ d.defects) :
  rule = .serviceNamed
  := by
  simp only [defects, List.mem_append, broken_notMem_argvDefects, false_or,
    List.mem_ite_nil_right, List.mem_singleton, Defect.broken.injEq] at h
  exact h.2

theorem Command.ofArgv_reports (owner : String) (argv : List String) :
  Reports (argvDefects owner (some argv)) (ofArgv owner argv)
  := by
  cases argv with
  | nil => rfl
  | cons program args =>
    rw [ofArgv, argvDefects, List.head?_cons, Option.all_some]
    cases Text.isBlankText program with
    | true => rfl
    | false => rfl

theorem Declaration.commandOr_reports (owner : String) (default : Command)
    (given : Option (List String)) :
  Reports (argvDefects owner given) (commandOr owner default given)
  := by
  cases given with
  | none => rfl
  | some argv => apply Command.ofArgv_reports

theorem Service.named_reports (name : String) (build run : Command) :
  Reports (if Text.isBlankText name then [Defect.broken .serviceNamed] else [])
    (named name build run)
  := by
  rw [named]
  cases Text.isBlankText name with
  | true => rfl
  | false => rfl

theorem Declaration.service_reports (d : Declaration) :
  Reports d.defects d.service
  := by
  rw [defects, service, List.append_assoc]
  apply (commandOr_reports d.name (Service.cargo d.name).build d.build).bind
  intro build _
  apply (commandOr_reports d.name (Service.cargo d.name).run d.run).bind
  intro run _
  apply Service.named_reports

/-! ### Plans -/

theorem Plan.validate_reports (p : Plan) :
  Reports p.defects p.validate
  := by
  rw [validate_eq]
  cases p.defects with
  | nil => rfl
  | cons d rest => rfl

namespace Settings

/-! ### Everything that stands in the way -/

/-- What is wrong with a path: that it cannot be expanded.  If none is given, it is what is wrong with
the path that there is by default. -/
def pathFaults (site : Site) (default : List Fault) : Option String → List Fault
  | none => default
  | some path =>
    match site.expand path with
    | .ok _ => []
    | .error name => [.unexpandable path name]

/-- What is wrong with the current directory: that it cannot be read. -/
def currentFaults (site : Site) : List Fault :=
  match site.directory with
  | .ok _ => []
  | .error reason => [.adrift reason]

/-- The names of the services of a plan: those that flags give, or else those that the manifest
declares, or else the default ones. -/
def effectiveNames (flags : Flags) (file : Manifest) : List String :=
  if flags.services ≠ [] then flags.services
  else if file.services ≠ [] then file.services.map Declaration.name
  else ["oprish", "pandemonium", "effis"]

/-- The time between probes: the one that a flag gives, or else the one that the manifest declares,
or else the default. -/
def effectiveInterval (flags : Flags) (file : Manifest) : Nat :=
  (firstGiven [flags.interval, file.interval]).getD 1000

/-- What is wrong with the plan that settings would make. -/
def planDefects (flags : Flags) (file : Manifest) : List Defect :=
  (repetitions (effectiveNames flags file)).map .duplicateService
    ++ (if effectiveInterval flags file = 0 then [.broken .intervalPositive] else [])

/-- Everything that stands in the way of a plan, in the order in which it is told. -/
def obstacles (site : Site) (flags : Flags) (file : Manifest) : List Fault :=
  (file.services.flatMap Declaration.defects).map .defective
    ++ pathFaults site [] (firstGiven [flags.conf, file.confPath])
    ++ (argvDefects "workspace tests" file.workspaceTest).map .defective
    ++ (argvDefects "integration tests" file.integrationTest).map .defective
    ++ pathFaults site (currentFaults site) flags.directory
    ++ (planDefects flags file).map .defective

theorem current_reports (site : Site) :
  Reports (currentFaults site) site.current
  := by
  rw [currentFaults, Site.current]
  cases site.directory with
  | ok directory => rfl
  | error reason => rfl

theorem pathOr_reports {site : Site} {faults : List Fault} {default : Except Fault String}
    (hdefault : Reports faults default) (given : Option String) :
  Reports (pathFaults site faults given) (pathOr site default given)
  := by
  cases given with
  | none => exact hdefault
  | some path =>
    rw [pathFaults, pathOr, Site.path]
    cases site.expand path with
    | ok expanded => rfl
    | error name => rfl

theorem commandOr_reports (owner : String) (default : Command) (given : Option (List String)) :
  Reports ((argvDefects owner given).map Fault.defective) (commandOr owner default given)
  := (Declaration.commandOr_reports owner default given).mapError Fault.defective

theorem effectiveNames_ne_nil (flags : Flags) (file : Manifest) :
  effectiveNames flags file ≠ []
  := by
  rw [effectiveNames]
  split
  case isTrue hflags => exact hflags
  case isFalse =>
    split
    case isTrue hfile => simpa using hfile
    case isFalse => decide

/-- The first text that is given and not blank is trimmed. -/
theorem isTrimmed_of_firstFilled {values : List (Option String)} {s : String}
    (h : firstFilled values = some s) :
  Text.IsTrimmed s
  := by
  obtain ⟨given, hfind, rfl⟩ := Option.map_eq_some_iff.mp h
  apply Text.isTrimmed_trim
  rw [ne_eq, Text.trim_eq_empty_iff]
  simpa using List.find?_some hfind

/-- A plan that settings make has services, a URL and a variable whatever they are, so that only the
names and the time between probes can be wrong with it. -/
theorem defects_assemble {flags : Flags} {file : Manifest} {declared : List Service}
    (h : file.services.mapM Declaration.service = .ok declared) (confPath directory : String)
    (workspaceTest integrationTest : Command) :
  (assemble flags file declared confPath directory workspaceTest integrationTest).defects
    = planDefects flags file
  := by
  have hnames : (effectiveServices flags declared).map Service.name = effectiveNames flags file :=
    names_of_settings h
  have hservices : effectiveServices flags declared ≠ [] := by
    intro hnone
    rw [hnone] at hnames
    exact effectiveNames_ne_nil flags file hnames.symm
  have hurl : Text.isBlankText ((filled flags.url <|> filled file.url).getD ({} : Plan).url)
      = false := by
    rw [filled_orElse_filled]
    exact (isTrimmed_getD (fun s hs => isTrimmed_of_firstFilled hs) isTrimmed_default.1).filled
  have hvariable : Text.isBlankText ((filled file.confVariable).getD ({} : Plan).confVariable)
      = false :=
    (isTrimmed_getD (fun s hs => isTrimmed_of_filled hs) isTrimmed_default.2).filled
  have hinterval : (flags.interval <|> file.interval).getD ({} : Plan).interval
      = effectiveInterval flags file := by
    rw [orElse_eq_firstGiven]
    rfl
  simp only [Plan.defects, assemble, hnames, hservices, hurl, hvariable, hinterval, if_false,
    Bool.false_eq_true, List.nil_append, List.append_nil, planDefects]

/-- Resolving reports what stands in the way of a plan. -/
theorem resolve_reports (site : Site) (flags : Flags) (file : Manifest) :
  Reports (obstacles site flags file) (resolve site flags file)
  := by
  have hdefault : Reports [] (.ok ({} : Plan).confPath : Except Fault String) := rfl
  simp only [resolve_eq, obstacles, List.append_assoc]
  apply ((Reports.mapM Declaration.service_reports file.services).mapError Fault.defective).bind
  intro declared hdeclared
  rw [orElse_eq_firstGiven]
  apply (pathOr_reports hdefault _).bind
  intro confPath _
  apply (commandOr_reports _ _ _).bind
  intro workspaceTest _
  apply (commandOr_reports _ _ _).bind
  intro integrationTest _
  apply (pathOr_reports (current_reports site) _).bind
  intro directory _
  rw [← defects_assemble (mapError_eq_ok hdeclared) confPath directory workspaceTest integrationTest]
  apply ((Plan.validate_reports _).mapError Fault.defective).returning

/-- Of the rules that a plan has to keep, only two can be broken by settings. -/
theorem rule_of_mem_obstacles {site : Site} {flags : Flags} {file : Manifest} {rule : Rule}
    (h : .defective (.broken rule) ∈ obstacles site flags file) :
  rule = .serviceNamed ∨ rule = .intervalPositive
  := by
  have hcurrent : .defective (.broken rule) ∉ currentFaults site := by
    intro hmem
    rw [currentFaults] at hmem
    split at hmem
    case h_1 => cases hmem
    case h_2 => simp at hmem
  have hpath : ∀ {default}, .defective (.broken rule) ∉ default → ∀ given,
      .defective (.broken rule) ∉ pathFaults site default given := by
    intro default hdefault given hmem
    cases given with
    | none => exact hdefault hmem
    | some path =>
      rw [pathFaults] at hmem
      split at hmem
      case h_1 => cases hmem
      case h_2 => simp at hmem
  simp only [obstacles, planDefects, List.mem_append, List.mem_map, Fault.defective.injEq,
    exists_eq_right, List.mem_flatMap, broken_notMem_argvDefects,
    hpath List.not_mem_nil, hpath hcurrent, or_false, reduceCtorEq,
    and_false, exists_false, false_or, List.mem_ite_nil_right, List.mem_singleton,
    Defect.broken.injEq] at h
  obtain ⟨d, -, hdefect⟩ | ⟨-, hrule⟩ := h
  · left
    apply d.rule_of_mem_defects hdefect
  · right
    exact hrule

/-- No plan is made exactly if something stands in the way of it, and the fault that is told is the
first of all that do.  That there is no service, no URL or no name of the variable is never
told. -/
theorem resolve_firstObstacle (site : Site) (flags : Flags) (file : Manifest) :
  ((∃ fault, resolve site flags file = .error fault) ↔ obstacles site flags file ≠ [])
    ∧ (∀ fault, resolve site flags file = .error fault
      ↔ (obstacles site flags file).head? = some fault)
    ∧ ∀ rule, resolve site flags file = .error (.defective (.broken rule)) →
      rule = .serviceNamed ∨ rule = .intervalPositive
  := by
  have hreports := resolve_reports site flags file
  constructor
  · apply hreports.exists_error_iff
  · constructor
    · apply hreports.eq_error_iff
    · intro rule hrule
      have hhead := (hreports.eq_error_iff _).mp hrule
      apply rule_of_mem_obstacles (List.mem_of_head? hhead)

/-- A declaration that no flag selects stands in the way first, before the path and the names that
flags give. -/
example :
  obstacles strictSite { services := ["effis", "effis"], conf := some "$NOWHERE" }
      { services := [{ name := "oprish", run := some [] }] }
    = [.defective (.emptyCommand "oprish"), .unexpandable "$NOWHERE" "NOWHERE",
      .defective (.duplicateService "effis")]
  := by decide +kernel

end Settings

end ServiceHarness
