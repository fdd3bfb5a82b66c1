import Mathlib.Data.List.Forall2
import ServiceHarness.Proofs.Plan.Defects
import ServiceHarness.Settings.Basic

/-!
# Plans that settings make

Whatever the operator asks for, a plan that `resolve` makes of it is `WellFormed`: its services are
declared, with distinct names and commands that name a program, its URL and its variable have
no blanks at their ends, and its probes are some time apart (`resolve_wellFormed`).  The names of
its services are not blank either, unless a flag gives a blank one: the names of a manifest are
looked at, and those of flags are not (`blank_of_flag`).
-/

namespace ServiceHarness

/-! ### Trimmed text -/

namespace Text

/-- The text has something in it, and no blank at either of its ends. -/
structure IsTrimmed (s : String) : Prop where
  /-- It does not hold blanks alone. -/
  filled : isBlankText s = false
  /-- It does not begin with a blank. -/
  head : ∀ c ∈ s.toList.head?, isBlank c = false
  /-- It does not end with a blank. -/
  last : ∀ c ∈ s.toList.getLast?, isBlank c = false

/-- A text is trimmed if neither of its ends is a blank. -/
theorem isTrimmed_of_ends {s : String} {a b : Char} (hfilled : isBlankText s = false)
    (hhead : s.toList.head? = some a) (ha : isBlank a = false)
    (hlast : s.toList.getLast? = some b) (hb : isBlank b = false) :
  IsTrimmed s
  := by
  constructor
  case filled => exact hfilled
  case head =>
    rw [hhead]
    rintro _ ⟨⟩
    exact ha
  case last =>
    rw [hlast]
    rintro _ ⟨⟩
    exact hb

theorem head_dropWhile {α : Type} (p : α → Bool) (l : List α) :
  ∀ a ∈ (l.dropWhile p).head?, p a = false
  := by
  intro a ha
  obtain ⟨rest, hrest⟩ := List.head?_eq_some_iff.mp ha
  apply head_dropWhile_false p l hrest

/-- The characters that trimming leaves do not begin with a blank: what is dropped at the end
leaves the first one, if it leaves any. -/
theorem head_trimList (cs : List Char) :
  ∀ c ∈ (trimList cs).head?, isBlank c = false
  := by
  intro c hc
  apply head_dropWhile isBlank cs
  rw [trimList, List.head?_reverse] at hc
  rw [← List.getLast?_reverse]
  obtain ⟨dropped, hdropped⟩ := List.dropWhile_suffix isBlank (l := (cs.dropWhile isBlank).reverse)
  rw [← hdropped, List.getLast?_append, hc]
  rfl

theorem last_trimList (cs : List Char) :
  ∀ c ∈ (trimList cs).getLast?, isBlank c = false
  := by
  intro c hc
  rw [trimList, List.getLast?_reverse] at hc
  apply head_dropWhile isBlank _ c hc

/-- What trimming leaves is trimmed, if it leaves anything. -/
theorem isTrimmed_trim {s : String} (h : trim s ≠ "") :
  IsTrimmed (trim s)
  := by
  have hlist : (trim s).toList = trimList s.toList := String.toList_ofList
  constructor
  case filled =>
    cases hcs : trimList s.toList with
    | nil =>
      exfalso
      apply h
      rw [trim, hcs]
    | cons c cs =>
      have hc : isBlank c = false := by
        apply head_trimList s.toList
        rw [hcs]
        rfl
      rw [isBlankText, hlist, hcs, List.all_cons, hc, Bool.false_and]
  case head =>
    rw [hlist]
    apply head_trimList
  case last =>
    rw [hlist]
    apply last_trimList

end Text

/-! ### Well-formed plans -/

/-- The plan has everything that a run needs. -/
structure Plan.WellFormed (p : Plan) : Prop where
  /-- There is a service. -/
  declared : p.services ≠ []
  /-- No two services have the same name. -/
  distinct : (p.services.map Service.name).Nodup
  /-- Every service is built by a program. -/
  built : ∀ s ∈ p.services, Text.isBlankText s.build.program = false
  /-- Every service is run by a program. -/
  run : ∀ s ∈ p.services, Text.isBlankText s.run.program = false
  /-- The workspace tests are run by a program. -/
  workspaceTest : Text.isBlankText p.workspaceTest.program = false
  /-- The integration tests are run by a program. -/
  integrationTest : Text.isBlankText p.integrationTest.program = false
  /-- The instance has a URL. -/
  url : Text.IsTrimmed p.url
  /-- The variable that carries the configuration path has a name. -/
  confVariable : Text.IsTrimmed p.confVariable
  /-- Probes are some time apart. -/
  interval : 0 < p.interval

/-- What looking at a plan finds of it. -/
theorem Plan.of_validate {p : Plan} (h : p.validate = .ok ()) :
  p.services ≠ [] ∧ (p.services.map Service.name).Nodup ∧ 0 < p.interval
  := by
  obtain ⟨hservices, hnodup, -, -, hinterval⟩ := p.defects_eq_nil_iff.mp (p.validate_eq_ok_iff.mp h)
  exact ⟨hservices, hnodup, Nat.pos_of_ne_zero hinterval⟩

namespace Settings

/-! ### What settings make -/

/-- A computation that has an outcome has gone through its first part. -/
theorem bind_eq_ok {ε α β : Type} {x : Except ε α} {f : α → Except ε β} {b : β}
    (h : x >>= f = .ok b) :
  ∃ a, x = .ok a ∧ f a = .ok b
  := by
  cases x with
  | ok a => exact ⟨a, rfl, h⟩
  | error e => cases h

theorem mapError_eq_ok {ε ε' α : Type} {x : Except ε α} {f : ε → ε'} {a : α}
    (h : x.mapError f = .ok a) :
  x = .ok a
  := by
  cases x with
  | ok a' =>
    cases h
    rfl
  | error e => cases h

/-- A list of outcomes comes from one computation each. -/
theorem forall₂_of_mapM {ε α β : Type} {f : α → Except ε β} :
    ∀ {l : List α} {l' : List β}, l.mapM f = .ok l' → List.Forall₂ (fun a b => f a = .ok b) l l'
  | [], l', h => by
    cases h
    apply List.Forall₂.nil
  | a :: rest, l', h => by
    rw [List.mapM_cons] at h
    obtain ⟨b, hb, h⟩ := bind_eq_ok h
    obtain ⟨rest', hrest, h⟩ := bind_eq_ok h
    cases h
    apply List.Forall₂.cons
    · apply hb
    · apply forall₂_of_mapM hrest

/-- Each of a list of outcomes comes from one of the computations. -/
theorem exists_of_mem_mapM {ε α β : Type} {f : α → Except ε β} {l : List α} {l' : List β}
    (h : l.mapM f = .ok l') {b : β} (hb : b ∈ l') :
  ∃ a ∈ l, f a = .ok b
  := by
  have hpairs := forall₂_of_mapM h
  clear h
  induction hpairs with
  | nil => cases hb
  | cons hfirst _ ih =>
    obtain rfl | hb := List.mem_cons.mp hb
    · exact ⟨_, List.mem_cons_self .., hfirst⟩
    · obtain ⟨a, ha, hfa⟩ := ih hb
      exact ⟨a, List.mem_cons_of_mem _ ha, hfa⟩

/-- The path that is given, expanded, and what there is by default if none is given. -/
def pathOr (site : Site) (default : Except Fault String) : Option String → Except Fault String
  | some path => site.path path
  | none => default

/-- The current directory. -/
def Site.current (site : Site) : Except Fault String :=
  site.directory.mapError .adrift

/-- The plan of settings whose services, paths and commands are made. -/
def assemble (flags : Flags) (file : Manifest) (declared : List Service)
    (confPath directory : String) (workspaceTest integrationTest : Command) : Plan where
  services := effectiveServices flags declared
  output := Output.ofLogs flags.logs
  workspaceTests := !flags.noWorkspace
  url := (filled flags.url <|> filled file.url).getD ({} : Plan).url
  confPath := confPath
  confVariable := (filled file.confVariable).getD ({} : Plan).confVariable
  directory := directory
  interval := (flags.interval <|> file.interval).getD ({} : Plan).interval
  workspaceTest := workspaceTest
  integrationTest := integrationTest

/-- Resolving makes the parts of a plan one after the other, puts them together and looks at the
whole. -/
theorem resolve_eq (site : Site) (flags : Flags) (file : Manifest) :
  resolve site flags file = do
    let declared ← (file.services.mapM Declaration.service).mapError .defective
    let confPath ← pathOr site (.ok ({} : Plan).confPath) (flags.conf <|> file.confPath)
    let workspaceTest ← commandOr "workspace tests" ({} : Plan).workspaceTest file.workspaceTest
    let integrationTest ←
      commandOr "integration tests" ({} : Plan).integrationTest file.integrationTest
    let directory ← pathOr site site.current flags.directory
    let plan := assemble flags file declared confPath directory workspaceTest integrationTest
    plan.validate.mapError .defective
    return plan
  := by
  rw [resolve]
  cases flags.conf <|> file.confPath with
  | some path =>
    cases flags.directory with
    | some path => rfl
    | none => rfl
  | none =>
    cases flags.directory with
    | some path => rfl
    | none => rfl

/-- Settings make a plan exactly if they make its parts and what these are put together to has no
defect. -/
theorem resolve_eq_ok_iff {site : Site} {flags : Flags} {file : Manifest} {p : Plan} :
  resolve site flags file = .ok p
    ↔ ∃ declared confPath directory workspaceTest integrationTest,
      p = assemble flags file declared confPath directory workspaceTest integrationTest
      ∧ p.validate = .ok ()
      ∧ file.services.mapM Declaration.service = .ok declared
      ∧ pathOr site (.ok ({} : Plan).confPath) (flags.conf <|> file.confPath) = .ok confPath
      ∧ commandOr "workspace tests" ({} : Plan).workspaceTest file.workspaceTest = .ok workspaceTest
      ∧ commandOr "integration tests" ({} : Plan).integrationTest file.integrationTest
        = .ok integrationTest
      ∧ pathOr site site.current flags.directory = .ok directory
  := by
  rw [resolve_eq]
  constructor
  · intro h
    obtain ⟨declared, hdeclared, h⟩ := bind_eq_ok h
    obtain ⟨confPath, hconf, h⟩ := bind_eq_ok h
    obtain ⟨workspaceTest, hworkspace, h⟩ := bind_eq_ok h
    obtain ⟨integrationTest, hintegration, h⟩ := bind_eq_ok h
    obtain ⟨directory, hdirectory, h⟩ := bind_eq_ok h
    obtain ⟨_, hvalid, h⟩ := bind_eq_ok h
    cases h
    use declared, confPath, directory, workspaceTest, integrationTest, rfl
    exact ⟨mapError_eq_ok hvalid, mapError_eq_ok hdeclared, hconf, hworkspace, hintegration,
      hdirectory⟩
  · rintro ⟨declared, confPath, directory, workspaceTest, integrationTest, rfl, hvalid, hdeclared,
      hconf, hworkspace, hintegration, hdirectory⟩
    rw [hdeclared, hconf, hworkspace, hintegration, hdirectory]
    change ((assemble flags file declared confPath directory workspaceTest
      integrationTest).validate.mapError Fault.defective >>= fun _ => pure _) = _
    rw [hvalid]
    rfl

/-- Settings that make a plan make its parts, and the plan has no defect. -/
theorem resolve_parts {site : Site} {flags : Flags} {file : Manifest} {p : Plan}
    (h : resolve site flags file = .ok p) :
  ∃ declared confPath directory workspaceTest integrationTest,
    p = assemble flags file declared confPath directory workspaceTest integrationTest
    ∧ p.validate = .ok ()
    ∧ file.services.mapM Declaration.service = .ok declared
    ∧ commandOr "workspace tests" ({} : Plan).workspaceTest file.workspaceTest = .ok workspaceTest
    ∧ commandOr "integration tests" ({} : Plan).integrationTest file.integrationTest
      = .ok integrationTest
  := by
  obtain ⟨declared, confPath, directory, workspaceTest, integrationTest, hp, hvalid, hdeclared, -,
    hworkspace, hintegration, -⟩ := resolve_eq_ok_iff.mp h
  use declared, confPath, directory, workspaceTest, integrationTest, hp, hvalid

/-! ### The parts of a plan -/

/-- A command that is given names a program. -/
theorem program_of_ofArgv {owner : String} {argv : List String} {c : Command}
    (h : Command.ofArgv owner argv = .ok c) :
  Text.isBlankText c.program = false
  := ((Command.ofArgv_eq_ok_iff owner argv c).mp h).2

/-- A command names a program if the default does. -/
theorem program_of_commandOr {owner : String} {default c : Command} {argv : Option (List String)}
    (hdefault : Text.isBlankText default.program = false)
    (h : Declaration.commandOr owner default argv = .ok c) :
  Text.isBlankText c.program = false
  := by
  cases argv with
  | none =>
    cases h
    apply hdefault
  | some argv => apply program_of_ofArgv h

/-- The commands of a service name programs. -/
def Runnable (s : Service) : Prop :=
  Text.isBlankText s.build.program = false ∧ Text.isBlankText s.run.program = false

theorem runnable_cargo (name : String) :
  Runnable (Service.cargo name)
  := by
  have hcargo : Text.isBlankText "cargo" = false := by decide
  exact ⟨hcargo, hcargo⟩

/-- A declared service can be built and run, and has the name that is declared, which is not
blank. -/
theorem of_declaration {d : Declaration} {s : Service} (h : d.service = .ok s) :
  Runnable s ∧ s.name = d.name ∧ Text.isBlankText s.name = false
  := by
  obtain ⟨build, hbuild, h⟩ := bind_eq_ok h
  obtain ⟨run, hrun, h⟩ := bind_eq_ok h
  rw [Service.named] at h
  split at h
  case isTrue => cases h
  case isFalse hname =>
    cases h
    constructor
    · constructor
      · apply program_of_commandOr (runnable_cargo d.name).1 hbuild
      · apply program_of_commandOr (runnable_cargo d.name).2 hrun
    · exact ⟨rfl, by simpa using hname⟩

/-- A text with the blanks at its ends taken off is trimmed. -/
theorem isTrimmed_of_filled {value : Option String} {s : String} (h : filled value = some s) :
  Text.IsTrimmed s
  := by
  obtain ⟨hs, hempty⟩ := Option.filter_eq_some_iff.mp h
  obtain ⟨given, -, rfl⟩ := Option.map_eq_some_iff.mp hs
  apply Text.isTrimmed_trim
  simpa using hempty

theorem isTrimmed_getD {value : Option String} {default : String}
    (hvalue : ∀ s, value = some s → Text.IsTrimmed s) (hdefault : Text.IsTrimmed default) :
  Text.IsTrimmed (value.getD default)
  := by
  cases value with
  | none => apply hdefault
  | some s => apply hvalue s rfl

theorem isTrimmed_default :
  Text.IsTrimmed ({} : Plan).url ∧ Text.IsTrimmed ({} : Plan).confVariable
  := by
  constructor
  · apply Text.isTrimmed_of_ends (a := 'h') (b := '9')
    all_goals decide
  · apply Text.isTrimmed_of_ends (a := 'E') (b := 'F')
    all_goals decide

/-- The services of a plan are declared by the manifest, are packages of the names that flags
give, or are the default ones, which are packages too. -/
theorem mem_effectiveServices {flags : Flags} {declared : List Service} {s : Service}
    (h : s ∈ effectiveServices flags declared) :
  s ∈ declared ∨ ∃ name, s = Service.cargo name
  := by
  rw [effectiveServices] at h
  split at h
  case isTrue =>
    split at h
    case isTrue =>
      right
      obtain ⟨name, -, rfl⟩ := List.mem_map.mp h
      exact ⟨name, rfl⟩
    case isFalse =>
      left
      apply h
  case isFalse =>
    obtain ⟨name, -, rfl⟩ := List.mem_map.mp h
    cases hfind : declared.find? fun s => s.name == name with
    | some s =>
      left
      apply List.mem_of_find?_eq_some hfind
    | none =>
      right
      exact ⟨name, rfl⟩

/-- The service that a name selects: the first declared service of that name, or the package of that
name if there is none. -/
def selected (declared : List Service) (name : String) : Service :=
  (declared.find? fun s => s.name == name).getD (Service.cargo name)

/-- The service that a name selects has this name. -/
theorem name_selected (declared : List Service) (name : String) :
  (selected declared name).name = name
  := by
  rw [selected]
  cases hfind : declared.find? fun s => s.name == name with
  | some s => simpa using List.find?_some hfind
  | none => rfl

/-- If flags give names, these are the names of the services. -/
theorem names_effectiveServices {flags : Flags} (declared : List Service)
    (h : flags.services ≠ []) :
  (effectiveServices flags declared).map Service.name = flags.services
  := by
  rw [effectiveServices, if_neg (by simpa using h), List.map_map]
  apply List.map_id''
  exact name_selected declared

/-- Without names that flags give, the names of the services are not blank if those that are
declared are not. -/
theorem names_of_no_flags {flags : Flags} {declared : List Service} (h : flags.services = [])
    (hdeclared : ∀ s ∈ declared, Text.isBlankText s.name = false) :
  ∀ s ∈ effectiveServices flags declared, Text.isBlankText s.name = false
  := by
  rw [effectiveServices, if_pos (by simpa using h)]
  split
  · decide
  · apply hdeclared

/-! ### The plan as a whole -/

/-- A plan that settings make is well formed, and the names of its services are not blank exactly
if no flag gives a blank name. -/
theorem resolve_wellFormed (site : Site) (flags : Flags) (file : Manifest) (p : Plan)
    (h : resolve site flags file = .ok p) :
  p.WellFormed
    ∧ ((∀ s ∈ p.services, Text.isBlankText s.name = false)
      ↔ ∀ name ∈ flags.services, Text.isBlankText name = false)
  := by
  obtain ⟨declared, confPath, directory, workspaceTest, integrationTest, rfl, hvalid, hdeclared,
    hworkspace, hintegration⟩ := resolve_parts h
  obtain ⟨hservices, hnodup, hinterval⟩ := Plan.of_validate hvalid
  have hmember : ∀ s ∈ declared, Runnable s ∧ Text.isBlankText s.name = false := by
    intro s hs
    obtain ⟨d, -, hd⟩ := exists_of_mem_mapM hdeclared hs
    obtain ⟨hrunnable, -, hname⟩ := of_declaration hd
    exact ⟨hrunnable, hname⟩
  have hrunnable : ∀ s ∈ effectiveServices flags declared, Runnable s := by
    intro s hs
    obtain hs | ⟨name, rfl⟩ := mem_effectiveServices hs
    · apply (hmember s hs).1
    · apply runnable_cargo
  constructor
  · constructor
    case declared => apply hservices
    case distinct => apply hnodup
    case built => exact fun s hs => (hrunnable s hs).1
    case run => exact fun s hs => (hrunnable s hs).2
    case workspaceTest => apply program_of_commandOr (by decide) (mapError_eq_ok hworkspace)
    case integrationTest => apply program_of_commandOr (by decide) (mapError_eq_ok hintegration)
    case url =>
      apply isTrimmed_getD _ isTrimmed_default.1
      intro s hs
      cases hflag : filled flags.url with
      | some url =>
        rw [hflag] at hs
        cases hs
        apply isTrimmed_of_filled hflag
      | none =>
        rw [hflag] at hs
        apply isTrimmed_of_filled hs
    case confVariable => apply isTrimmed_getD (fun s hs => isTrimmed_of_filled hs) isTrimmed_default.2
    case interval => apply hinterval
  · by_cases hflags : flags.services = []
    · rw [hflags]
      constructor
      · intro _ name hname
        cases hname
      · intro _
        apply names_of_no_flags hflags fun s hs => (hmember s hs).2
    · have hnames := names_effectiveServices declared hflags
      rw [← hnames]
      simp [assemble]

/-- A service that a flag names and the manifest declares, with a URL between blanks. -/
theorem resolve_wellFormed_declared :
  ∃ p, resolve ⟨.ok, .ok "."⟩ { services := ["effis"] }
      { services := [{ name := "effis", build := some ["make", "effis"] }]
        url := some " http://127.0.0.1:7160\n" }
    = .ok p
    ∧ p.url = "http://127.0.0.1:7160"
    ∧ p.WellFormed ∧ ∀ s ∈ p.services, Text.isBlankText s.name = false
  := by
  have hresolve : resolve ⟨.ok, .ok "."⟩ { services := ["effis"] }
      { services := [{ name := "effis", build := some ["make", "effis"] }]
        url := some " http://127.0.0.1:7160\n" }
      = .ok { services := [⟨"effis", ⟨"make", ["effis"]⟩, (Service.cargo "effis").run⟩]
              url := "http://127.0.0.1:7160" } := by
    decide +kernel
  obtain ⟨hwell, hnames⟩ := resolve_wellFormed _ _ _ _ hresolve
  have hfilled := hnames.mpr (by decide)
  exact ⟨_, hresolve, rfl, hwell, hfilled⟩

/-- A flag that gives a blank makes a plan with a service whose name is blank. -/
theorem blank_of_flag :
  ∃ p, resolve ⟨.ok, .ok "."⟩ { services := [" "] } {} = .ok p
    ∧ ∃ s ∈ p.services, Text.isBlankText s.name = true
  := by
  use { services := [Service.cargo " "] }
  constructor
  · decide +kernel
  · decide

end Settings

end ServiceHarness
