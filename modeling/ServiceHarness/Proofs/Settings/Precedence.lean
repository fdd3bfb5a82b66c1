import ServiceHarness.Proofs.Settings.WellFormed

/-!
# Flags before the manifest, and the manifest before the defaults

Which value comes into a plan.  A plan that settings make `Follows` them: each of its values is the
one that flags give, or else the one that the manifest declares, or else the default, where a URL
or the name of a variable counts as given only if it is not blank.  What a flag hides in the
manifest has no say in the matter at all: it cannot even stand in the way of a plan
(`resolve_precedence`).
-/

namespace ServiceHarness.Settings

/-! ### The first of some values -/

/-- The first of the values that is given. -/
def firstGiven {α : Type} (values : List (Option α)) : Option α :=
  (values.filterMap id).head?

/-- The first of the texts that is given and not blank, without the blanks at its ends. -/
def firstFilled (values : List (Option String)) : Option String :=
  ((values.filterMap id).find? fun s => !Text.isBlankText s).map Text.trim

/-- A text is filled if it is not blank. -/
theorem filled_eq_firstFilled (value : Option String) :
  filled value = firstFilled [value]
  := by
  cases value with
  | none => rfl
  | some s =>
    have hempty : (Text.trim s).isEmpty = Text.isBlankText s := by
      rw [Bool.eq_iff_iff, ← Text.trim_eq_empty_iff]
      simp
    rw [filled, firstFilled, Option.map_some, Option.filter_some, hempty]
    cases hblank : Text.isBlankText s with
    | true => simp [hblank]
    | false => simp [hblank]

/-- The first text is taken before those that follow. -/
theorem firstFilled_cons (value : Option String) (rest : List (Option String)) :
  firstFilled (value :: rest) = (firstFilled [value] <|> firstFilled rest)
  := by
  cases value with
  | none => rfl
  | some s =>
    cases hblank : Text.isBlankText s with
    | true => simp [firstFilled, hblank]
    | false => simp [firstFilled, hblank]

theorem filled_orElse_filled (first second : Option String) :
  (filled first <|> filled second) = firstFilled [first, second]
  := by
  rw [firstFilled_cons, filled_eq_firstFilled, filled_eq_firstFilled]

theorem orElse_eq_firstGiven {α : Type} (first second : Option α) :
  (first <|> second) = firstGiven [first, second]
  := by
  cases first with
  | some a => rfl
  | none =>
    cases second with
    | some b => rfl
    | none => rfl

/-- What comes after a value matters only if that is missing. -/
theorem orElse_congr {α : Type} {first second second' : Option α}
    (h : first = none → second = second') :
  (first <|> second) = (first <|> second')
  := by
  cases first with
  | some a => rfl
  | none => rw [h rfl]

/-! ### What flags hide -/

/-- The two manifests differ at most in values that the flags hide. -/
structure AgreeUnder (flags : Flags) (file file' : Manifest) : Prop where
  /-- They declare the same services. -/
  services : file.services = file'.services
  /-- They declare the same variable. -/
  confVariable : file.confVariable = file'.confVariable
  /-- They declare the same command for the workspace tests. -/
  workspaceTest : file.workspaceTest = file'.workspaceTest
  /-- They declare the same command for the integration tests. -/
  integrationTest : file.integrationTest = file'.integrationTest
  /-- They declare the same URL, unless a flag gives one that is not blank. -/
  url : firstFilled [flags.url] = none → file.url = file'.url
  /-- They declare the same path of the configuration, unless a flag gives one. -/
  confPath : flags.conf = none → file.confPath = file'.confPath
  /-- They declare the same time between probes, unless a flag gives one. -/
  interval : flags.interval = none → file.interval = file'.interval

/-- The parts of a plan are put together without a look at what is hidden. -/
theorem assemble_congr {flags : Flags} {file file' : Manifest} (h : AgreeUnder flags file file') :
  assemble flags file = assemble flags file'
  := by
  have hurl : (filled flags.url <|> filled file.url) = (filled flags.url <|> filled file'.url) := by
    apply orElse_congr
    intro hflag
    rw [h.url (by rw [← filled_eq_firstFilled, hflag])]
  have hinterval : (flags.interval <|> file.interval) = (flags.interval <|> file'.interval) :=
    orElse_congr h.interval
  funext declared confPath directory workspaceTest integrationTest
  rw [assemble, assemble, hurl, hinterval, h.confVariable]

/-- Settings make the same plan, or are refused for the same fault, whatever the flags hide. -/
theorem resolve_congr (site : Site) {flags : Flags} {file file' : Manifest}
    (h : AgreeUnder flags file file') :
  resolve site flags file = resolve site flags file'
  := by
  have hconf : (flags.conf <|> file.confPath) = (flags.conf <|> file'.confPath) :=
    orElse_congr h.confPath
  rw [resolve_eq, resolve_eq, assemble_congr h, hconf, h.services, h.workspaceTest,
    h.integrationTest]

/-! ### What a plan follows -/

/-- The path is what becomes of the one that is given, and what there is by default if none is
given. -/
def PathOf {ε : Type} (site : Site) (default : Except ε String) (given : Option String)
    (path : String) : Prop :=
  match given with
  | some text => site.expand text = .ok path
  | none => default = .ok path

/-- The command has the words that are given, and is the default if none are given. -/
def CommandOf (default : Command) (given : Option (List String)) (command : Command) : Prop :=
  match given with
  | some argv => argv = command.program :: command.args
  | none => command = default

/-- Each value of the plan is the one that flags give, or else the one that the manifest declares,
or else the default. -/
structure Follows (site : Site) (flags : Flags) (file : Manifest) (p : Plan) : Prop where
  /-- The first URL that is not blank is taken, without blanks at its ends. -/
  url : p.url = (firstFilled [flags.url, file.url]).getD "http://0.0.0.0:7159"
  /-- The first path of the configuration is taken, blank or not, and expanded. -/
  confPath : PathOf site (.ok "tests/Eludris.toml" : Except Fault String)
    (firstGiven [flags.conf, file.confPath]) p.confPath
  /-- The first time between probes is taken. -/
  interval : p.interval = (firstGiven [flags.interval, file.interval]).getD 1000
  /-- The variable can be declared, without blanks at its ends. -/
  confVariable : p.confVariable = (firstFilled [file.confVariable]).getD "ELUDRIS_CONF"
  /-- The command of the workspace tests can be declared. -/
  workspaceTest : CommandOf (Command.cargo ["test"]) file.workspaceTest p.workspaceTest
  /-- The command of the integration tests can be declared. -/
  integrationTest :
    CommandOf (Command.cargo ["run", "-p", "integration-tests"]) file.integrationTest
      p.integrationTest
  /-- The directory can be given by a flag, and is the current one otherwise. -/
  directory : PathOf site site.directory flags.directory p.directory
  /-- A flag alone decides what becomes of the output. -/
  output : p.output = if flags.logs then .streamed else .suppressed
  /-- A flag alone leaves the workspace tests out. -/
  workspaceTests : p.workspaceTests = !flags.noWorkspace
  /-- The first names of services are taken. -/
  services : p.services.map Service.name =
    if flags.services ≠ [] then flags.services
    else if file.services ≠ [] then file.services.map Declaration.name
    else ["oprish", "pandemonium", "effis"]

theorem pathOf_pathOr {site : Site} {default : Except Fault String} {given : Option String}
    {path : String} (h : pathOr site default given = .ok path) :
  PathOf site default given path
  := by
  cases given with
  | some text => apply mapError_eq_ok h
  | none => exact h

theorem commandOf_declared {owner : String} {default command : Command}
    {given : Option (List String)}
    (h : Declaration.commandOr owner default given = .ok command) :
  CommandOf default given command
  := by
  cases given with
  | some argv => apply ((Command.ofArgv_eq_ok_iff owner argv command).mp h).1
  | none =>
    cases h
    rfl

theorem commandOf_commandOr {owner : String} {default command : Command}
    {given : Option (List String)} (h : commandOr owner default given = .ok command) :
  CommandOf default given command
  := commandOf_declared (mapError_eq_ok h)

/-- Declared services have the names that are declared, in order. -/
theorem names_of_declarations {declarations : List Declaration} {declared : List Service}
    (h : declarations.mapM Declaration.service = .ok declared) :
  declared.map Service.name = declarations.map Declaration.name
  := by
  have hpairs := forall₂_of_mapM h
  clear h
  induction hpairs with
  | nil => rfl
  | cons hfirst _ ih =>
    rw [List.map_cons, List.map_cons, (of_declaration hfirst).2.1, ih]

/-- The names of the services are those that flags give, or else those that are declared, or else
the default ones. -/
theorem names_of_settings {flags : Flags} {file : Manifest} {declared : List Service}
    (h : file.services.mapM Declaration.service = .ok declared) :
  (effectiveServices flags declared).map Service.name =
    if flags.services ≠ [] then flags.services
    else if file.services ≠ [] then file.services.map Declaration.name
    else ["oprish", "pandemonium", "effis"]
  := by
  have hnames := names_of_declarations h
  by_cases hflags : flags.services = []
  · rw [effectiveServices, if_pos (by simpa using hflags), if_neg (not_not.mpr hflags)]
    by_cases hfile : file.services = []
    · rw [hfile] at hnames
      obtain rfl : declared = [] := by simpa using hnames
      rw [if_neg (not_not.mpr hfile)]
      rfl
    · have hdeclared : declared ≠ [] := by
        rintro rfl
        apply hfile
        simpa using hnames.symm
      rw [if_neg (by simpa using hdeclared), if_pos hfile, hnames]
  · rw [if_pos hflags]
    apply names_effectiveServices declared hflags

/-- A plan follows the settings that make it. -/
theorem resolve_follows {site : Site} {flags : Flags} {file : Manifest} {p : Plan}
    (h : resolve site flags file = .ok p) :
  Follows site flags file p
  := by
  obtain ⟨declared, confPath, directory, workspaceTest, integrationTest, rfl, -, hdeclared, hconf,
    hworkspace, hintegration, hdirectory⟩ := resolve_eq_ok_iff.mp h
  rw [orElse_eq_firstGiven] at hconf
  constructor
  case url =>
    change (filled flags.url <|> filled file.url).getD _ = _
    rw [filled_orElse_filled]
  case confPath => apply pathOf_pathOr hconf
  case interval =>
    change (flags.interval <|> file.interval).getD _ = _
    rw [orElse_eq_firstGiven]
  case confVariable =>
    change (filled file.confVariable).getD _ = _
    rw [filled_eq_firstFilled]
  case workspaceTest => apply commandOf_commandOr hworkspace
  case integrationTest => apply commandOf_commandOr hintegration
  case directory =>
    replace hdirectory := pathOf_pathOr hdirectory
    cases hgiven : flags.directory with
    | some text =>
      rw [hgiven] at hdirectory
      exact hdirectory
    | none =>
      rw [hgiven] at hdirectory
      exact mapError_eq_ok hdirectory
  case output => rfl
  case workspaceTests => rfl
  case services => apply names_of_settings hdeclared

/-- Flags come before the manifest and the manifest before the defaults, value by value: what the
flags hide in a manifest changes neither the plan nor the fault that stands in its way, and a plan
follows the settings that make it. -/
theorem resolve_precedence (site : Site) (flags : Flags) (file : Manifest) :
  (∀ flags' file', flags = flags' → AgreeUnder flags file file' →
    resolve site flags file = resolve site flags' file')
    ∧ ∀ p, resolve site flags file = .ok p → Follows site flags file p
  := by
  constructor
  · rintro _ file' rfl h
    apply resolve_congr site h
  · intro p h
    apply resolve_follows h

/-- A site of which one path cannot be expanded. -/
def strictSite : Site :=
  ⟨fun path => if path = "$NOWHERE" then .error "NOWHERE" else .ok path, .ok "/work"⟩

/-- A URL between blanks, a path of nothing and a time. -/
def hidingFlags : Flags :=
  { url := some " http://127.0.0.1:7160 ", conf := some "", interval := some 250 }

/-- A manifest that declares a variable, and no plan can be made of what else it declares. -/
def hiddenFile : Manifest :=
  { url := some "http://127.0.0.1:7161", confPath := some "$NOWHERE", interval := some 0
    confVariable := some "\tSERVICE_CONF" }

/-- The manifest that declares the variable alone makes the same plan, which has the URL and the
variable without blanks. -/
theorem resolve_precedence_hidden :
  resolve strictSite hidingFlags hiddenFile
      = resolve strictSite hidingFlags { confVariable := hiddenFile.confVariable }
    ∧ ∃ p, resolve strictSite hidingFlags hiddenFile = .ok p
      ∧ p.url = "http://127.0.0.1:7160" ∧ p.confPath = "" ∧ p.interval = 250
      ∧ p.confVariable = "SERVICE_CONF"
      ∧ Follows strictSite hidingFlags hiddenFile p
  := by
  have hagree : AgreeUnder hidingFlags hiddenFile
      { confVariable := hiddenFile.confVariable } := by
    constructor
    all_goals decide +kernel
  have hresolve : resolve strictSite hidingFlags hiddenFile
      = .ok { url := "http://127.0.0.1:7160", confPath := "", interval := 250
              confVariable := "SERVICE_CONF", directory := "/work" } := by
    decide +kernel
  have hfollows := (resolve_precedence strictSite hidingFlags hiddenFile).2 _ hresolve
  constructor
  · apply (resolve_precedence strictSite hidingFlags hiddenFile).1 _ _ rfl hagree
  · exact ⟨_, hresolve, rfl, rfl, rfl, rfl, hfollows⟩

end ServiceHarness.Settings
