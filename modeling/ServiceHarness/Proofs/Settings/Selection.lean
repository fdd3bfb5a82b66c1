import ServiceHarness.Proofs.Plan.Defects
import ServiceHarness.Proofs.Settings.Precedence

/-!
# The services that settings select

The services of a plan are described by declarations: a service `Describes` its declaration if it
has the declared commands, and those of the package of its name where none are declared.  Flags
select declarations by name, in their own order, and a name that is not declared stands for a
package; without flags all declarations are taken, in theirs (`Selects`).  Hence flags that name all
declared services put them in another order and change nothing else (`resolve_selects`).
-/

namespace ServiceHarness.Settings

/-! ### Declared services -/

/-- The service has the name that is declared, and each of its commands is the one that is declared,
or that of the package of its name if none is. -/
structure Describes (d : Declaration) (s : Service) : Prop where
  /-- The name is the declared one. -/
  name : s.name = d.name
  /-- So is the command that builds it, if one is declared. -/
  build : CommandOf ⟨"cargo", ["build", "-p", d.name]⟩ d.build s.build
  /-- So is the command that runs it, if one is declared. -/
  run : CommandOf ⟨"cargo", ["run", "-p", d.name]⟩ d.run s.run

/-- What a manifest declares of a name: the first declaration of that name, or one without commands
if there is none. -/
def Manifest.declarationOf (file : Manifest) (name : String) : Declaration :=
  (file.services.find? fun d => d.name == name).getD { name := name }

theorem describes_of_service {d : Declaration} {s : Service} (h : d.service = .ok s) :
  Describes d s
  := by
  obtain ⟨build, hbuild, h⟩ := bind_eq_ok h
  obtain ⟨run, hrun, h⟩ := bind_eq_ok h
  rw [Service.named] at h
  split at h
  case isTrue => cases h
  case isFalse =>
    cases h
    constructor
    case name => rfl
    case build => apply commandOf_declared hbuild
    case run => apply commandOf_declared hrun

/-- A package is what a declaration without commands describes. -/
theorem describes_cargo (name : String) :
  Describes { name := name } (Service.cargo name)
  := ⟨rfl, rfl, rfl⟩

/-- The first declaration of a name describes the first service of that name. -/
theorem find?_of_services {declarations : List Declaration} {declared : List Service}
    (h : List.Forall₂ (fun d s => d.service = .ok s) declarations declared) (name : String) :
  Option.Rel (fun d s => d.service = .ok s) (declarations.find? fun d => d.name == name)
    (declared.find? fun s => s.name == name)
  := by
  induction h with
  | nil => exact .none
  | @cons d s _ _ hfirst _ ih =>
    have hname : s.name = d.name := (of_declaration hfirst).2.1
    rw [List.find?_cons, List.find?_cons, hname]
    cases d.name == name with
    | true => exact .some hfirst
    | false => exact ih

/-- The service that a name selects is described by what the manifest declares of that name. -/
theorem describes_selected {file : Manifest} {declared : List Service}
    (h : file.services.mapM Declaration.service = .ok declared) (name : String) :
  Describes (file.declarationOf name) (selected declared name)
  := by
  have hrel := find?_of_services (forall₂_of_mapM h) name
  rw [Manifest.declarationOf, selected]
  generalize (file.services.find? fun d => d.name == name) = declaration at hrel ⊢
  generalize (declared.find? fun s => s.name == name) = service at hrel ⊢
  cases hrel with
  | some hservice => apply describes_of_service hservice
  | none => apply describes_cargo

/-! ### Selecting -/

/-- The services are those that the flags select from the manifest. -/
structure Selects (flags : Flags) (file : Manifest) (services : List Service) : Prop where
  /-- Flags select services by name, in the order in which they give the names. -/
  flagged : flags.services ≠ [] →
    List.Forall₂ (fun name s => s.name = name ∧ Describes (file.declarationOf name) s)
      flags.services services
  /-- Without flags the manifest gives the services, in the order in which it declares them. -/
  declared : flags.services = [] → file.services ≠ [] →
    List.Forall₂ Describes file.services services
  /-- Without either, the default services are taken. -/
  default : flags.services = [] → file.services = [] →
    services = ["oprish", "pandemonium", "effis"].map Service.cargo

/-- The services that flags and declared services give are selected. -/
theorem selects_effectiveServices (flags : Flags) {file : Manifest} {declared : List Service}
    (h : file.services.mapM Declaration.service = .ok declared) :
  Selects flags file (effectiveServices flags declared)
  := by
  have hpairs := forall₂_of_mapM h
  constructor
  case flagged =>
    intro hflags
    rw [effectiveServices, if_neg (by simpa using hflags), List.forall₂_map_right_iff,
      List.forall₂_same]
    intro name _
    exact ⟨name_selected declared name, describes_selected h name⟩
  case declared =>
    intro hflags hfile
    have hdeclared : declared ≠ [] := by
      rintro rfl
      exact hfile (List.forall₂_nil_right_iff.mp hpairs)
    rw [effectiveServices, if_pos (by simpa using hflags), if_neg (by simpa using hdeclared)]
    apply hpairs.imp
    intro d s hservice
    apply describes_of_service hservice
  case default =>
    intro hflags hfile
    rw [hfile, List.forall₂_nil_left_iff] at hpairs
    rw [effectiveServices, if_pos (by simpa using hflags), hpairs]
    rfl

/-! ### Another order -/

/-- Where names are distinct, the name of a declared service selects this service. -/
theorem selected_name {declared : List Service} (hnodup : (declared.map Service.name).Nodup)
    {s : Service} (hs : s ∈ declared) :
  selected declared s.name = s
  := by
  rw [selected]
  induction declared with
  | nil => cases hs
  | cons s' rest ih =>
    rw [List.map_cons, List.nodup_cons] at hnodup
    obtain rfl | hmem := List.mem_cons.mp hs
    · rw [List.find?_cons_of_pos (by simp)]
      rfl
    · have hne : s'.name ≠ s.name := by
        intro heq
        apply hnodup.1
        rw [heq]
        apply List.mem_map_of_mem hmem
      rw [List.find?_cons_of_neg (by simpa using hne)]
      apply ih hnodup.2 hmem

/-- The names of some of the declared services select these. -/
theorem map_selected_names {declared services : List Service}
    (hnodup : (declared.map Service.name).Nodup) (hsubset : services ⊆ declared) :
  (services.map Service.name).map (selected declared) = services
  := by
  rw [List.map_map]
  have hself : ∀ s ∈ services, (selected declared ∘ Service.name) s = id s := by
    intro s hs
    apply selected_name hnodup (hsubset hs)
  exact (List.map_congr_left hself).trans (List.map_id services)

/-- Where names are distinct, the services can be put in any order of their names. -/
theorem exists_perm_of_names {services : List Service} {names : List String}
    (hnodup : (services.map Service.name).Nodup)
    (hperm : names.Perm (services.map Service.name)) :
  ∃ services' : List Service, services'.Perm services ∧ services'.map Service.name = names
  := by
  use names.map (selected services)
  constructor
  · have hselected := hperm.map (selected services)
    rw [map_selected_names hnodup (List.Subset.refl services)] at hselected
    exact hselected
  · rw [List.map_map]
    apply List.map_id''
    exact name_selected services

/-- Names that flags give change the services of a plan, and nothing else. -/
theorem assemble_services (flags : Flags) (file : Manifest) (declared : List Service)
    (confPath directory : String) (workspaceTest integrationTest : Command) (names : List String) :
  { assemble flags file declared confPath directory workspaceTest integrationTest with
      services := effectiveServices { flags with services := names } declared }
    = assemble { flags with services := names } file declared confPath directory workspaceTest
      integrationTest
  := rfl

/-- Flags that name the declared services in another order put them in that order, and change
nothing else. -/
theorem resolve_reordered {site : Site} {flags : Flags} {file : Manifest} {p : Plan}
    (h : resolve site flags file = .ok p) (hflags : flags.services = [])
    (hfile : file.services ≠ []) {services : List Service} (hperm : services.Perm p.services) :
  resolve site { flags with services := services.map Service.name } file
    = .ok { p with services := services }
  := by
  obtain ⟨declared, confPath, directory, workspaceTest, integrationTest, rfl, hvalid, hdeclared,
    hconf, hworkspace, hintegration, hdirectory⟩ := resolve_eq_ok_iff.mp h
  have hnonempty : declared ≠ [] := by
    rintro rfl
    exact hfile (List.forall₂_nil_right_iff.mp (forall₂_of_mapM hdeclared))
  have hall : effectiveServices flags declared = declared := by
    rw [effectiveServices, if_pos (by simpa using hflags), if_neg (by simpa using hnonempty)]
  have hnodup := (Plan.of_validate hvalid).2.1
  change (List.map Service.name (effectiveServices flags declared)).Nodup at hnodup
  rw [hall] at hnodup
  have hdeclaredPerm : services.Perm declared := by
    rw [← hall]
    exact hperm
  have hservices : services ≠ [] := by
    rintro rfl
    exact hnonempty hdeclaredPerm.nil_eq.symm
  have hselected : effectiveServices { flags with services := services.map Service.name } declared
      = services := by
    rw [effectiveServices, if_neg (by simpa using hservices)]
    exact map_selected_names hnodup hdeclaredPerm.subset
  have hassemble := assemble_services flags file declared confPath directory workspaceTest
    integrationTest (services.map Service.name)
  rw [hselected] at hassemble
  rw [resolve_eq_ok_iff]
  use declared, confPath, directory, workspaceTest, integrationTest
  constructor
  · exact hassemble
  · exact ⟨Plan.validate_of_perm hvalid hperm, hdeclared, hconf, hworkspace, hintegration,
      hdirectory⟩

/-- The services of a plan are those that the settings select.  Flags that name the declared
services in any order give the same services in that order, and the plan is otherwise the same; it
is the same plan if the order is that of the manifest. -/
theorem resolve_selects (site : Site) (flags : Flags) (file : Manifest) (p : Plan)
    (h : resolve site flags file = .ok p) :
  Selects flags file p.services
    ∧ (flags.services = [] → file.services ≠ [] →
      (∀ names : List String, names.Perm (file.services.map Declaration.name) →
        ∃ services : List Service,
          services.Perm p.services ∧ services.map Service.name = names
          ∧ resolve site { flags with services := names } file
            = .ok { p with services := services })
      ∧ resolve site { flags with services := file.services.map Declaration.name } file = .ok p)
  := by
  constructor
  · obtain ⟨declared, _, _, _, _, rfl, -, hdeclared, -⟩ := resolve_eq_ok_iff.mp h
    apply selects_effectiveServices flags hdeclared
  · intro hflags hfile
    have hnames : p.services.map Service.name = file.services.map Declaration.name := by
      rw [(resolve_follows h).services, if_neg (not_not.mpr hflags), if_pos hfile]
    rw [← hnames]
    constructor
    · intro names hperm
      obtain ⟨_, _, _, _, _, -, hvalid, -⟩ := resolve_parts h
      have hnodup := (Plan.of_validate hvalid).2.1
      obtain ⟨services, hservices, rfl⟩ := exists_perm_of_names hnodup hperm
      use services, hservices, rfl
      apply resolve_reordered h hflags hfile hservices
    · apply resolve_reordered h hflags hfile (.refl p.services)

/-- A manifest with one service that is run and one that is built by a command of its own. -/
def mixedFile : Manifest :=
  { services := [{ name := "oprish", run := some ["./oprish", "-v"] },
      { name := "effis", build := some ["make", "effis"] }] }

/-- The plan that this manifest makes. -/
def mixedPlan : Plan :=
  { services := [⟨"oprish", (Service.cargo "oprish").build, ⟨"./oprish", ["-v"]⟩⟩,
      ⟨"effis", ⟨"make", ["effis"]⟩, (Service.cargo "effis").run⟩] }

/-- Flags that name the two services the other way round turn them round, with the commands of
both. -/
theorem resolve_selects_reversed :
  resolve ⟨.ok, .ok "."⟩ {} mixedFile = .ok mixedPlan
    ∧ Selects {} mixedFile mixedPlan.services
    ∧ ∃ services : List Service,
      services.Perm mixedPlan.services ∧ services.map Service.name = ["effis", "oprish"]
      ∧ resolve ⟨.ok, .ok "."⟩ { services := ["effis", "oprish"] } mixedFile
        = .ok { mixedPlan with services := services }
  := by
  have hresolve : resolve ⟨.ok, .ok "."⟩ {} mixedFile = .ok mixedPlan := by
    decide +kernel
  obtain ⟨hselects, hreorder⟩ := resolve_selects ⟨.ok, .ok "."⟩ {} mixedFile mixedPlan hresolve
  obtain ⟨hnames, -⟩ := hreorder rfl (by decide)
  exact ⟨hresolve, hselects, hnames ["effis", "oprish"] (by decide)⟩

end ServiceHarness.Settings
