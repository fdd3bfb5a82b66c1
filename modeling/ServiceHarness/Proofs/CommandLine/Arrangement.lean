import ServiceHarness.CommandLine.Outcome
import ServiceHarness.Proofs.CommandLine.Acceptance

/-!
# Arguments in any order

A `Choice` is what may be chosen on the command line.  Its entries are read as the choice in any order
in which the services keep theirs, and of the environment two variables alone count, each for a value
that is not chosen (`parse_arranged`).
-/

namespace ServiceHarness.CommandLine

variable {es : List Entry}

/-! ### Choices -/

/-- What is chosen on the command line.  The path of the harness file is the one text that may not be
empty. -/
structure Choice where
  /-- Whether the output of commands is shown. -/
  logs : Bool := false
  /-- Whether the workspace tests are left out. -/
  noWorkspace : Bool := false
  /-- The URL of the instance. -/
  url : Option String := none
  /-- The names of the services. -/
  services : List String := []
  /-- The path of the configuration that the services are given. -/
  conf : Option String := none
  /-- The path of the harness file. -/
  config : Option { path : String // path ≠ "" } := none
  /-- The directory in which every command runs. -/
  directory : Option String := none
  /-- The milliseconds between two probes. -/
  interval : Option UInt64 := none

/-- The keys. -/
def Key.all : List Key :=
  [.url, .service, .conf, .config, .directory, .interval]

namespace Choice

/-- The values that are chosen for a key. -/
def values (c : Choice) : Key → List String
  | .url => c.url.toList
  | .service => c.services
  | .conf => c.conf.toList
  | .config => (c.config.map Subtype.val).toList
  | .directory => c.directory.toList
  | .interval => (c.interval.map fun millis => toString millis.toNat).toList

/-- The entries of a choice for keys. -/
def keyEntries (c : Choice) : List Entry :=
  Key.all.flatMap fun k => (c.values k).map (.key k)

/-- The entries of a choice, in one order. -/
def entries (c : Choice) : List Entry :=
  (if c.logs then [.logs] else []) ++ (if c.noWorkspace then [.noWorkspace] else [])
    ++ c.keyEntries

/-- The entries of a choice in any order in which the services keep theirs. -/
structure Arranges (c : Choice) (es : List Entry) : Prop where
  /-- They are the same entries. -/
  perm : es.Perm c.entries
  /-- The services are in their order. -/
  services : valuesOf .service es = c.services

/-- What is given by a choice. -/
def chosen (c : Choice) : Arguments where
  flags :=
    { logs := c.logs
      noWorkspace := c.noWorkspace
      url := c.url
      services := c.services
      conf := c.conf
      directory := c.directory
      interval := c.interval.map UInt64.toNat }
  config := c.config.map Subtype.val

variable {c : Choice}

theorem valuesOf_map_key (k k' : Key) (values : List String) :
  valuesOf k (values.map (.key k')) = if k' = k then values else []
  := by
  rw [valuesOf, List.filterMap_map]
  by_cases hk : k' = k
  · rw [if_pos hk]
    simp [Entry.value?, hk]
  · rw [if_neg hk]
    simp [Entry.value?, hk]

theorem valuesOf_entries (c : Choice) (k : Key) :
  valuesOf k c.entries = c.values k
  := by
  have hlogs : valuesOf k (if c.logs then [.logs] else []) = [] := by
    cases c.logs <;> rfl
  have hworkspace : valuesOf k (if c.noWorkspace then [.noWorkspace] else []) = [] := by
    cases c.noWorkspace <;> rfl
  rw [entries, valuesOf_append, valuesOf_append, hlogs, hworkspace]
  simp only [keyEntries, Key.all, List.flatMap_cons, List.flatMap_nil, valuesOf_append,
    valuesOf_map_key]
  cases k <;> simp [valuesOf]

/-- Every value that is chosen is one of its key. -/
theorem readable (c : Choice) :
  ∀ e ∈ c.entries, e.Readable
  := by
  intro e he
  cases e with
  | logs => trivial
  | noWorkspace => trivial
  | key k value =>
    have hvalue : value ∈ c.values k := by
      rw [← valuesOf_entries]
      exact List.mem_filterMap.mpr ⟨_, he, if_pos rfl⟩
    cases k with
    | config =>
      rw [values, Option.mem_toList, Option.map_eq_some_iff] at hvalue
      obtain ⟨path, -, rfl⟩ := hvalue
      exact path.property
    | interval =>
      rw [values, Option.mem_toList, Option.map_eq_some_iff] at hvalue
      obtain ⟨millis, -, rfl⟩ := hvalue
      rw [Entry.Readable, Text.word?_toString]
      rfl
    | _ => trivial

theorem given_map_service (values : List String) :
  given (values.map (.key .service)) = []
  := by
  rw [given, List.filterMap_eq_nil_iff]
  simp [Entry.once?]

theorem given_map_sublist {k : Key} (hk : k ≠ .service) (value : Option String) :
  (given (value.toList.map (.key k))).Sublist [.key k]
  := by
  cases value with
  | none => exact List.nil_sublist _
  | some value =>
    rw [given, Option.toList_some, List.map_singleton,
      List.filterMap_cons_some (Entry.once?_key hk value)]
    exact List.Sublist.refl _

/-- A choice gives each key at most once, the services apart. -/
theorem given_values_sublist (c : Choice) {k : Key} (hk : k ≠ .service) :
  (given ((c.values k).map (.key k))).Sublist [.key k]
  := by
  cases k with
  | service => exact absurd rfl hk
  | _ => exact given_map_sublist hk _

theorem given_flatMap_sublist (c : Choice) (keys : List Key) :
  (given (keys.flatMap fun k => (c.values k).map (.key k))).Sublist
    ((keys.filter (· ≠ .service)).map .key)
  := by
  induction keys with
  | nil => exact List.nil_sublist _
  | cons k keys ih =>
    rw [List.flatMap_cons, given_append]
    by_cases hk : k = .service
    · subst hk
      rw [values, given_map_service, List.nil_append, List.filter_cons_of_neg (by decide)]
      exact ih
    · rw [List.filter_cons_of_pos (by simpa using hk), List.map_cons]
      exact (c.given_values_sublist hk).append ih

/-- No choice gives twice what may be given only once. -/
theorem nodup_given (c : Choice) :
  (given c.entries).Nodup
  := by
  have hlogs : (given (if c.logs then [.logs] else [])).Sublist [.switch .logs] := by
    cases c.logs <;> decide
  have hworkspace :
      (given (if c.noWorkspace then [.noWorkspace] else [])).Sublist [.switch .noWorkspace] := by
    cases c.noWorkspace <;> decide
  rw [entries, given_append, given_append]
  exact ((hlogs.append hworkspace).append (c.given_flatMap_sublist Key.all)).nodup (by decide)

/-- The switches that a choice gives are those that are chosen. -/
theorem switch_mem_given_iff (c : Choice) (w : Switch) :
  .switch w ∈ given c.entries ↔ w = .logs ∧ c.logs ∨ w = .noWorkspace ∧ c.noWorkspace
  := by
  have hkeys : .switch w ∉ given c.keyEntries := by
    intro hmem
    simpa using (c.given_flatMap_sublist Key.all).subset hmem
  rw [entries, given_append, given_append, List.mem_append, List.mem_append, or_iff_left hkeys]
  cases w <;> cases c.logs <;> cases c.noWorkspace <;> decide

theorem Arranges.accepted (h : c.Arranges es) :
  Accepted es
  := by
  constructor
  · intro e he
    exact c.readable e (h.perm.mem_iff.mp he)
  · exact (h.perm.filterMap Entry.once?).nodup_iff.mpr c.nodup_given

theorem eq_toList_of_perm {values : List String} {value : Option String}
    (h : values.Perm value.toList) :
  values = value.toList
  := by
  cases value with
  | none => exact h.eq_nil
  | some value => exact List.perm_singleton.mp h

/-- In whatever order the entries are, each key is given the values that are chosen for it. -/
theorem Arranges.valuesOf_eq (h : c.Arranges es) (k : Key) :
  valuesOf k es = c.values k
  := by
  have hperm : (valuesOf k es).Perm (c.values k) := by
    rw [← valuesOf_entries]
    exact h.perm.filterMap _
  cases k with
  | service => exact h.services
  | _ => exact eq_toList_of_perm hperm

/-- The switches that entries give are those that are chosen. -/
theorem Arranges.switch_mem_given_iff (h : c.Arranges es) (w : Switch) :
  .switch w ∈ given es ↔ w = .logs ∧ c.logs ∨ w = .noWorkspace ∧ c.noWorkspace
  := by
  rw [← c.switch_mem_given_iff]
  exact (h.perm.filterMap Entry.once?).mem_iff

/-- In whatever order the entries are, they give together what is chosen. -/
theorem Arranges.gathered_eq (h : c.Arranges es) :
  gathered es = c.chosen
  := by
  have hlogs : decide (.switch .logs ∈ given es) = c.logs := by
    simp [h.switch_mem_given_iff]
  have hworkspace : decide (.switch .noWorkspace ∈ given es) = c.noWorkspace := by
    simp [h.switch_mem_given_iff]
  have hinterval : (c.interval.map fun millis => toString millis.toNat).bind Text.word?
      = c.interval.map UInt64.toNat := by
    cases c.interval with
    | none => rfl
    | some millis => exact Text.word?_toString millis
  simp only [gathered, chosen, h.valuesOf_eq, hlogs, hworkspace, values, hinterval,
    Option.head?_toList]

end Choice

/-! ### The environment -/

/-- Of the environment only the two variables are looked at. -/
theorem Arguments.withEnvironment_congr (a : Arguments) {env env' : Environment}
    (hurl : env'.get? urlVariable = env.get? urlVariable)
    (hconfig : env'.get? configVariable = env.get? configVariable) :
  a.withEnvironment env' = a.withEnvironment env
  := by
  rw [withEnvironment, withEnvironment, hurl, hconfig]

/-- A variable stands in for an option that is not given, and only for such a one. -/
theorem Arguments.withEnvironment_eq (a : Arguments) {env : Environment}
    (hconfig : env.get? configVariable ≠ some "") :
  a.withEnvironment env =
    .ok { flags := { a.flags with url := a.flags.url <|> env.get? urlVariable }
          config := a.config <|> env.get? configVariable }
  := by
  rw [withEnvironment]
  cases hgiven : a.config with
  | some path => simp [pure, Except.pure]
  | none =>
    cases hpath : env.get? configVariable with
    | none => simp [pure, Except.pure]
    | some path =>
      have hfilled : path ≠ "" := by
        rintro rfl
        exact hconfig hpath
      simp [assign, once, hfilled, pure, Except.pure, bind, Except.bind]

/-! ### Parsing -/

theorem parse_eq (env : Environment) (args : List String) :
  parse env args = (read ⟨gathered [], none⟩ args).bind fun a => a.withEnvironment env
  := rfl

/-- How arguments are parsed.  The entries of a choice, in any order in which the services keep theirs,
are parsed as the choice, and the two variables of the environment stand in for what is not chosen of
the two that they belong to; no other variable has any influence.  Where an argument is one that the
program does not know, a value is none of its key, or something is given again that may be given only
once, the arguments are refused, and the exit status of the program is two. -/
theorem parse_arranged {σ : Type} (site : Site) :
  (site.environment.get? "TESTBED_CONFIG" ≠ some "" →
      ∀ (c : Choice) (es : List Entry), c.Arranges es →
        parse site.environment (es.map Entry.text) =
          .ok { flags := { c.chosen.flags with
                  url := c.url <|> site.environment.get? "INSTANCE_URL" }
                config := c.chosen.config <|> site.environment.get? "TESTBED_CONFIG" })
    ∧ (∀ env : Environment,
      env.get? "INSTANCE_URL" = site.environment.get? "INSTANCE_URL" →
      env.get? "TESTBED_CONFIG" = site.environment.get? "TESTBED_CONFIG" →
      ∀ args, parse env args = parse site.environment args)
    ∧ (∀ words : List Word,
      (∃ word ∈ words, ¬ word.Known) ∨ ¬ Accepted (words.filterMap Word.entry?) →
      (∃ refusal, parse site.environment (words.map Word.text) = .error (.refused refusal))
        ∧ ∀ (P : Plan → Except String (Ports σ)) (controls : Controls) (runId : String) (ports : σ),
          (execute P controls runId site (words.map Word.text) ports).exitStatus = 2)
  := by
  refine ⟨?_, ?_, ?_⟩
  · intro hconfig c es h
    rw [parse_eq, read_entries es [] h.accepted, List.nil_append, h.gathered_eq]
    exact c.chosen.withEnvironment_eq hconfig
  · intro env hurl hconfig args
    rw [parse_eq, parse_eq]
    congr 1
    funext a
    exact a.withEnvironment_congr hurl hconfig
  · intro words hoffends
    obtain ⟨refusal, hrefused⟩ := read_refused words [] accepted_nil hoffends
    have hparse : parse site.environment (words.map Word.text) = .error (.refused refusal) := by
      rw [parse_eq, hrefused]
      rfl
    refine ⟨⟨refusal, hparse⟩, ?_⟩
    intro P controls runId ports
    rw [execute, hparse]
    rfl

/-- A site with a variable for the URL and one that means nothing. -/
def variedSite : Site where
  environment := KeyMap.ofList [("INSTANCE_URL", "http://a=b"), ("HOME", "/home/tester")]
  files := {}
  directory := "."
  userHome := none

/-- A choice of values that look like something else, among them the largest interval. -/
def variedChoice : Choice where
  logs := true
  services := ["effis", "--conf=a", "effis"]
  conf := some "--logs"
  config := some ⟨"a=b", by decide⟩
  interval := some 18446744073709551615

/-- Its entries in an order that goes back and forth. -/
def variedEntries : List Entry :=
  [.key .service "effis", .key .interval "18446744073709551615", .key .service "--conf=a", .logs,
    .key .config "a=b", .key .service "effis", .key .conf "--logs"]

/-- The values of a choice are parsed as they are; another variable makes no difference; and a flag
that is given again is refused, as is one that is unknown. -/
theorem parse_arranged_varied :
  variedChoice.Arranges variedEntries
    ∧ parse variedSite.environment (variedEntries.map Entry.text) =
      .ok { flags :=
              { logs := true, url := some "http://a=b", services := ["effis", "--conf=a", "effis"]
                conf := some "--logs", interval := some 18446744073709551615 }
            config := some "a=b" }
    ∧ parse (KeyMap.ofList [("INSTANCE_URL", "http://a=b")]) ["--workdir", "a"]
      = parse variedSite.environment ["--workdir", "a"]
    ∧ (∃ refusal, parse variedSite.environment ["--conf=a", "--logs", "--conf=b"]
      = .error (.refused refusal))
    ∧ (execute (fun _ => .error "no client" : Plan → Except String (Ports Unit)) { dropAt := 0 }
      "run-1" variedSite ["--logs", "--verbose=1", "--no-workspace"] ()).exitStatus = 2
  := by
  have harranges : variedChoice.Arranges variedEntries := ⟨by decide +kernel, by decide⟩
  have hunknown : ∀ o : Opt, o.name ≠ "verbose" := by
    rintro (k | w)
    · cases k <;> decide
    · cases w <;> decide
  have hstray : Stray ("--" ++ "verbose" ++ "=" ++ "1") :=
    .flagWithValue "1" (by decide) hunknown
  obtain ⟨hread, hsame, hrefused⟩ := parse_arranged (σ := Unit) variedSite
  refine ⟨harranges, ?_, ?_, ?_, ?_⟩
  · rw [hread (by decide +kernel) variedChoice variedEntries harranges]
    decide +kernel
  · exact hsame _ (by decide +kernel) (by decide +kernel) _
  · exact (hrefused [.entry (.key .conf "a"), .entry .logs, .entry (.key .conf "b")]
      (.inr fun h => absurd h.nodup (by decide))).1
  · exact (hrefused [.entry .logs, .stray _ hstray, .entry .noWorkspace]
      (.inl ⟨_, List.mem_cons_of_mem _ List.mem_cons_self, id⟩)).2 _ _ _ _

end ServiceHarness.CommandLine
