import ServiceHarness.CommandLine.Basic

/-!
# Arguments one by one

An `Entry` is an argument that gives one thing, written with its value in one piece, and a `Stray` is
one that the program does not know.  With nothing pending an entry adds what it gives (`read_entry`),
and a stray one is refused wherever it stands (`read_stray`).
-/

namespace ServiceHarness.CommandLine

/-- An argument that gives one thing. -/
inductive Entry where
  /-- The output of commands is shown. -/
  | logs
  /-- The workspace tests are left out. -/
  | noWorkspace
  /-- A key has a value. -/
  | key (key : Key) (value : String)
  deriving DecidableEq, Repr

/-- How an entry is written. -/
def Entry.text : Entry → String
  | .logs => "--logs"
  | .noWorkspace => "--no-workspace"
  | .key .url value => "--instance-url=" ++ value
  | .key .service value => "--service=" ++ value
  | .key .conf value => "--conf=" ++ value
  | .key .config value => "--config=" ++ value
  | .key .directory value => "--workdir=" ++ value
  | .key .interval value => "--probe-interval-ms=" ++ value

/-- An argument that the program does not know. -/
inductive Stray : String → Prop where
  /-- A flag that is no option of the program. -/
  | flag {name : String} (hname : name ≠ "") (hplain : '=' ∉ name.toList)
    (hunknown : ∀ o : Opt, o.name ≠ name) : Stray ("--" ++ name)
  /-- Such a flag with a value. -/
  | flagWithValue {name : String} (value : String) (hplain : '=' ∉ name.toList)
    (hunknown : ∀ o : Opt, o.name ≠ name) : Stray ("--" ++ name ++ "=" ++ value)
  /-- Short flags, the first of which is none of the program. -/
  | shortFlags {c : Char} (others : String) (hdash : c ≠ '-') (hhelp : c ≠ 'h')
    (hversion : c ≠ 'V') : Stray ("-" ++ String.singleton c ++ others)
  /-- A positional argument. -/
  | positional {text : String} (hdash : text.toList.head? ≠ some '-') : Stray text
  /-- The single dash, which is one, too. -/
  | dash : Stray "-"

/-! ### Tokens -/

namespace Token

theorem ofArgument_dashes {cs : List Char} (hcs : cs ≠ []) :
  ofArgument (String.ofList ('-' :: '-' :: cs)) = ofLong cs
  := by
  obtain ⟨c, rest, rfl⟩ := List.exists_cons_of_ne_nil hcs
  rw [ofArgument, String.toList_ofList]
  rfl

theorem forall_ne_of_plain {cs : List Char} (hplain : '=' ∉ cs) :
  ∀ c ∈ cs, (c != '=') = true
  := by
  intro c hc
  rw [bne_iff_ne]
  rintro rfl
  exact hplain hc

/-- A long option without a value. -/
theorem ofArgument_flag {name : String} (hname : name ≠ "") (hplain : '=' ∉ name.toList) :
  ofArgument ("--" ++ name) = .long name none
  := by
  have htext : "--" ++ name = String.ofList ('-' :: '-' :: name.toList) := by
    rw [← String.toList_inj]
    simp
  have hdrop : name.toList.dropWhile (· != '=') = [] := by
    rw [Text.dropWhile_eq_nil_iff_all, List.all_eq_true]
    exact forall_ne_of_plain hplain
  rw [htext, ofArgument_dashes (by simpa using hname), ofLong, hdrop]
  simp

/-- A long option with a value, which may hold anything. -/
theorem ofArgument_flagWithValue {name : String} (value : String) (hplain : '=' ∉ name.toList) :
  ofArgument ("--" ++ name ++ "=" ++ value) = .long name (some value)
  := by
  have htext : "--" ++ name ++ "=" ++ value
      = String.ofList ('-' :: '-' :: (name.toList ++ '=' :: value.toList)) := by
    rw [← String.toList_inj]
    simp
  have hall := forall_ne_of_plain hplain
  rw [htext, ofArgument_dashes (by simp), ofLong, List.dropWhile_append_of_pos hall,
    List.takeWhile_append_of_pos hall]
  simp

theorem ofArgument_shortFlags {c : Char} (others : String) (hdash : c ≠ '-') :
  ofArgument ("-" ++ String.singleton c ++ others) = .cluster c
  := by
  have htext : ("-" ++ String.singleton c ++ others).toList = '-' :: c :: others.toList := by
    simp
  unfold ofArgument
  rw [htext]
  split
  case h_1 heq => exact absurd (List.cons_eq_cons.mp (List.cons_eq_cons.mp heq).2).1 hdash
  case h_2 heq => exact absurd (List.cons_eq_cons.mp (List.cons_eq_cons.mp heq).2).1 hdash
  case h_3 heq => rw [(List.cons_eq_cons.mp (List.cons_eq_cons.mp heq).2).1]
  case h_4 hother => exact absurd rfl (hother c others.toList)

theorem ofArgument_positional {text : String} (hdash : text.toList.head? ≠ some '-') :
  ofArgument text = .word text
  := by
  unfold ofArgument
  split
  case h_1 heq => exact absurd (congrArg List.head? heq) hdash
  case h_2 heq => exact absurd (congrArg List.head? heq) hdash
  case h_3 heq => exact absurd (congrArg List.head? heq) hdash
  case h_4 => rfl

end Token

/-- The option of an entry, with its value. -/
def Entry.token : Entry → Token
  | .logs => .long "logs" none
  | .noWorkspace => .long "no-workspace" none
  | .key k value => .long k.name (some value)

theorem Key.plain_name (k : Key) :
  '=' ∉ k.name.toList
  := by
  cases k <;> decide

/-- An entry is read as its option, whatever its value looks like. -/
theorem Entry.ofArgument_text (e : Entry) :
  Token.ofArgument e.text = e.token
  := by
  cases e with
  | logs => decide
  | noWorkspace => decide
  | key k value =>
    rw [token, ← Token.ofArgument_flagWithValue value k.plain_name]
    cases k <;> rfl

/-! ### One argument -/

/-- The arguments with what an entry gives. -/
def Arguments.receive (a : Arguments) : Entry → Except Halt Arguments
  | .logs => a.turnOn .logs
  | .noWorkspace => a.turnOn .noWorkspace
  | .key k value => a.assign k value

theorem Opt.ofName?_key (k : Key) :
  Opt.ofName? k.name = some (.key k)
  := by
  cases k <;> decide

theorem State.step_token (a : Arguments) (e : Entry) :
  State.step ⟨a, none⟩ e.token = (a.receive e).map fun a => ⟨a, none⟩
  := by
  cases e with
  | logs => rfl
  | noWorkspace => rfl
  | key k value =>
    unfold step
    simp only [Entry.token, Opt.ofName?_key]
    rfl

theorem read_of_token {s : State} {argument : String} {t : Token}
    (htoken : Token.ofArgument argument = t) (ht : t ≠ .terminator) (rest : List String) :
  read s (argument :: rest) = (s.step t).bind fun s => read s rest
  := by
  rw [read, htoken]
  cases t with
  | terminator => exact absurd rfl ht
  | long name value => rfl
  | cluster first => rfl
  | word text => rfl

/-- An entry is read by what it gives. -/
theorem read_entry (a : Arguments) (e : Entry) (rest : List String) :
  read ⟨a, none⟩ (e.text :: rest) = (a.receive e).bind fun a => read ⟨a, none⟩ rest
  := by
  have htoken : e.token ≠ .terminator := by
    cases e <;> exact Token.noConfusion
  rw [read_of_token e.ofArgument_text htoken, State.step_token]
  cases a.receive e <;> rfl

theorem Opt.ofName?_unknown {name : String} (hunknown : ∀ o : Opt, o.name ≠ name) :
  Opt.ofName? name = none
  := by
  rw [ofName?, List.find?_eq_none]
  intro o _
  simpa using hunknown o

theorem Switch.ofShort?_unknown {c : Char} (hhelp : c ≠ 'h') (hversion : c ≠ 'V') :
  Switch.ofShort? c = none
  := by
  unfold ofShort?
  split
  · exact absurd rfl hhelp
  · exact absurd rfl hversion
  · rfl

theorem Stray.step {argument : String} (h : Stray argument) (a : Arguments) :
  ∃ t, Token.ofArgument argument = t ∧ t ≠ .terminator
    ∧ State.step ⟨a, none⟩ t = .error (.refused .unknown)
  := by
  cases h with
  | flag hname hplain hunknown =>
    refine ⟨_, Token.ofArgument_flag hname hplain, Token.noConfusion, ?_⟩
    simp only [State.step, Opt.ofName?_unknown hunknown]
  | flagWithValue value hplain hunknown =>
    refine ⟨_, Token.ofArgument_flagWithValue value hplain, Token.noConfusion, ?_⟩
    simp only [State.step, Opt.ofName?_unknown hunknown]
  | shortFlags others hdash hhelp hversion =>
    refine ⟨_, Token.ofArgument_shortFlags others hdash, Token.noConfusion, ?_⟩
    simp only [State.step, Switch.ofShort?_unknown hhelp hversion]
  | positional hdash =>
    exact ⟨_, Token.ofArgument_positional hdash, Token.noConfusion, rfl⟩
  | dash => exact ⟨.word "-", by decide, Token.noConfusion, rfl⟩

/-- A stray argument is refused. -/
theorem read_stray {argument : String} (h : Stray argument) (a : Arguments) (rest : List String) :
  read ⟨a, none⟩ (argument :: rest) = .error (.refused .unknown)
  := by
  obtain ⟨t, htoken, ht, hstep⟩ := h.step a
  rw [read_of_token htoken ht, hstep]
  rfl

end ServiceHarness.CommandLine
