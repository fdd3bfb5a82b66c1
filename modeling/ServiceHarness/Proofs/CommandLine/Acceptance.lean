import Mathlib.Data.List.Nodup
import ServiceHarness.Proofs.CommandLine.Entry

/-!
# Entries that are accepted

What has been read of some entries is `gathered` from them: for each key the values that it has been
given.  Entries are `Accepted` as long as each can be read and nothing is given again that may be
given only once.  Accepted entries are read as what they give together (`read_entries`), and the first
argument with which they are not, or that is stray, is refused (`read_refused`).
-/

namespace ServiceHarness.CommandLine

/-! ### What is given -/

/-- The option of an entry that may be given only once. -/
def Entry.once? : Entry → Option Opt
  | .logs => some (.switch .logs)
  | .noWorkspace => some (.switch .noWorkspace)
  | .key .service _ => none
  | .key k _ => some (.key k)

/-- The value of an entry for a key. -/
def Entry.value? (k : Key) : Entry → Option String
  | .key k' value => if k' = k then some value else none
  | _ => none

/-- The value of an entry is one of its key. -/
def Entry.Readable : Entry → Prop
  | .key .config value => value ≠ ""
  | .key .interval value => (Text.word? value).isSome
  | _ => True

/-- The options that are given by entries and may be given only once. -/
def given (es : List Entry) : List Opt :=
  es.filterMap Entry.once?

/-- The values that entries give to a key, in order. -/
def valuesOf (k : Key) (es : List Entry) : List String :=
  es.filterMap (Entry.value? k)

/-- What entries give together. -/
def gathered (es : List Entry) : Arguments where
  flags :=
    { logs := decide (.switch .logs ∈ given es)
      noWorkspace := decide (.switch .noWorkspace ∈ given es)
      url := (valuesOf .url es).head?
      services := valuesOf .service es
      conf := (valuesOf .conf es).head?
      directory := (valuesOf .directory es).head?
      interval := (valuesOf .interval es).head?.bind Text.word? }
  config := (valuesOf .config es).head?

theorem valuesOf_append (k : Key) (es fs : List Entry) :
  valuesOf k (es ++ fs) = valuesOf k es ++ valuesOf k fs
  := List.filterMap_append

theorem given_append (es fs : List Entry) :
  given (es ++ fs) = given es ++ given fs
  := List.filterMap_append

theorem Entry.once?_key {k : Key} (hk : k ≠ .service) (value : String) :
  (key k value).once? = some (.key k)
  := by
  cases k with
  | service => exact absurd rfl hk
  | _ => rfl

theorem Entry.once?_eq_key_iff {k : Key} (hk : k ≠ .service) (e : Entry) :
  e.once? = some (.key k) ↔ e.value? k ≠ none
  := by
  cases e with
  | logs => simp [once?, value?]
  | noWorkspace => simp [once?, value?]
  | key k' value =>
    rw [value?]
    by_cases hk' : k' = k
    · subst hk'
      cases k' <;> simp_all [once?]
    · rw [if_neg hk']
      cases k' <;> simp_all [once?]

/-- A key has no value exactly if it has not been given. -/
theorem valuesOf_eq_nil_iff {k : Key} (hk : k ≠ .service) (es : List Entry) :
  valuesOf k es = [] ↔ .key k ∉ given es
  := by
  simp only [valuesOf, given, List.filterMap_eq_nil_iff, List.mem_filterMap,
    Entry.once?_eq_key_iff hk, ne_eq, not_exists, not_and, not_not]

/-! ### One more entry -/

variable {es : List Entry} {e : Entry}

theorem given_concat (es : List Entry) (e : Entry) :
  given (es ++ [e]) = given es ++ e.once?.toList
  := by
  rw [given_append, given, given, List.filterMap_cons, List.filterMap_nil]
  cases e.once? <;> rfl

theorem valuesOf_concat (k : Key) (es : List Entry) (e : Entry) :
  valuesOf k (es ++ [e]) = valuesOf k es ++ (e.value? k).toList
  := by
  rw [valuesOf_append, valuesOf, valuesOf, List.filterMap_cons, List.filterMap_nil]
  cases e.value? k <;> rfl

/-- An entry that can be read and has not been given already is gathered with the others. -/
theorem receive_gathered (hread : e.Readable) (hnew : ∀ o, e.once? = some o → o ∉ given es) :
  (gathered es).receive e = .ok (gathered (es ++ [e]))
  := by
  cases e with
  | logs =>
    have hnot := hnew _ rfl
    simp [Arguments.receive, Arguments.turnOn, gathered, given_concat, valuesOf_concat, hnot,
      Entry.once?, Entry.value?]
  | noWorkspace =>
    have hnot := hnew _ rfl
    simp [Arguments.receive, Arguments.turnOn, gathered, given_concat, valuesOf_concat, hnot,
      Entry.once?, Entry.value?]
  | key k value =>
    have hnil (hk : k ≠ .service) : valuesOf k es = [] :=
      (valuesOf_eq_nil_iff hk es).mpr (hnew _ (Entry.once?_key hk value))
    cases k with
    | service =>
      simp [Arguments.receive, Arguments.assign, gathered, given_concat, valuesOf_concat,
        Entry.once?, Entry.value?, pure, Except.pure]
    | interval =>
      obtain ⟨millis, hmillis⟩ := Option.isSome_iff_exists.mp hread
      simp [Arguments.receive, Arguments.assign, gathered, given_concat, valuesOf_concat, hnil,
        Entry.once?, Entry.value?, hmillis, pure, Except.pure]
    | config =>
      have hvalue : value ≠ "" := hread
      simp [Arguments.receive, Arguments.assign, gathered, given_concat, valuesOf_concat, hnil, once,
        Entry.once?, Entry.value?, hvalue]
    | _ =>
      simp [Arguments.receive, Arguments.assign, gathered, given_concat, valuesOf_concat, hnil, once,
        Entry.once?, Entry.value?]

theorem mem_valuesOf {k : Key} {value : String} (h : value ∈ valuesOf k es) :
  .key k value ∈ es
  := by
  obtain ⟨e, he, hvalue⟩ := List.mem_filterMap.mp h
  cases e with
  | logs => cases hvalue
  | noWorkspace => cases hvalue
  | key k' value' =>
    rw [Entry.value?, Option.ite_none_right_eq_some] at hvalue
    obtain ⟨rfl, ⟨⟩⟩ := hvalue
    exact he

/-- An option that may be given only once and has been given is refused, whatever its value is. -/
theorem receive_repeated {o : Opt} (hreads : ∀ e ∈ es, e.Readable) (honce : e.once? = some o)
    (hgiven : o ∈ given es) :
  (gathered es).receive e = .error (.refused .repeated)
  := by
  cases e with
  | logs =>
    cases honce
    simp [Arguments.receive, Arguments.turnOn, gathered, hgiven]
  | noWorkspace =>
    cases honce
    simp [Arguments.receive, Arguments.turnOn, gathered, hgiven]
  | key k value =>
    have hk : k ≠ .service := by
      rintro rfl
      cases honce
    rw [Entry.once?_key hk] at honce
    cases honce
    obtain ⟨first, rest, hvalues⟩ :=
      List.exists_cons_of_ne_nil (mt (valuesOf_eq_nil_iff hk es).mp (not_not.mpr hgiven))
    cases k with
    | service => exact absurd rfl hk
    | interval =>
      have hfirst : first ∈ valuesOf .interval es := by
        rw [hvalues]
        exact List.mem_cons_self
      obtain ⟨millis, hmillis⟩ := Option.isSome_iff_exists.mp (hreads _ (mem_valuesOf hfirst))
      simp [Arguments.receive, Arguments.assign, gathered, hvalues, hmillis, throw, throwThe,
        MonadExceptOf.throw, bind, Except.bind]
    | config =>
      simp [Arguments.receive, Arguments.assign, gathered, hvalues, once, bind, Except.bind]
    | _ => simp [Arguments.receive, Arguments.assign, gathered, hvalues, once]

/-- An entry that cannot be read is refused. -/
theorem receive_unreadable (a : Arguments) (h : ¬ e.Readable) :
  ∃ refusal, a.receive e = .error (.refused refusal)
  := by
  cases e with
  | logs => exact absurd trivial h
  | noWorkspace => exact absurd trivial h
  | key k value =>
    cases k with
    | config =>
      obtain rfl : value = "" := not_not.mp h
      cases hconfig : a.config with
      | some path =>
        use .repeated
        simp [Arguments.receive, Arguments.assign, once, hconfig, bind, Except.bind]
      | none =>
        use .missingValue
        simp [Arguments.receive, Arguments.assign, once, hconfig, throw, throwThe,
          MonadExceptOf.throw, bind, Except.bind]
    | interval =>
      have hvalue : Text.word? value = none := Option.not_isSome_iff_eq_none.mp h
      cases hinterval : a.flags.interval with
      | some millis =>
        use .repeated
        simp [Arguments.receive, Arguments.assign, hinterval, throw, throwThe,
          MonadExceptOf.throw, bind, Except.bind]
      | none =>
        use .unreadableValue
        simp [Arguments.receive, Arguments.assign, hinterval, hvalue, throw, throwThe,
          MonadExceptOf.throw]
    | _ => exact absurd trivial h

/-- Entries that are read as what they give together: each has a value of its key, and none gives
again what may be given only once. -/
structure Accepted (es : List Entry) : Prop where
  /-- Each can be read. -/
  readable : ∀ e ∈ es, e.Readable
  /-- None gives again what may be given only once. -/
  nodup : (given es).Nodup

theorem accepted_nil : Accepted [] where
  readable := by simp
  nodup := List.nodup_nil

theorem Accepted.of_append {es fs : List Entry} (h : Accepted (es ++ fs)) :
  Accepted es
  := by
  obtain ⟨hreadable, hnodup⟩ := h
  rw [given_append] at hnodup
  exact ⟨fun e he => hreadable e (List.mem_append_left fs he), hnodup.of_append_left⟩

theorem accepted_concat_iff :
  Accepted (es ++ [e])
    ↔ Accepted es ∧ e.Readable ∧ ∀ o, e.once? = some o → o ∉ given es
  := by
  constructor
  · intro h
    have hnodup := h.nodup
    rw [given_concat] at hnodup
    refine ⟨h.of_append, h.readable e (by simp), ?_⟩
    intro o honce hgiven
    rw [honce] at hnodup
    exact List.disjoint_of_nodup_append hnodup hgiven List.mem_cons_self
  · rintro ⟨⟨hreadable, hnodup⟩, hread, hnew⟩
    constructor
    · rw [List.forall_mem_append]
      exact ⟨hreadable, by simpa using hread⟩
    · rw [given_concat]
      cases honce : e.once? with
      | none => simpa using hnodup
      | some o =>
        apply hnodup.append (List.nodup_singleton o)
        rw [List.disjoint_singleton]
        exact hnew o honce

/-- The next entry of those that are accepted is gathered with the ones before it. -/
theorem Accepted.receive (h : Accepted (es ++ [e])) :
  (gathered es).receive e = .ok (gathered (es ++ [e]))
  := by
  obtain ⟨-, hread, hnew⟩ := accepted_concat_iff.mp h
  exact receive_gathered hread hnew

/-- The first entry that is not accepted is refused. -/
theorem Accepted.refuse (h : Accepted es) (hnot : ¬ Accepted (es ++ [e])) :
  ∃ refusal, (gathered es).receive e = .error (.refused refusal)
  := by
  by_cases hread : e.Readable
  · by_cases hnew : ∀ o, e.once? = some o → o ∉ given es
    · exact absurd (accepted_concat_iff.mpr ⟨h, hread, hnew⟩) hnot
    · simp only [not_forall, not_not] at hnew
      obtain ⟨o, honce, hgiven⟩ := hnew
      exact ⟨.repeated, receive_repeated h.readable honce hgiven⟩
  · exact receive_unreadable (gathered es) hread

/-! ### All arguments -/

/-- Entries that are accepted are read as what they give together. -/
theorem read_entries :
    ∀ es before : List Entry, Accepted (before ++ es) →
      read ⟨gathered before, none⟩ (es.map Entry.text) = .ok (gathered (before ++ es))
  | [], before, _ => by
    rw [List.append_nil]
    rfl
  | e :: es, before, h => by
    rw [List.append_cons] at h ⊢
    rw [List.map_cons, read_entry, h.of_append.receive]
    exact read_entries es (before ++ [e]) h

/-- An argument of which it is known what it is. -/
inductive Word where
  /-- It gives one thing. -/
  | entry (entry : Entry)
  /-- The program does not know it. -/
  | stray (text : String) (stray : Stray text)

/-- How an argument is written. -/
def Word.text : Word → String
  | .entry e => e.text
  | .stray text _ => text

/-- The entry that an argument is. -/
def Word.entry? : Word → Option Entry
  | .entry e => some e
  | .stray .. => none

/-- The program knows an argument. -/
def Word.Known : Word → Prop
  | .entry _ => True
  | .stray .. => False

/-- Arguments are refused if the program does not know one of them, or if what they give is not
accepted. -/
theorem read_refused :
    ∀ (words : List Word) (before : List Entry), Accepted before →
      ((∃ word ∈ words, ¬ word.Known) ∨ ¬ Accepted (before ++ words.filterMap Word.entry?)) →
      ∃ refusal, read ⟨gathered before, none⟩ (words.map Word.text) = .error (.refused refusal)
  | [], before, h, hoffends => by
    obtain ⟨_, hmem, _⟩ | hnot := hoffends
    · cases hmem
    · exact absurd h (by simpa using hnot)
  | .stray text h :: words, before, _, _ => ⟨.unknown, read_stray h _ _⟩
  | .entry e :: words, before, h, hoffends => by
    rw [List.map_cons, Word.text, read_entry]
    by_cases hnext : Accepted (before ++ [e])
    · rw [hnext.receive]
      apply read_refused words (before ++ [e]) hnext
      obtain ⟨word, hmem, hunknown⟩ | hnot := hoffends
      · left
        obtain rfl | hmem := List.mem_cons.mp hmem
        · exact absurd trivial hunknown
        · exact ⟨word, hmem, hunknown⟩
      · right
        rw [List.append_assoc]
        exact hnot
    · obtain ⟨refusal, hrefused⟩ := h.refuse hnext
      rw [hrefused]
      exact ⟨refusal, rfl⟩

end ServiceHarness.CommandLine
