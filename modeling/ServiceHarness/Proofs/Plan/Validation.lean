import ServiceHarness.Proofs.Plan.Defects

/-!
# What validation decides

A plan is valid exactly if it has services, their names are distinct, its URL and its variable are
not blank and its probes are some time apart.  Without services it is refused for that, whatever
else it holds; otherwise the name that stands again first is told, and only of a plan with distinct
names what else is the matter (`Plan.validate_decides`).
-/

namespace ServiceHarness

/-- At position `i` stands `name`, which has stood before, and so has no name at an earlier
position. -/
structure RepeatsFirst (names : List String) (i : Nat) (name : String) : Prop where
  /-- The name at the position. -/
  stands : names[i]? = some name
  /-- It stands at an earlier position, too. -/
  again : name ∈ names.take i
  /-- Up to there the names are distinct. -/
  first : ∀ j < i, ∀ other, names[j]? = some other → other ∉ names.take j

/-- The first repetition is the name at the first position where a name stands again. -/
theorem head?_repetitions_eq_some_iff (names : List String) (name : String) :
  (repetitions names).head? = some name ↔ ∃ i, RepeatsFirst names i name
  := by
  rw [repetitions, List.head?_map, List.head?_filter, Option.map_eq_some_iff]
  constructor
  · rintro ⟨entry, hfind, rfl⟩
    obtain ⟨hagain, i, hi, rfl, hfirst⟩ := List.find?_eq_some_iff_getElem.mp hfind
    rw [List.length_zipIdx] at hi
    simp only [List.getElem_zipIdx, Nat.zero_add, decide_eq_true_eq, Bool.not_eq_true',
      decide_eq_false_iff_not] at hagain hfirst ⊢
    use i
    constructor
    · exact List.getElem?_eq_getElem hi
    · exact hagain
    · intro j hj other hother
      obtain ⟨-, rfl⟩ := List.getElem?_eq_some_iff.mp hother
      exact hfirst j hj
  · rintro ⟨i, hstands, hagain, hfirst⟩
    obtain ⟨hi, rfl⟩ := List.getElem?_eq_some_iff.mp hstands
    use (names[i], i)
    constructor
    · apply List.find?_eq_some_iff_getElem.mpr
      constructor
      · simpa using hagain
      · use i, by simpa using hi
        constructor
        · simp
        · intro j hj
          have hj' : j < names.length := Nat.lt_trans hj hi
          simpa using hfirst j hj names[j] (List.getElem?_eq_getElem hj')
    · rfl

/-- Unless the names are distinct, one of them stands again first. -/
theorem exists_repeatsFirst {names : List String} (h : ¬ names.Nodup) :
  ∃ i name, RepeatsFirst names i name
  := by
  have hrepeated : repetitions names ≠ [] := mt (repetitions_eq_nil_iff names).mp h
  obtain ⟨name, rest, hcons⟩ := List.exists_cons_of_ne_nil hrepeated
  obtain ⟨i, hfirst⟩ := (head?_repetitions_eq_some_iff names name).mp (by rw [hcons]; rfl)
  exact ⟨i, name, hfirst⟩

namespace Plan

/-- The names of the services of a plan. -/
def names (p : Plan) : List String :=
  p.services.map Service.name

theorem validate_of_no_services {p : Plan} (h : p.services = []) :
  p.validate = .error (.broken .serviceDeclared)
  := by
  rw [validate_eq, defects, if_pos h]
  rfl

theorem validate_of_repeatsFirst {p : Plan} {i : Nat} {name : String}
    (h : RepeatsFirst p.names i name) :
  p.validate = .error (.duplicateService name)
  := by
  have hservices : p.services ≠ [] := by
    intro hnil
    have hagain := h.again
    rw [names, hnil, List.map_nil, List.take_nil] at hagain
    cases hagain
  have hhead := (head?_repetitions_eq_some_iff p.names name).mpr ⟨i, h⟩
  obtain ⟨rest, hcons⟩ := List.head?_eq_some_iff.mp hhead
  rw [names] at hcons
  rw [validate_eq, defects, if_neg hservices, hcons]
  rfl

/-- Of services with distinct names nothing is told, but what else is the matter. -/
theorem validate_of_nodup {p : Plan} (hservices : p.services ≠ []) (hnames : p.names.Nodup) :
  p.validate =
    if Text.trim p.url = "" then .error (.broken .urlGiven)
    else if Text.trim p.confVariable = "" then .error (.broken .variableNamed)
    else if p.interval = 0 then .error (.broken .intervalPositive)
    else .ok ()
  := by
  rw [names, ← repetitions_eq_nil_iff] at hnames
  rw [validate_eq, defects, if_neg hservices, hnames, List.map_nil, List.nil_append,
    List.nil_append]
  simp only [Text.trim_eq_empty_iff]
  by_cases hurl : Text.isBlankText p.url = true
  · rw [if_pos hurl, if_pos hurl]
    rfl
  · rw [if_neg hurl, if_neg hurl, List.nil_append]
    by_cases hvariable : Text.isBlankText p.confVariable = true
    · rw [if_pos hvariable, if_pos hvariable]
      rfl
    · rw [if_neg hvariable, if_neg hvariable, List.nil_append]
      by_cases hinterval : p.interval = 0
      · rw [if_pos hinterval, if_pos hinterval]
      · rw [if_neg hinterval, if_neg hinterval]

/-- What validation makes of any plan.  A plan is valid exactly if it has services, their names are
distinct, its URL and its variable are not blank and its interval is not zero.  A plan without
services is refused for that.  Where a name stands again, the one at the first such position is told.
Otherwise the first of a blank URL, a blank variable and an interval of nothing is told. -/
theorem validate_decides (p : Plan) :
  (p.validate = .ok ()
      ↔ p.services ≠ [] ∧ p.names.Nodup ∧ Text.trim p.url ≠ "" ∧ Text.trim p.confVariable ≠ ""
        ∧ p.interval ≠ 0)
    ∧ (p.services = [] → p.validate = .error (.broken .serviceDeclared))
    ∧ (¬ p.names.Nodup → ∃ i name, RepeatsFirst p.names i name
      ∧ p.validate = .error (.duplicateService name))
    ∧ (p.services ≠ [] → p.names.Nodup → p.validate =
      if Text.trim p.url = "" then .error (.broken .urlGiven)
      else if Text.trim p.confVariable = "" then .error (.broken .variableNamed)
      else if p.interval = 0 then .error (.broken .intervalPositive)
      else .ok ())
  := by
  refine ⟨?_, validate_of_no_services, ?_, validate_of_nodup⟩
  · rw [validate_eq_ok_iff, defects_eq_nil_iff]
    simp only [names, ne_eq, Text.trim_eq_empty_iff, Bool.not_eq_true]
  · intro hrepeated
    obtain ⟨i, name, hfirst⟩ := exists_repeatsFirst hrepeated
    exact ⟨i, name, hfirst, validate_of_repeatsFirst hfirst⟩

/-- Two names stand again, beside a blank URL; there are no services, beside an interval of nothing;
and nothing is the matter but a blank URL and an interval of nothing. -/
theorem validate_decides_interleaved :
  let p : Plan :=
    { services := ["effis", "oprish", "oprish", "effis"].map Service.cargo, url := " " }
  (¬ p.names.Nodup ∧ ∃ i name, RepeatsFirst p.names i name
      ∧ p.validate = .error (.duplicateService name))
    ∧ ({ services := [], interval := 0 } : Plan).validate = .error (.broken .serviceDeclared)
    ∧ ({ url := " ", interval := 0 } : Plan).validate = .error (.broken .urlGiven)
  := by
  intro p
  obtain ⟨-, -, hrepeated, -⟩ := validate_decides p
  obtain ⟨-, hnone, -, -⟩ := validate_decides { services := [], interval := 0 }
  obtain ⟨-, -, -, hdistinct⟩ := validate_decides { url := " ", interval := 0 }
  refine ⟨⟨by decide, hrepeated (by decide)⟩, hnone rfl, ?_⟩
  rw [hdistinct (by decide) (by decide), if_pos (by decide)]

/-- That a plan has neither services nor a URL is told of its services, although no name stands
again. -/
theorem validate_without_services :
  let p : Plan := { services := [], url := " " }
  ¬ (p.services ≠ [] ∧ ¬ p.names.Nodup) ∧ Text.trim p.url = ""
    ∧ p.validate ≠ .error (.broken .urlGiven)
  := by
  decide

end Plan

end ServiceHarness
