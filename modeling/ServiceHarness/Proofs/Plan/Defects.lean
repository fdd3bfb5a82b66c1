import Mathlib.Data.List.Nodup
import ServiceHarness.Plan

/-!
# The defects of a plan

`Plan.defects` are all the defects that a plan has, in the order in which they are looked for, and a
plan is refused for the first of them (`Plan.validate_eq`).  Among them are the `repetitions` of
names; there is none exactly if the names are distinct, so that the order of the services never
makes a plan defective (`Plan.validate_of_perm`).
-/

namespace ServiceHarness

/-! ### Repetitions -/

/-- The names that have stood before, once for each place at which they stand again. -/
def repetitions (names : List String) : List String :=
  (names.zipIdx.filter fun entry => entry.1 ∈ names.take entry.2).map Prod.fst

/-- The search for a name that stands again finds the first repetition.  The names `before` are
those that have been gone through, and `seen` holds the same. -/
theorem Plan.firstRepeated_eq :
    ∀ (names before seen : List String), (∀ name, name ∈ seen ↔ name ∈ before) →
      firstRepeated seen names
        = (((names.zipIdx before.length).filter
            fun entry => entry.1 ∈ (before ++ names).take entry.2).map Prod.fst).head?
  | [], _, _, _ => rfl
  | name :: rest, before, seen, hseen => by
    have hbefore : (before ++ name :: rest).take before.length = before := List.take_left
    rw [firstRepeated, List.zipIdx_cons]
    by_cases hmem : name ∈ before
    · rw [if_pos ((hseen name).mpr hmem), List.filter_cons_of_pos (by simpa [hbefore] using hmem)]
      rfl
    · rw [if_neg (mt (hseen name).mp hmem),
        List.filter_cons_of_neg (by simpa [hbefore] using hmem), List.append_cons,
        firstRepeated_eq rest (before ++ [name]) (name :: seen) (by simp [hseen, or_comm]),
        List.length_append]
      rfl

theorem Plan.firstRepeated_eq_head? (names : List String) :
  firstRepeated [] names = (repetitions names).head?
  := firstRepeated_eq names [] [] fun _ => Iff.rfl

/-- Where names are distinct, also from those that stood before, none stands again. -/
theorem Plan.firstRepeated_eq_none_iff :
    ∀ (names seen : List String),
      firstRepeated seen names = none ↔ names.Nodup ∧ ∀ name ∈ names, name ∉ seen
  | [], seen => by simp [firstRepeated]
  | name :: rest, seen => by
    rw [firstRepeated]
    by_cases hname : name ∈ seen
    · simp [hname]
    · rw [if_neg hname, firstRepeated_eq_none_iff rest (name :: seen)]
      simp only [List.nodup_cons, List.mem_cons, forall_eq_or_imp, not_or]
      constructor
      · rintro ⟨hnodup, hfresh⟩
        have hnot : name ∉ rest := fun hmem => (hfresh name hmem).1 rfl
        exact ⟨⟨hnot, hnodup⟩, hname, fun name' hmem => (hfresh name' hmem).2⟩
      · rintro ⟨⟨hnot, hnodup⟩, -, hfresh⟩
        use hnodup
        intro name' hmem
        have hne : name' ≠ name := by
          rintro rfl
          exact hnot hmem
        exact ⟨hne, hfresh name' hmem⟩

/-- There are no repetitions exactly if the names are distinct. -/
theorem repetitions_eq_nil_iff (names : List String) :
  repetitions names = [] ↔ names.Nodup
  := by
  rw [← List.head?_eq_none_iff, ← Plan.firstRepeated_eq_head?, Plan.firstRepeated_eq_none_iff]
  simp

/-! ### All defects -/

namespace Plan

/-- The defects of a plan. -/
def defects (p : Plan) : List Defect :=
  (if p.services = [] then [.broken .serviceDeclared] else [])
    ++ (repetitions (p.services.map Service.name)).map .duplicateService
    ++ (if Text.isBlankText p.url then [.broken .urlGiven] else [])
    ++ (if Text.isBlankText p.confVariable then [.broken .variableNamed] else [])
    ++ (if p.interval = 0 then [.broken .intervalPositive] else [])

/-- The defect that is found is the first one. -/
theorem defect?_eq_head? (p : Plan) :
  p.defect? = p.defects.head?
  := by
  rw [defect?, firstRepeated_eq_head?, defects]
  by_cases hservices : p.services = []
  · simp [hservices]
  · rw [if_neg (by simpa using hservices), if_neg hservices, List.nil_append]
    cases hrepeated : repetitions (p.services.map Service.name) with
    | cons name rest => simp
    | nil =>
      cases hurl : Text.isBlankText p.url with
      | true => simp
      | false =>
        cases hvariable : Text.isBlankText p.confVariable with
        | true => simp
        | false =>
          by_cases hinterval : p.interval = 0
          · simp [hinterval]
          · simp [hinterval]

theorem defect?_eq_none_iff (p : Plan) :
  p.defect? = none ↔ p.defects = []
  := by
  rw [defect?_eq_head?, List.head?_eq_none_iff]

/-- A plan has no defect if it has services, their names are distinct, its URL and its variable are
not blank and its probes are some time apart. -/
theorem defects_eq_nil_iff (p : Plan) :
  p.defects = []
    ↔ p.services ≠ [] ∧ (p.services.map Service.name).Nodup ∧ Text.isBlankText p.url = false
      ∧ Text.isBlankText p.confVariable = false ∧ p.interval ≠ 0
  := by
  simp only [defects, List.append_eq_nil_iff, List.map_eq_nil_iff, repetitions_eq_nil_iff,
    ite_eq_right_iff, reduceCtorEq, imp_false, Bool.not_eq_true, and_assoc, ne_eq]

/-- A plan is refused for its first defect. -/
theorem validate_eq (p : Plan) :
  p.validate = match p.defects with
    | [] => .ok ()
    | d :: _ => .error d
  := by
  rw [validate, defect?_eq_head?]
  cases p.defects with
  | nil => rfl
  | cons d rest => rfl

theorem validate_eq_ok_iff (p : Plan) :
  p.validate = .ok () ↔ p.defects = []
  := by
  rw [validate_eq]
  cases p.defects with
  | nil => simp
  | cons d rest => simp

/-- A plan without defects has none either if its services are put in another order. -/
theorem validate_of_perm {p : Plan} (h : p.validate = .ok ()) {services : List Service}
    (hperm : services.Perm p.services) :
  ({ p with services := services } : Plan).validate = .ok ()
  := by
  rw [validate_eq_ok_iff, defects_eq_nil_iff] at h ⊢
  obtain ⟨hservices, hnodup, hothers⟩ := h
  have hservices' : services ≠ [] := by
    rintro rfl
    exact hservices hperm.nil_eq.symm
  exact ⟨hservices', (hperm.map Service.name).nodup_iff.mpr hnodup, hothers⟩

end Plan

end ServiceHarness
