import RecordFilter.Command.Basic
import RecordFilter.Proofs.Compile.Failures

/-!
# The two modes agree

A query is parsed and then compiled, and each of the two phases stops at the
first error in the one mode and collects all errors in the other.  `Agrees` says
how much of an outcome the two modes share: the result, if there is one, and the
first error.  It holds of every collection of outcomes whose errors are single
ones and is kept by sequencing, so it holds of whole builds, and of the errors
that the command line lists for a query.
-/

namespace RecordFilter

/-! ## Outcomes of the two modes -/

/-- Whether two outcomes have the same results, and the error of the first one, if there is any,
comes first among those of the second. -/
structure Agrees {α : Type} (fast analysis : Except FilterError α) : Prop where
  eq_ok_iff : ∀ a, fast = .ok a ↔ analysis = .ok a
  head?_flatten : ∀ e e', fast = .error e → analysis = .error e' → e'.flatten.head? = some e

namespace Agrees

variable {α β : Type}

/-- An outcome agrees with itself if its error is a single one. -/
theorem refl {x : Except FilterError α} (h : ∀ e, x = .error e → e.flatten = [e]) :
    Agrees x x := by
  refine ⟨fun a ↦ Iff.rfl, fun e e' he he' ↦ ?_⟩
  obtain rfl : e = e' := Except.error.inj (he.symm.trans he')
  rw [h e he]
  rfl

/-- What agrees fails together. -/
theorem exists_error {x y : Except FilterError α} (h : Agrees x y) {e : FilterError}
    (he : x = .error e) : ∃ e', y = .error e' := by
  cases hy : y with
  | error e' => exact ⟨e', rfl⟩
  | ok a =>
    rw [(h.eq_ok_iff a).mpr hy] at he
    cases he

theorem bind {x y : Except FilterError α} {f g : α → Except FilterError β} (h : Agrees x y)
    (hfg : ∀ a, Agrees (f a) (g a)) : Agrees (x.bind f) (y.bind g) := by
  cases hx : x with
  | ok a =>
    rw [(h.eq_ok_iff a).mp hx]
    exact hfg a
  | error e =>
    obtain ⟨e', hy⟩ := h.exists_error hx
    rw [hy]
    refine ⟨fun b ↦ by simp [Except.bind], fun e₁ e₁' he₁ he₁' ↦ ?_⟩
    cases he₁
    cases he₁'
    exact h.head?_flatten _ _ hx hy

/-- The modes agree on outcomes with single errors. -/
theorem collect {outcomes : List (Except FilterError α)}
    (h : ∀ e ∈ errorsOf outcomes, e.flatten = [e]) :
    Agrees (Mode.fast.collect outcomes) (Mode.analysis.collect outcomes) := by
  refine ⟨fun as ↦ by rw [Mode.collect_eq_ok_iff, Mode.collect_eq_ok_iff], fun e e' he he' ↦ ?_⟩
  have hall : e'.flatten = errorsOf outcomes := FilterError.flatten_of_unless_eq_error h he'
  have hfirst : (errorsOf outcomes).take 1 = [e] := by
    rcases FilterError.unless_eq_error_iff.mp he with hone | ⟨hmany, -⟩
    · rwa [Mode.select, errorsOf_upToError] at hone
    · rw [Mode.select, errorsOf_upToError, List.length_take] at hmany
      omega
  obtain ⟨es, hes⟩ : ∃ es, errorsOf outcomes = e :: es := by
    cases herrors : errorsOf outcomes with
    | nil => simp [herrors] at hfirst
    | cons e₁ es => exact ⟨es, by simpa [herrors] using hfirst⟩
  rw [hall, hes]
  rfl

end Agrees

/-! ## Parsing -/

/-- What a clause of a query yields: a descriptor where it stands, or an error with its place. -/
inductive Clause.Yields (query : List Char) (index : Nat) (clause : ClauseText) :
    Except FilterError (Spanned Descriptor) → Prop
  | descriptor {d : Descriptor} (h : Clause.read clause.text = .ok d) :
      Yields query index clause (.ok ⟨d, clause.span⟩)
  | error {f : Clause.Fault} (h : Clause.read clause.text = .error f) :
      Yields query index clause (.error (f.toError query index clause))

theorem Clause.yields_outcome (query : List Char) (index : Nat) (clause : ClauseText) :
    Yields query index clause (outcome query index clause) := by
  rw [outcome]
  cases h : read clause.text with
  | ok d => exact .descriptor h
  | error f => exact .error h

/-- The errors of clauses are single ones. -/
theorem flatten_of_mem_clauseOutcomes {query : String} {e : FilterError}
    (h : e ∈ errorsOf (clauseOutcomes query)) : e.flatten = [e] := by
  rw [← map_snd_failuresFrom 0] at h
  obtain ⟨⟨i, e⟩, hmem, rfl⟩ := List.mem_map.mp h
  obtain ⟨k, -, hk⟩ := mem_failuresFrom_iff.mp hmem
  rw [clauseOutcomes, List.getElem?_mapIdx] at hk
  obtain ⟨clause, -, hclause⟩ := Option.map_eq_some_iff.mp hk
  have hyields := Clause.yields_outcome query.toList k clause
  rw [hclause] at hyields
  cases hyields with
  | error => simp [Clause.Fault.toError, FilterError.flatten]

/-- The modes agree on what a query contains. -/
theorem agrees_parseWith (query : String) :
    Agrees (parseWith .fast query).result (parseWith .analysis query).result :=
  .collect fun _ ↦ flatten_of_mem_clauseOutcomes

/-! ## Compiling -/

namespace Schema

variable {ρ : Type} {s : Schema ρ}

/-- The modes agree on descriptors. -/
theorem agrees_compile (caseSensitive : Bool) (ds : List Descriptor) :
    Agrees (s.compile ⟨.fast, caseSensitive⟩ ds) (s.compile ⟨.analysis, caseSensitive⟩ ds) := by
  rw [compile, compile]
  refine Agrees.bind (.collect fun e he ↦ ?_) fun cs ↦ .refl fun e he ↦ ?_
  · rw [← map_snd_failuresFrom 0] at he
    obtain ⟨⟨i, e⟩, hmem, rfl⟩ := List.mem_map.mp he
    obtain ⟨d, e₀, -, he₀, rfl⟩ := mem_failuresFrom_outcomes_iff.mp hmem
    exact (he₀.isOfCondition.atClause i).flatten
  · exact (isOfCondition_of_lower he).flatten

/-- The modes agree on query texts. -/
theorem agrees_build (s : Schema ρ) (caseSensitive : Bool) (query : String) :
    Agrees (s.build ⟨.fast, caseSensitive⟩ query) (s.build ⟨.analysis, caseSensitive⟩ query) :=
  (agrees_parseWith query).bind fun _ ↦ agrees_compile caseSensitive _

/-- The single errors of a build that collects all errors. -/
def errorsOfBuild (s : Schema ρ) (query : String) : List FilterError :=
  match s.build { mode := .analysis } query with
  | .ok _ => []
  | .error e => e.flatten

/-- Where a clause does not parse, the errors of a build are those of the clauses. -/
theorem errorsOfBuild_of_not_isSuccess {query : String}
    (h : (parseWith .analysis query).isSuccess = false) :
    s.errorsOfBuild query = (parseWith .analysis query).errors := by
  cases hresult : (parseWith .analysis query).result with
  | ok found =>
    obtain ⟨hnil, -⟩ := FilterError.unless_eq_ok_iff.mp hresult
    simp [Parsed.isSuccess, hnil] at h
  | error e =>
    have hbuild : s.build { mode := .analysis } query = .error e := by
      rw [build, hresult]
      rfl
    rw [errorsOfBuild, hbuild]
    exact FilterError.flatten_of_unless_eq_error
      (fun _ ↦ flatten_of_mem_clauseOutcomes) hresult

/-- A build that collects all errors finds none exactly when the query compiles, and otherwise
finds that of the default build first. -/
theorem errorsOfBuild_agrees (s : Schema ρ) (query : String) :
    (s.errorsOfBuild query = [] ↔ ∃ c, s.build {} query = .ok c) ∧
      ∀ e, s.build {} query = .error e → (s.errorsOfBuild query).head? = some e := by
  have hagrees := s.agrees_build false query
  have hfirst : ∀ e, s.build {} query = .error e → (s.errorsOfBuild query).head? = some e := by
    intro e he
    obtain ⟨e', he'⟩ := hagrees.exists_error he
    rw [errorsOfBuild, he']
    exact hagrees.head?_flatten e e' he he'
  refine ⟨?_, hfirst⟩
  constructor
  · intro hnil
    cases hbuild : s.build {} query with
    | ok c => exact ⟨c, rfl⟩
    | error e =>
      have hhead := hfirst e hbuild
      rw [hnil] at hhead
      cases hhead
  · rintro ⟨c, hc⟩
    rw [errorsOfBuild, (hagrees.eq_ok_iff c).mp hc]

end Schema

/-! ## Checking -/

namespace Command

/-- A check for a model that can be read lists the errors of a build for its schema. -/
theorem check_eq_errorsOfBuild {files : Files} {path : String} {schema : Schema Json}
    (h : (loadSchema Files.disk path).run.run files = (.ok schema, files)) (query : String) :
    (check Files.disk query (some path)).run.run files
      = (.ok (schema.errorsOfBuild query), files) := by
  cases hsuccess : (parseWith .analysis query).isSuccess with
  | false =>
    have hrun : (check Files.disk query (some path)).run.run files
        = (.ok (parseWith .analysis query).errors, files) := by
      simp only [check, hsuccess, Bool.false_eq_true, if_false]
      rfl
    rw [hrun, Schema.errorsOfBuild_of_not_isSuccess hsuccess]
  | true =>
    simp only [check, hsuccess, if_true, ExceptT.run_bind, StateT.run_bind, h]
    rw [Schema.errorsOfBuild]
    cases hbuild : schema.build { mode := .analysis } query <;> simp only [bind, hbuild] <;> rfl

/-- Reading a model leaves all files as they are. -/
theorem loadSchema_disk (files : Files) (path : String) :
    ((loadSchema Files.disk path).run.run files).2 = files := by
  simp only [loadSchema]
  split
  · have hread : (liftM (Files.disk.read path) :
        ExceptT Failure (StateM Files) (Except FileError String)).run.run files
          = (.ok (files.read path), files) := rfl
    simp only [ExceptT.run_bind, StateT.run_bind, hread]
    cases files.read path with
    | error e => rfl
    | ok text => cases hmodel : readSchema text <;> simp only [bind, hmodel] <;> rfl
  · rfl

end Command

/-- The two modes agree on every query.  Each clause yields a descriptor or an error, in order: an
analysis keeps them all, a fast parse the descriptors before the first error, and that error.  A
query compiles in one mode exactly when it does in the other, to the same predicate, and if it does
not, the error of the fast mode is the first one of the analysis.  So a check for a model that can
be read finds no errors exactly when the query compiles, and otherwise finds that error first. -/
theorem modes_agree (query : String) :
    (∃ outcomes, outcomes.length = (splitClauses query.toList).length ∧
      (∀ i clause, (splitClauses query.toList)[i]? = some clause →
        ∃ outcome, outcomes[i]? = some outcome ∧ Clause.Yields query.toList i clause outcome) ∧
      parseWith .analysis query = ⟨resultsOf outcomes, errorsOf outcomes⟩ ∧
      parseWith .fast query
        = ⟨resultsOf (outcomes.takeWhile Except.isOk), (errorsOf outcomes).take 1⟩) ∧
    (∀ {ρ : Type} (s : Schema ρ) (caseSensitive : Bool),
      (∀ c, s.build ⟨.fast, caseSensitive⟩ query = .ok c ↔
        s.build ⟨.analysis, caseSensitive⟩ query = .ok c) ∧
      ∀ e, s.build ⟨.fast, caseSensitive⟩ query = .error e →
        ∃ e', s.build ⟨.analysis, caseSensitive⟩ query = .error e' ∧
          e'.flatten.head? = some e) ∧
    ∀ (files : Command.Files) (path : String) (schema : Schema Json),
      (Command.loadSchema Command.Files.disk path).run.run files = (.ok schema, files) →
      ∃ errors, (Command.check Command.Files.disk query (some path)).run.run files
          = (.ok errors, files) ∧
        (errors = [] ↔ ∃ c, schema.build {} query = .ok c) ∧
        ∀ e, schema.build {} query = .error e → errors.head? = some e := by
  refine ⟨⟨clauseOutcomes query, ?_, ?_, rfl, ?_⟩, ?_, ?_⟩
  · rw [clauseOutcomes, List.length_mapIdx]
  · intro i clause hclause
    refine ⟨Clause.outcome query.toList i clause, ?_, Clause.yields_outcome _ _ _⟩
    rw [clauseOutcomes, List.getElem?_mapIdx, hclause, Option.map_some]
  · rw [parseWith, Mode.select, resultsOf_upToError, errorsOf_upToError]
  · intro ρ s caseSensitive
    have hagrees := s.agrees_build caseSensitive query
    refine ⟨hagrees.eq_ok_iff, fun e he ↦ ?_⟩
    obtain ⟨e', he'⟩ := hagrees.exists_error he
    exact ⟨e', he', hagrees.head?_flatten e e' he he'⟩
  · intro files path schema hschema
    exact ⟨schema.errorsOfBuild query, Command.check_eq_errorsOfBuild hschema query,
      schema.errorsOfBuild_agrees query⟩

/-- A file with the model of records with one number. -/
def numberFiles : Command.Files :=
  Table.empty.put "m.json"
    "\x7b\"name\":\"R\",\"properties\":\x7b\"n\":\x7b\"type\":\"int\"\x7d\x7d\x7d"

/-- A check of a query for that model. -/
theorem modes_agree_number :
    ∃ schema : Schema Json,
      (Command.loadSchema Command.Files.disk "m.json").run.run numberFiles
        = (.ok schema, numberFiles) ∧
      ∃ errors, (Command.check Command.Files.disk "n:Equal:x;m:Equal:1" (some "m.json")).run.run
          numberFiles = (.ok errors, numberFiles) ∧
        (errors = [] ↔ ∃ c, schema.build {} "n:Equal:x;m:Equal:1" = .ok c) ∧
        ∀ e, schema.build {} "n:Equal:x;m:Equal:1" = .error e → errors.head? = some e := by
  have hread : ((Command.loadSchema Command.Files.disk "m.json").run.run numberFiles).1.isOk
      = true := by decide +kernel
  have hfiles := Command.loadSchema_disk numberFiles "m.json"
  cases hload : (Command.loadSchema Command.Files.disk "m.json").run.run numberFiles with
  | mk result files =>
    rw [hload] at hread hfiles
    cases result with
    | error e => cases hread
    | ok schema =>
      obtain rfl : files = numberFiles := hfiles
      obtain ⟨-, -, hcheck⟩ := modes_agree "n:Equal:x;m:Equal:1"
      exact ⟨schema, rfl, hcheck _ "m.json" schema hload⟩

end RecordFilter
