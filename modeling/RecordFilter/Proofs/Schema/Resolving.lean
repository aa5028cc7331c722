import RecordFilter.Proofs.Schema.Registrations
import RecordFilter.Proofs.Text.Letter
import RecordFilter.Schema.Compile

/-!
# What a path resolves to

`Schema.Resolves` says what a path names: the property that is registered under
exactly this path, or else, where case does not matter, the first one whose path
is the same in lower case.  A resolver gives these answers whatever it has been
asked before.  The invariant behind this is that every place it remembers is the
first one whose path is the key in lower case (`Resolver.Serves`): such a place
is right for all spellings of the path, and the registered paths do not change.
-/

namespace RecordFilter

variable {ρ : Type}

/-! ## Schemas -/

namespace Schema

variable {s : Schema ρ}

theorem getElem?_paths_eq_some_iff {i : Nat} {path : String} :
    s.paths[i]? = some path ↔ ∃ p, s.properties.entries[i]? = some (path, p) := by
  rw [paths, Table.keys, List.getElem?_map, Option.map_eq_some_iff]
  constructor
  · rintro ⟨⟨_, p⟩, hentry, rfl⟩
    exact ⟨p, hentry⟩
  · rintro ⟨p, hentry⟩
    exact ⟨(path, p), hentry, rfl⟩

theorem mem_paths_iff {path : String} :
    path ∈ s.paths ↔ ∃ p, (path, p) ∈ s.properties.entries := by
  rw [paths, Table.keys, List.mem_map]
  constructor
  · rintro ⟨⟨_, p⟩, hentry, rfl⟩
    exact ⟨p, hentry⟩
  · rintro ⟨p, hentry⟩
    exact ⟨(path, p), hentry, rfl⟩

/-- Whether a place is the least one whose registered path is a key in lower case. -/
structure IsFirst (s : Schema ρ) (key : String) (i : Nat) : Prop where
  folds : ∃ path, s.paths[i]? = some path ∧ Text.foldCase path = key
  least : ∀ j path, s.paths[j]? = some path → Text.foldCase path = key → i ≤ j

theorem foldedIndex?_eq_some_iff {path : String} {i : Nat} :
    s.foldedIndex? path = some i ↔ s.IsFirst (Text.foldCase path) i := by
  rw [foldedIndex?, List.findIdx?_eq_some_iff_getElem]
  constructor
  · rintro ⟨hi, hsame, hbefore⟩
    refine ⟨⟨_, List.getElem?_eq_getElem hi, Text.sameFolded_iff.mp hsame⟩, ?_⟩
    intro j q hj hq
    obtain ⟨hlength, rfl⟩ := List.getElem?_eq_some_iff.mp hj
    by_contra hlt
    exact hbefore j (Nat.lt_of_not_le hlt) (Text.sameFolded_iff.mpr hq)
  · rintro ⟨⟨q, hq, hfold⟩, hleast⟩
    obtain ⟨hi, rfl⟩ := List.getElem?_eq_some_iff.mp hq
    refine ⟨hi, Text.sameFolded_iff.mpr hfold, fun j hj hsame ↦ ?_⟩
    have hij := hleast j _ (List.getElem?_eq_getElem _) (Text.sameFolded_iff.mp hsame)
    exact absurd hj (Nat.not_lt_of_le hij)

theorem foldedIndex?_eq_none_iff {path : String} :
    s.foldedIndex? path = none ↔ ∀ q ∈ s.paths, Text.foldCase q ≠ Text.foldCase path := by
  rw [foldedIndex?, List.findIdx?_eq_none_iff]
  refine forall₂_congr fun q _ ↦ ?_
  rw [Ne, ← Text.sameFolded_iff, Bool.not_eq_true]

theorem get?_eq_none_iff {path : String} : s.get? path = none ↔ path ∉ s.paths :=
  Table.lookup_eq_none_iff_notMem

/-- The answers to a request: what the trimmed path names, or the error that it names nothing. -/
inductive Resolves (s : Schema ρ) (caseSensitive : Bool) (path : String) :
    Except FilterError (Resolved ρ) → Prop
  | exact {p : Property ρ} (hentry : (Text.trimString path, p) ∈ s.properties.entries) :
      Resolves s caseSensitive path (.ok ⟨Text.trimString path, p⟩)
  | folded {i : Nat} {q : String} {p : Property ρ} (hcase : caseSensitive = false)
      (hexact : Text.trimString path ∉ s.paths)
      (hfirst : s.IsFirst (Text.foldCase (Text.trimString path)) i)
      (hentry : s.properties.entries[i]? = some (q, p)) :
      Resolves s caseSensitive path (.ok ⟨q, p⟩)
  | missing (hexact : Text.trimString path ∉ s.paths)
      (hfolded : caseSensitive = false →
        ∀ q ∈ s.paths, Text.foldCase q ≠ Text.foldCase (Text.trimString path)) :
      Resolves s caseSensitive path
        (.error (.propertyNotFound s.name (Text.trimString path)
          (s.missingSegment caseSensitive (Text.trimString path)) none))

theorem resolves_resolve (s : Schema ρ) (caseSensitive : Bool) (path : String) :
    s.Resolves caseSensitive path (s.resolve caseSensitive path) := by
  cases hget : s.get? (Text.trimString path) with
  | some p =>
    have hfound : s.resolve caseSensitive path = .ok ⟨Text.trimString path, p⟩ := by
      simp [resolve, registered?, hget]
    rw [hfound]
    exact .exact (mem_entries_of_get? hget)
  | none =>
    have hexact : Text.trimString path ∉ s.paths := get?_eq_none_iff.mp hget
    cases caseSensitive with
    | true =>
      have hnone : s.resolve true path = .error (s.notFound true (Text.trimString path)) := by
        simp [resolve, registered?, hget]
      rw [hnone]
      exact .missing hexact fun h ↦ by cases h
    | false =>
      cases hindex : s.foldedIndex? (Text.trimString path) with
      | none =>
        have hnone : s.resolve false path = .error (s.notFound false (Text.trimString path)) := by
          simp [resolve, registered?, hget, hindex]
        rw [hnone]
        exact .missing hexact fun _ ↦ foldedIndex?_eq_none_iff.mp hindex
      | some i =>
        have hfirst := foldedIndex?_eq_some_iff.mp hindex
        obtain ⟨q, hq, -⟩ := hfirst.folds
        obtain ⟨p, hentry⟩ := getElem?_paths_eq_some_iff.mp hq
        have hfound : s.resolve false path = .ok ⟨q, p⟩ := by
          simp [resolve, registered?, hget, hindex, at?, hentry]
        rw [hfound]
        exact .folded rfl hexact hfirst hentry

/-- A request has one answer. -/
theorem Resolves.unique {caseSensitive : Bool} {path : String}
    {answer answer' : Except FilterError (Resolved ρ)} (h : s.Resolves caseSensitive path answer)
    (h' : s.Resolves caseSensitive path answer') : answer = answer' := by
  cases h with
  | exact hentry =>
    have hpath := mem_paths_iff.mpr ⟨_, hentry⟩
    cases h' with
    | exact hentry' =>
      have hsame := (Table.get?_of_mem hentry).symm.trans (Table.get?_of_mem hentry')
      rw [Option.some.inj hsame]
    | folded _ hexact' _ _ => exact absurd hpath hexact'
    | missing hexact' _ => exact absurd hpath hexact'
  | folded hcase hexact hfirst hentry =>
    obtain ⟨q, hq, hfold⟩ := hfirst.folds
    cases h' with
    | exact hentry' => exact absurd (mem_paths_iff.mpr ⟨_, hentry'⟩) hexact
    | folded _ _ hfirst' hentry' =>
      obtain ⟨q', hq', hfold'⟩ := hfirst'.folds
      have hplace := Nat.le_antisymm (hfirst.least _ _ hq' hfold') (hfirst'.least _ _ hq hfold)
      rw [hplace, hentry'] at hentry
      cases hentry
      rfl
    | missing _ hfolded' => exact absurd hfold (hfolded' hcase q (List.mem_of_getElem? hq))
  | missing hexact hfolded =>
    cases h' with
    | exact hentry' => exact absurd (mem_paths_iff.mpr ⟨_, hentry'⟩) hexact
    | folded hcase _ hfirst' _ =>
      obtain ⟨q', hq', hfold'⟩ := hfirst'.folds
      exact absurd hfold' (hfolded hcase q' (List.mem_of_getElem? hq'))
    | missing _ _ => rfl

theorem resolve_eq_iff {caseSensitive : Bool} {path : String}
    {answer : Except FilterError (Resolved ρ)} :
    s.resolve caseSensitive path = answer ↔ s.Resolves caseSensitive path answer := by
  constructor
  · rintro rfl
    exact resolves_resolve s caseSensitive path
  · exact (resolves_resolve s caseSensitive path).unique

/-- What a path names exactly, it names whatever is said of case. -/
theorem resolve_eq_ok_of_exact {path : String} {found : Resolved ρ}
    (h : s.resolve true path = .ok found) (caseSensitive : Bool) :
    s.resolve caseSensitive path = .ok found := by
  cases resolve_eq_iff.mp h with
  | exact hentry => exact resolve_eq_iff.mpr (.exact hentry)
  | folded hcase => cases hcase

/-- What a path names has a path that is the same in lower case. -/
theorem foldCase_of_resolve {caseSensitive : Bool} {path : String} {found : Resolved ρ}
    (h : s.resolve caseSensitive path = .ok found) :
    Text.foldCase found.path = Text.foldCase (Text.trimString path) := by
  cases resolve_eq_iff.mp h with
  | exact _ => rfl
  | folded _ _ hfirst hentry =>
    obtain ⟨q, hq, hfold⟩ := hfirst.folds
    obtain ⟨p, hentry'⟩ := getElem?_paths_eq_some_iff.mp hq
    cases hentry.symm.trans hentry'
    exact hfold

/-- A path that was found has no blanks around it: it is the trimmed path of the request, at most in
another case. -/
theorem trimString_of_resolve {caseSensitive : Bool} {path : String} {found : Resolved ρ}
    (h : s.resolve caseSensitive path = .ok found) : Text.trimString found.path = found.path :=
  Text.trimString_eq_self_of_foldCase (foldCase_of_resolve h) (trimString_trimString path)

end Schema

/-! ## Resolvers -/

namespace Resolver

variable {r : Resolver ρ} {s : Schema ρ}

/-- Whether a resolver is for a schema and remembers nothing but first places of it. -/
structure Serves (r : Resolver ρ) (s : Schema ρ) : Prop where
  schema : r.schema = s
  memo : ∀ key i, (key, i) ∈ r.memo → s.IsFirst key i

/-- A resolver that has not been asked anything. -/
def fresh (s : Schema ρ) : Resolver ρ := ⟨s, []⟩

theorem serves_fresh (s : Schema ρ) : (fresh s).Serves s := by
  refine ⟨rfl, fun key i h ↦ ?_⟩
  cases h

/-- A place that is looked up is that of the schema, and may be remembered. -/
theorem Serves.foldedIndex? (h : r.Serves s) (path : String) :
    (r.foldedIndex? path).1 = s.foldedIndex? path ∧ (r.foldedIndex? path).2.Serves s := by
  obtain ⟨rfl, hmemo⟩ := h
  cases hlookup : r.memo.lookup (Text.foldCase path) with
  | some i =>
    have hindex := Schema.foldedIndex?_eq_some_iff.mpr (hmemo _ i (Table.mem_of_lookup hlookup))
    simp only [Resolver.foldedIndex?, hlookup]
    exact ⟨hindex.symm, rfl, hmemo⟩
  | none =>
    cases hindex : r.schema.foldedIndex? path with
    | none =>
      simp only [Resolver.foldedIndex?, hlookup, hindex]
      exact ⟨trivial, rfl, hmemo⟩
    | some i =>
      simp only [Resolver.foldedIndex?, hlookup, hindex]
      refine ⟨trivial, rfl, fun key j hmem ↦ ?_⟩
      rcases List.mem_cons.mp hmem with heq | hmem
      · cases heq
        exact Schema.foldedIndex?_eq_some_iff.mp hindex
      · exact hmemo key j hmem

/-- A request is answered as by the schema, and what is remembered stays right. -/
theorem Serves.resolve (h : r.Serves s) (caseSensitive : Bool) (path : String) :
    (r.resolve caseSensitive path).1 = s.resolve caseSensitive path ∧
      (r.resolve caseSensitive path).2.Serves s := by
  simp only [Resolver.resolve, Schema.resolve, h.schema]
  cases hexact : s.registered? (Text.trimString path) with
  | some found => exact ⟨rfl, h⟩
  | none =>
    cases caseSensitive with
    | true =>
      simp only [if_true, Option.or_none, Option.bind_none, h.schema]
      exact ⟨trivial, h⟩
    | false =>
      obtain ⟨hindex, hserves⟩ := h.foldedIndex? (Text.trimString path)
      simp only [Bool.false_eq_true, if_false, Option.none_or, hindex, hserves.schema]
      cases (s.foldedIndex? (Text.trimString path)).bind s.at? with
      | some found => exact ⟨rfl, hserves⟩
      | none => exact ⟨rfl, hserves⟩

/-- Answers requests, each with or without regard to case, one after the other. -/
def run (r : Resolver ρ) :
    List (Bool × String) → List (Except FilterError (Resolved ρ)) × Resolver ρ
  | [] => ([], r)
  | (caseSensitive, path) :: requests =>
    let (answer, r) := r.resolve caseSensitive path
    let (answers, r) := r.run requests
    (answer :: answers, r)

theorem run_cons_snd (r : Resolver ρ) (caseSensitive : Bool) (path : String)
    (requests : List (Bool × String)) : (r.run ((caseSensitive, path) :: requests)).2
      = ((r.resolve caseSensitive path).2.run requests).2 := rfl

/-- Requests are answered as by the schema, in whatever order they come. -/
theorem Serves.run (h : r.Serves s) (requests : List (Bool × String)) :
    (r.run requests).1 = requests.map (fun request ↦ s.resolve request.1 request.2) ∧
      (r.run requests).2.Serves s := by
  induction requests generalizing r with
  | nil => exact ⟨rfl, h⟩
  | cons request requests ih =>
    obtain ⟨caseSensitive, path⟩ := request
    obtain ⟨hanswer, hserves⟩ := h.resolve caseSensitive path
    obtain ⟨hanswers, hlast⟩ := ih hserves
    refine ⟨?_, hlast⟩
    rw [List.map_cons, ← hanswer, ← hanswers]
    rfl

/-- A descriptor becomes the condition that it is for the schema. -/
theorem Serves.conditionOf (h : r.Serves s) (o : CompileOptions) (d : Descriptor) :
    (r.conditionOf o d).1 = s.conditionOf o d ∧ (r.conditionOf o d).2.Serves s := by
  obtain ⟨hanswer, hserves⟩ := h.resolve o.caseSensitive d.path.text
  refine ⟨?_, hserves⟩
  rw [Schema.conditionOf, ← hanswer]
  rfl

/-- Behind a condition the loop goes on. -/
theorem outcomesFrom_cons_ok {o : CompileOptions} {d : Descriptor} {c : Condition}
    {r' : Resolver ρ} (h : r.conditionOf o d = (.ok c, r')) (index : Nat) (ds : List Descriptor) :
    r.outcomesFrom o index (d :: ds) = (.ok c :: (r'.outcomesFrom o (index + 1) ds).1,
      (r'.outcomesFrom o (index + 1) ds).2) := by
  rw [outcomesFrom, h]

/-- Behind an error the loop goes on only if all errors are to be collected. -/
theorem outcomesFrom_cons_error {o : CompileOptions} {d : Descriptor} {e : FilterError}
    {r' : Resolver ρ} (h : r.conditionOf o d = (.error e, r')) (index : Nat)
    (ds : List Descriptor) :
    r.outcomesFrom o index (d :: ds) = (.error (e.atClause index) ::
        (if o.mode = .fast then ([], r') else r'.outcomesFrom o (index + 1) ds).1,
      (if o.mode = .fast then ([], r') else r'.outcomesFrom o (index + 1) ds).2) := by
  rw [outcomesFrom, h]

/-- The outcomes are those that the mode looks at, and what is remembered stays right. -/
theorem Serves.outcomesFrom (h : r.Serves s) (o : CompileOptions) (index : Nat)
    (ds : List Descriptor) :
    (r.outcomesFrom o index ds).1 = o.mode.select
        ((ds.map (s.conditionOf o)).mapIdx fun i ↦ Schema.tagClause (index + i)) ∧
      (r.outcomesFrom o index ds).2.Serves s := by
  induction ds generalizing r index with
  | nil => exact ⟨o.mode.select_nil.symm, h⟩
  | cons d ds ih =>
    obtain ⟨houtcome, hserves⟩ := h.conditionOf o d
    have hplaces : (fun i ↦ Schema.tagClause (α := Condition) (index + (i + 1)))
        = fun i ↦ Schema.tagClause (index + 1 + i) := by
      funext i
      rw [Nat.add_assoc, Nat.add_comm 1]
    rw [List.map_cons, List.mapIdx_cons, hplaces, ← houtcome]
    rcases hfirst : r.conditionOf o d with ⟨e | c, r'⟩
    · rw [hfirst] at hserves
      obtain ⟨hlater, hlast⟩ := ih hserves (index + 1)
      rw [outcomesFrom_cons_error hfirst]
      show _ = o.mode.select (.error (e.atClause index) :: _) ∧ _
      rw [Mode.select_error_cons]
      split
      · exact ⟨rfl, hserves⟩
      · exact ⟨congrArg _ hlater, hlast⟩
    · rw [hfirst] at hserves
      obtain ⟨hlater, hlast⟩ := ih hserves (index + 1)
      rw [outcomesFrom_cons_ok hfirst]
      show _ = o.mode.select (.ok c :: _) ∧ _
      rw [Mode.select_ok_cons]
      exact ⟨congrArg _ hlater, hlast⟩

/-- The paths that are looked up are those of the descriptors that have an outcome, which in fast
mode are those up to the first error. -/
theorem outcomesFrom_run (r : Resolver ρ) (o : CompileOptions) (index : Nat)
    (ds : List Descriptor) :
    (r.outcomesFrom o index ds).2 = (r.run ((ds.take (r.outcomesFrom o index ds).1.length).map
      fun d ↦ (o.caseSensitive, d.path.text))).2 := by
  induction ds generalizing r index with
  | nil => rfl
  | cons d ds ih =>
    have hlooked : (r.resolve o.caseSensitive d.path.text).2 = (r.conditionOf o d).2 := rfl
    rcases hfirst : r.conditionOf o d with ⟨e | c, r'⟩
    · rw [hfirst] at hlooked
      rw [outcomesFrom_cons_error hfirst]
      split
      · exact hlooked.symm
      · rw [List.length_cons, List.take_succ_cons, List.map_cons, run_cons_snd, hlooked]
        exact ih r' (index + 1)
    · rw [hfirst] at hlooked
      rw [outcomesFrom_cons_ok hfirst, List.length_cons, List.take_succ_cons, List.map_cons,
        run_cons_snd, hlooked]
      exact ih r' (index + 1)

/-- Descriptors compile as by the schema, and what is remembered stays right. -/
theorem Serves.compile (h : r.Serves s) (o : CompileOptions) (ds : List Descriptor) :
    (r.compile o ds).1 = s.compile o ds ∧ (r.compile o ds).2.Serves s := by
  obtain ⟨houtcomes, hserves⟩ := h.outcomesFrom o 0 ds
  simp only [Nat.zero_add] at houtcomes
  refine ⟨?_, hserves⟩
  show (FilterError.unless (errorsOf (r.outcomesFrom o 0 ds).1)
      (resultsOf (r.outcomesFrom o 0 ds).1)).bind
    (fun conditions ↦ (r.outcomesFrom o 0 ds).2.schema.lower (aggregate conditions)) = _
  rw [houtcomes, hserves.schema]
  rfl

/-- A query compiles as by the schema, and what is remembered stays right. -/
theorem Serves.build (h : r.Serves s) (o : CompileOptions) (query : String) :
    (r.build o query).1 = s.build o query ∧ (r.build o query).2.Serves s := by
  rw [Resolver.build, Schema.build]
  cases (parseWith o.mode query).result with
  | ok found => exact h.compile o (found.map (·.value))
  | error e => exact ⟨rfl, h⟩

/-- The memory of a resolver does not show.  Every request of a sequence is answered as by a
resolver that has not been asked anything before, which is by the property that the path names, and
a path that resolves exactly resolves to the same without regard to case. -/
theorem run_fresh (s : Schema ρ) (requests : List (Bool × String)) :
    ((fresh s).run requests).1
        = requests.map (fun request ↦ ((fresh s).resolve request.1 request.2).1) ∧
      List.Forall₂ (fun request answer ↦ s.Resolves request.1 request.2 answer) requests
        ((fresh s).run requests).1 ∧
      ((fresh s).run requests).2.Serves s ∧
      ∀ path found, (((fresh s).run requests).2.resolve true path).1 = .ok found →
        (((fresh s).run requests).2.resolve false path).1 = .ok found := by
  obtain ⟨hanswers, hserves⟩ := (serves_fresh s).run requests
  refine ⟨?_, ?_, hserves, ?_⟩
  · rw [hanswers]
    refine List.map_congr_left fun request _ ↦ ?_
    rw [((serves_fresh s).resolve request.1 request.2).1]
  · rw [hanswers, List.forall₂_map_right_iff, List.forall₂_same]
    exact fun request _ ↦ Schema.resolves_resolve s request.1 request.2
  · intro path found hfound
    rw [(hserves.resolve true path).1] at hfound
    rw [(hserves.resolve false path).1]
    exact Schema.resolve_eq_ok_of_exact hfound false

/-- A schema of two fields whose paths differ in case only. -/
def pair : Schema (Bool × Bool) :=
  .ofRegistrations "Pair" [.scalar "Value" Prod.fst, .scalar "VALUE" Prod.snd]

/-- Spellings of the two paths, and a path of no field. -/
def pairRequests : List (Bool × String) :=
  [(false, "value"), (false, " vAlUe "), (true, "value"), (false, "VALUE"), (false, "none")]

theorem run_fresh_pair :
    ((fresh pair).run pairRequests).1.map (fun answer ↦ answer.toOption.map Resolved.path)
        = [some "Value", some "Value", none, some "VALUE", none] ∧
      ((fresh pair).run pairRequests).2.memo = [("value", 0)] ∧
      ∃ found, found.path = "VALUE" ∧
        (((fresh pair).run pairRequests).2.resolve true "VALUE").1 = .ok found ∧
        (((fresh pair).run pairRequests).2.resolve false "VALUE").1 = .ok found :=
  ⟨rfl, rfl, _, rfl, rfl, (run_fresh pair pairRequests).2.2.2 "VALUE" _ rfl⟩

end Resolver

end RecordFilter
