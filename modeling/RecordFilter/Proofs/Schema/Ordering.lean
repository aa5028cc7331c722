import RecordFilter.Proofs.Outcome
import RecordFilter.Proofs.Scalar.Order
import RecordFilter.Proofs.Schema.Matching
import RecordFilter.Schema.Selection

/-!
# The order of data

What a property reads holds values of one kind, whatever else its shape says, or
at least values on one line.  Data on a line without floating-point numbers
compare as their ranks: null below everything else, and lists by their first
difference or else by their length, with null below all values.  The order of
such data is a total preorder for that reason (`Shape.isPreordered`).
-/

namespace RecordFilter

/-! ## Values of a kind -/

namespace Shape

/-- Whether all values in a datum are of the type of scalars that the shape holds. -/
def Covers (shape : Shape) (d : Datum) : Prop := ∀ v, some v ∈ d.elements → shape.element.Covers v

/-- Whether all values in a datum stand on the line of those that the shape holds, as an integer of
either type does in a shape of integers. -/
def Aligns (shape : Shape) (d : Datum) : Prop :=
  ∀ v, some v ∈ d.elements → v.carrier.line = shape.element.carrier.line

variable {shape : Shape}

theorem Covers.aligns {d : Datum} (h : shape.Covers d) : shape.Aligns d := fun v hv ↦
  congrArg Carrier.line (h v hv)

theorem covers_null : shape.Covers .null := by
  intro v hv
  cases hv

theorem covers_single {v : Scalar} (h : shape.element.Covers v) : shape.Covers (.single v) := by
  intro w hw
  obtain rfl : w = v := Option.some_inj.mp (List.mem_singleton.mp hw)
  exact h

theorem covers_ofOptions {vs : List (Option Scalar)}
    (h : ∀ v, some v ∈ vs → shape.element.Covers v) : shape.Covers (.ofOptions vs) := by
  intro v hv
  rw [Datum.elements_ofOptions] at hv
  exact h v hv

end Shape

namespace Json

theorem covers_of_readScalar? {k : Kind} {node : Json} {v : Scalar}
    (h : readScalar? k node = some v) : k.Covers v := by
  obtain ⟨raw, -, hraw⟩ := Option.bind_eq_some_iff.mp h
  cases hconvert : Coercion.convert raw k with
  | error e =>
    rw [hconvert] at hraw
    cases hraw
  | ok w =>
    rw [hconvert] at hraw
    cases hraw
    exact Kind.covers_of_convert hconvert

theorem covers_of_readItem? {k : Kind} {nullable : Bool} {node : Json} {v : Scalar}
    (h : readItem? k nullable node = some (some v)) : k.Covers v := by
  unfold readItem? at h
  split at h
  · split at h <;> cases h
  · obtain ⟨w, hw, heq⟩ := Option.map_eq_some_iff.mp h
    cases heq
    exact covers_of_readScalar? hw

/-- What is read of a shape is of its kind, even if names of variants repeat. -/
theorem covers_readDatum (shape : Shape) (node : Json) : shape.Covers (readDatum shape node) := by
  unfold readDatum
  split
  · split
    · next items =>
      cases hread : items.mapM (readItem? shape.element shape.admitsNull) with
      | none => exact Shape.covers_null
      | some vs =>
        refine Shape.covers_ofOptions fun v hv ↦ ?_
        obtain ⟨item, -, hitem⟩ := exists_of_mem_mapM hread hv
        exact covers_of_readItem? hitem
    · exact Shape.covers_null
  · cases hread : readScalar? shape.element node with
    | none => exact Shape.covers_null
    | some v => exact Shape.covers_single (covers_of_readScalar? hread)

end Json

/-- Whatever data of values of a kind are, a property reads, if its computed data are so too. -/
theorem Property.MadeOf.reads {Reads : Shape → Datum → Prop}
    (hcovers : ∀ {shape : Shape} {d : Datum}, shape.Covers d → Reads shape d) {ρ : Type}
    {p : Property ρ} (hp : p.MadeOf Reads) (r : ρ) : Reads p.shape (p.read r) := by
  induction hp with
  | scalar k get =>
    rw [shape_scalar]
    exact hcovers (Shape.covers_single (Kind.covers_toScalar (get r)))
  | nullable k get =>
    rw [shape_nullable, Property.nullable]
    cases hget : get r with
    | none =>
      simp only [hget]
      exact hcovers Shape.covers_null
    | some b =>
      simp only [hget]
      exact hcovers (Shape.covers_single (Kind.covers_toScalar b))
  | sequence kind k get =>
    refine hcovers fun v hv ↦ ?_
    obtain ⟨w, hw, hwv⟩ := List.mem_map.mp hv
    obtain rfl := Option.some_inj.mp hwv
    obtain ⟨b, -, rfl⟩ := List.mem_map.mp hw
    rw [shape_sequence, element_sequence]
    exact Kind.covers_toScalar b
  | nullableSequence kind k get =>
    refine hcovers (Shape.covers_ofOptions fun v hv ↦ ?_)
    obtain ⟨x, -, hx⟩ := List.mem_map.mp hv
    obtain ⟨b, -, rfl⟩ := Option.map_eq_some_iff.mp hx
    rw [shape_nullableSequence, element_nullableSequence]
    exact Kind.covers_toScalar b
  | computed shape read h => exact h r
  | document path shape =>
    rw [read_computed, RecordModel.read]
    cases hfollow : r.follow? (RecordModel.segments path) with
    | none => exact hcovers Shape.covers_null
    | some node => exact hcovers (Json.covers_readDatum shape node)
  | ofPart part _ ih => exact ih (part r)

/-- A property reads values of its kind, if its computed data are such values. -/
theorem Property.MadeOf.covers {ρ : Type} {p : Property ρ} (hp : p.MadeOf Shape.Covers) (r : ρ) :
    p.shape.Covers (p.read r) :=
  hp.reads id r

/-! ## Ranks of data -/

namespace Datum

/-- What decides between data: nothing for null, and otherwise the ranks of the elements. -/
def rank : Datum → Option (List (Option Rank))
  | null => none
  | d => some (d.elements.map (Option.map Scalar.rank))

theorem rank_of_ne_null {d : Datum} (h : d ≠ .null) :
    d.rank = some (d.elements.map (Option.map Scalar.rank)) := by
  cases d with
  | null => exact absurd rfl h
  | _ => rfl

section Order

variable {line : Carrier} (hline : line ≠ .float)

include hline

theorem compareElements_eq_rank {x y : Option Scalar} (hx : ∀ v, x = some v → v.carrier.line = line)
    (hy : ∀ v, y = some v → v.carrier.line = line) :
    compareElements x y = compare (x.map Scalar.rank) (y.map Scalar.rank) := by
  cases x with
  | none => cases y <;> rfl
  | some v =>
    cases y with
    | none => rfl
    | some w =>
      have hv := hx v rfl
      have hw := hy w rfl
      rw [compareElements, Scalar.compare?_eq_rank_of_line (hv.trans hw.symm) (hv.symm ▸ hline)]
      rfl

theorem compareLists_eq_rank {xs ys : List (Option Scalar)}
    (hxs : ∀ v, some v ∈ xs → v.carrier.line = line)
    (hys : ∀ v, some v ∈ ys → v.carrier.line = line) :
    compareLists xs ys
      = compare (xs.map (Option.map Scalar.rank)) (ys.map (Option.map Scalar.rank)) := by
  induction xs generalizing ys with
  | nil => cases ys <;> rfl
  | cons x xs ih =>
    cases ys with
    | nil => rfl
    | cons y ys =>
      have hfirst : compareElements x y = compare (x.map Scalar.rank) (y.map Scalar.rank) :=
        compareElements_eq_rank hline (fun v hv ↦ hxs v (hv ▸ List.mem_cons_self))
          fun v hv ↦ hys v (hv ▸ List.mem_cons_self)
      have hrest := ih (fun v hv ↦ hxs v (List.mem_cons_of_mem _ hv))
        fun v hv ↦ hys v (List.mem_cons_of_mem _ hv)
      rw [compareLists, hfirst, hrest, List.map_cons, List.map_cons, List.compare_cons_cons]

end Order

/-- Data on one line compare as their ranks. -/
theorem order_eq_rank {shape : Shape} (hk : shape.element.carrier ≠ .float) {d e : Datum}
    (hd : shape.Aligns d) (he : shape.Aligns e) : d.order e = compare d.rank e.rank := by
  by_cases hdn : d = .null
  · subst hdn
    cases e <;> rfl
  · by_cases hen : e = .null
    · subst hen
      cases d with
      | null => exact absurd rfl hdn
      | _ => rfl
    · have horder : d.order e = compareLists d.elements e.elements := by
        cases d with
        | null => exact absurd rfl hdn
        | _ =>
          cases e with
          | null => exact absurd rfl hen
          | _ => rfl
      rw [horder, compareLists_eq_rank (Carrier.line_eq_float_iff.not.mpr hk) hd he,
        rank_of_ne_null hdn, rank_of_ne_null hen]
      rfl

end Datum

theorem Kind.carrier_ne_float {k : Kind} (h32 : k ≠ .float32) (h64 : k ≠ .float64) :
    k.carrier ≠ .float := by
  cases k with
  | float32 => exact absurd rfl h32
  | float64 => exact absurd rfl h64
  | _ => rintro ⟨⟩

/-- What a property reads is ordered in full, unless it is of floating-point numbers. -/
theorem Property.MadeOf.transCmp_order {ρ : Type} {p : Property ρ} (hp : p.MadeOf Shape.Covers)
    (hk : p.shape.element.carrier ≠ .float) :
    Std.TransCmp fun a b ↦ (p.read a).order (p.read b) := by
  have hrank : (fun a b ↦ (p.read a).order (p.read b)) = compareOn fun r ↦ (p.read r).rank := by
    funext a b
    exact Datum.order_eq_rank hk (hp.covers a).aligns (hp.covers b).aligns
  rw [hrank]
  infer_instance

/-! ## The laws of the order -/

/-- What lists have in common in front makes no difference. -/
theorem compare_append_left {α : Type} [Ord α] [Std.ReflOrd α] (xs ys zs : List α) :
    compare (xs ++ ys) (xs ++ zs) = compare ys zs := by
  induction xs with
  | nil => rfl
  | cons x xs ih =>
    rw [List.cons_append, List.cons_append, List.compare_cons_cons, Std.ReflOrd.compare_self,
      Ordering.eq_then, ih]

namespace Datum

theorem ne_null_of_elements {d : Datum} (h : d.elements ≠ []) : d ≠ .null := by
  rintro rfl
  exact h rfl

theorem null_order {d : Datum} (h : d ≠ .null) : Datum.null.order d = .lt := by
  cases d with
  | null => exact absurd rfl h
  | _ => rfl

section Laws

variable {shape : Shape} (hk : shape.element.carrier ≠ .float) {d e : Datum}

include hk

theorem order_swap (hd : shape.Aligns d) (he : shape.Aligns e) :
    e.order d = (d.order e).swap := by
  rw [order_eq_rank hk hd he, order_eq_rank hk he hd]
  exact Std.OrientedOrd.eq_swap

/-- Elements that data have in common in front make no difference to their order. -/
theorem order_of_elements_append (hd : shape.Aligns d) (he : shape.Aligns e) (hdn : d ≠ .null)
    (hen : e ≠ .null) {xs ys zs : List (Option Scalar)} (hds : d.elements = xs ++ ys)
    (hes : e.elements = xs ++ zs) :
    d.order e = compare (ys.map (Option.map Scalar.rank)) (zs.map (Option.map Scalar.rank)) := by
  rw [← compare_append_left (xs.map (Option.map Scalar.rank)), ← List.map_append,
    ← List.map_append, ← hds, ← hes, order_eq_rank hk hd he, rank_of_ne_null hdn,
    rank_of_ne_null hen]
  rfl

theorem order_of_first_null (hd : shape.Aligns d) (he : shape.Aligns e) {v : Scalar}
    {xs ys zs : List (Option Scalar)} (hds : d.elements = xs ++ none :: ys)
    (hes : e.elements = xs ++ some v :: zs) : d.order e = .lt := by
  have hdn : d ≠ .null := ne_null_of_elements (hds ▸ List.append_ne_nil_of_right_ne_nil _ nofun)
  have hen : e ≠ .null := ne_null_of_elements (hes ▸ List.append_ne_nil_of_right_ne_nil _ nofun)
  rw [order_of_elements_append hk hd he hdn hen hds hes]
  rfl

theorem order_of_prefix (he : shape.Aligns e) (hfront : d.elements <+: e.elements)
    (hne : d.elements ≠ e.elements) : d.order e = .lt := by
  obtain ⟨ys, hes⟩ := hfront
  cases ys with
  | nil => exact absurd ((List.append_nil _).symm.trans hes) hne
  | cons y ys =>
    have hen : e ≠ .null := ne_null_of_elements (hes ▸ List.append_ne_nil_of_right_ne_nil _ nofun)
    -- null has no elements, but is not ordered by them
    by_cases hdn : d = .null
    · subst hdn
      exact null_order hen
    · have hd : shape.Aligns d := fun v hv ↦ he v (hes ▸ List.mem_append_left _ hv)
      rw [order_of_elements_append hk hd he hdn hen (List.append_nil _).symm hes.symm]
      rfl

end Laws

end Datum

namespace Shape

/-- What is asked of the order of the data of a shape. -/
structure IsPreordered (shape : Shape) : Prop where
  /-- The properties of the shape read such data. -/
  reads : ∀ {ρ : Type} {p : Property ρ}, p.shape = shape → p.MadeOf Aligns →
    ∀ r, shape.Aligns (p.read r)
  refl : ∀ {d : Datum}, shape.Aligns d → d.order d = .eq
  total : ∀ {d e : Datum}, shape.Aligns d → shape.Aligns e →
    (d.order e).isLE = true ∨ (e.order d).isLE = true
  trans : ∀ {d e f : Datum}, shape.Aligns d → shape.Aligns e → shape.Aligns f →
    (d.order e).isLE = true → (e.order f).isLE = true → (d.order f).isLE = true
  swap : ∀ {d e : Datum}, shape.Aligns d → shape.Aligns e → e.order d = (d.order e).swap
  /-- Null comes before everything else. -/
  null_lt : ∀ {d : Datum}, d ≠ .null → Datum.null.order d = .lt
  /-- A null comes before every value, behind whatever elements the lists have in common. -/
  none_lt : ∀ {d e : Datum} {v : Scalar} {xs ys zs : List (Option Scalar)}, shape.Aligns d →
    shape.Aligns e → d.elements = xs ++ none :: ys → e.elements = xs ++ some v :: zs →
    d.order e = .lt
  /-- A list comes before those that go on after it. -/
  prefix_lt : ∀ {d e : Datum}, shape.Aligns e → d.elements <+: e.elements →
    d.elements ≠ e.elements → d.order e = .lt

/-- The data of a shape are ordered in full, unless they are floating-point numbers. -/
theorem isPreordered {shape : Shape} (h32 : shape.element ≠ .float32)
    (h64 : shape.element ≠ .float64) : shape.IsPreordered := by
  have hk := Kind.carrier_ne_float h32 h64
  constructor
  case reads =>
    rintro ρ p rfl hp r
    exact hp.reads Covers.aligns r
  case refl =>
    intro d hd
    rw [Datum.order_eq_rank hk hd hd, Std.ReflOrd.compare_self]
  case total =>
    intro d e hd he
    rw [Datum.order_swap hk hd he]
    cases d.order e <;> simp
  case trans =>
    intro d e f hd he hf hde hef
    rw [Datum.order_eq_rank hk hd he] at hde
    rw [Datum.order_eq_rank hk he hf] at hef
    rw [Datum.order_eq_rank hk hd hf]
    exact Std.TransOrd.isLE_trans hde hef
  case swap => exact fun hd he ↦ Datum.order_swap hk hd he
  case null_lt => exact Datum.null_order
  case none_lt => exact fun hd he ↦ Datum.order_of_first_null hk hd he
  case prefix_lt => exact fun he ↦ Datum.order_of_prefix hk he

/-- From null over the list of none to lists with a null in place of a number and with one more. -/
theorem isPreordered_integers :
    Datum.null.order (.many []) = .lt ∧
      (Datum.many []).order (.optional [some (.int 5), none]) = .lt ∧
      (Datum.optional [some (.int 5), none]).order (.many [.int 5, .int (-7)]) = .lt := by
  have h : (Shape.nullableSequence .collection .int64).IsPreordered := isPreordered nofun nofun
  have hlist : (Shape.nullableSequence .collection .int64).Aligns
      (.optional [some (.int 5), none]) := by
    rintro v (_ | ⟨_, _ | ⟨_, ⟨⟩⟩⟩)
    rfl
  have hnumbers : (Shape.nullableSequence .collection .int64).Aligns
      (.many [.int 5, .int (-7)]) := by
    rintro v (_ | ⟨_, _ | ⟨_, ⟨⟩⟩⟩) <;> rfl
  have hcommon : (Datum.optional [some (.int 5), none]).elements = [some (.int 5)] ++ [none] := rfl
  exact ⟨h.null_lt nofun, h.prefix_lt hlist List.nil_prefix nofun,
    h.none_lt hlist hnumbers hcommon rfl⟩

end Shape

end RecordFilter
