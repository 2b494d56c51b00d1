import RecordMapper.Declaration.FieldShape
import RecordMapper.Proofs.Declaration.Literal

set_option autoImplicit false

/-!
Which types fields may have. A field holds a scalar, bytes, sixteen bytes or a collection, and an
option of one of these is optional. The forms exclude one another, so a type has one shape at most.
-/

namespace RecordMapper.Declaration

/-! ## Forms -/

/-- A path whose last segment is a name without arguments. -/
def TypeExpr.EndsIn (name : String) (type : TypeExpr) : Prop :=
  ∃ qualifier, type = .path qualifier name .none

/-- A path whose last segment is a name with one type as its only argument. -/
def TypeExpr.Wraps (wrapper : String) (type inner : TypeExpr) : Prop :=
  ∃ qualifier colons comma, type = .path qualifier wrapper (.angled colons [.type inner comma])

/-- What a field of a type holds, if the type is no option. -/
inductive TypeExpr.Contains : TypeExpr → FieldContent → Prop where
  | scalar {type : TypeExpr} {kind : ColumnKind} :
      kind ≠ .blob → kind ≠ .uuid → type.EndsIn kind.typeName → Contains type (.column kind)
  | bytes {type item : TypeExpr} :
      type.Wraps "Vec" item → item.EndsIn "u8" → Contains type (.column .blob)
  | uuid {element : TypeExpr} {length : Token} :
      element.EndsIn "u8" → length.IsNatural 16 →
      Contains (.array element [length]) (.column .uuid)
  | collection {type item : TypeExpr} :
      type.Wraps "Vec" item → ¬item.EndsIn "u8" → Contains type (.collection item)

/-- The shape of a field of a type. Only what is no option itself can be optional. -/
inductive TypeExpr.Shapes : TypeExpr → FieldShape → Prop where
  | required {type : TypeExpr} {content : FieldContent} :
      type.Contains content → Shapes type { content, optional := false }
  | optional {type inner : TypeExpr} {content : FieldContent} :
      type.Wraps "Option" inner → inner.Contains content →
      Shapes type { content, optional := true }

namespace TypeExpr

variable {type inner item : TypeExpr} {name wrapper : String} {kind : ColumnKind}
  {content : FieldContent} {shape : FieldShape}

theorem plainName?_eq_some : type.plainName? = some name ↔ type.EndsIn name := by
  constructor
  · intro isName
    unfold plainName? at isName
    split at isName
    · cases isName
      exact ⟨_, rfl⟩
    · cases isName
  · rintro ⟨qualifier, rfl⟩
    rfl

theorem wrapped?_eq_some : type.wrapped? wrapper = some inner ↔ type.Wraps wrapper inner := by
  constructor
  · intro isWrapped
    unfold wrapped? at isWrapped
    split at isWrapped
    · split at isWrapped
      · rename_i isWrapper
        cases isWrapped
        exact ⟨_, _, _, by rw [isWrapper]⟩
      · cases isWrapped
    · cases isWrapped
  · rintro ⟨qualifier, colons, comma, rfl⟩
    rw [wrapped?, if_pos rfl]

theorem wrapped?_eq_none : type.wrapped? wrapper = none ↔ ∀ inner, ¬type.Wraps wrapper inner := by
  simp only [Option.eq_none_iff_forall_ne_some, ne_eq, wrapped?_eq_some]

theorem isByte_iff : type.isByte = true ↔ type.EndsIn "u8" := by
  rw [isByte, beq_iff_eq, plainName?_eq_some]

theorem isUuid_iff :
    type.isUuid = true ↔
      ∃ element length, type = .array element [length] ∧ element.EndsIn "u8" ∧
        length.IsNatural 16 := by
  constructor
  · intro isUuid
    unfold TypeExpr.isUuid at isUuid
    split at isUuid
    · rename_i element length
      obtain ⟨isByte, sixteen⟩ := Bool.and_eq_true_iff.mp isUuid
      exact ⟨element, length, rfl, isByte_iff.mp isByte,
        Token.natural?_eq_some.mp (eq_of_beq sixteen)⟩
    · cases isUuid
  · rintro ⟨element, length, rfl, isByte, sixteen⟩
    rw [TypeExpr.isUuid, isByte_iff.mpr isByte, Token.natural?_eq_some.mpr sixteen]
    rfl

/-- The scalars are the kinds that have a native type with a plain name. -/
theorem lookup_scalars :
    scalars.lookup name = some kind ↔ kind ≠ .blob ∧ kind ≠ .uuid ∧ name = kind.typeName := by
  constructor
  · intro found
    obtain ⟨before, after, same, -⟩ := List.lookup_eq_some_iff.mp found
    have member : (name, kind) ∈ scalars := by simp [same]
    have each : ∀ entry ∈ scalars,
        entry.2 ≠ .blob ∧ entry.2 ≠ .uuid ∧ entry.1 = entry.2.typeName := by decide
    exact each (name, kind) member
  · rintro ⟨noBytes, noUuid, rfl⟩
    cases kind with
    | blob => exact absurd rfl noBytes
    | uuid => exact absurd rfl noUuid
    | _ => decide

theorem scalar_iff :
    type.plainName?.bind (List.lookup · scalars) = some kind ↔
      kind ≠ .blob ∧ kind ≠ .uuid ∧ type.EndsIn kind.typeName := by
  simp only [Option.bind_eq_some_iff, plainName?_eq_some, lookup_scalars]
  constructor
  · rintro ⟨name, endsIn, noBytes, noUuid, rfl⟩
    exact ⟨noBytes, noUuid, endsIn⟩
  · rintro ⟨noBytes, noUuid, endsIn⟩
    exact ⟨_, endsIn, noBytes, noUuid, rfl⟩

/-! ## Forms that exclude one another -/

theorem Wraps.unique {other : TypeExpr} (wraps : type.Wraps wrapper inner)
    (again : type.Wraps name other) : wrapper = name ∧ inner = other := by
  obtain ⟨qualifier, colons, comma, rfl⟩ := wraps
  obtain ⟨_, _, _, same⟩ := again
  injection same with _ sameName sameArguments
  injection sameArguments with _ sameItems
  injection sameItems with sameItem _
  injection sameItem with sameInner _
  exact ⟨sameName, sameInner⟩

theorem EndsIn.not_wraps (endsIn : type.EndsIn name) : ¬type.Wraps wrapper inner := by
  obtain ⟨qualifier, rfl⟩ := endsIn
  rintro ⟨_, _, _, same⟩
  cases same

/-- An option holds nothing of its own. -/
theorem Contains.not_option (contains : type.Contains content) : ¬type.Wraps "Option" inner := by
  cases contains with
  | scalar _ _ endsIn => exact endsIn.not_wraps
  | bytes wraps _ => exact fun again => absurd (wraps.unique again).1 (by decide)
  | uuid _ _ =>
      rintro ⟨_, _, _, same⟩
      cases same
  | collection wraps _ => exact fun again => absurd (wraps.unique again).1 (by decide)

/-! ## Shapes -/

theorem content_vec (wraps : type.Wraps "Vec" item) :
    type.content = .ok content ↔ type.Contains content := by
  rw [TypeExpr.content, wrapped?_eq_some.mpr wraps]
  dsimp only
  rw [Except.ok.injEq]
  constructor
  · rintro rfl
    split
    · rename_i isByte
      exact .bytes wraps (isByte_iff.mp isByte)
    · rename_i isByte
      exact .collection wraps (mt isByte_iff.mpr isByte)
  · intro contains
    cases contains with
    | scalar _ _ endsIn => exact absurd wraps endsIn.not_wraps
    | bytes again isByte =>
        obtain rfl := (again.unique wraps).2
        rw [if_pos (isByte_iff.mpr isByte)]
    | uuid _ _ =>
        obtain ⟨_, _, _, same⟩ := wraps
        cases same
    | collection again isByte =>
        obtain rfl := (again.unique wraps).2
        rw [if_neg (mt isByte_iff.mp isByte)]

theorem content_ok_iff : type.content = .ok content ↔ type.Contains content := by
  cases isVec : type.wrapped? "Vec" with
  | some item => exact content_vec (wrapped?_eq_some.mp isVec)
  | none =>
      have noVec := wrapped?_eq_none.mp isVec
      rw [TypeExpr.content, isVec]
      dsimp only
      constructor
      · intro read
        split at read
        · rename_i isUuid
          cases read
          obtain ⟨element, length, rfl, isByte, sixteen⟩ := isUuid_iff.mp isUuid
          exact .uuid isByte sixteen
        · split at read
          · rename_i isScalar
            cases read
            obtain ⟨noBytes, noUuid, endsIn⟩ := scalar_iff.mp isScalar
            exact .scalar noBytes noUuid endsIn
          · cases read
      · intro contains
        cases contains with
        | scalar noBytes noUuid endsIn =>
            have noArray : ¬type.isUuid = true := by
              obtain ⟨qualifier, rfl⟩ := endsIn
              nofun
            rw [if_neg noArray, scalar_iff.mpr ⟨noBytes, noUuid, endsIn⟩]
        | bytes wraps _ => exact absurd wraps (noVec _)
        | uuid isByte sixteen => rw [if_pos (isUuid_iff.mpr ⟨_, _, rfl, isByte, sixteen⟩)]
        | collection wraps _ => exact absurd wraps (noVec _)

theorem shape_option (wraps : type.Wraps "Option" inner)
    (single : ∀ nested, ¬inner.Wraps "Option" nested) :
    type.shape = inner.content.map fun content => { content, optional := true } := by
  rw [TypeExpr.shape, wrapped?_eq_some.mpr wraps]
  dsimp only
  rw [wrapped?_eq_none.mpr single]

theorem shape_nested {nested : TypeExpr} (wraps : type.Wraps "Option" inner)
    (again : inner.Wraps "Option" nested) : type.shape = .error .nestedOption := by
  rw [TypeExpr.shape, wrapped?_eq_some.mpr wraps]
  dsimp only
  rw [wrapped?_eq_some.mpr again]

theorem shape_required (single : ∀ inner, ¬type.Wraps "Option" inner) :
    type.shape = type.content.map fun content => { content } := by
  rw [TypeExpr.shape, wrapped?_eq_none.mpr single]

theorem map_content_ok_iff {optional : Bool} :
    (type.content.map fun content => ({ content, optional } : FieldShape)) = .ok shape ↔
      ∃ content, type.Contains content ∧ shape = { content, optional } := by
  cases read : type.content with
  | error error =>
      refine iff_of_false nofun ?_
      rintro ⟨content, contains, -⟩
      rw [content_ok_iff.mpr contains] at read
      cases read
  | ok content =>
      have contains := content_ok_iff.mp read
      constructor
      · rintro ⟨⟩
        exact ⟨content, contains, rfl⟩
      · rintro ⟨other, again, rfl⟩
        rw [content_ok_iff.mpr again] at read
        cases read
        rfl

theorem shape_ok_iff : type.shape = .ok shape ↔ type.Shapes shape := by
  cases isOption : type.wrapped? "Option" with
  | none =>
      have single := wrapped?_eq_none.mp isOption
      rw [shape_required single, map_content_ok_iff]
      constructor
      · rintro ⟨content, contains, rfl⟩
        exact .required contains
      · rintro (contains | ⟨wraps, -⟩)
        · exact ⟨_, contains, rfl⟩
        · exact absurd wraps (single _)
  | some inner =>
      have wraps := wrapped?_eq_some.mp isOption
      have whole : type.Shapes shape ↔
          ∃ content, inner.Contains content ∧ shape = { content, optional := true } := by
        constructor
        · rintro (contains | ⟨again, contains⟩)
          · exact absurd wraps contains.not_option
          · obtain rfl := (again.unique wraps).2
            exact ⟨_, contains, rfl⟩
        · rintro ⟨content, contains, rfl⟩
          exact .optional wraps contains
      rw [whole]
      cases isNested : inner.wrapped? "Option" with
      | none => rw [shape_option wraps (wrapped?_eq_none.mp isNested), map_content_ok_iff]
      | some nested =>
          have again := wrapped?_eq_some.mp isNested
          rw [shape_nested wraps again]
          refine iff_of_false nofun ?_
          rintro ⟨content, contains, -⟩
          exact contains.not_option again

theorem content_error {error : ShapeError} (failed : type.content = .error error) :
    error = .unsupported := by
  unfold TypeExpr.content at failed
  split at failed
  · cases failed
  · split at failed
    · cases failed
    · split at failed
      · cases failed
      · exact (Except.error.inj failed).symm

theorem shape_nested_iff :
    type.shape = .error .nestedOption ↔
      ∃ inner nested, type.Wraps "Option" inner ∧ inner.Wraps "Option" nested := by
  have unnested {inner : TypeExpr} {optional : Bool} :
      (inner.content.map fun content => ({ content, optional } : FieldShape)) ≠
        .error .nestedOption := by
    intro failed
    cases read : inner.content with
    | ok content => simp [read, Except.map] at failed
    | error error =>
        rw [read, content_error read] at failed
        cases failed
  constructor
  · intro failed
    cases isOption : type.wrapped? "Option" with
    | none => exact absurd (shape_required (wrapped?_eq_none.mp isOption) ▸ failed) unnested
    | some inner =>
        have wraps := wrapped?_eq_some.mp isOption
        cases isNested : inner.wrapped? "Option" with
        | none =>
            exact absurd (shape_option wraps (wrapped?_eq_none.mp isNested) ▸ failed) unnested
        | some nested => exact ⟨inner, nested, wraps, wrapped?_eq_some.mp isNested⟩
  · rintro ⟨inner, nested, wraps, again⟩
    exact shape_nested wraps again

/-- A type has the shape that its form gives it and is refused where it has no such form, as an
option of an option, for which there is a message of its own. -/
theorem shape_exact (type : TypeExpr) :
    (∀ shape, type.shape = .ok shape ↔ type.Shapes shape) ∧
      ((∃ error, type.shape = .error error) ↔ ¬∃ shape, type.Shapes shape) ∧
      (type.shape = .error .nestedOption ↔
        ∃ inner nested, type.Wraps "Option" inner ∧ inner.Wraps "Option" nested) := by
  refine ⟨fun shape => shape_ok_iff, ?_, shape_nested_iff⟩
  simp only [← shape_ok_iff]
  cases type.shape with
  | ok shape => simp
  | error error => simp

end TypeExpr

end RecordMapper.Declaration
