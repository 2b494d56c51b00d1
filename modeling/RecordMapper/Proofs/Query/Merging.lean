import Mathlib.Data.List.Count
import Mathlib.Data.List.Nodup
import Mathlib.Data.List.Perm.Basic
import RecordMapper.Proofs.Action
import RecordMapper.Proofs.Query.Sample

set_option autoImplicit false

/-!
Which buffered rows a root row gets. Keys of every kind but the floating-point ones are compared
for equality once they are normalized, so the rows of a root are a filter of the buffer, and root
rows with keys of their own share no buffered row.
-/

namespace RecordMapper

/-! ## Keys -/

namespace KeyKind

/-- The kinds whose keys are equal or not. The others are compared as floating-point numbers. -/
def exact : List KeyKind :=
  [.bool, .int, .uint, .text, .timestamp, .blob]

/-- The key of a row, which for NULL is `some none`. There is none where the row has no such
column or its value is not of the kind. -/
def keyOf? (kind : KeyKind) (column : String) (row : Row) : Option (Option KeyValue) :=
  (row.getByName? column).bind fun value =>
    if value.isNull then some none else (KeyValue.ofValue? kind value).map some

end KeyKind

namespace KeyValue

variable {kind : KeyKind} {value : Value} {key : KeyValue}

theorem joins_exact (exact : kind ∈ KeyKind.exact) (read : ofValue? kind value = some key)
    (other : KeyValue) : key.joins other = (key == other) := by
  cases kind with
  | float | double => simp [KeyKind.exact] at exact
  | bool | int | uint | text | timestamp | blob =>
      obtain ⟨_, _, rfl⟩ := Option.map_eq_some_iff.mp read
      rfl

theorem read_toOption (kind : KeyKind) (value : Value) :
    (read kind value).toOption =
      if value.isNull then some none else (ofValue? kind value).map some := by
  unfold read
  split
  · rfl
  · cases ofValue? kind value <;> rfl

theorem joins_of_read (exact : kind ∈ KeyKind.exact) (isRead : read kind value = .ok (some key))
    (other : KeyValue) : key.joins other = (key == other) := by
  have normalized := read_toOption kind value
  rw [isRead] at normalized
  split at normalized
  · cases normalized
  · obtain ⟨normal, isNormal, same⟩ := Option.map_eq_some_iff.mp normalized.symm
    cases same
    exact joins_exact exact isNormal other

end KeyValue

namespace JoinedRows

variable {joined : JoinedRows} {record : RecordType} {field : String} {root row : Row}
  {key : KeyValue} {rows roots : List Row}

def rootKeyOf? (joined : JoinedRows) : Row → Option (Option KeyValue) :=
  joined.keyKind.keyOf? joined.rootKey

def joinedKeyOf? (joined : JoinedRows) : Row → Option (Option KeyValue) :=
  joined.keyKind.keyOf? joined.joinedKey

/-- Whether a root row and a buffered row have the same key. NULL is no key. -/
def pairs (joined : JoinedRows) (root row : Row) : Bool :=
  match joined.rootKeyOf? root, joined.joinedKeyOf? row with
  | some (some key), some (some other) => key == other
  | _, _ => false

def partners (joined : JoinedRows) (root : Row) : List Row :=
  joined.rows.filter (joined.pairs root)

theorem pairs_null
    (isNull : joined.rootKeyOf? root = some none ∨ joined.joinedKeyOf? row = some none) :
    joined.pairs root row = false := by
  unfold pairs
  rcases isNull with isNull | isNull
  · rw [isNull]
  · rw [isNull]
    split
    · rename_i isKey
      cases isKey
    · rfl

/-! ## The rows of one root -/

theorem exists_of_keyOf {kind : KeyKind} {column : String} {found : Option KeyValue}
    (isKey : kind.keyOf? column row = some found) :
    ∃ value, row.getByName? column = some value ∧ KeyValue.read kind value = .ok found := by
  obtain ⟨value, present, isRead⟩ := Option.bind_eq_some_iff.mp isKey
  rw [← KeyValue.read_toOption] at isRead
  refine ⟨value, present, ?_⟩
  cases outcome : KeyValue.read kind value with
  | error error =>
      rw [outcome] at isRead
      cases isRead
  | ok other =>
      rw [outcome] at isRead
      cases isRead
      rfl

theorem matching_ok (exact : joined.keyKind ∈ KeyKind.exact)
    (isKey : joined.rootKeyOf? root = some (some key))
    (readable : ∀ row ∈ rows, (joined.joinedKeyOf? row).isSome) :
    joined.matching record field key rows = .ok (rows.filter (joined.pairs root)) := by
  induction rows with
  | nil => rfl
  | cons row rest ih =>
      obtain ⟨rowReadable, restReadable⟩ := List.forall_mem_cons.mp readable
      obtain ⟨found, isFound⟩ := Option.isSome_iff_exists.mp rowReadable
      obtain ⟨value, present, isRead⟩ := exists_of_keyOf isFound
      obtain ⟨rootValue, -, rootRead⟩ := exists_of_keyOf isKey
      have decided : found.any key.joins = joined.pairs root row := by
        unfold pairs
        rw [isKey, isFound]
        cases found with
        | none => rfl
        | some other => exact KeyValue.joins_of_read exact rootRead other
      unfold matching
      rw [present]
      simp only [isRead, ih restReadable, decided, List.filter_cons]
      rfl

theorem matching_error (record : RecordType) (field : String) (key : KeyValue)
    (unreadable : ∃ row ∈ rows, joined.joinedKeyOf? row = none) :
    ∃ error, joined.matching record field key rows = .error error := by
  induction rows with
  | nil =>
      obtain ⟨row, member, -⟩ := unreadable
      cases member
  | cons row rest ih =>
      unfold matching
      cases present : row.getByName? joined.joinedKey with
      | none => exact ⟨_, rfl⟩
      | some value =>
          cases outcome : KeyValue.read joined.keyKind value with
          | error error => exact ⟨error, by simp [outcome]⟩
          | ok found =>
              -- The scan gets past this row, so the unreadable one is among the rest.
              have isFound : joined.joinedKeyOf? row = some found := by
                unfold joinedKeyOf? KeyKind.keyOf?
                rw [present, Option.bind_some, ← KeyValue.read_toOption, outcome]
                rfl
              obtain ⟨other, member, isNone⟩ := unreadable
              rcases List.mem_cons.mp member with rfl | inRest
              · rw [isFound] at isNone
                cases isNone
              · obtain ⟨error, failed⟩ := ih ⟨other, inRest, isNone⟩
                exact ⟨error, by simp [outcome, failed, Except.map]⟩

theorem relatedTo_ok (exact : joined.keyKind ∈ KeyKind.exact)
    (rootReadable : (joined.rootKeyOf? root).isSome)
    (readable : ∀ row ∈ joined.rows, (joined.joinedKeyOf? row).isSome) :
    joined.relatedTo record field root = .ok (joined.partners root) := by
  obtain ⟨found, isFound⟩ := Option.isSome_iff_exists.mp rootReadable
  obtain ⟨value, present, isRead⟩ := exists_of_keyOf isFound
  unfold relatedTo
  rw [present]
  simp only [isRead]
  cases found with
  | none =>
      have alone : ∀ row, joined.pairs root row = false := by
        intro row
        unfold pairs
        rw [isFound]
      simp [partners, alone]
  | some key => exact matching_ok exact isFound readable

theorem relatedTo_error (isKey : joined.rootKeyOf? root = some (some key))
    (unreadable : ∃ row ∈ joined.rows, joined.joinedKeyOf? row = none) :
    ∃ error, joined.relatedTo record field root = .error error := by
  obtain ⟨value, present, isRead⟩ := exists_of_keyOf isKey
  obtain ⟨error, failed⟩ := matching_error record field key unreadable
  refine ⟨error, ?_⟩
  unfold relatedTo
  rw [present]
  simp only [isRead]
  exact failed

/-! ## The rows of all roots -/

/-- The keys of root rows other than NULL. -/
def rootKeys (joined : JoinedRows) (roots : List Row) : List KeyValue :=
  roots.filterMap fun root => (joined.rootKeyOf? root).join

/-- Whether the key of a buffered row is the key of some root row. -/
def isClaimed (joined : JoinedRows) (roots : List Row) (row : Row) : Bool :=
  (joined.joinedKeyOf? row).join.any (joined.rootKeys roots).contains

theorem isClaimed_iff :
    joined.isClaimed roots row = true ↔
      ∃ key ∈ joined.rootKeys roots, joined.joinedKeyOf? row = some (some key) := by
  unfold isClaimed
  rcases joined.joinedKeyOf? row with _ | _ | other
  · simp
  · simp
  · simp

theorem countP_pairs (joined : JoinedRows) (roots : List Row) (row : Row) :
    roots.countP (joined.pairs · row) =
      match (joined.joinedKeyOf? row).join with
      | none => 0
      | some key => (joined.rootKeys roots).count key := by
  induction roots with
  | nil => cases (joined.joinedKeyOf? row).join <;> rfl
  | cons root roots ih =>
      rw [List.countP_cons, ih]
      unfold pairs rootKeys
      rw [List.filterMap_cons]
      rcases joined.joinedKeyOf? row with _ | _ | other
      · simp
      · simp
      · rcases joined.rootKeyOf? root with _ | _ | key
        · simp
        · simp
        · simp [List.count_cons]

theorem countP_le_one (different : (joined.rootKeys roots).Nodup) (row : Row) :
    roots.countP (joined.pairs · row) ≤ 1 := by
  rw [countP_pairs]
  split
  · exact Nat.zero_le 1
  · exact List.nodup_iff_count_le_one.mp different _

theorem countP_eq_one_iff (different : (joined.rootKeys roots).Nodup) (row : Row) :
    roots.countP (joined.pairs · row) = 1 ↔ joined.isClaimed roots row = true := by
  rw [countP_pairs]
  unfold isClaimed
  split
  · rename_i isNone
    simp [isNone]
  · rename_i key isKey
    rw [isKey, Option.any_some, List.contains_iff_mem]
    constructor
    · intro once
      exact List.count_pos_iff.mp (by omega)
    · intro member
      exact List.count_eq_one_of_mem different member

theorem count_partners (joined : JoinedRows) (root row : Row) :
    (joined.partners root).count row =
      if joined.pairs root row then joined.rows.count row else 0 := by
  unfold partners
  split
  · rename_i paired
    exact List.count_filter paired
  · rename_i unpaired
    refine List.count_eq_zero.mpr fun member => ?_
    exact unpaired (List.mem_filter.mp member).2

theorem count_flatMap_partners (joined : JoinedRows) (roots : List Row) (row : Row) :
    (roots.flatMap joined.partners).count row =
      roots.countP (joined.pairs · row) * joined.rows.count row := by
  induction roots with
  | nil => simp
  | cons root roots ih =>
      rw [List.flatMap_cons, List.count_append, ih, count_partners, List.countP_cons]
      split
      · rw [Nat.succ_mul, Nat.add_comm]
      · rw [Nat.zero_add, Nat.add_zero]

theorem flatMap_partners_perm (different : (joined.rootKeys roots).Nodup) :
    (roots.flatMap joined.partners).Perm (joined.rows.filter (joined.isClaimed roots)) := by
  rw [List.perm_iff_count]
  intro row
  rw [count_flatMap_partners]
  have once := countP_eq_one_iff different row
  cases claimed : joined.isClaimed roots row with
  | true => rw [once.mpr claimed, List.count_filter claimed, Nat.one_mul]
  | false =>
      have atMostOne := countP_le_one different row
      have notOne : roots.countP (joined.pairs · row) ≠ 1 := by
        intro isOne
        rw [once.mp isOne] at claimed
        cases claimed
      have absent : row ∉ joined.rows.filter (joined.isClaimed roots) := by
        intro member
        rw [(List.mem_filter.mp member).2] at claimed
        cases claimed
      rw [show roots.countP (joined.pairs · row) = 0 by omega, Nat.zero_mul,
        List.count_eq_zero.mpr absent]

end JoinedRows

namespace MergeContext

theorem relatedRows_joined {context : MergeContext} {collection : String} {joined : JoinedRows}
    (filled : context.joined? collection = some joined) (root : Row) :
    context.relatedRows context.root collection root =
      (joined.relatedTo context.root collection root).map some := by
  unfold relatedRows
  rw [if_neg (by simp), filled]

/-- Merging neither loses, repeats nor reorders related rows. While every key can be read, a root
gets its partners in the order of the buffer, and no buffered row goes to two roots of different
keys. One buffered row whose key cannot be read fails every root that has a key. -/
theorem relatedRows_partners {context : MergeContext} {collection : String}
    {joined : JoinedRows} (filled : context.joined? collection = some joined)
    (exact : joined.keyKind ∈ KeyKind.exact) :
    ((∀ row ∈ joined.rows, (joined.joinedKeyOf? row).isSome) →
      ∀ roots : List Row, (∀ root ∈ roots, (joined.rootKeyOf? root).isSome) →
        roots.mapM (context.relatedRows context.root collection) =
            .ok (roots.map fun root => some (joined.rows.filter (joined.pairs root))) ∧
          (∀ root row, joined.rootKeyOf? root = some none ∨ joined.joinedKeyOf? row = some none →
            joined.pairs root row = false) ∧
          ((joined.rootKeys roots).Nodup →
            (∀ row, roots.countP (joined.pairs · row) ≤ 1) ∧
            (∀ row, roots.countP (joined.pairs · row) = 1 ↔
              ∃ key ∈ joined.rootKeys roots, joined.joinedKeyOf? row = some (some key)) ∧
            (roots.flatMap fun root => joined.rows.filter (joined.pairs root)).Perm
              (joined.rows.filter (joined.isClaimed roots)))) ∧
    ((∃ row ∈ joined.rows, joined.joinedKeyOf? row = none) →
      ∀ root key, joined.rootKeyOf? root = some (some key) →
        ∃ error, context.relatedRows context.root collection root = .error error) := by
  constructor
  · intro readable roots rootsReadable
    refine ⟨?_, ?_, ?_⟩
    · rw [mapM_ok_iff, List.forall₂_map_right_iff, List.forall₂_same]
      intro root member
      rw [relatedRows_joined filled,
        JoinedRows.relatedTo_ok exact (rootsReadable root member) readable]
      rfl
    · intro root row isNull
      exact JoinedRows.pairs_null isNull
    · intro different
      refine ⟨JoinedRows.countP_le_one different, ?_, JoinedRows.flatMap_partners_perm different⟩
      intro row
      rw [JoinedRows.countP_eq_one_iff different, JoinedRows.isClaimed_iff]
  · intro unreadable root key isKey
    obtain ⟨error, failed⟩ := JoinedRows.relatedTo_error isKey unreadable
    refine ⟨error, ?_⟩
    rw [relatedRows_joined filled, failed]
    rfl

end MergeContext

namespace Sample

/-- Authors whose keys come in several widths, one of them without a key. -/
def authorRows : List Row :=
  [⟨["id"], [.bigInt 1]⟩, ⟨["id"], [.null]⟩, ⟨["id"], [.unsigned 2]⟩]

def bookRow (id : Int64) (author : Value) : Row :=
  ⟨["id", "author_id"], [.bigInt id, author]⟩

/-- Books under the keys of their authors. -/
def shelf : JoinedRows where
  rootKey := "id"
  joinedKey := "author_id"
  keyKind := .int
  rows := [bookRow 10 (.int 2), bookRow 11 .null, bookRow 12 (.tinyInt 1), bookRow 13 (.bigInt 2)]

/-- The shelf with one more book, whose author is no number. -/
def damagedShelf : JoinedRows :=
  { shelf with rows := shelf.rows ++ [bookRow 14 (.text "Austen")] }

def merged (joined : JoinedRows) : MergeContext :=
  MergeContext.insert { root := author } "books" joined

end Sample

namespace MergeContext

theorem relatedRows_partners_sample :
    ((Sample.merged Sample.shelf).joined? "books" = some Sample.shelf ∧
      Sample.shelf.keyKind ∈ KeyKind.exact ∧
      (∀ row ∈ Sample.shelf.rows, (Sample.shelf.joinedKeyOf? row).isSome) ∧
      (∀ root ∈ Sample.authorRows, (Sample.shelf.rootKeyOf? root).isSome) ∧
      (Sample.shelf.rootKeys Sample.authorRows).Nodup ∧
      Sample.authorRows.mapM
          ((Sample.merged Sample.shelf).relatedRows Sample.author "books") =
        .ok [some [Sample.bookRow 12 (.tinyInt 1)], some [],
          some [Sample.bookRow 10 (.int 2), Sample.bookRow 13 (.bigInt 2)]] ∧
      (Sample.authorRows.flatMap fun root =>
          Sample.shelf.rows.filter (Sample.shelf.pairs root)).Perm
        (Sample.shelf.rows.filter (Sample.shelf.isClaimed Sample.authorRows))) ∧
    (Sample.merged Sample.damagedShelf).joined? "books" = some Sample.damagedShelf ∧
      (∃ row ∈ Sample.damagedShelf.rows, Sample.damagedShelf.joinedKeyOf? row = none) ∧
      Sample.damagedShelf.rootKeyOf? ⟨["id"], [.bigInt 1]⟩ = some (some (.int 1)) ∧
      ∃ error, (Sample.merged Sample.damagedShelf).relatedRows Sample.author "books"
        ⟨["id"], [.bigInt 1]⟩ = .error error := by
  constructor
  · have filled : (Sample.merged Sample.shelf).joined? "books" = some Sample.shelf := by
      decide
    have exact : Sample.shelf.keyKind ∈ KeyKind.exact := by decide
    have readable : ∀ row ∈ Sample.shelf.rows, (Sample.shelf.joinedKeyOf? row).isSome := by
      decide
    have rootsReadable : ∀ root ∈ Sample.authorRows, (Sample.shelf.rootKeyOf? root).isSome := by
      decide
    have different : (Sample.shelf.rootKeys Sample.authorRows).Nodup := by decide
    obtain ⟨merges, -, once⟩ :=
      (relatedRows_partners filled exact).1 readable Sample.authorRows rootsReadable
    refine ⟨filled, exact, readable, rootsReadable, different, ?_, (once different).2.2⟩
    refine merges.trans (congrArg Except.ok ?_)
    decide
  · have filled : (Sample.merged Sample.damagedShelf).joined? "books" =
        some Sample.damagedShelf := by
      decide
    have exact : Sample.damagedShelf.keyKind ∈ KeyKind.exact := by decide
    have unreadable :
        ∃ row ∈ Sample.damagedShelf.rows, Sample.damagedShelf.joinedKeyOf? row = none := by
      decide
    have isKey : Sample.damagedShelf.rootKeyOf? ⟨["id"], [.bigInt 1]⟩ = some (some (.int 1)) := by
      decide
    refine ⟨filled, unreadable, isKey, ?_⟩
    exact (relatedRows_partners filled exact).2 unreadable _ _ isKey

end MergeContext

end RecordMapper
