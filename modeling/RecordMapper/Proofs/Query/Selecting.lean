import RecordMapper.Proofs.Query.Writing
import RecordMapper.Proofs.Sql.Sentence
import RecordMapper.Query.Generation

set_option autoImplicit false

/-!
How selects are written. A select has a head, the joins that the filters force on it, the filters
and an order; each part has a relation of its own, which every successful rendering for a dialect
follows.
-/

namespace RecordMapper

/-! ## Joins -/

def Table.source (table : Table) : Sql.Source :=
  ⟨table.record.table, table.aliasName⟩

/-- The clause that joins a record's table on two equal fields. -/
inductive Scope.Links (scope : Scope) (record : RecordType) (left right : FieldRef) :
    Sql.Link → Prop where
  | on {table : Table} {leftName rightName : Sql.ColumnName} :
      scope.table? record = some table → scope.columnName? left = some leftName →
      scope.columnName? right = some rightName →
      Links scope record left right ⟨table.source, leftName, rightName⟩

inductive Scope.Reaches (scope : Scope) (record : RecordType) : List Sql.Link → Prop where
  | direct {table : Table} {join : Join} {link : Sql.Link} :
      scope.table? record = some table → table.join = some join → join.pivot = none →
      scope.Links record join.rootKey join.rootMatch link → Reaches scope record [link]
  | pivot {table : Table} {join : Join} {pivot : Pivot} {pivotLink link : Sql.Link} :
      scope.table? record = some table → table.join = some join → join.pivot = some pivot →
      scope.Links pivot.record join.rootKey join.rootMatch pivotLink →
      scope.Links record pivot.joinedKey pivot.joinedMatch link →
      Reaches scope record [pivotLink, link]

/-- The clauses that reach the root from a joined table, and the key that a pivot adds. -/
inductive Scope.Returns (scope : Scope) (root table : Table) :
    Option Sql.ColumnName → List Sql.Link → Prop where
  | direct {registered : Table} {join : Join} {link : Sql.Link} :
      scope.table? table.record = some registered → registered.join = some join →
      join.pivot = none → scope.Links root.record join.rootKey join.rootMatch link →
      Returns scope root table none [link]
  | pivot {registered : Table} {join : Join} {pivot : Pivot} {key : Sql.ColumnName}
      {pivotLink link : Sql.Link} :
      scope.table? table.record = some registered → registered.join = some join →
      join.pivot = some pivot → scope.columnName? join.rootKey = some key →
      scope.Links pivot.record pivot.joinedKey pivot.joinedMatch pivotLink →
      scope.Links root.record join.rootKey join.rootMatch link →
      Returns scope root table (some key) [pivotLink, link]

theorem Scope.lookupJoin_ok {scope : Scope} {record : RecordType} {join : Join}
    (found : scope.lookupJoin record = .ok join) :
    ∃ table, scope.table? record = some table ∧ table.join = some join := by
  unfold Scope.lookupJoin at found
  split at found
  · cases found
  · rename_i table looked
    split at found
    · rename_i attached
      cases found
      exact ⟨table, Scope.lookup_ok looked, attached⟩
    · cases found

namespace JoinClause

/-- Whether a statement on `current` must join a table because an expression names its record. -/
def isForced (root current : RecordType) (referenced : List RecordType) (table : Table) : Bool :=
  table.record ≠ root ∧ table.record ≠ current ∧ table.record ∈ referenced

end JoinClause

/-- The search for the record types that the filters name. A root alone needs none. -/
def QueryState.search (state : QueryState) : StateM Calls (List RecordType) :=
  match state.tables, state.condition? with
  | _ :: _ :: _, some condition => condition.referencedTypes
  | _, _ => pure []

inductive QueryState.Joins (state : QueryState) (root : Table) (current : RecordType)
    (calls : Calls) : List Sql.Link → Calls → Prop where
  | forced {referenced : List RecordType} {groups : List (List Sql.Link)} {after : Calls} :
      state.search.run calls = (referenced, after) →
      (∀ record ∈ referenced, (state.table? record).isSome) →
      List.Forall₂ (fun table links => state.scope.Reaches table.record links)
        (state.tables.filter (JoinClause.isForced root.record current referenced)) groups →
      Joins state root current calls groups.flatten after

namespace JoinClause

variable {dialect : Dialect} {scope : Scope} {state : QueryState}
  {draft after : Draft (List Binding)}

theorem tableReference_ok {table : Table} {text : String}
    (succeeded : (tableReference dialect.delegate table).runOn draft = (.ok text, after)) :
    after = draft ∧ text = table.source.text dialect := by
  unfold tableReference at succeeded
  obtain ⟨name, _, named, aliasing⟩ := Action.bind_ok succeeded
  obtain ⟨rfl, rfl⟩ := Rendering.quote_ok named
  obtain ⟨quotedAlias, _, aliased, finished⟩ := Action.bind_ok aliasing
  obtain ⟨rfl, rfl⟩ := Rendering.quote_ok aliased
  obtain ⟨rfl, rfl⟩ := Action.pure_ok finished
  exact ⟨rfl, (Sql.Source.text_eq dialect table.source).symm⟩

theorem on_ok {record : RecordType} {left right : FieldRef} {text : String}
    (succeeded : (on dialect.delegate scope record left right).runOn draft = (.ok text, after)) :
    after = draft ∧ ∃ link, scope.Links record left right link ∧ text = link.text dialect := by
  unfold on at succeeded
  obtain ⟨table, _, looked, referring⟩ := Action.bind_ok succeeded
  obtain ⟨rfl, reached⟩ := Action.ofOutcome_ok looked
  obtain ⟨reference, _, referred, lefting⟩ := Action.bind_ok referring
  obtain ⟨rfl, rfl⟩ := tableReference_ok referred
  obtain ⟨leftText, _, leftRendered, righting⟩ := Action.bind_ok lefting
  obtain ⟨rfl, leftName, leftFound, rfl⟩ := Expr.renderField_ok leftRendered
  obtain ⟨rightText, _, rightRendered, finished⟩ := Action.bind_ok righting
  obtain ⟨rfl, rightName, rightFound, rfl⟩ := Expr.renderField_ok rightRendered
  obtain ⟨rfl, rfl⟩ := Action.pure_ok finished
  refine ⟨rfl, _, .on (Scope.lookup_ok reached) leftFound rightFound, ?_⟩
  rw [Sql.Link.text_eq]

theorem fromRoot_ok {record : RecordType} {texts : List String}
    (succeeded : (fromRoot dialect.delegate scope record).runOn draft = (.ok texts, after)) :
    after = draft ∧
      ∃ links, scope.Reaches record links ∧ texts = links.map (·.text dialect) := by
  unfold fromRoot at succeeded
  obtain ⟨join, _, looked, reaching⟩ := Action.bind_ok succeeded
  obtain ⟨rfl, joined⟩ := Action.ofOutcome_ok looked
  obtain ⟨table, found, attached⟩ := Scope.lookupJoin_ok joined
  split at reaching
  · rename_i direct
    obtain ⟨text, _, linked, finished⟩ := Action.bind_ok reaching
    obtain ⟨rfl, link, links, rfl⟩ := on_ok linked
    obtain ⟨rfl, rfl⟩ := Action.pure_ok finished
    exact ⟨rfl, _, .direct found attached direct links, rfl⟩
  · rename_i pivot through
    obtain ⟨pivotText, _, pivotLinked, linking⟩ := Action.bind_ok reaching
    obtain ⟨rfl, pivotLink, pivotLinks, rfl⟩ := on_ok pivotLinked
    obtain ⟨text, _, linked, finished⟩ := Action.bind_ok linking
    obtain ⟨rfl, link, links, rfl⟩ := on_ok linked
    obtain ⟨rfl, rfl⟩ := Action.pure_ok finished
    exact ⟨rfl, _, .pivot found attached through pivotLinks links, rfl⟩

theorem joinedHead_ok {table : Table} {text : String}
    (succeeded : (joinedHead dialect.delegate scope table).runOn draft = (.ok text, after)) :
    after = draft ∧ ∃ root key links, scope.tables.head? = some root ∧
      scope.Returns root table key links ∧
      text = Sql.Head.text dialect ⟨table.source, key⟩ ++ Sql.linksText dialect links := by
  unfold joinedHead at succeeded
  obtain ⟨join, _, looked, heading⟩ := Action.bind_ok succeeded
  obtain ⟨rfl, joined⟩ := Action.ofOutcome_ok looked
  obtain ⟨registered, found, attached⟩ := Scope.lookupJoin_ok joined
  split at heading
  · exact (Action.throw_ok heading).elim
  · rename_i root first
    obtain ⟨quotedAlias, _, aliased, sourcing⟩ := Action.bind_ok heading
    obtain ⟨rfl, rfl⟩ := Rendering.quote_ok aliased
    obtain ⟨source, _, referred, joining⟩ := Action.bind_ok sourcing
    obtain ⟨rfl, rfl⟩ := tableReference_ok referred
    split at joining
    · rename_i direct
      obtain ⟨rootText, _, linked, finished⟩ := Action.bind_ok joining
      obtain ⟨rfl, link, links, rfl⟩ := on_ok linked
      obtain ⟨rfl, rfl⟩ := Action.pure_ok finished
      refine ⟨rfl, root, none, [link], first, .direct found attached direct links, ?_⟩
      rw [Sql.Head.text_direct]
      simp [Sql.linksText, Table.source, String.append_assoc]
    · rename_i pivot through
      obtain ⟨keyText, _, keyRendered, pivoting⟩ := Action.bind_ok joining
      obtain ⟨rfl, key, keyFound, rfl⟩ := Expr.renderField_ok keyRendered
      obtain ⟨pivotText, _, pivotLinked, rooting⟩ := Action.bind_ok pivoting
      obtain ⟨rfl, pivotLink, pivotLinks, rfl⟩ := on_ok pivotLinked
      obtain ⟨rootText, _, rootLinked, naming⟩ := Action.bind_ok rooting
      obtain ⟨rfl, rootLink, rootLinks, rfl⟩ := on_ok rootLinked
      obtain ⟨keyName, _, named, finished⟩ := Action.bind_ok naming
      obtain ⟨rfl, rfl⟩ := Rendering.quote_ok named
      obtain ⟨rfl, rfl⟩ := Action.pure_ok finished
      refine ⟨rfl, root, some key, [pivotLink, rootLink], first,
        .pivot found attached through keyFound pivotLinks rootLinks, ?_⟩
      rw [Sql.Head.text_pivot]
      simp [Sql.linksText, Table.source, String.append_assoc]

theorem checkReferenced_ok {records : List RecordType}
    (checked : checkReferenced scope records = .ok ()) :
    ∀ record ∈ records, (scope.table? record).isSome := by
  induction records with
  | nil => simp
  | cons record rest ih =>
      unfold checkReferenced at checked
      split at checked
      · rename_i table looked
        simpa [Scope.lookup_ok looked] using ih checked
      · cases checked

theorem selectForced_cons (scope : Scope) (root current : RecordType)
    (referenced : List RecordType) (table : Table) (rest : List Table) :
    selectForced scope root current referenced (table :: rest) =
      if isForced root current referenced table then
        scope.lookupJoin table.record >>= fun _ =>
          (selectForced scope root current referenced rest).map (table.record :: ·)
      else selectForced scope root current referenced rest := by
  rw [selectForced]
  split
  · rename_i kept
    have unforced : isForced root current referenced table = false := by
      simp only [isForced, decide_eq_false_iff_not]
      tauto
    rw [unforced]
    rfl
  · rename_i named
    have forced : isForced root current referenced table = true := by
      simp only [isForced, decide_eq_true_eq]
      tauto
    rw [if_pos forced]
    cases scope.lookupJoin table.record with
    | error error => rfl
    | ok join => cases selectForced scope root current referenced rest <;> rfl

theorem selectForced_ok {root current : RecordType} {referenced forced : List RecordType}
    {tables : List Table}
    (selected : selectForced scope root current referenced tables = .ok forced) :
    forced = (tables.filter (isForced root current referenced)).map (·.record) := by
  induction tables generalizing forced with
  | nil =>
      cases selected
      rfl
  | cons table rest ih =>
      rw [selectForced_cons] at selected
      split at selected
      · rename_i isForced
        obtain ⟨join, -, consed⟩ := bind_ok selected
        obtain ⟨others, selectedOthers, rfl⟩ := map_ok consed
        rw [List.filter_cons_of_pos isForced, List.map_cons, ih selectedOthers]
      · rename_i unforced
        rw [List.filter_cons_of_neg unforced, ih selected]

/-- What the checks make of the record types that a search has found. -/
def resolve (state : QueryState) (root current : RecordType) (referenced : List RecordType) :
    Except Error (List RecordType) := do
  checkReferenced state.scope referenced
  selectForced state.scope root current referenced state.tables

theorem resolve_nil (state : QueryState) (root current : RecordType) :
    resolve state root current [] = .ok [] := by
  change selectForced state.scope root current [] state.tables = .ok []
  induction state.tables with
  | nil => rfl
  | cons table rest ih =>
      rw [selectForced_cons, if_neg (by simp [isForced])]
      exact ih

theorem forced_run {Buffer : Type} {root : Table} (first : state.root? = some root)
    (current : RecordType) (draft : Draft Buffer) :
    (forced state current).runOn draft =
      (resolve state root.record current (state.search.run draft.calls).1,
        { draft with calls := (state.search.run draft.calls).2 }) := by
  unfold forced QueryState.search
  match tables : state.tables, state.condition? with
  | [], _ | [_], _ | _ :: _ :: _, none =>
      exact congrArg (·, draft) (resolve_nil state root.record current).symm
  | head :: _ :: _, some condition =>
      obtain rfl : head = root := by simpa [QueryState.root?, tables] using first
      rw [resolve, tables]
      rfl

theorem forced_ok {root : Table} {current : RecordType} {records : List RecordType}
    (first : state.root? = some root)
    (succeeded : (forced state current).runOn draft = (.ok records, after)) :
    ∃ referenced, state.search.run draft.calls = (referenced, after.calls) ∧
      after.buffer = draft.buffer ∧ (∀ record ∈ referenced, (state.table? record).isSome) ∧
      records = (state.tables.filter (isForced root.record current referenced)).map (·.record) := by
  rw [forced_run first] at succeeded
  obtain ⟨resolved, rfl⟩ := Prod.mk.inj succeeded
  obtain ⟨_, checked, selected⟩ := bind_ok resolved
  exact ⟨_, rfl, rfl, checkReferenced_ok checked, selectForced_ok selected⟩

theorem forcedClauses_ok {root : Table} {current : RecordType} {text : String}
    (first : state.root? = some root)
    (succeeded : (forcedClauses dialect.delegate state current).runOn draft = (.ok text, after)) :
    ∃ links, state.Joins root current draft.calls links after.calls ∧
      after.buffer = draft.buffer ∧ text = Sql.linksText dialect links := by
  unfold forcedClauses at succeeded
  obtain ⟨records, middle, searched, reaching⟩ := Action.bind_ok succeeded
  obtain ⟨referenced, found, sameBuffer, known, rfl⟩ := forced_ok first searched
  obtain ⟨texts, last, reached, finished⟩ := Action.bind_ok reaching
  have clauses : last = middle ∧ List.Forall₂
      (fun record texts => ∃ links, state.scope.Reaches record links ∧
        texts = links.map (·.text dialect)) _ texts :=
    (Action.mapM_ok reached).unchanged fun record before texts after taken => fromRoot_ok taken
  obtain ⟨rfl, clauses⟩ := clauses
  obtain ⟨rfl, rfl⟩ := Action.pure_ok finished
  obtain ⟨groups, reaches, rfl⟩ := forall₂_images clauses
  rw [List.forall₂_map_left_iff] at reaches
  refine ⟨groups.flatten, .forced found known reaches, sameBuffer, ?_⟩
  simp [Sql.linksText, List.map_flatten, Function.comp_def]

end JoinClause

/-! ## Conditions and orders -/

def Scope.WritesAll (scope : Scope) :
    List Expr → Progress → List Sql.Phrase → Progress → Prop :=
  Threaded (Expr.Writes scope)

def Scope.Orders (scope : Scope) (keys : List SortKey) (terms : List Sql.OrderTerm) : Prop :=
  List.Forall₂ (fun key term =>
    scope.columnName? key.field = some term.column ∧ term.descending = key.descending) keys terms

def SortKey.isOn (record : RecordType) (key : SortKey) : Bool :=
  key.field.record == record

namespace Generation

variable {dialect : Dialect} {scope : Scope} {state : QueryState}
  {draft after : Draft (List Binding)}

theorem renderAll_ok {wrap : String → String} {filters : List Expr} {texts : List String}
    (succeeded : Action.runOn (filters.mapM fun (filter : Expr) => do
      let text ← filter.render dialect.delegate scope
      pure (wrap text)) draft = (.ok texts, after)) :
    ∃ phrases, scope.WritesAll filters draft.progress phrases after.progress ∧
      texts = phrases.map (fun phrase => wrap (phrase.text dialect)) ∧
      after.buffer = draft.buffer ++ Sql.bindings dialect (Sql.conditionParameters phrases) := by
  have threaded := Action.mapM_ok succeeded
  clear succeeded
  induction threaded with
  | nil => exact ⟨[], .nil, rfl, by simp [Sql.conditionParameters]⟩
  | cons taken _ ih =>
      obtain ⟨text, _, rendered, finished⟩ := Action.bind_ok taken
      obtain ⟨phrase, writes, rfl, bound⟩ := Expr.render_ok rendered
      obtain ⟨rfl, rfl⟩ := Action.pure_ok finished
      obtain ⟨phrases, others, rfl, othersBound⟩ := ih
      refine ⟨phrase :: phrases, .cons writes others, rfl, ?_⟩
      simp [othersBound, bound, Sql.conditionParameters]

theorem whereClause_ok {text : String}
    (succeeded : (whereClause dialect.delegate state).runOn draft = (.ok text, after)) :
    ∃ phrases, state.scope.WritesAll state.filters draft.progress phrases after.progress ∧
      text = Sql.conditionText dialect phrases ∧
      after.buffer = draft.buffer ++ Sql.bindings dialect (Sql.conditionParameters phrases) := by
  unfold whereClause at succeeded
  split at succeeded
  · rename_i filters
    obtain ⟨rfl, rfl⟩ := Action.pure_ok succeeded
    exact ⟨[], filters ▸ .nil, rfl, by simp [Sql.conditionParameters]⟩
  · rename_i filter filters
    obtain ⟨_, _, rendered, finished⟩ := Action.bind_ok succeeded
    obtain ⟨phrase, writes, rfl, bound⟩ := Expr.render_ok rendered
    obtain ⟨rfl, rfl⟩ := Action.pure_ok finished
    exact ⟨[phrase], filters ▸ .cons writes .nil, rfl, by simp [Sql.conditionParameters, bound]⟩
  · rename_i notNone notOne
    obtain ⟨_, _, rendered, finished⟩ := Action.bind_ok succeeded
    obtain ⟨phrases, writes, rfl, bound⟩ := renderAll_ok rendered
    obtain ⟨rfl, rfl⟩ := Action.pure_ok finished
    refine ⟨phrases, writes, ?_, bound⟩
    have sameLength : phrases.length = state.filters.length := writes.length_eq
    match phrases with
    | [] => exact absurd (List.length_eq_zero_iff.mp sameLength.symm) notNone
    | [phrase] =>
        obtain ⟨filter, filters⟩ := List.length_eq_one_iff.mp sameLength.symm
        exact absurd filters (notOne filter)
    | first :: second :: others => rfl

theorem orderClause_ok {keys : List SortKey} {record : RecordType} {text : String}
    (succeeded :
      (orderClause dialect.delegate state keys record).runOn draft = (.ok text, after)) :
    after = draft ∧ ∃ terms, state.scope.Orders (keys.filter (·.isOn record)) terms ∧
      text = Sql.orderText dialect terms := by
  unfold orderClause at succeeded
  obtain ⟨texts, middle, rendered, finished⟩ := Action.bind_ok succeeded
  have ordered : middle = draft ∧ List.Forall₂
      (fun key text => ∃ term : Sql.OrderTerm,
        (state.scope.columnName? key.field = some term.column ∧
          term.descending = key.descending) ∧ text = term.text dialect)
      (keys.filter (·.isOn record)) texts := by
    apply (Action.mapM_ok rendered).unchanged
    intro key before text after taken
    obtain ⟨_, _, written, ending⟩ := Action.bind_ok taken
    obtain ⟨rfl, name, found, rfl⟩ := Expr.renderField_ok written
    obtain ⟨rfl, rfl⟩ := Action.pure_ok ending
    exact ⟨rfl, ⟨name, key.descending⟩, ⟨found, rfl⟩, rfl⟩
  obtain ⟨rfl, each⟩ := ordered
  obtain ⟨rfl, rfl⟩ := Action.pure_ok finished
  obtain ⟨terms, orders, rfl⟩ := forall₂_images each
  refine ⟨rfl, terms, orders, ?_⟩
  simp [Sql.orderText]

theorem limitClause_ok {limit : Option Limit} {text : String}
    (succeeded : (limitClause dialect.delegate limit).runOn draft = (.ok text, after)) :
    after = draft ∧ text = Sql.limitText dialect limit := by
  cases limit with
  | none => exact Action.pure_ok succeeded
  | some limit =>
      cases succeeded
      exact ⟨rfl, rfl⟩

end Generation

/-! ## Selects -/

/-- The root's select. A count leaves the order out. -/
structure QueryState.SelectsRoot (state : QueryState) (keys : List SortKey)
    (limit : Option Limit) (root : Table) (before : Progress) (select : Sql.Select)
    (after : Progress) : Prop where
  first : state.root? = some root
  head : select.head = ⟨root.source, none⟩
  body : ∃ calls, state.Joins root root.record before.calls select.links calls ∧
    state.scope.WritesAll state.filters ⟨calls, before.bound⟩ select.conditions after
  order : state.scope.Orders
    (if state.command = .select then keys.filter (·.isOn root.record) else []) select.order
  limit : select.limit = limit

/-- The select of a joined table, which first returns to the root. -/
structure QueryState.SelectsJoined (state : QueryState) (keys : List SortKey)
    (root table : Table) (before : Progress) (select : Sql.Select) (after : Progress) : Prop where
  first : state.root? = some root
  source : select.head.source = table.source
  body : ∃ own forced calls, state.scope.Returns root table select.head.key own ∧
    state.Joins root table.record before.calls forced calls ∧ select.links = own ++ forced ∧
    state.scope.WritesAll state.filters ⟨calls, before.bound⟩ select.conditions after
  order : state.scope.Orders (keys.filter (·.isOn table.record)) select.order
  limit : select.limit = none

namespace Generation

variable {dialect : Dialect} {state : QueryState} {keys : List SortKey} {text : String}
  {draft after : Draft (List Binding)}

theorem rootTable_ok {root : Table} (found : rootTable state = .ok root) :
    state.root? = some root := by
  unfold rootTable at found
  split at found
  · cases found
    assumption
  · cases found

theorem rootSelect_ok {limit : Option Limit}
    (succeeded :
      (rootSelect dialect.delegate keys limit state).runOn draft = (.ok text, after)) :
    ∃ root select, state.SelectsRoot keys limit root draft.progress select after.progress ∧
      text = select.text dialect ∧
      after.buffer =
        draft.buffer ++ Sql.bindings dialect (Sql.conditionParameters select.conditions) := by
  unfold rootSelect at succeeded
  obtain ⟨root, _, looked, naming⟩ := Action.bind_ok succeeded
  obtain ⟨rfl, found⟩ := Action.ofOutcome_ok looked
  have first := rootTable_ok found
  obtain ⟨_, _, aliased, sourcing⟩ := Action.bind_ok naming
  obtain ⟨rfl, rfl⟩ := Rendering.quote_ok aliased
  obtain ⟨_, start, referred, joining⟩ := Action.bind_ok sourcing
  obtain ⟨rfl, rfl⟩ := JoinClause.tableReference_ok referred
  obtain ⟨_, joined, forced, filtering⟩ := Action.bind_ok joining
  obtain ⟨links, joins, sameBuffer, rfl⟩ := JoinClause.forcedClauses_ok first forced
  obtain ⟨_, filtered, conditioned, ordering⟩ := Action.bind_ok filtering
  obtain ⟨conditions, writes, rfl, bound⟩ := whereClause_ok conditioned
  have order : ∃ terms, state.scope.Orders
      (if state.command = .select then keys.filter (·.isOn root.record) else []) terms ∧
      Action.runOn (do
        let window ← limitClause dialect.delegate limit
        pure ("SELECT DISTINCT " ++ dialect.quoteIdentifier root.aliasName ++ ".* FROM "
          ++ root.source.text dialect ++ Sql.linksText dialect links
          ++ Sql.conditionText dialect conditions ++ Sql.orderText dialect terms ++ window))
        filtered = (.ok text, after) := by
    split at ordering
    · rename_i selects
      obtain ⟨_, _, ordered, limiting⟩ := Action.bind_ok ordering
      obtain ⟨rfl, terms, orders, rfl⟩ := orderClause_ok ordered
      exact ⟨terms, by simpa [selects] using orders, limiting⟩
    · rename_i counts
      obtain ⟨_, _, unordered, limiting⟩ := Action.bind_ok ordering
      obtain ⟨rfl, rfl⟩ := Action.pure_ok unordered
      exact ⟨[], by simp [counts, Scope.Orders], limiting⟩
  obtain ⟨terms, orders, limiting⟩ := order
  obtain ⟨_, _, limited, finished⟩ := Action.bind_ok limiting
  obtain ⟨rfl, rfl⟩ := limitClause_ok limited
  obtain ⟨rfl, rfl⟩ := Action.pure_ok finished
  have started : joined.progress = ⟨joined.calls, start.progress.bound⟩ := by
    simp [Draft.progress, sameBuffer]
  refine ⟨root, ⟨⟨root.source, none⟩, links, conditions, terms, limit⟩,
    ⟨first, rfl, ⟨joined.calls, joins, started ▸ writes⟩, orders, rfl⟩, ?_, ?_⟩
  · rw [Sql.Select.text, Sql.Head.text_direct]
    rfl
  · rw [bound, sameBuffer]

theorem joinedSelect_ok {table : Table}
    (succeeded :
      (joinedSelect dialect.delegate keys table state).runOn draft = (.ok text, after)) :
    ∃ root select, state.SelectsJoined keys root table draft.progress select after.progress ∧
      text = select.text dialect ∧
      after.buffer =
        draft.buffer ++ Sql.bindings dialect (Sql.conditionParameters select.conditions) := by
  unfold joinedSelect at succeeded
  obtain ⟨_, start, headed, joining⟩ := Action.bind_ok succeeded
  obtain ⟨rfl, root, key, own, first, returns, rfl⟩ := JoinClause.joinedHead_ok headed
  obtain ⟨_, joined, forced, filtering⟩ := Action.bind_ok joining
  obtain ⟨links, joins, sameBuffer, rfl⟩ := JoinClause.forcedClauses_ok first forced
  obtain ⟨_, filtered, conditioned, ordering⟩ := Action.bind_ok filtering
  obtain ⟨conditions, writes, rfl, bound⟩ := whereClause_ok conditioned
  obtain ⟨_, _, ordered, finished⟩ := Action.bind_ok ordering
  obtain ⟨rfl, terms, orders, rfl⟩ := orderClause_ok ordered
  obtain ⟨rfl, rfl⟩ := Action.pure_ok finished
  have started : joined.progress = ⟨joined.calls, start.progress.bound⟩ := by
    simp [Draft.progress, sameBuffer]
  refine ⟨root, ⟨⟨table.source, key⟩, own ++ links, conditions, terms, none⟩,
    ⟨first, rfl, ⟨own, links, joined.calls, returns, joins, rfl, started ▸ writes⟩, orders, rfl⟩,
    ?_, ?_⟩
  · simp [Sql.Select.text, Sql.linksText, Sql.limitText, String.append_assoc]
  · rw [bound, sameBuffer]

end Generation

end RecordMapper
