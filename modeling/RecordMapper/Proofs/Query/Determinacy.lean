import RecordMapper.Proofs.Query.Purity
import RecordMapper.Proofs.Query.Sentences

set_option autoImplicit false

/-!
What a state is written as is settled by the state and the calls made before. No dialect has a say
in the relations between them, so two dialects write the same sentences.
-/

namespace RecordMapper

theorem Threaded.unique {State Item Result : Type} {step : Item → State → Result → State → Prop}
    (each : ∀ item before result result' after after', step item before result after →
      step item before result' after' → result = result' ∧ after = after')
    {items : List Item} {before after after' : State} {results results' : List Result}
    (threaded : Threaded step items before results after)
    (threaded' : Threaded step items before results' after') :
    results = results' ∧ after = after' := by
  induction threaded generalizing results' with
  | nil =>
      cases threaded'
      exact ⟨rfl, rfl⟩
  | cons taken _ ih =>
      cases threaded' with
      | cons taken' others' =>
          obtain ⟨rfl, rfl⟩ := each _ _ _ _ _ _ taken taken'
          obtain ⟨rfl, rfl⟩ := ih others'
          exact ⟨rfl, rfl⟩

/-! ## Expressions -/

theorem Expr.Writes.unique {scope : Scope} {expr : Expr} {before after after' : Progress}
    {phrase phrase' : Sql.Phrase} (writes : Writes scope expr before phrase after)
    (writes' : Writes scope expr before phrase' after') : phrase = phrase' ∧ after = after' := by
  induction writes generalizing phrase' after' with
  | field found =>
      cases writes' with
      | field found' => exact ⟨by rw [Option.some.inj (found.symm.trans found')], rfl⟩
  | column =>
      cases writes'
      exact ⟨rfl, rfl⟩
  | null =>
      cases writes' with
      | null => exact ⟨rfl, rfl⟩
      | literal notNull => cases notNull
  | literal notNull =>
      cases writes' with
      | null => cases notNull
      | literal => exact ⟨rfl, rfl⟩
  | isNull _ ih =>
      cases writes' with
      | isNull left' =>
          obtain ⟨rfl, rfl⟩ := ih left'
          exact ⟨rfl, rfl⟩
      | binary plain => exact (nullTest_contra rfl plain).elim
  | isNotNull _ ih =>
      cases writes' with
      | isNotNull left' =>
          obtain ⟨rfl, rfl⟩ := ih left'
          exact ⟨rfl, rfl⟩
      | binary plain => exact (nullTest_contra rfl plain).elim
  | binary plain _ _ leftIH rightIH =>
      cases writes' with
      | isNull => exact (nullTest_contra rfl plain).elim
      | isNotNull => exact (nullTest_contra rfl plain).elim
      | binary _ left' right' =>
          obtain ⟨rfl, rfl⟩ := leftIH left'
          obtain ⟨rfl, rfl⟩ := rightIH right'
          exact ⟨rfl, rfl⟩
  | not _ ih =>
      cases writes' with
      | not operand' =>
          obtain ⟨rfl, rfl⟩ := ih operand'
          exact ⟨rfl, rfl⟩
  | deferred _ ih =>
      cases writes' with
      | deferred produced' => exact ih produced'

theorem Scope.WritesAll.unique {scope : Scope} {filters : List Expr}
    {before after after' : Progress} {phrases phrases' : List Sql.Phrase}
    (writes : scope.WritesAll filters before phrases after)
    (writes' : scope.WritesAll filters before phrases' after') :
    phrases = phrases' ∧ after = after' :=
  Threaded.unique (fun _ _ _ _ _ _ first second => first.unique second) writes writes'

/-! ## Joins and orders -/

namespace Scope

variable {scope : Scope} {record : RecordType} {root table : Table}

theorem Links.unique {left right : FieldRef} {link link' : Sql.Link}
    (links : scope.Links record left right link) (links' : scope.Links record left right link') :
    link = link' := by
  obtain ⟨found, isLeft, isRight⟩ := links
  obtain ⟨found', isLeft', isRight'⟩ := links'
  obtain rfl := Option.some.inj (found.symm.trans found')
  obtain rfl := Option.some.inj (isLeft.symm.trans isLeft')
  obtain rfl := Option.some.inj (isRight.symm.trans isRight')
  rfl

theorem Reaches.unique {links links' : List Sql.Link} (reaches : scope.Reaches record links)
    (reaches' : scope.Reaches record links') : links = links' := by
  rcases reaches with ⟨found, attached, direct, link⟩ | ⟨found, attached, through, pivot, link⟩ <;>
  rcases reaches' with ⟨found', attached', direct', link'⟩ |
    ⟨found', attached', through', pivot', link'⟩ <;>
  obtain rfl := Option.some.inj (found.symm.trans found') <;>
  obtain rfl := Option.some.inj (attached.symm.trans attached')
  · rw [link.unique link']
  · cases direct.symm.trans through'
  · cases through.symm.trans direct'
  · obtain rfl := Option.some.inj (through.symm.trans through')
    rw [pivot.unique pivot', link.unique link']

theorem Returns.unique {key key' : Option Sql.ColumnName} {links links' : List Sql.Link}
    (returns : scope.Returns root table key links)
    (returns' : scope.Returns root table key' links') : key = key' ∧ links = links' := by
  rcases returns with ⟨found, attached, direct, link⟩ |
    ⟨found, attached, through, isKey, pivot, link⟩ <;>
  rcases returns' with ⟨found', attached', direct', link'⟩ |
    ⟨found', attached', through', isKey', pivot', link'⟩ <;>
  obtain rfl := Option.some.inj (found.symm.trans found') <;>
  obtain rfl := Option.some.inj (attached.symm.trans attached')
  · exact ⟨rfl, by rw [link.unique link']⟩
  · cases direct.symm.trans through'
  · cases through.symm.trans direct'
  · obtain rfl := Option.some.inj (through.symm.trans through')
    obtain rfl := Option.some.inj (isKey.symm.trans isKey')
    exact ⟨rfl, by rw [pivot.unique pivot', link.unique link']⟩

theorem Orders.unique {keys : List SortKey} {terms terms' : List Sql.OrderTerm}
    (orders : scope.Orders keys terms) (orders' : scope.Orders keys terms') : terms = terms' := by
  refine Relator.RightUnique.forall₂ ?_ orders orders'
  rintro key ⟨column, descending⟩ ⟨column', descending'⟩ ⟨found, rfl⟩ ⟨found', rfl⟩
  obtain rfl : column = column' := Option.some.inj (found.symm.trans found')
  rfl

end Scope

namespace QueryState

variable {state : QueryState} {root root' table : Table} {keys : List SortKey}
  {limit : Option Limit} {before after after' : Progress}

theorem Joins.unique {current : RecordType} {calls last last' : Calls}
    {links links' : List Sql.Link} (joins : state.Joins root current calls links last)
    (joins' : state.Joins root current calls links' last') : links = links' ∧ last = last' := by
  obtain ⟨searched, -, reaches⟩ := joins
  obtain ⟨searched', -, reaches'⟩ := joins'
  obtain ⟨rfl, rfl⟩ := Prod.mk.inj (searched.symm.trans searched')
  have reachesOne : Relator.RightUnique fun (table : Table) links =>
      state.scope.Reaches table.record links := fun _ _ _ => Scope.Reaches.unique
  obtain rfl := reachesOne.forall₂ reaches reaches'
  exact ⟨rfl, rfl⟩

/-! ## Statements -/

theorem select_eq {select select' : Sql.Select} (head : select.head = select'.head)
    (links : select.links = select'.links) (conditions : select.conditions = select'.conditions)
    (order : select.order = select'.order) (limit : select.limit = select'.limit) :
    select = select' := by
  cases select
  cases select'
  cases head
  cases links
  cases conditions
  cases order
  cases limit
  rfl

theorem SelectsRoot.unique {select select' : Sql.Select}
    (selects : state.SelectsRoot keys limit root before select after)
    (selects' : state.SelectsRoot keys limit root' before select' after') :
    select = select' ∧ after = after' := by
  obtain rfl := Option.some.inj (selects.first.symm.trans selects'.first)
  obtain ⟨calls, joins, writes⟩ := selects.body
  obtain ⟨calls', joins', writes'⟩ := selects'.body
  obtain ⟨sameLinks, rfl⟩ := joins.unique joins'
  obtain ⟨sameConditions, sameAfter⟩ := writes.unique writes'
  have sameHead := selects.head.trans selects'.head.symm
  have sameOrder := selects.order.unique selects'.order
  have sameLimit := selects.limit.trans selects'.limit.symm
  exact ⟨select_eq sameHead sameLinks sameConditions sameOrder sameLimit, sameAfter⟩

theorem SelectsJoined.unique {select select' : Sql.Select}
    (selects : state.SelectsJoined keys root table before select after)
    (selects' : state.SelectsJoined keys root' table before select' after') :
    select = select' ∧ after = after' := by
  obtain rfl := Option.some.inj (selects.first.symm.trans selects'.first)
  obtain ⟨own, forced, calls, returns, joins, links, writes⟩ := selects.body
  obtain ⟨own', forced', calls', returns', joins', links', writes'⟩ := selects'.body
  obtain ⟨sameKey, rfl⟩ := returns.unique returns'
  obtain ⟨rfl, rfl⟩ := joins.unique joins'
  obtain ⟨sameConditions, sameAfter⟩ := writes.unique writes'
  have sameSource := selects.source.trans selects'.source.symm
  have sameHead : select.head = select'.head := congrArg₂ Sql.Head.mk sameSource sameKey
  have sameOrder := selects.order.unique selects'.order
  have sameLimit := selects.limit.trans selects'.limit.symm
  exact ⟨select_eq sameHead (links.trans links'.symm) sameConditions sameOrder sameLimit,
    sameAfter⟩

theorem Single.unique {calls last last' : Calls} (single : state.Single root calls last)
    (single' : state.Single root' calls last') : root = root' ∧ last = last' := by
  obtain ⟨tables, searched, -⟩ := single
  obtain ⟨tables', searched', -⟩ := single'
  obtain ⟨rfl, -⟩ := List.cons.inj (tables.symm.trans tables')
  exact ⟨rfl, (Prod.mk.inj (searched.symm.trans searched')).2⟩

theorem Changes.unique {command : Command} {sentence sentence' : Sql.Sentence}
    (changes : state.Changes before command sentence after)
    (changes' : state.Changes before command sentence' after') :
    sentence = sentence' ∧ after = after' := by
  cases changes with
  | update single chosen writes =>
      cases changes' with
      | update single' chosen' writes' =>
          obtain ⟨rfl, rfl⟩ := single.unique single'
          obtain rfl := Except.ok.inj (chosen.symm.trans chosen')
          obtain ⟨rfl, rfl⟩ := writes.unique writes'
          exact ⟨rfl, rfl⟩
  | delete single writes =>
      cases changes' with
      | delete single' writes' =>
          obtain ⟨rfl, rfl⟩ := single.unique single'
          obtain ⟨rfl, rfl⟩ := writes.unique writes'
          exact ⟨rfl, rfl⟩
  | insert single _ chosen =>
      cases changes' with
      | insert single' _ chosen' =>
          obtain ⟨rfl, rfl⟩ := single.unique single'
          obtain rfl := Except.ok.inj (chosen.symm.trans chosen')
          exact ⟨rfl, rfl⟩

theorem joinedSelects_unique {tables : List Table} {calls last last' : Calls}
    {selects selects' : List Sql.Select}
    (joined : Threaded (fun table before select after =>
      ∃ bound, state.SelectsJoined keys root table ⟨before, 0⟩ select ⟨after, bound⟩)
      tables calls selects last)
    (joined' : Threaded (fun table before select after =>
      ∃ bound, state.SelectsJoined keys root table ⟨before, 0⟩ select ⟨after, bound⟩)
      tables calls selects' last') : selects = selects' ∧ last = last' := by
  refine Threaded.unique ?_ joined joined'
  rintro table before select select' after after' ⟨bound, written⟩ ⟨bound', written'⟩
  obtain ⟨same, sameAfter⟩ := written.unique written'
  exact ⟨same, congrArg Progress.calls sameAfter⟩

/-- A command is written in one way, whatever the dialect. -/
theorem Sentences.unique {calls last last' : Calls} {sentences sentences' : List Sql.Sentence}
    (written : state.Sentences calls sentences last)
    (written' : state.Sentences calls sentences' last') :
    sentences = sentences' ∧ last = last' := by
  have unchanged {before after : Progress} {command : Command} {sentence : Sql.Sentence}
      (reads : command = .select ∨ command = .count)
      (changes : state.Changes before command sentence after) : False := by
    rcases reads with rfl | rfl <;> cases changes
  cases written with
  | select command selects joined =>
      cases written' with
      | select _ selects' joined' =>
          obtain rfl := Option.some.inj (selects.first.symm.trans selects'.first)
          obtain ⟨rfl, rfl⟩ := selects.unique selects'
          obtain ⟨rfl, rfl⟩ := joinedSelects_unique joined joined'
          exact ⟨rfl, rfl⟩
      | count command' => cases command.symm.trans command'
      | change changes => exact (unchanged (.inl command) changes).elim
  | count command selects =>
      cases written' with
      | select command' => cases command.symm.trans command'
      | count _ selects' =>
          obtain ⟨rfl, rfl⟩ := selects.unique selects'
          exact ⟨rfl, rfl⟩
      | change changes => exact (unchanged (.inr command) changes).elim
  | change changes =>
      cases written' with
      | select command => exact (unchanged (.inl command) changes).elim
      | count command => exact (unchanged (.inr command) changes).elim
      | change changes' =>
          obtain ⟨rfl, rfl⟩ := changes.unique changes'
          exact ⟨rfl, rfl⟩

end QueryState

end RecordMapper
