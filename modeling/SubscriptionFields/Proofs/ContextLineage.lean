import Mathlib.Data.List.Induction
import SubscriptionFields.Request.Family

/-!
# Contexts follow their lineage

A family of contexts branches: members are copied, or derived for an event, and then go on changing
on their own. The lineage of a member is the list of the changes that it owes what it holds to:
those of the member that it was copied or derived from, up to that moment, and then its own
(`ContextFamily.Lineage`). A new context begins with its trace, and one that is derived for an event
begins with the lineage of the other and the payload as its source.

A member holds what the last change of each kind in its lineage set (`RequestContext.Follows`). The
ladder:

* a change sets one thing, so what a list of changes leaves is what the last change of a kind set
  (`RequestContext.afterChanges_of_apply`);
* a step changes the member that it names and no other, and what is added stands behind the others
  (`ContextFamily.getElem?_step`, `ContextFamily.leavesOthers_step`);
* so whatever has a lineage is a member, and is what its changes leave of an empty context
  (`ContextFamily.Lineage.getElem?_after`), and every member has one and no other
  (`ContextFamily.exists_lineage`, `ContextFamily.Lineage.unique`).
-/

set_option autoImplicit false

namespace SubscriptionFields

/-! ## What changes set -/

namespace ContextChange

/-- What a change sets an argument to. -/
def argument? (name : String) : ContextChange → Option SourceValue
  | .argument other value => if other = name then some value else none
  | _ => none

/-- What a change sets the source to. -/
def source? : ContextChange → Option SourceValue
  | .source value => some value
  | _ => none

/-- What a change sets the tenant to. -/
def tenant? : ContextChange → Option (Option String)
  | .tenant tenantId => some tenantId
  | _ => none

/-- What a change sets the trace to. -/
def trace? : ContextChange → Option String
  | .trace traceId => some traceId
  | _ => none

/-- What the last of the changes that set something sets it to. -/
def last? {α : Type} (sets : ContextChange → Option α) (changes : List ContextChange) : Option α :=
  (changes.filterMap sets).getLast?

variable {α : Type} {sets : ContextChange → Option α}

/-- The last change decides, if it sets anything. -/
theorem last?_concat (changes : List ContextChange) (change : ContextChange) :
    last? sets (changes ++ [change]) = (sets change).or (last? sets changes) := by
  unfold last?
  rw [List.filterMap_append]
  cases found : sets change with
  | none => simp [found]
  | some value => simp [found]

/-- Nothing is set exactly if no change sets it. -/
theorem last?_eq_none_iff {changes : List ContextChange} :
    last? sets changes = none ↔ ∀ change ∈ changes, sets change = none := by
  unfold last?
  rw [List.getLast?_eq_none_iff, List.filterMap_eq_nil_iff]

/-- A change leaves an argument alone exactly if it is not a change of that argument. -/
theorem argument?_eq_none_iff {name : String} {change : ContextChange} :
    change.argument? name = none ↔ ∀ value, change ≠ .argument name value := by
  cases change with
  | argument other value =>
    by_cases same : other = name
    · subst same
      simp [argument?]
    · simp [argument?, same]
  | _ => simp [argument?]

/-- A change of an argument sets it, and any other leaves it. -/
theorem argument?_apply (ctx : RequestContext) (change : ContextChange) (name : String) :
    (change.apply ctx).argument? name =
      ((change.argument? name).map some).getD (ctx.argument? name) := by
  cases change with
  | argument other value =>
    unfold apply argument?
    rw [RequestContext.argument?_withArgument]
    by_cases same : other = name
    · simp [same]
    · simp [same]
  | _ => rfl

/-- A change of the source sets it, and any other leaves it. -/
theorem source_apply (ctx : RequestContext) (change : ContextChange) :
    (change.apply ctx).source = (change.source?.map id).getD ctx.source := by
  cases change <;> rfl

/-- A change of the tenant sets it, and any other leaves it. -/
theorem tenantId_apply (ctx : RequestContext) (change : ContextChange) :
    (change.apply ctx).tenantId = (change.tenant?.map id).getD ctx.tenantId := by
  cases change <;> rfl

/-- A change of the trace sets it, and any other leaves it. -/
theorem traceId_apply (ctx : RequestContext) (change : ContextChange) :
    (change.apply ctx).traceId = (change.trace?.map id).getD ctx.traceId := by
  cases change <;> rfl

end ContextChange

namespace RequestContext

open ContextChange

/-- The context that changes leave, one after the other. -/
def afterChanges (ctx : RequestContext) (changes : List ContextChange) : RequestContext :=
  changes.foldl (fun ctx change => change.apply ctx) ctx

/-- Changes may be applied in two parts. -/
theorem afterChanges_append (ctx : RequestContext) (first second : List ContextChange) :
    ctx.afterChanges (first ++ second) = (ctx.afterChanges first).afterChanges second :=
  List.foldl_append

/-- The context of an event is the context with the payload as its source. -/
theorem forEvent_eq_withSource (ctx : RequestContext) (payload : SourceValue) :
    ctx.forEvent payload = ctx.withSource payload := rfl

/-- If each change sets a piece of a context or leaves it, the last change that sets it decides. -/
theorem afterChanges_of_apply {α β : Type} {sets : ContextChange → Option α}
    (piece : RequestContext → β) (hold : α → β)
    (apply : ∀ (ctx : RequestContext) (change : ContextChange),
      piece (change.apply ctx) = ((sets change).map hold).getD (piece ctx))
    (ctx : RequestContext) (changes : List ContextChange) :
    piece (ctx.afterChanges changes) = ((last? sets changes).map hold).getD (piece ctx) := by
  induction changes using List.reverseRecOn with
  | nil => rfl
  | append_singleton changes change ih =>
    rw [afterChanges_append, last?_concat]
    have step := apply (ctx.afterChanges changes) change
    unfold afterChanges at step ih ⊢
    rw [List.foldl_cons, List.foldl_nil, step, ih]
    cases sets change with
    | none => rfl
    | some value => rfl

/-- A context holds what the last changes of each kind in a lineage set: every argument of a name
that was set, also one that was set to no value; the source and the tenant, if there were any; and
the trace, which is set from the beginning. -/
structure Follows (ctx : RequestContext) (lineage : List ContextChange) : Prop where
  argument_eq : ∀ name, ctx.argument? name = last? (ContextChange.argument? name) lineage
  absent_iff : ∀ name, ctx.argument? name = none ↔ ∀ value, .argument name value ∉ lineage
  source_eq : ctx.source = (last? ContextChange.source? lineage).getD none
  tenant_eq : ctx.tenantId = (last? ContextChange.tenant? lineage).getD none
  trace_eq : some ctx.traceId = last? ContextChange.trace? lineage

/-- What changes that begin with a trace leave of an empty context follows them. -/
theorem follows_afterChanges (traceId : String) (changes : List ContextChange) :
    (afterChanges {} (.trace traceId :: changes)).Follows (.trace traceId :: changes) := by
  have arguments : ∀ name, (afterChanges {} (.trace traceId :: changes)).argument? name =
      last? (ContextChange.argument? name) (.trace traceId :: changes) := by
    intro name
    have left := afterChanges_of_apply (fun ctx => ctx.argument? name) some
      (fun ctx change => argument?_apply ctx change name) {} (.trace traceId :: changes)
    rw [left]
    cases last? (ContextChange.argument? name) (.trace traceId :: changes) <;> rfl
  refine
    { argument_eq := arguments
      absent_iff := ?absent_iff
      source_eq := ?source_eq
      tenant_eq := ?tenant_eq
      trace_eq := ?trace_eq }
  case absent_iff =>
    intro name
    rw [arguments, last?_eq_none_iff]
    constructor
    · intro unset value listed
      exact argument?_eq_none_iff.1 (unset _ listed) value rfl
    · intro unset change listed
      apply argument?_eq_none_iff.2
      rintro value rfl
      exact unset value listed
  case source_eq =>
    rw [afterChanges_of_apply RequestContext.source id source_apply, Option.map_id_fun, id_eq]
  case tenant_eq =>
    rw [afterChanges_of_apply RequestContext.tenantId id tenantId_apply, Option.map_id_fun, id_eq]
  case trace_eq =>
    rw [afterChanges_of_apply RequestContext.traceId id traceId_apply, Option.map_id_fun, id_eq]
    cases set : last? ContextChange.trace? (.trace traceId :: changes) with
    | none => cases last?_eq_none_iff.1 set _ List.mem_cons_self
    | some last => rfl

end RequestContext

/-! ## What steps do -/

/-- The context that a new member begins as: a copy as the other is, the context of an event as the
other with the payload for its source. -/
def ContextOrigin.Yields (family : ContextFamily) : ContextOrigin → RequestContext → Prop
  | .fresh traceId, ctx => ctx = { traceId }
  | .copy member, ctx => family[member]? = some ctx
  | .event member payload, ctx =>
    ∃ origin, family[member]? = some origin ∧ ctx = { origin with source := payload }

namespace ContextStep

/-- The change that a step makes to a member. -/
def changeOf? (member : Nat) : ContextStep → Option ContextChange
  | .alter other change => if other = member then some change else none
  | .extend _ => none

/-- A step does nothing to any member but the one that it names. What is added stands behind all
others: exactly the context that its origin yields, and nothing if the origin is not there. -/
def LeavesOthers (before after : ContextFamily) : ContextStep → Prop
  | .alter member _ => after.length = before.length ∧
      ∀ other, other ≠ member → after[other]? = before[other]?
  | .extend origin => (∀ ctx, origin.Yields before ctx → after = before ++ [ctx]) ∧
      ((∀ ctx, ¬origin.Yields before ctx) → after = before)

end ContextStep

namespace ContextFamily

open ContextStep

/-- The family after all steps, from none at all. -/
def after (steps : List ContextStep) : ContextFamily :=
  steps.foldl step []

/-- The changes that a member owes what it holds to, after given steps. A new member stands behind
those that were there before it. -/
inductive Lineage : List ContextStep → Nat → List ContextChange → Prop
  /-- A new context begins with its trace. -/
  | fresh (past : List ContextStep) (traceId : String) :
      Lineage (past ++ [.extend (.fresh traceId)]) (after past).length [.trace traceId]
  /-- A copy begins with the lineage of the other as it is at that moment. -/
  | copy (past : List ContextStep) (member : Nat) (inherited : List ContextChange)
      (origin : Lineage past member inherited) :
      Lineage (past ++ [.extend (.copy member)]) (after past).length inherited
  /-- The context of an event begins likewise, and takes the payload as its source. -/
  | event (past : List ContextStep) (member : Nat) (payload : SourceValue)
      (inherited : List ContextChange) (origin : Lineage past member inherited) :
      Lineage (past ++ [.extend (.event member payload)]) (after past).length
        (inherited ++ [.source payload])
  /-- A member goes on with its own changes. -/
  | own (past : List ContextStep) (next : ContextStep) (member : Nat)
      (lineage : List ContextChange) (before : Lineage past member lineage) :
      Lineage (past ++ [next]) member (lineage ++ (next.changeOf? member).toList)

/-- The last step is taken in what the others have made. -/
theorem after_concat (past : List ContextStep) (next : ContextStep) :
    after (past ++ [next]) = (after past).step next :=
  List.foldl_append

/-- The states of a run are the families after its parts, from the beginning. -/
theorem getElem?_states (family : ContextFamily) (past future : List ContextStep) :
    (family.states (past ++ future))[past.length]? = some (past.foldl step family) := by
  induction past generalizing family with
  | nil => cases future <;> rfl
  | cons next past ih =>
    rw [List.cons_append, states, List.length_cons, List.getElem?_cons_succ, ih]
    rfl

/-- A step makes to a member that is there the change that it names for it, if any. -/
theorem getElem?_step {family : ContextFamily} {member : Nat} {ctx : RequestContext}
    (there : family[member]? = some ctx) (next : ContextStep) :
    (family.step next)[member]? = some (ctx.afterChanges (next.changeOf? member).toList) := by
  cases next with
  | alter other change =>
    by_cases here : other = member
    · simp [step, changeOf?, here, there, RequestContext.afterChanges]
    · simp [step, changeOf?, here, there, RequestContext.afterChanges]
  | extend origin =>
    have within : member < family.length := (List.getElem?_eq_some_iff.1 there).1
    unfold step
    rw [List.getElem?_append_left within, there]
    rfl

/-- A member that is added stands behind all others. -/
theorem getElem?_step_of_create {family : ContextFamily} {origin : ContextOrigin}
    {ctx : RequestContext} (created : family.create? origin = some ctx) :
    (family.step (.extend origin))[family.length]? = some ctx := by
  simp only [step, created, Option.toList_some, List.getElem?_concat_length]

/-- What is created is what the origin yields. -/
theorem create?_eq_some_iff {family : ContextFamily} {origin : ContextOrigin}
    {ctx : RequestContext} : family.create? origin = some ctx ↔ origin.Yields family ctx := by
  cases origin with
  | fresh traceId => exact Option.some_inj.trans eq_comm
  | copy member => exact Iff.rfl
  | event member payload =>
    refine Option.map_eq_some_iff.trans (exists_congr fun other => and_congr_right fun there => ?_)
    exact eq_comm

/-- A step changes nothing but what it is about. -/
theorem leavesOthers_step (family : ContextFamily) (next : ContextStep) :
    next.LeavesOthers family (family.step next) := by
  cases next with
  | alter member change =>
    refine ⟨List.length_modify .., ?_⟩
    intro other elsewhere
    exact List.getElem?_modify_ne (fun ctx => change.apply ctx) family (Ne.symm elsewhere)
  | extend origin =>
    constructor
    · intro ctx yields
      rw [step, create?_eq_some_iff.2 yields, Option.toList_some]
    · intro unknown
      have missing : family.create? origin = none :=
        Option.eq_none_iff_forall_ne_some.2 fun ctx created =>
          unknown ctx (create?_eq_some_iff.1 created)
      rw [step, missing, Option.toList_none, List.append_nil]

/-! ## Lineages -/

variable {past : List ContextStep} {member : Nat} {lineage : List ContextChange}

/-- A member is what the changes of its lineage leave of an empty context. -/
theorem Lineage.getElem?_after (traced : Lineage past member lineage) :
    (after past)[member]? = some (RequestContext.afterChanges {} lineage) := by
  induction traced with
  | fresh past traceId =>
    rw [after_concat]
    exact getElem?_step_of_create rfl
  | copy past member inherited origin ih =>
    rw [after_concat]
    exact getElem?_step_of_create ih
  | event past member payload inherited origin ih =>
    rw [after_concat, RequestContext.afterChanges_append]
    apply getElem?_step_of_create
    simp only [create?, ih, Option.map_some, RequestContext.forEvent_eq_withSource]
    rfl
  | own past next member lineage before ih =>
    rw [after_concat, RequestContext.afterChanges_append]
    exact getElem?_step ih next

/-- A lineage begins with the trace of a new context. -/
theorem Lineage.begins (traced : Lineage past member lineage) :
    ∃ traceId changes, lineage = .trace traceId :: changes := by
  induction traced with
  | fresh past traceId => exact ⟨traceId, [], rfl⟩
  | copy past member inherited origin ih => exact ih
  | event past member payload inherited origin ih =>
    obtain ⟨traceId, changes, rfl⟩ := ih
    exact ⟨traceId, _, rfl⟩
  | own past next member lineage before ih =>
    obtain ⟨traceId, changes, rfl⟩ := ih
    exact ⟨traceId, _, rfl⟩

/-- The member that a step adds has a lineage. -/
theorem exists_lineage_of_create {origin : ContextOrigin} {ctx : RequestContext}
    (known : ∀ member ctx, (after past)[member]? = some ctx →
      ∃ lineage, Lineage past member lineage)
    (created : (after past).create? origin = some ctx) :
    ∃ lineage, Lineage (past ++ [.extend origin]) (after past).length lineage := by
  cases origin with
  | fresh traceId => exact ⟨_, .fresh past traceId⟩
  | copy member =>
    obtain ⟨inherited, traced⟩ := known member ctx created
    exact ⟨_, .copy past member inherited traced⟩
  | event member payload =>
    obtain ⟨other, there, -⟩ := Option.map_eq_some_iff.1 created
    obtain ⟨inherited, traced⟩ := known member other there
    exact ⟨_, .event past member payload inherited traced⟩

/-- Every member has a lineage. -/
theorem exists_lineage (past : List ContextStep) :
    ∀ member ctx, (after past)[member]? = some ctx → ∃ lineage, Lineage past member lineage := by
  induction past using List.reverseRecOn with
  | nil =>
    intro member ctx there
    cases there
  | append_singleton past next ih =>
    intro member ctx there
    rw [after_concat] at there
    by_cases old : member < (after past).length
    · obtain ⟨lineage, traced⟩ := ih member _ (List.getElem?_eq_getElem old)
      exact ⟨_, .own past next member lineage traced⟩
    · -- the member is new, so the step added it behind the others
      have within := (List.getElem?_eq_some_iff.1 there).1
      cases next with
      | alter other change =>
        unfold step at within
        rw [List.length_modify] at within
        omega
      | extend origin =>
        cases created : (after past).create? origin with
        | none =>
          simp only [step, created, Option.toList_none, List.append_nil] at within
          omega
        | some added =>
          simp only [step, created, Option.toList_some, List.length_append,
            List.length_singleton] at within
          have place : member = (after past).length := by omega
          rw [place]
          exact exists_lineage_of_create ih created

/-- How the lineage of a member begins that a step adds. -/
inductive Begins (past : List ContextStep) : ContextStep → List ContextChange → Prop
  | fresh (traceId : String) : Begins past (.extend (.fresh traceId)) [.trace traceId]
  | copy (member : Nat) (inherited : List ContextChange) (origin : Lineage past member inherited) :
      Begins past (.extend (.copy member)) inherited
  | event (member : Nat) (payload : SourceValue) (inherited : List ContextChange)
      (origin : Lineage past member inherited) :
      Begins past (.extend (.event member payload)) (inherited ++ [.source payload])

/-- The last step has added the member, or has added to a lineage that the member had. -/
theorem Lineage.of_concat {next : ContextStep} (traced : Lineage (past ++ [next]) member lineage) :
    (∃ before, Lineage past member before ∧
      lineage = before ++ (next.changeOf? member).toList) ∨
    member = (after past).length ∧ Begins past next lineage := by
  generalize whole : past ++ [next] = steps at traced
  cases traced with
  | fresh past traceId =>
    obtain ⟨rfl, last⟩ := List.append_inj' whole rfl
    cases last
    exact .inr ⟨rfl, .fresh traceId⟩
  | copy past other inherited origin =>
    obtain ⟨rfl, last⟩ := List.append_inj' whole rfl
    cases last
    exact .inr ⟨rfl, .copy other lineage origin⟩
  | event past other payload inherited origin =>
    obtain ⟨rfl, last⟩ := List.append_inj' whole rfl
    cases last
    exact .inr ⟨rfl, .event other payload inherited origin⟩
  | own past step member before traced =>
    obtain ⟨rfl, last⟩ := List.append_inj' whole rfl
    cases last
    exact .inl ⟨before, traced, rfl⟩

/-- A member has one lineage only. -/
theorem Lineage.unique {other : List ContextChange} (one : Lineage past member lineage)
    (another : Lineage past member other) : lineage = other := by
  induction past using List.reverseRecOn generalizing member lineage other with
  | nil => cases one.getElem?_after
  | append_singleton past next ih =>
    have old : ∀ before, Lineage past member before → member < (after past).length :=
      fun before traced => (List.getElem?_eq_some_iff.1 traced.getElem?_after).1
    rcases one.of_concat with ⟨before, traced, rfl⟩ | ⟨added, begins⟩
    · rcases another.of_concat with ⟨others, also, rfl⟩ | ⟨added, -⟩
      · rw [ih traced also]
      · exact absurd (old before traced) (by omega)
    · rcases another.of_concat with ⟨others, also, -⟩ | ⟨-, second⟩
      · exact absurd (old others also) (by omega)
      · cases begins with
        | fresh traceId =>
          cases second
          rfl
        | copy member inherited origin =>
          cases second with
          | copy _ _ again => exact ih origin again
        | event member payload inherited origin =>
          cases second with
          | event _ _ others again => rw [ih origin again]

/-- A member that has a lineage is there, and holds what its lineage set. -/
theorem Lineage.follows (traced : Lineage past member lineage) :
    ∃ ctx, (after past)[member]? = some ctx ∧ ctx.Follows lineage := by
  refine ⟨_, traced.getElem?_after, ?_⟩
  obtain ⟨traceId, changes, rfl⟩ := traced.begins
  exact RequestContext.follows_afterChanges traceId changes

/-- Contexts follow their lineage. At every point of a run, each member of the family has one
lineage, and whatever has a lineage is a member and holds what the last changes of each kind in it
set. The step that comes next leaves all other members as they were, and adds the context that its
origin yields, if it is to add one. -/
theorem contexts_follow_lineage (past future : List ContextStep) :
    ∃ family, (states [] (past ++ future))[past.length]? = some family ∧
      (∀ member ctx, family[member]? = some ctx → ∃! lineage, Lineage past member lineage) ∧
      (∀ member lineage, Lineage past member lineage →
        ∃ ctx, family[member]? = some ctx ∧ ctx.Follows lineage) ∧
      ∀ next rest, future = next :: rest →
        ∃ family', (states [] (past ++ future))[past.length + 1]? = some family' ∧
          next.LeavesOthers family family' := by
  refine ⟨after past, getElem?_states [] past future, ?_, fun member lineage => Lineage.follows, ?_⟩
  · intro member ctx there
    obtain ⟨lineage, traced⟩ := exists_lineage past member ctx there
    exact ⟨lineage, traced, fun other another => another.unique traced⟩
  · rintro next rest rfl
    have reached := getElem?_states [] (past ++ [next]) rest
    rw [List.append_assoc, List.length_append] at reached
    refine ⟨after (past ++ [next]), reached, ?_⟩
    rw [after_concat]
    exact leavesOthers_step (after past) next

/-- The context of an event has the argument that the other had at that moment, present without a
value; neither sees what is written to the other afterwards. -/
example :
    let room := Object.ofText (.entry 0) "lobby"
    (after [.extend (.fresh "t"), .alter 0 (.argument "room" none), .extend (.event 0 none),
        .alter 0 (.argument "room" (some room)), .alter 1 (.argument "limit" none)]).map
        (fun ctx => (ctx.argument? "room", ctx.argument? "limit")) =
      [(some (some room), none), (some none, some none)] := rfl

end ContextFamily

end SubscriptionFields
