import DesignRules.Sentence

/-!
# Sentences draft rules

A sentence only restricts the order in which a draft is built. Whatever chain of clauses is allowed,
the stage it leads to names the objects of the draft, or is judged as the draft, that the calls
matching the clauses make: a predicate for a predicate, a condition for a condition, an announced
connector, a reason. Rules joined into one sentence are drafts that each continue the rule before.

## Relations

A relation and the predicates on its related objects are one condition of the draft. The grammar
comes to it late: while predicates may still follow, the relation is kept beside the draft, and a
stage that is judged in that state previews the condition. There are many ways to leave such a
stage, and each of them joins the condition on its own. Read from the clauses, there is nothing to
leave: the predicates end where another clause begins. `Step.calls` reads them that way, and what
remains to be shown is that no way out forgets the condition or joins it twice.

## Induction from the front

The condition of a relation depends on clauses that are still to come. So the statement about a
stage speaks of the whole rest of its chain: `Stage.draftAfter` is the draft that the stage and the
rest make together, and `Sentence.outlineAfter` says the same across joined rules. One clause moves
from the rest to the stage and leaves that draft as it is.

## Chains that are not allowed

The calls are defined for every list of clauses. Where the grammar has no stage, what they make
means nothing, and no statement is about it.

## Main definitions

* `Draft.Call`, `Draft.run` — calls that change a draft, one after another
* `Step.calls` — the calls that match the clauses of a rule
* `Sentence.Clause`, `Sentence.run` — the stage that a chain of clauses leads to
* `Sentence.Outline`, `Outline.ofSentence` — the draft that the calls matching a chain make
* `Stage.BehavesAs`, `Sentence.BehavesAs` — a stage is the draft, as a provider or as a rule

## Main results

* `Stage.draftAfter_step`, `Sentence.outlineAfter_step` — one clause, of a rule and of a sentence
* `Sentence.outlineAfter_run` — a whole chain
* `Stage.behavesAs_draft` — what a stage can be used as
* `Sentence.run_behavesAs` — the stages of a sentence against drafts
-/

namespace DesignRules

/-! ### Calls on a draft -/

namespace Draft

variable {α : Type}

/-- A call that changes a draft. -/
inductive Call (α : Type) where
  | that (p : Predicate α)
  | require (condition : Condition α)
  | requireExistence (condition : Existence)
  | joinNext (c : Connector)
  | because (reason : String)

/-- The draft after a call. -/
def call (d : Draft α) : Call α → Draft α
  | .that p => d.that p
  | .require condition => d.require condition
  | .requireExistence condition => d.requireExistence condition
  | .joinNext c => d.joinNext c
  | .because reason => d.because reason

/-- The draft after some calls, in order. -/
def run (d : Draft α) (calls : List (Call α)) : Draft α := calls.foldl call d

@[simp] theorem run_nil (d : Draft α) : d.run [] = d := rfl

@[simp] theorem run_cons (d : Draft α) (next : Call α) (rest : List (Call α)) :
    d.run (next :: rest) = (d.call next).run rest := rfl

end Draft

/-! ### The calls of a chain -/

namespace Step

variable {α : Type}

/-- The part of a sentence that a clause stands in. It says what an *and* joins: two predicates on
the objects, two conditions, or two predicates on related objects. -/
inductive Part where
  | subject
  | assertion
  | relation
  deriving DecidableEq, Repr

/-- The predicates on related objects at the beginning of a chain. -/
def relatedPredicates : List (Step α) → List (Predicate TypeDecl)
  | .filterRelated p :: rest => p :: relatedPredicates rest
  | .and :: rest => relatedPredicates rest
  | _ => []

/-- The calls that match the clauses of a chain. A relation is a single condition, together with the
predicates that follow it. -/
def calls : Part → List (Step α) → List (Draft.Call α)
  | _, [] => []
  | part, .that :: rest => calls part rest
  | part, .filter p :: rest => .that p :: calls part rest
  | .subject, .and :: rest => calls .subject rest
  | .assertion, .and :: rest => .joinNext .and :: calls .assertion rest
  | .relation, .and :: rest => calls .relation rest
  | part, .filterRelated _ :: rest => calls part rest
  | _, .should :: rest => calls .assertion rest
  | _, .exist :: rest => .requireExistence .exist :: calls .assertion rest
  | _, .notExist :: rest => .requireExistence .notExist :: calls .assertion rest
  | _, .require condition :: rest => .require condition :: calls .assertion rest
  | _, .or :: rest => .joinNext .or :: calls .assertion rest
  | _, .andShould :: rest => .joinNext .and :: calls .assertion rest
  | _, .orShould :: rest => .joinNext .or :: calls .assertion rest
  | _, .because reason :: rest => .because reason :: calls .assertion rest
  | _, .relate relation κ :: rest =>
    .require (relation.relatedTo (Selection.mk κ (relatedPredicates rest)).provider) ::
      calls .relation rest

end Step

/-! ### Stages of one rule -/

namespace Stage

variable {α : Type}

/-- The draft that a stage holds, with a relation that is still open joined to it. -/
def draft : Stage α → Draft α
  | given d => d
  | that d => d
  | filtered d => d
  | should _ d => d
  | asserted d => d
  | existence d => d
  | relatedThat d relation selection => d.require (relatedCondition relation selection)
  | related d relation selection => d.require (relatedCondition relation selection)

/-- The draft that a stage and the rest of its chain make together. An open relation takes the
predicates at the beginning of the rest. -/
def draftAfter (s : Stage α) (rest : List (Step α)) : Draft α :=
  match s with
  | given d => d.run (Step.calls .subject rest)
  | that d => d.run (Step.calls .subject rest)
  | filtered d => d.run (Step.calls .subject rest)
  | should _ d => d.run (Step.calls .assertion rest)
  | asserted d => d.run (Step.calls .assertion rest)
  | existence d => d.run (Step.calls .assertion rest)
  | relatedThat d relation selection =>
    (d.require (relatedCondition relation
      ⟨selection.kind, selection.predicates ++ Step.relatedPredicates rest⟩)).run
        (Step.calls .relation rest)
  | related d relation selection =>
    (d.require (relatedCondition relation
      ⟨selection.kind, selection.predicates ++ Step.relatedPredicates rest⟩)).run
        (Step.calls .relation rest)

theorem draftAfter_nil (s : Stage α) : s.draftAfter [] = s.draft := by
  cases s <;> simp [draftAfter, draft, Step.calls, Step.relatedPredicates]

/-- **One clause.** A clause taken from the rest of the chain changes the stage, and not the draft
that both make together. -/
theorem draftAfter_step {s next : Stage α} {step : Step α} (h : s.step step = some next)
    (rest : List (Step α)) : s.draftAfter (step :: rest) = next.draftAfter rest := by
  cases s with
  | given d =>
    cases step with
    | that | should => obtain rfl := Option.some.inj h; rfl
    | _ => cases h
  | that d =>
    cases step with
    | filter p => obtain rfl := Option.some.inj h; rfl
    | _ => cases h
  | filtered d =>
    cases step with
    | and | should => obtain rfl := Option.some.inj h; rfl
    | _ => cases h
  | should chained d =>
    -- Whether objects exist can be said in the first assertion only.
    cases chained <;> cases step <;> cases h <;> rfl
  | asserted d =>
    cases step with
    | and | or | because reason => obtain rfl := Option.some.inj h; rfl
    | _ => cases h
  | existence d =>
    cases step with
    | because reason => obtain rfl := Option.some.inj h; rfl
    | _ => cases h
  | relatedThat d relation selection =>
    cases step with
    | filterRelated p =>
      obtain rfl := Option.some.inj h
      simp [draftAfter, Step.calls, Step.relatedPredicates, Selection.narrow]
    | _ => cases h
  | related d relation selection =>
    cases step with
    | and => obtain rfl := Option.some.inj h; rfl
    -- The ways out of an open relation: no predicate is left for it to take.
    | andShould | orShould | because reason =>
      obtain rfl := Option.some.inj h
      simp [draftAfter, Step.calls, Step.relatedPredicates, Draft.call]
    | _ => cases h

theorem eq_draft_of_finished? {s : Stage α} {d : Draft α} (h : s.finished? = some d) :
    d = s.draft := by
  cases s <;> first | exact (Option.some.inj h).symm | cases h

variable [Element α]

/-- A stage behaves as a draft: it holds it, and what the stage can be used as is the draft used in
the same way. Stages that lack a clause cannot be used as anything. -/
def BehavesAs (s : Stage α) (d : Draft α) : Prop :=
  s.draft = d ∧
    match s with
    | given _ | filtered _ => s.provider? = some d.provider
    | asserted _ | existence _ | related .. => s.rule? = some d.rule
    | that _ | should .. | relatedThat .. => True

/-- A stage that is judged with an open relation is judged as if the relation had joined. -/
theorem behavesAs_draft (s : Stage α) : s.BehavesAs s.draft := by
  cases s <;> exact ⟨rfl, by first | rfl | trivial⟩

end Stage

/-! ### Sentences of several rules -/

namespace Sentence

/-- A clause of a sentence of several rules. -/
inductive Clause where
  /-- A clause of a rule about types. -/
  | types (step : Step TypeDecl)
  /-- A clause of a rule about members. -/
  | members (step : Step Member)
  /-- Announces another rule. -/
  | also (c : Connector)
  /-- Names the kind of objects of the rule announced. -/
  | about (topic : Topic)

/-- The sentence after a clause, if the clause may follow. -/
def step : Sentence → Clause → Option Sentence
  | types stage, .types step => (stage.step step).map types
  | members stage, .members step => (stage.step step).map members
  | s, .also c => s.also c
  | s, .about topic => s.about topic
  | _, _ => none

/-- The sentence that a chain of clauses leads to, if they may follow each other. -/
def run (s : Sentence) : List Clause → Option Sentence
  | [] => some s
  | clause :: rest => (s.step clause).bind fun next => run next rest

namespace Clause

/-- The clauses of a rule about types, up to its end. -/
def typeSteps : List Clause → List (Step TypeDecl)
  | types step :: rest => step :: typeSteps rest
  | _ => []

/-- The clauses of a rule about members, up to its end. -/
def memberSteps : List Clause → List (Step Member)
  | members step :: rest => step :: memberSteps rest
  | _ => []

end Clause

/-! ### Outlines -/

/-- The draft of the last rule of a sentence, or the rule that the next one is to continue. -/
inductive Outline where
  | types (d : Draft TypeDecl)
  | members (d : Draft Member)
  | joining (prior : Rule) (c : Connector)

namespace Outline

/-- The draft of a rule that begins as `new` and has the clauses at the beginning of a chain. -/
def ofChain (new : {α : Type} → Kind α → Draft α) (chain : List Clause) : Topic → Outline
  | .types κ => types ((new κ).run (Step.calls .subject (Clause.typeSteps chain)))
  | .members κ => members ((new κ).run (Step.calls .subject (Clause.memberSteps chain)))

/-- The outline after the next clause of a chain. A rule is drafted as a whole when its kind is
named; `rest` is the part of the chain behind the clause. -/
def next (o : Outline) (rest : List Clause) : Clause → Outline
  | .types _ => o
  | .members _ => o
  | .also c =>
    match o with
    | types d => joining d.rule c
    | members d => joining d.rule c
    | joining .. => o
  | .about topic =>
    match o with
    | joining prior c => ofChain (Draft.continuing prior c) rest topic
    | _ => o

/-- The outline after a chain. -/
def run (o : Outline) : List Clause → Outline
  | [] => o
  | clause :: rest => run (o.next rest clause) rest

/-- The outline of a sentence that begins with a topic. -/
def ofSentence (topic : Topic) (chain : List Clause) : Outline :=
  (ofChain Draft.start chain topic).run chain

end Outline

/-! ### Sentences against outlines -/

/-- A sentence behaves as an outline. -/
def BehavesAs : Sentence → Outline → Prop
  | types stage, .types d => stage.BehavesAs d
  | members stage, .members d => stage.BehavesAs d
  | joining prior c, .joining prior' c' => prior = prior' ∧ c = c'
  | _, _ => False

/-- The outline that a sentence and the rest of its chain make together. -/
def outlineAfter (s : Sentence) (rest : List Clause) : Outline :=
  match s with
  | types stage => (Outline.types (stage.draftAfter (Clause.typeSteps rest))).run rest
  | members stage => (Outline.members (stage.draftAfter (Clause.memberSteps rest))).run rest
  | joining prior c => (Outline.joining prior c).run rest

theorem outlineAfter_start (topic : Topic) (chain : List Clause) :
    (start topic).outlineAfter chain = .ofSentence topic chain := by
  cases topic <;> rfl

theorem behavesAs_outlineAfter_nil (s : Sentence) : s.BehavesAs (s.outlineAfter []) := by
  cases s with
  | types stage =>
    change stage.BehavesAs (stage.draftAfter [])
    rw [Stage.draftAfter_nil]
    exact stage.behavesAs_draft
  | members stage =>
    change stage.BehavesAs (stage.draftAfter [])
    rw [Stage.draftAfter_nil]
    exact stage.behavesAs_draft
  | joining prior c => exact ⟨rfl, rfl⟩

/-- **One clause of a sentence.** A clause taken from the rest of the chain changes the sentence,
and not the outline that both make together. -/
theorem outlineAfter_step {s next : Sentence} {clause : Clause} (h : s.step clause = some next)
    (rest : List Clause) : s.outlineAfter (clause :: rest) = next.outlineAfter rest := by
  cases clause with
  | types step =>
    cases s with
    | types stage =>
      obtain ⟨stage', hstep, rfl⟩ := Option.map_eq_some_iff.mp h
      simp only [outlineAfter, Clause.typeSteps, Outline.run, Outline.next,
        Stage.draftAfter_step hstep]
    | members | joining => cases h
  | members step =>
    cases s with
    | members stage =>
      obtain ⟨stage', hstep, rfl⟩ := Option.map_eq_some_iff.mp h
      simp only [outlineAfter, Clause.memberSteps, Outline.run, Outline.next,
        Stage.draftAfter_step hstep]
    | types | joining => cases h
  | also c =>
    -- The rule ends here: what the stage holds is its draft, and the rest is about the next rule.
    cases s with
    | types stage =>
      obtain ⟨d, hd, rfl⟩ := Option.map_eq_some_iff.mp h
      obtain rfl := Stage.eq_draft_of_finished? hd
      simp only [outlineAfter, Clause.typeSteps, Outline.run, Outline.next, Stage.draftAfter_nil]
    | members stage =>
      obtain ⟨d, hd, rfl⟩ := Option.map_eq_some_iff.mp h
      obtain rfl := Stage.eq_draft_of_finished? hd
      simp only [outlineAfter, Clause.memberSteps, Outline.run, Outline.next, Stage.draftAfter_nil]
    | joining => cases h
  | about topic =>
    cases s with
    | joining prior c => cases topic <;> cases h <;> rfl
    | types | members => cases topic <;> cases h

/-- **A chain of clauses.** Nothing of the chain is left at its end, and the sentence there is the
outline that the whole chain makes. -/
theorem outlineAfter_run {s last : Sentence} {chain : List Clause} (h : s.run chain = some last) :
    s.outlineAfter chain = last.outlineAfter [] := by
  induction chain generalizing s with
  | nil =>
    obtain rfl := Option.some.inj h
    rfl
  | cons clause rest ih =>
    obtain ⟨next, hstep, hrest⟩ := Option.bind_eq_some_iff.mp h
    rw [outlineAfter_step hstep, ih hrest]

/-- **Sentences draft rules.** Every stage that a chain of clauses leads to behaves as the draft
that the calls matching the clauses make. -/
theorem run_behavesAs (topic : Topic) (chain : List Clause) (s : Sentence)
    (h : (start topic).run chain = some s) : s.BehavesAs (.ofSentence topic chain) := by
  rw [← outlineAfter_start, outlineAfter_run h]
  exact behavesAs_outlineAfter_nil s

/-- Public classes should use a public class that stores things, or be the index, because a page
draws what is stored; and there should be methods. -/
def shopChain : List Clause :=
  [.types .that, .types (.filter ((Criterion.visibility .pub).predicate false)), .types .should,
    .types (.relate (Relation.dependsOnClasses false) .classes),
    .types (.filterRelated ((Criterion.nameStartingWith "Store").predicate false)),
    .types .and, .types (.filterRelated ((Criterion.visibility .pub).predicate false)),
    .types .orShould, .types (.require ((Criterion.name "Index").condition false).lift),
    .types (.because "pages draw what is stored"), .also .and, .about (.members .methodMembers),
    .members .should, .members .exist]

/-- What the sentence says about classes, as a draft. -/
def shopClasses : Draft TypeDecl :=
  (Draft.start .classes).run
    [.that ((Criterion.visibility .pub).predicate false),
      .require ((Relation.dependsOnClasses false).relatedTo (Selection.mk .classes
        [(Criterion.nameStartingWith "Store").predicate false,
          (Criterion.visibility .pub).predicate false]).provider),
      .joinNext .or, .require ((Criterion.name "Index").condition false).lift,
      .because "pages draw what is stored"]

theorem run_behavesAs_shop :
    ∃ s, (start (.types .classes)).run shopChain = some s ∧
      s.BehavesAs (.members
        ((Draft.continuing shopClasses.rule .and .methodMembers).requireExistence .exist)) ∧
      s.rule?.map Rule.description = some ("Classes that are public should depend on classes " ++
        "that have name starting with \"Store\" and are public or have name \"Index\" because " ++
        "pages draw what is stored and Method members should exist") :=
  ⟨_, rfl, run_behavesAs (.types .classes) shopChain _ rfl, rfl⟩

end Sentence

end DesignRules
