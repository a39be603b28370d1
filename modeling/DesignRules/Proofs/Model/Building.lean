import DesignRules.Catalogue.Scoped

/-!
# Built types

A type is made from a full name, and everything else is added by calls, in any order and as often
as one likes; so is a member. Some facts are kept twice. A base type, an interface or an attribute
has a place of its own, and it is also the target of a dependency. Rules on dependencies look at the
dependencies alone, so a call that forgot one of them would hide it from these rules.

## Sub-lists, not equal lists

Dependencies may be added by hand at any time, also those that say *inheritance* or *attribute
usage*, and a second base type replaces the first while both dependencies stay. So there can be more
dependencies than facts, and nothing takes a dependency away. What survives every order of calls is
that the facts form a sub-list: they come in the order of their dependencies, and none of them more
often.

## Main definitions

* `Member.Call`, `TypeDecl.Call` — the calls; `Member.run`, `TypeDecl.run` — some calls in order
* `Member.IsBuilt` — a member that was made from a name by calls
* `Dependency.targetsBy` — the targets that are used in one way
* `Element.RecordsAttributes`, `TypeDecl.Recorded` — what holds of facts and dependencies

## Main results

* `TypeDecl.names_run` — the names stay as they were at the beginning
* `TypeDecl.Recorded.call`, `TypeDecl.Recorded.run` — one call, and all of them
* `TypeDecl.built_facts_are_recorded` — what follows for dependencies
-/

namespace DesignRules

/-! ### Targets by form -/

namespace Dependency

variable {form : DependencyForm} {dependencies : List Dependency}

/-- The targets of the dependencies of one form, in order. -/
def targetsBy (form : DependencyForm) (dependencies : List Dependency) : List String :=
  (dependencies.filter fun d => d.form = form).map Dependency.target

theorem targetsBy_concat_self (form : DependencyForm) (target : String) :
    targetsBy form (dependencies ++ [⟨form, target⟩]) =
      targetsBy form dependencies ++ [target] := by
  simp [targetsBy]

/-- A further dependency takes no target away. -/
theorem targetsBy_sublist_concat (form : DependencyForm) (d : Dependency) :
    (targetsBy form dependencies).Sublist (targetsBy form (dependencies ++ [d])) :=
  ((List.sublist_append_left dependencies [d]).filter _).map _

/-- A further dependency goes together with a further fact. -/
theorem concat_sublist_targetsBy {facts : List String}
    (h : facts.Sublist (targetsBy form dependencies)) (target : String) :
    (facts ++ [target]).Sublist (targetsBy form (dependencies ++ [⟨form, target⟩])) := by
  rw [targetsBy_concat_self]
  exact h.append_right [target]

theorem mem_targetsBy_concat (form : DependencyForm) (target : String) :
    target ∈ targetsBy form (dependencies ++ [⟨form, target⟩]) := by
  rw [targetsBy_concat_self]
  exact List.mem_concat_self

theorem targetsBy_subset : targetsBy form dependencies ⊆ dependencies.map Dependency.target :=
  List.map_subset _ List.filter_sublist.subset

end Dependency

/-! ### Attributes -/

namespace Element

variable {α : Type} [Element α] {object : α}

/-- The attributes are a sub-list of the targets used as attributes. -/
def RecordsAttributes (object : α) : Prop :=
  (attributes object).Sublist (Dependency.targetsBy .attributeUsage (dependencies object))

theorem dependsOnType_of_mem_targetsBy {form : DependencyForm} {name : String}
    (h : name ∈ Dependency.targetsBy form (dependencies object)) :
    dependsOnType object name = true :=
  List.contains_iff_mem.2 (Dependency.targetsBy_subset h)

theorem RecordsAttributes.dependsOnType (h : RecordsAttributes object) {name : String}
    (hname : name ∈ attributes object) : Element.dependsOnType object name = true :=
  dependsOnType_of_mem_targetsBy (h.subset hname)

/-- Who carries one of some attributes uses one of them. -/
theorem RecordsAttributes.exists_dependsOnType (h : RecordsAttributes object)
    {related : List TypeDecl}
    (hholds : (Relation.hasAttributes false).holds object related = true) :
    ∃ t ∈ related, Element.dependsOnType object t.fullName = true := by
  obtain ⟨t, ht, hattribute⟩ := List.any_eq_true.1 hholds
  exact ⟨t, ht, h.dependsOnType (List.contains_iff_mem.1 hattribute)⟩

end Element

/-! ### Building members -/

namespace Member

/-- A call that changes a member. -/
inductive Call where
  | withVisibility (visibility : Visibility)
  | dependingOn (form : DependencyForm) (target : String)
  | withAttribute (attributeName : String)
  deriving DecidableEq, Repr

/-- The member after a call. -/
def call (m : Member) : Call → Member
  | .withVisibility visibility => m.withVisibility visibility
  | .dependingOn form target => m.dependingOn form target
  | .withAttribute attributeName => m.withAttribute attributeName

/-- The member after some calls, in order. -/
def run (m : Member) (calls : List Call) : Member := calls.foldl call m

/-- The member was made from a name by calls. -/
def IsBuilt (m : Member) : Prop := ∃ form name calls, m = (ofName form name).run calls

variable {m : Member}

theorem recordsAttributes_call (h : Element.RecordsAttributes m) (next : Call) :
    Element.RecordsAttributes (m.call next) := by
  cases next with
  | withVisibility visibility => exact h
  | dependingOn form target => exact h.trans (Dependency.targetsBy_sublist_concat _ _)
  | withAttribute attributeName => exact Dependency.concat_sublist_targetsBy h attributeName

theorem recordsAttributes_run (h : Element.RecordsAttributes m) (calls : List Call) :
    Element.RecordsAttributes (m.run calls) := by
  induction calls generalizing m with
  | nil => exact h
  | cons next rest ih => exact ih (recordsAttributes_call h next)

theorem recordsAttributes_ofName (form : MemberForm) (name : String) :
    Element.RecordsAttributes (ofName form name) :=
  List.nil_sublist _

theorem IsBuilt.recordsAttributes (h : m.IsBuilt) : Element.RecordsAttributes m := by
  obtain ⟨form, name, calls, rfl⟩ := h
  exact recordsAttributes_run (recordsAttributes_ofName form name) calls

end Member

/-! ### Building types -/

namespace TypeDecl

/-- A call that changes a type. -/
inductive Call where
  | withVisibility (visibility : Visibility)
  | inAssembly (assembly : String)
  | asNested
  | dependingOn (form : DependencyForm) (target : String)
  | extending (base : String)
  | implementing (interfaceName : String)
  | withAttribute (attributeName : String)
  | withMember (m : Member)
  deriving DecidableEq, Repr

/-- The type after a call. -/
def call (t : TypeDecl) : Call → TypeDecl
  | .withVisibility visibility => t.withVisibility visibility
  | .inAssembly assembly => t.inAssembly assembly
  | .asNested => t.asNested
  | .dependingOn form target => t.dependingOn form target
  | .extending base => t.extending base
  | .implementing interfaceName => t.implementing interfaceName
  | .withAttribute attributeName => t.withAttribute attributeName
  | .withMember m => t.withMember m

/-- The type after some calls, in order. -/
def run (t : TypeDecl) (calls : List Call) : TypeDecl := calls.foldl call t

/-- The type was made from the full name by calls, and so were its members. -/
def IsBuiltFrom (t : TypeDecl) (fullName : String) : Prop :=
  ∃ form calls, t = (ofName form fullName).run calls ∧
    ∀ m, .withMember m ∈ calls → Member.IsBuilt m

variable {t : TypeDecl}

/-- No call changes the names of a type. -/
theorem names_run (t : TypeDecl) (calls : List Call) :
    (t.run calls).fullName = t.fullName ∧ (t.run calls).inNamespace = t.inNamespace ∧
      (t.run calls).name = t.name := by
  induction calls generalizing t with
  | nil => exact ⟨rfl, rfl, rfl⟩
  | cons next rest ih =>
    have hcall : (t.call next).fullName = t.fullName ∧
        (t.call next).inNamespace = t.inNamespace ∧ (t.call next).name = t.name := by
      cases next <;> exact ⟨rfl, rfl, rfl⟩
    obtain ⟨hfullName, hinNamespace, hname⟩ := ih (t.call next)
    exact ⟨hfullName.trans hcall.1, hinNamespace.trans hcall.2.1, hname.trans hcall.2.2⟩

/-- The facts about a type go together with its dependencies, and its members with its name. -/
structure Recorded (t : TypeDecl) : Prop where
  /-- The interfaces are a sub-list of the targets that are implemented. -/
  interfaces : t.interfaces.Sublist
    (Dependency.targetsBy .interfaceImplementation t.dependencies)
  /-- The attributes are a sub-list of the targets used as attributes. -/
  attributes : Element.RecordsAttributes t
  /-- The base type is among the targets that are inherited from. -/
  baseType : ∀ base ∈ t.baseType, base ∈ Dependency.targetsBy .inheritance t.dependencies
  /-- A member is named after the type, and records its own attributes. -/
  members : ∀ m ∈ t.members, m.fullName = t.fullName ++ "." ++ m.name ∧
    m.declaringType = t.fullName ∧ Element.RecordsAttributes m

namespace Recorded

theorem ofName (form : TypeForm) (fullName : String) :
    (TypeDecl.ofName form fullName).Recorded where
  interfaces := List.nil_sublist _
  attributes := List.nil_sublist _
  baseType := by rintro _ ⟨⟩
  members := by rintro _ ⟨⟩

theorem dependingOn (h : t.Recorded) (form : DependencyForm) (target : String) :
    (t.dependingOn form target).Recorded where
  interfaces := h.interfaces.trans (Dependency.targetsBy_sublist_concat _ _)
  attributes := h.attributes.trans (Dependency.targetsBy_sublist_concat _ _)
  baseType base hbase :=
    (Dependency.targetsBy_sublist_concat _ _).subset (h.baseType base hbase)
  members := h.members

theorem withMember (h : t.Recorded) {m : Member} (hm : m.IsBuilt) :
    (t.withMember m).Recorded where
  interfaces := h.interfaces
  attributes := h.attributes
  baseType := h.baseType
  members := by
    intro added hadded
    rcases List.mem_append.1 hadded with hold | hnew
    · exact h.members added hold
    · obtain rfl := List.mem_singleton.1 hnew
      exact ⟨rfl, rfl, hm.recordsAttributes⟩

/-- **One call.** The calls that add a fact are the call that adds its dependency, with the fact put
in its place. -/
theorem call (h : t.Recorded) (next : Call) (hmember : ∀ m, next = .withMember m → m.IsBuilt) :
    (t.call next).Recorded := by
  cases next with
  | withVisibility visibility => exact ⟨h.interfaces, h.attributes, h.baseType, h.members⟩
  | inAssembly assembly => exact ⟨h.interfaces, h.attributes, h.baseType, h.members⟩
  | asNested => exact ⟨h.interfaces, h.attributes, h.baseType, h.members⟩
  | dependingOn form target => exact h.dependingOn form target
  | extending base =>
    have hrest := h.dependingOn .inheritance base
    refine ⟨hrest.interfaces, hrest.attributes, ?_, hrest.members⟩
    rintro _ ⟨⟩
    exact Dependency.mem_targetsBy_concat .inheritance base
  | implementing interfaceName =>
    have hrest := h.dependingOn .interfaceImplementation interfaceName
    have hinterfaces := Dependency.concat_sublist_targetsBy h.interfaces interfaceName
    exact ⟨hinterfaces, hrest.attributes, hrest.baseType, hrest.members⟩
  | withAttribute attributeName =>
    have hrest := h.dependingOn .attributeUsage attributeName
    have hattributes := Dependency.concat_sublist_targetsBy h.attributes attributeName
    exact ⟨hrest.interfaces, hattributes, hrest.baseType, hrest.members⟩
  | withMember m => exact h.withMember (hmember m rfl)

/-- **All calls.** -/
theorem run (h : t.Recorded) {calls : List Call}
    (hmembers : ∀ m, .withMember m ∈ calls → m.IsBuilt) : (t.run calls).Recorded := by
  induction calls generalizing t with
  | nil => exact h
  | cons next rest ih =>
    refine ih (h.call next fun m hnext => hmembers m ?_) fun m hm => hmembers m ?_
    · exact hnext ▸ List.mem_cons_self
    · exact List.mem_cons_of_mem _ hm

theorem dependsOnType (h : t.Recorded) {name : String}
    (hname : name ∈ t.baseType ∨ name ∈ t.interfaces ∨ name ∈ t.attributes) :
    Element.dependsOnType t name = true := by
  rcases hname with hbase | hinterface | hattribute
  · exact Element.dependsOnType_of_mem_targetsBy (h.baseType name hbase)
  · exact Element.dependsOnType_of_mem_targetsBy (h.interfaces.subset hinterface)
  · exact h.attributes.dependsOnType hattribute

end Recorded

end TypeDecl

/-- **The facts about a built type are among its dependencies.** Start from a full name and let any
calls follow, with members that are built as well. The full name stays. The interfaces form a
sub-list of the targets that the type implements, and so do its attributes among the targets it uses
as attributes; the base type is a target it inherits from. Every member has the full name of the
type, a dot and its own name, belongs to the type, and has its attributes among its own targets. So
the type depends on its base type, on every interface and on every attribute. And what carries one
of some attributes, be it the type or a member, depends on one of them. -/
theorem TypeDecl.built_facts_are_recorded {t : TypeDecl} {fullName : String}
    (hbuilt : t.IsBuiltFrom fullName) :
    t.fullName = fullName ∧ t.Recorded ∧
    (∀ name, name ∈ t.baseType ∨ name ∈ t.interfaces ∨ name ∈ t.attributes →
      Element.dependsOnType t name = true) ∧
    ∀ related : List TypeDecl,
      ((Relation.hasAttributes false).holds t related = true →
        ∃ r ∈ related, Element.dependsOnType t r.fullName = true) ∧
      ∀ m ∈ t.members, (Relation.hasAttributes false).holds m related = true →
        ∃ r ∈ related, Element.dependsOnType m r.fullName = true := by
  obtain ⟨form, calls, rfl, hmembers⟩ := hbuilt
  have hrecorded := (Recorded.ofName form fullName).run hmembers
  refine ⟨(names_run _ calls).1, hrecorded, fun name => hrecorded.dependsOnType, fun related => ?_⟩
  refine ⟨hrecorded.attributes.exists_dependsOnType, fun m hm => ?_⟩
  exact (hrecorded.members m hm).2.2.exists_dependsOnType

/-- Dependencies of the same forms are added by hand before and between the facts, and the base type
is replaced. -/
def orderCalls : List TypeDecl.Call :=
  [.dependingOn .attributeUsage "Shop.Audited", .extending "Shop.Draft",
    .implementing "Shop.IPriced", .dependingOn .interfaceImplementation "Shop.IOld",
    .withMember ((Member.ofName .method "Pay").run
      [.withAttribute "Shop.Audited", .dependingOn .methodCall "Shop.Till",
        .withVisibility .internal]),
    .implementing "Shop.IPriced", .extending "Shop.Entity", .withAttribute "Shop.Stored", .asNested]

theorem TypeDecl.built_facts_are_recorded_order :
    ((ofName .classType "Shop.Order").run orderCalls).IsBuiltFrom "Shop.Order" ∧
    Element.dependsOnType ((ofName .classType "Shop.Order").run orderCalls) "Shop.Entity" = true ∧
    ∃ r ∈ [ofName .attributeType "Shop.Audited"], Element.dependsOnType
      (((Member.ofName .method "Pay").run
        [.withAttribute "Shop.Audited", .dependingOn .methodCall "Shop.Till",
          .withVisibility .internal]).attachedTo "Shop.Order") r.fullName = true := by
  have hbuilt : ((ofName .classType "Shop.Order").run orderCalls).IsBuiltFrom "Shop.Order" := by
    refine ⟨_, _, rfl, fun m hm => ?_⟩
    simp only [orderCalls, List.mem_cons, reduceCtorEq, Call.withMember.injEq, List.not_mem_nil,
      or_false, false_or] at hm
    exact ⟨_, _, _, hm⟩
  obtain ⟨-, -, hdepends, hrelated⟩ := built_facts_are_recorded hbuilt
  refine ⟨hbuilt, hdepends "Shop.Entity" (Or.inl rfl), ?_⟩
  exact (hrelated _).2 _ (List.mem_singleton_self _) (by decide)

end DesignRules
