import Strata.Proofs.Reading
import Strata.Proofs.Standing

/-!
# Filters are read whatever surrounds them

A filter that was written may come back changed by someone who knows more kinds than are known here:
its members in another order, members added that its kind does not declare, and filters within it
replaced by filters of another kind. `Revised filter value result` says that `value` is what became
of the text of `filter` in this way, and that `result` is `filter` with `unknown` in the places
where a filter was replaced.

Such a value is read as `result`. The induction is on the filter; at each place the members are an
arrangement of known entries among others, which is all that the reading of a record asks for.
-/

namespace Strata

/-- The members of an object in another order, among others whose names are not declared. -/
def Json.Rearranged (declared : List String) (own members : List (String × Json)) : Prop :=
  ∃ added, members.Perm (own ++ added) ∧ ∀ member ∈ added, member.1 ∉ declared

namespace Filter

open Json (Rearranged)
open Wire (Layout Entry Access)

/-- The members that a kind declares beside `type`. -/
def Kind.fields : Kind → List String
  | .field => ["attribute", "operator", "value"]
  | .componentType => ["value"]
  | .managed => ["value"]
  | .publisher => ["operator", "value"]
  | .anyLayer => ["child"]
  | .condition => ["attribute", "operator", "value"]
  | .holdsAttribute => ["attributeName", "operator", "value", "attributeType"]
  | .layerOf => ["solution", "child"]
  | .changes => ["solution"]
  | .differs => ["sourceSolution", "targetMode", "targetSolutions", "onlyChangedAttributes",
      "attributeNames", "attributeMatchLogic"]
  | .all => ["children"]
  | .any => ["children"]
  | .not => ["child"]
  | .has => ["solution"]
  | .hasAny => ["solutions"]
  | .hasAll => ["solutions"]
  | .hasNone => ["solutions"]
  | .orderStrict => ["sequence"]
  | .orderFlexible => ["sequence"]
  | .unknown => []

/-- Whether a filter holds neither filters nor steps. -/
def isLeaf : Filter → Bool
  | .component _ => true
  | .layer _ => true
  | .solutions .. => true
  | .unknown => true
  | _ => false

/-- What may become of a step. -/
inductive RevisedStep : Step → Json → Prop where
  | literal (solution : String) : RevisedStep (.literal solution) (.str solution)
  | choice (solutions : List String) : RevisedStep (.choice solutions) (.list .str solutions)
  | dynamic {raw : RawCondition} {members : List (String × Json)}
      (h : Rearranged ["attribute", "operator", "value"]
        [("attribute", .str raw.field), ("operator", .str raw.operator), ("value", .str raw.value)]
        members) :
      RevisedStep (.dynamic raw) (.obj members)

mutual

/-- What may become of a filter, and the filter that it is then. -/
inductive Revised : Filter → Json → Filter → Prop where
  | replaced {filter : Filter} {tag : String} {others members : List (String × Json)}
      (htag : tag ∉ Kind.known.map Kind.tag) (hothers : ∀ other ∈ others, other.1 ≠ "type")
      (h : members.Perm (("type", .str tag) :: others)) :
      Revised filter (.obj members) .unknown
  | leaf {filter : Filter} {own members : List (String × Json)}
      (hleaf : filter.isLeaf = true) (hown : filter.encode = .obj own)
      (h : Rearranged ("type" :: filter.kind.fields) own members) :
      Revised filter (.obj members) filter
  | sequence {mode : SequenceMode} {steps : List Step} {values : List Json}
      {members : List (String × Json)} (hsteps : List.Forall₂ RevisedStep steps values)
      (h : Rearranged ["type", "sequence"]
        [("type", .str (Filter.sequence mode steps).kind.tag), ("sequence", .arr values)] members) :
      Revised (.sequence mode steps) (.obj members) (.sequence mode steps)
  | anyLayer {child result : Option Filter} {value : Json} {members : List (String × Json)}
      (hchild : RevisedChild child value result)
      (h : Rearranged ["type", "child"] [("type", .str "LAYER_QUERY"), ("child", value)] members) :
      Revised (.anyLayer child) (.obj members) (.anyLayer result)
  | layerOf {solution : String} {child result : Option Filter} {value : Json}
      {members : List (String × Json)} (hchild : RevisedChild child value result)
      (h : Rearranged ["type", "solution", "child"]
        [("type", .str "LAYER_ATTRIBUTE_QUERY"), ("solution", .str solution), ("child", value)]
        members) :
      Revised (.layerOf solution child) (.obj members) (.layerOf solution result)
  | not {child result : Option Filter} {value : Json} {members : List (String × Json)}
      (hchild : RevisedChild child value result)
      (h : Rearranged ["type", "child"] [("type", .str "NOT"), ("child", value)] members) :
      Revised (.not child) (.obj members) (.not result)
  | all {children results : List Filter} {values : List Json} {members : List (String × Json)}
      (hchildren : RevisedEach children values results)
      (h : Rearranged ["type", "children"] [("type", .str "AND"), ("children", .arr values)]
        members) :
      Revised (.all children) (.obj members) (.all results)
  | any {children results : List Filter} {values : List Json} {members : List (String × Json)}
      (hchildren : RevisedEach children values results)
      (h : Rearranged ["type", "children"] [("type", .str "OR"), ("children", .arr values)]
        members) :
      Revised (.any children) (.obj members) (.any results)

/-- What may become of a filter that need not be there. -/
inductive RevisedChild : Option Filter → Json → Option Filter → Prop where
  | none : RevisedChild none .null none
  | some {child result : Filter} {value : Json} (h : Revised child value result) :
      RevisedChild (some child) value (some result)

/-- What may become of filters. -/
inductive RevisedEach : List Filter → List Json → List Filter → Prop where
  | nil : RevisedEach [] [] []
  | cons {child result : Filter} {value : Json} {children results : List Filter}
      {values : List Json} (h : Revised child value result)
      (hmore : RevisedEach children values results) :
      RevisedEach (child :: children) (value :: values) (result :: results)

end

/-! ## Members of a rearranged object -/

/-- Beside its tag, a rearranged object holds the fields of the filter and members that are none. -/
theorem perm_of_rearranged {declared : List String} {tag : Json}
    {own members : List (String × Json)} (htype : "type" ∉ declared)
    (h : Rearranged ("type" :: declared) (("type", tag) :: own) members) :
    ∃ others, members.Perm (own ++ others) ∧ ∀ other ∈ others, other.1 ∉ declared := by
  obtain ⟨added, hperm, hadded⟩ := h
  refine ⟨("type", tag) :: added, hperm.trans List.perm_middle.symm, ?_⟩
  intro other hother
  rcases List.mem_cons.1 hother with rfl | hother
  · exact htype
  · exact fun hin => hadded other hother (List.mem_cons_of_mem _ hin)

/-- Among the members of a rearranged object the tag is found. -/
theorem tagMember_of_rearranged {access : Access} {declared : List String} {tag : String}
    {own members : List (String × Json)} (hown : ∀ member ∈ own, member.1 ≠ "type")
    (h : Rearranged ("type" :: declared) (("type", .str tag) :: own) members)
    (hlegible : Json.legibleMembers members = true) :
    Wire.tagMember "type" access (decodeKind access) none (members.map Source.ofMember)
      = .ok (some (.ofTag tag)) := by
  obtain ⟨added, hperm, hadded⟩ := h
  have hsources : (members.map Source.ofMember).Perm
      (("type", .str tag) :: (own ++ added).map Source.ofMember) := hperm.map Source.ofMember
  refine Wire.tagMember_of_perm (t := Kind.ofTag tag) rfl ?_ hsources
  intro other hother
  obtain ⟨member, hmember, rfl⟩ := List.mem_map.1 hother
  constructor
  · rcases List.mem_append.1 hmember with hmember | hmember
    · exact hown member hmember
    · exact fun hname => hadded member hmember (List.mem_cons.2 (.inl hname))
  · have hlegibleMember := Json.legibleMembers_iff.1 hlegible member
      (hperm.mem_iff.2 (List.mem_cons_of_mem _ hmember))
    exact .inr (Source.isReadable_ofJson hlegibleMember)

/-- A rearranged object of a kind is read as its fields are. -/
theorem decode_of_rearranged {access : Access} {kind : Kind} {tag : String}
    {own members : List (String × Json)} (htag : Kind.ofTag tag = kind)
    (hown : ∀ member ∈ own, member.1 ≠ "type") {declared : List String}
    (h : Rearranged ("type" :: declared) (("type", .str tag) :: own) members)
    (hlegible : Json.isLegible (.obj members) = true) :
    decode access (.ofJson (.obj members)) = kind.decodeFields (.ofJson (.obj members)) := by
  subst htag
  rw [Source.ofJson_obj]
  refine decode_obj ?_ (tagMember_of_rearranged hown h hlegible)
  intro member hmember
  obtain ⟨other, -, rfl⟩ := List.mem_map.1 hmember
  exact Source.isWellFormed_ofJson other.2

/-! ## The fields of each kind -/

theorem decode_record {δ α : Type} {layout : Layout δ α} {entries : List (Entry δ)} {tag : Json}
    {own members : List (String × Json)} {a : α} (henters : layout.Enters entries)
    (hown : own.map Source.ofMember = entries.map Entry.member) (htype : "type" ∉ layout.fields)
    (h : Rearranged ("type" :: layout.fields) (("type", tag) :: own) members)
    (hbuild : layout.build (Entry.setAll entries layout.draft) = .ok a) :
    layout.decode .buffered (.ofJson (.obj members)) = .ok a := by
  obtain ⟨others, hperm, hothers⟩ := perm_of_rearranged htype h
  rw [Layout.decode_of_perm .buffered henters hown hothers hperm, Layout.buildNamed, hbuild]

theorem decode_oneField {β : Type} {title name : String} {decodeValue : Source → Wire.Decoded β}
    {absent : Option β} {make : β → Filter} {tag value : Json} {b : β}
    {members : List (String × Json)} (hname : name ≠ "type")
    (hvalue : decodeValue (.ofJson value) = .ok b)
    (h : Rearranged ["type", name] [("type", tag), (name, value)] members) :
    (oneField title name decodeValue absent make).decode .buffered (.ofJson (.obj members))
      = .ok (make b) := by
  have henters : (oneField title name decodeValue absent make).Enters
      [⟨name, .ofJson value, fun _ => some b⟩] :=
    ⟨by simp [oneField], by simp, by simp [oneField, hvalue], by simp⟩
  exact decode_record henters rfl (by simpa [oneField] using hname.symm) h rfl

theorem decode_fieldLayout {field : ComponentField} {operator : Operator} {value : String}
    {tag : Json} {members : List (String × Json)}
    (h : Rearranged ["type", "attribute", "operator", "value"]
      [("type", tag), ("attribute", Wire.Tag.encode field), ("operator", Wire.Tag.encode operator),
        ("value", .str value)] members) :
    fieldLayout.decode .buffered (.ofJson (.obj members))
      = .ok (.component (.field field operator value)) := by
  have henters : fieldLayout.Enters
      [⟨"attribute", .ofJson (Wire.Tag.encode field), fun d => { d with field := some field }⟩,
        ⟨"operator", .ofJson (Wire.Tag.encode operator), fun d => { d with operator }⟩,
        ⟨"value", .str value, fun d => { d with value := some value }⟩] :=
    ⟨by simp [fieldLayout, comparing], by simp,
      by simp [fieldLayout, comparing, Wire.Tag.decode_encode, Wire.text], by simp⟩
  exact decode_record henters rfl (by decide) h rfl

theorem decode_publisherLayout {operator : Operator} {value : String} {tag : Json}
    {members : List (String × Json)}
    (h : Rearranged ["type", "operator", "value"]
      [("type", tag), ("operator", Wire.Tag.encode operator), ("value", .str value)] members) :
    publisherLayout.decode .buffered (.ofJson (.obj members))
      = .ok (.layer (.publisher operator value)) := by
  have henters : publisherLayout.Enters
      [⟨"operator", .ofJson (Wire.Tag.encode operator), fun d => { d with operator }⟩,
        ⟨"value", .str value, fun d => { d with value := some value }⟩] :=
    ⟨by simp [publisherLayout, comparing], by simp,
      by simp [publisherLayout, comparing, Wire.Tag.decode_encode, Wire.text], by simp⟩
  exact decode_record henters rfl (by decide) h rfl

theorem decode_attributeLayout {name : String} {operator : Operator} {value : String}
    {type : Option AttributeType} {tag : Json} {members : List (String × Json)}
    (h : Rearranged ["type", "attributeName", "operator", "value", "attributeType"]
      (("type", tag) :: ("attributeName", .str name) :: ("operator", Wire.Tag.encode operator)
        :: ("value", .str value)
        :: type.toList.map fun type => ("attributeType", Wire.Tag.encode type)) members) :
    attributeLayout.decode .buffered (.ofJson (.obj members))
      = .ok (.layer (.holdsAttribute name operator value type)) := by
  cases type with
  | none =>
      have henters : attributeLayout.Enters
          [⟨"attributeName", .str name, fun d => { d with name := some name }⟩,
            ⟨"operator", .ofJson (Wire.Tag.encode operator), fun d => { d with operator }⟩,
            ⟨"value", .str value, fun d => { d with value := some value }⟩] :=
        ⟨by simp [attributeLayout, comparing], by simp,
          by simp [attributeLayout, comparing, Wire.Tag.decode_encode, Wire.text], by simp⟩
      exact decode_record henters rfl (by decide) h rfl
  | some type =>
      have htype : Wire.optional Wire.Tag.decode (.ofJson (Wire.Tag.encode type))
          = .ok (some type) := congrArg (some <$> ·) (Wire.Tag.decode_encode type)
      have henters : attributeLayout.Enters
          [⟨"attributeName", .str name, fun d => { d with name := some name }⟩,
            ⟨"operator", .ofJson (Wire.Tag.encode operator), fun d => { d with operator }⟩,
            ⟨"value", .str value, fun d => { d with value := some value }⟩,
            ⟨"attributeType", .ofJson (Wire.Tag.encode type),
              fun d => { d with type := some type }⟩] :=
        ⟨by simp [attributeLayout, comparing], by simp,
          by simp [attributeLayout, comparing, Wire.Tag.decode_encode, Wire.text, htype], by simp⟩
      exact decode_record henters rfl (by decide) h rfl

theorem decode_condition {condition : LayerCondition} {tag : Json} {members : List (String × Json)}
    (h : Rearranged ["type", "attribute", "operator", "value"] (("type", tag) :: condition.members)
      members) :
    LayerCondition.decode .buffered (.ofJson (.obj members)) = .ok condition := by
  have henters : LayerCondition.layout.Enters
      [⟨"attribute", .ofJson (Wire.Tag.encode condition.field),
          fun d => { d with field := some condition.field }⟩,
        ⟨"operator", .ofJson (Wire.Tag.encode condition.operator),
          fun d => { d with operator := condition.operator }⟩,
        ⟨"value", .str condition.value, fun d => { d with value := some condition.value }⟩] :=
    ⟨by simp [LayerCondition.layout], by simp,
      by simp [LayerCondition.layout, Wire.Tag.decode_encode, Wire.text], by simp⟩
  exact decode_record henters rfl (by decide) h rfl

theorem decode_attributeDiff {diff : AttributeDiff} {tag : Json} {members : List (String × Json)}
    (h : Rearranged ("type" :: AttributeDiff.layout.fields) (("type", tag) :: diff.members)
      members) :
    AttributeDiff.decode .buffered (.ofJson (.obj members)) = .ok diff := by
  have henters : AttributeDiff.layout.Enters
      [⟨"sourceSolution", .str diff.source, fun d => { d with source := some diff.source }⟩,
        ⟨"targetMode", .ofJson (Wire.Tag.encode diff.mode), fun d => { d with mode := diff.mode }⟩,
        ⟨"targetSolutions", .ofJson (.list .str diff.targets),
          fun d => { d with targets := diff.targets }⟩,
        ⟨"onlyChangedAttributes", .bool diff.onlyChanged,
          fun d => { d with onlyChanged := diff.onlyChanged }⟩,
        ⟨"attributeNames", .ofJson (.list .str diff.names),
          fun d => { d with names := diff.names }⟩,
        ⟨"attributeMatchLogic", .ofJson (Wire.Tag.encode diff.logic),
          fun d => { d with logic := diff.logic }⟩] :=
    ⟨by simp [AttributeDiff.layout], by simp,
      by simp [AttributeDiff.layout, Wire.Tag.decode_encode, Wire.text, Wire.boolean,
        Wire.list_text_strings], by simp⟩
  exact decode_record henters rfl (by decide) h rfl

theorem decode_changes {solution : Option String} {tag : Json} {members : List (String × Json)}
    (h : Rearranged ["type", "solution"]
      (("type", tag) :: solution.toList.map fun solution => ("solution", .str solution)) members) :
    Kind.decodeFields .changes (.ofJson (.obj members)) = .ok (.layer (.changes solution)) := by
  cases solution with
  | none =>
      have henters : (oneField "HasRelevantChanges" "solution" (Wire.optional Wire.text) (some none)
          (.layer ∘ .changes)).Enters [] := ⟨by simp, by simp, by simp, by simp⟩
      exact decode_record henters rfl (by decide) h rfl
  | some solution => exact decode_oneField (by decide) rfl h

theorem decode_unknown {tag : Json} {own members : List (String × Json)}
    (h : members.Perm (("type", tag) :: own)) :
    Kind.decodeFields .unknown (.ofJson (.obj members)) = .ok .unknown := by
  have henters : unknownLayout.Enters [] := ⟨by simp, by simp, by simp, by simp⟩
  have hnone : ∀ other ∈ ("type", tag) :: own, other.1 ∉ unknownLayout.fields := by
    intro other _ hin
    cases hin
  have hperm : members.Perm ([] ++ (("type", tag) :: own)) := h
  exact Layout.decode_of_perm .buffered henters rfl hnone hperm

/-! ## Filters that hold no others -/

/-- A filter is written as an object that starts with its tag. -/
theorem encode_eq_obj (filter : Filter) :
    ∃ tag fields, filter.encode = .obj (("type", .str tag) :: fields)
      ∧ Kind.ofTag tag = filter.kind ∧ ∀ field ∈ fields, field.1 ≠ "type" := by
  cases filter with
  | component test => cases test <;> exact ⟨_, _, by rw [encode], rfl, by simp⟩
  | layer test =>
      cases test with
      | condition condition =>
          exact ⟨_, _, by rw [encode], rfl, by simp [LayerCondition.members]⟩
      | holdsAttribute name operator value type =>
          exact ⟨_, _, by rw [encode]; rfl, rfl, by cases type <;> simp⟩
      | changes solution => exact ⟨_, _, by rw [encode], rfl, by cases solution <;> simp⟩
      | differs diff => exact ⟨_, _, by rw [encode], rfl, by simp [AttributeDiff.members]⟩
      | _ => exact ⟨_, _, by rw [encode], rfl, by simp⟩
  | solutions quantifier names => cases quantifier <;> exact ⟨_, _, by rw [encode], rfl, by simp⟩
  | sequence mode steps => cases mode <;> exact ⟨_, _, by rw [encode], rfl, by simp⟩
  | anyLayer child => cases child <;> exact ⟨_, _, by rw [encode], rfl, by simp⟩
  | layerOf solution child => cases child <;> exact ⟨_, _, by rw [encode], rfl, by simp⟩
  | not child => cases child <;> exact ⟨_, _, by rw [encode], rfl, by simp⟩
  | _ => exact ⟨_, _, by rw [encode], rfl, by simp⟩

theorem decodeFields_component {test : ComponentCriterion} {own members : List (String × Json)}
    (hown : (Filter.component test).encode = .obj own)
    (h : Rearranged ("type" :: (Filter.component test).kind.fields) own members) :
    (Filter.component test).kind.decodeFields (.ofJson (.obj members)) = .ok (.component test) := by
  cases test <;> rw [encode] at hown <;> cases hown
  case field => exact decode_fieldLayout h
  case type => exact decode_oneField (by decide) rfl h

theorem decodeFields_layer {test : LayerCriterion} {own members : List (String × Json)}
    (hown : (Filter.layer test).encode = .obj own)
    (h : Rearranged ("type" :: (Filter.layer test).kind.fields) own members) :
    (Filter.layer test).kind.decodeFields (.ofJson (.obj members)) = .ok (.layer test) := by
  cases test <;> rw [encode] at hown <;> cases hown
  case managed => exact decode_oneField (by decide) rfl h
  case publisher => exact decode_publisherLayout h
  case condition => exact Wire.map_eq_ok_iff.2 ⟨_, decode_condition h, rfl⟩
  case holdsAttribute => exact decode_attributeLayout h
  case changes => exact decode_changes h
  case differs => exact Wire.map_eq_ok_iff.2 ⟨_, decode_attributeDiff h, rfl⟩
  case isOf => exact decode_oneField (by decide) rfl h

theorem decodeFields_solutions {quantifier : Quantifier} {names : List String}
    {own members : List (String × Json)}
    (hown : (Filter.solutions quantifier names).encode = .obj own)
    (h : Rearranged ("type" :: (Filter.solutions quantifier names).kind.fields) own members) :
    (Filter.solutions quantifier names).kind.decodeFields (.ofJson (.obj members))
      = .ok (.solutions quantifier names) := by
  cases quantifier <;> rw [encode] at hown <;> cases hown
    <;> exact decode_oneField (by decide) (Wire.list_text_strings names) h

theorem decode_leaf {access : Access} {filter : Filter} {own members : List (String × Json)}
    (hleaf : filter.isLeaf = true) (hown : filter.encode = .obj own)
    (h : Rearranged ("type" :: filter.kind.fields) own members)
    (hlegible : Json.isLegible (.obj members) = true) :
    decode access (.ofJson (.obj members)) = .ok filter := by
  obtain ⟨tag, fields, hencode, htag, hfields⟩ := encode_eq_obj filter
  obtain rfl : own = ("type", .str tag) :: fields := Json.obj.inj (hown.symm.trans hencode)
  rw [decode_of_rearranged htag hfields h hlegible]
  cases filter with
  | component test => exact decodeFields_component hown h
  | layer test => exact decodeFields_layer hown h
  | solutions quantifier names => exact decodeFields_solutions hown h
  | unknown =>
      obtain ⟨added, hperm, -⟩ := h
      exact decode_unknown hperm
  | _ => cases hleaf

/-! ## Steps -/

theorem decode_revisedStep {step : Step} {value : Json} (h : RevisedStep step value)
    (hlegible : value.isLegible = true) : Step.decode (.ofJson value) = .ok step := by
  have hreadable := Source.isReadable_ofJson hlegible
  cases h with
  | literal solution => rfl
  | choice solutions =>
      have hlist := Wire.list_text_strings solutions
      have htext : Wire.text (.ofJson (.list .str solutions))
          = .error (.invalidType .list .text) := rfl
      rw [Step.decode, hreadable, htext, hlist]
      rfl
  | @dynamic raw members hmembers =>
      have henters : RawCondition.layout.Enters
          [⟨"attribute", .str raw.field, fun d => { d with field := raw.field }⟩,
            ⟨"operator", .str raw.operator, fun d => { d with operator := raw.operator }⟩,
            ⟨"value", .str raw.value, fun d => { d with value := raw.value }⟩] :=
        ⟨by simp [RawCondition.layout], by simp, by simp [RawCondition.layout, Wire.text], by simp⟩
      obtain ⟨added, hperm, hadded⟩ := hmembers
      have hraw : RawCondition.decode .buffered (.ofJson (.obj members)) = .ok raw :=
        Layout.decode_of_perm .buffered henters rfl hadded hperm
      rw [Step.decode, hreadable, hraw, Source.ofJson_obj]
      rfl

theorem decode_revisedSteps {steps : List Step} {values : List Json}
    (h : List.Forall₂ RevisedStep steps values) (hlegible : Json.legibleItems values = true) :
    Wire.list Step.decode (.ofJson (.arr values)) = .ok steps := by
  refine Wire.list_ofJson ?_
  induction h with
  | nil => exact .nil
  | cons hstep _ ih =>
      rw [Json.legibleItems, Bool.and_eq_true] at hlegible
      exact .cons (decode_revisedStep hstep hlegible.1) (ih hlegible.2)

/-! ## Filters that hold others -/

theorem enters_child {title : String} {build : Branch → Except String Filter} {value : Source}
    {result : Option Filter}
    (hvalue : ∀ draft : Branch, draft.take .child value = .ok { draft with child := some result }) :
    (BranchLayout.asLayout ⟨title, [.child], build⟩).Enters
      [⟨"child", value, fun d => { d with child := some result }⟩] where
  declared := by simp [BranchLayout.asLayout, BranchField.name]
  nodup := by simp
  enter := by
    simp only [List.mem_singleton, forall_eq]
    exact hvalue
  comm := by simp

theorem enters_children {title : String} {build : Branch → Except String Filter}
    {items : List Source} {results : List Filter} (hitems : decodeEach items = .ok results) :
    (BranchLayout.asLayout ⟨title, [.children], build⟩).Enters
      [⟨"children", .arr items .closed, fun d => { d with children := some results }⟩] where
  declared := by simp [BranchLayout.asLayout, BranchField.name]
  nodup := by simp
  enter := by
    simp only [List.mem_singleton, forall_eq]
    intro draft
    have htake : draft.take .children (.arr items .closed)
        = .ok { draft with children := some results } := by
      rw [Branch.take_eq_ok_iff]
      exact ⟨results, hitems, rfl⟩
    exact htake
  comm := by simp

theorem enters_layerOf {title : String} {build : Branch → Except String Filter} {value : Source}
    {solution : String} {result : Option Filter}
    (hvalue : ∀ draft : Branch, draft.take .child value = .ok { draft with child := some result }) :
    (BranchLayout.asLayout ⟨title, [.solution, .child], build⟩).Enters
      [⟨"solution", .str solution, fun d => { d with solution := some solution }⟩,
        ⟨"child", value, fun d => { d with child := some result }⟩] where
  declared := by simp [BranchLayout.asLayout, BranchField.name]
  nodup := by simp
  enter := by
    simp only [List.mem_cons, List.not_mem_nil, or_false, forall_eq_or_imp, forall_eq]
    exact ⟨fun _ => rfl, hvalue⟩
  comm := by simp

theorem legible_of_rearranged {declared : List String} {own members : List (String × Json)}
    (h : Rearranged declared own members) (hlegible : Json.isLegible (.obj members) = true) :
    Json.legibleMembers own = true := by
  obtain ⟨added, hperm, -⟩ := h
  rw [Json.isLegible, Json.legibleMembers_iff] at hlegible
  rw [Json.legibleMembers_iff]
  exact fun member hmember => hlegible member (hperm.mem_iff.2 (List.mem_append_left added hmember))

theorem legible_field {declared : List String} {tag name : String} {value : Json}
    {members : List (String × Json)}
    (h : Rearranged declared [("type", .str tag), (name, value)] members)
    (hlegible : Json.isLegible (.obj members) = true) : value.isLegible = true := by
  have hown := legible_of_rearranged h hlegible
  simpa [Json.legibleMembers, Json.isLegible] using hown

theorem decode_child {access : Access} {kind : Kind} {tag title : String}
    {build : Branch → Except String Filter} {value : Json} {child : Option Filter}
    {filter : Filter} {members : List (String × Json)} (htag : Kind.ofTag tag = kind)
    (hbranch : kind.branch? = some ⟨title, [.child], build⟩)
    (hchild : ∀ draft : Branch,
      draft.take .child (.ofJson value) = .ok { draft with child := some child })
    (hbuild : build { child := some child } = .ok filter)
    (h : Rearranged ["type", "child"] [("type", .str tag), ("child", value)] members)
    (hlegible : Json.isLegible (.obj members) = true) :
    decode access (.ofJson (.obj members)) = .ok filter := by
  rw [decode_of_rearranged htag (by simp) h hlegible, Kind.decodeFields, hbranch]
  exact decode_record (enters_child hchild) rfl (by simp [BranchLayout.asLayout, BranchField.name])
    h hbuild

theorem decode_children {access : Access} {kind : Kind} {tag title : String}
    {build : Branch → Except String Filter} {values : List Json} {children : List Filter}
    {filter : Filter} {members : List (String × Json)} (htag : Kind.ofTag tag = kind)
    (hbranch : kind.branch? = some ⟨title, [.children], build⟩)
    (hchildren : decodeEach (Source.ofItems values) = .ok children)
    (hbuild : build { children := some children } = .ok filter)
    (h : Rearranged ["type", "children"] [("type", .str tag), ("children", .arr values)] members)
    (hlegible : Json.isLegible (.obj members) = true) :
    decode access (.ofJson (.obj members)) = .ok filter := by
  rw [decode_of_rearranged htag (by simp) h hlegible, Kind.decodeFields, hbranch]
  exact decode_record (enters_children hchildren) rfl
    (by simp [BranchLayout.asLayout, BranchField.name]) h hbuild

theorem decode_replaced {access : Access} {tag : String} {others members : List (String × Json)}
    (htag : tag ∉ Kind.known.map Kind.tag) (hothers : ∀ other ∈ others, other.1 ≠ "type")
    (hperm : members.Perm (("type", .str tag) :: others))
    (hlegible : Json.isLegible (.obj members) = true) :
    decode access (.ofJson (.obj members)) = .ok .unknown := by
  have hunknown : Kind.ofTag tag = .unknown := by
    rw [Kind.ofTag, List.find?_eq_none.2, Option.getD_none]
    intro kind hkind hname
    exact htag (List.mem_map.2 ⟨kind, hkind, of_decide_eq_true hname⟩)
  have hrearranged : Rearranged ["type"] (("type", .str tag) :: others) members :=
    ⟨[], by simpa using hperm, by simp⟩
  rw [decode_of_rearranged hunknown hothers hrearranged hlegible]
  exact decode_unknown hperm

theorem decode_sequence {access : Access} {mode : SequenceMode} {steps : List Step}
    {values : List Json} {members : List (String × Json)}
    (hsteps : List.Forall₂ RevisedStep steps values)
    (h : Rearranged ["type", "sequence"]
      [("type", .str (Filter.sequence mode steps).kind.tag), ("sequence", .arr values)] members)
    (hlegible : Json.isLegible (.obj members) = true) :
    decode access (.ofJson (.obj members)) = .ok (.sequence mode steps) := by
  have hvalues := decode_revisedSteps hsteps (legible_field h hlegible)
  cases mode with
  | strict =>
      rw [decode_of_rearranged rfl (by simp) h hlegible]
      exact decode_oneField (by decide) hvalues h
  | flexible =>
      rw [decode_of_rearranged rfl (by simp) h hlegible]
      exact decode_oneField (by decide) hvalues h

mutual

/-- What may become of a filter is read as the filter that it is then. -/
theorem decode_revised {filter result : Filter} {value : Json} (access : Access)
    (h : Revised filter value result) (hlegible : value.isLegible = true) :
    decode access (.ofJson value) = .ok result := by
  cases h with
  | replaced htag hothers hperm => exact decode_replaced htag hothers hperm hlegible
  | leaf hleaf hown h => exact decode_leaf hleaf hown h hlegible
  | sequence hsteps h => exact decode_sequence hsteps h hlegible
  | anyLayer hchild h =>
      have hvalue := legible_field h hlegible
      exact decode_child rfl rfl (fun _ => decode_revisedChild hchild hvalue) rfl h hlegible
  | @layerOf solution child result value members hchild h =>
      have hvalue : value.isLegible = true := by
        simpa [Json.legibleMembers, Json.isLegible] using legible_of_rearranged h hlegible
      rw [decode_of_rearranged rfl (by simp) h hlegible]
      exact decode_record (enters_layerOf fun _ => decode_revisedChild hchild hvalue) rfl
        (by decide) h rfl
  | not hchild h =>
      have hvalue := legible_field h hlegible
      exact decode_child rfl rfl (fun _ => decode_revisedChild hchild hvalue) rfl h hlegible
  | all hchildren h =>
      have hvalues := legible_field h hlegible
      exact decode_children rfl rfl (decode_revisedEach hchildren hvalues) rfl h hlegible
  | any hchildren h =>
      have hvalues := legible_field h hlegible
      exact decode_children rfl rfl (decode_revisedEach hchildren hvalues) rfl h hlegible

theorem decode_revisedChild {child result : Option Filter} {value : Json} {draft : Branch}
    (h : RevisedChild child value result) (hlegible : value.isLegible = true) :
    draft.take .child (.ofJson value) = .ok { draft with child := some result } := by
  cases h with
  | none => rfl
  | some h => exact Branch.take_child (decode_revised .buffered h hlegible)

theorem decode_revisedEach {children results : List Filter} {values : List Json}
    (h : RevisedEach children values results) (hlegible : Json.legibleItems values = true) :
    decodeEach (Source.ofItems values) = .ok results := by
  cases h with
  | nil => rfl
  | @cons child result value children results values h hmore =>
      rw [Json.legibleItems, Bool.and_eq_true] at hlegible
      rw [Source.ofItems, decodeEach, decode_revised .buffered h hlegible.1,
        decode_revisedEach hmore hlegible.2]
      rfl

end

/-! ## Texts -/

theorem ofText_eq {text : String} {root : Source} (h : Document.ofText text = ⟨root, true⟩) :
    ofText text = decode .streamed root := by
  rw [ofText, Wire.decodeText, h]
  cases decode .streamed root <;> rfl

theorem ofText_render {value : Json} (hlegible : value.isLegible = true)
    (hdepth : value.depth ≤ maxDepth) :
    ofText value.render = decode .streamed (.ofJson value) := by
  have hrender := Document.ofText_render value hlegible
  rw [Source.within_of_depth_le value hdepth] at hrender
  exact ofText_eq hrender

/-- A filter whose text came back with its members in another order, with members that are not
declared, and with filters of kinds that are not known in place of some of its own, is read as it
was, with `unknown` in their places. It does not matter how the text is laid out. -/
theorem ofText_revised {filter result : Filter} {value : Json} (h : Revised filter value result)
    (hlegible : value.isLegible = true) (hdepth : value.depth ≤ maxDepth) :
    ofText value.render = .ok result ∧
      ∀ text, Document.ofText text = ⟨.ofJson value, true⟩ → ofText text = .ok result := by
  have hread := decode_revised .streamed h hlegible
  constructor
  · rw [ofText_render hlegible hdepth]
    exact hread
  · intro text htext
    rw [ofText_eq htext]
    exact hread

/-- Every object has its members in reverse, the outermost and the step of the sequence have one
more, and the first child is of a kind that is not known. -/
theorem ofText_revised_reversed :
    let steps : List Step := [.dynamic { field := "Name", value := "x" }]
    let note : Json := .obj [("type", .str "HAS"), ("at", .num { negative := true, whole := 0 })]
    let children : Json := .arr [
      .obj [("spell", .int 3), ("type", .str "FUTURE")],
      .obj [
        ("sequence", .arr [.obj [("type", .null), ("value", .str "x"), ("operator", .str ""),
          ("attribute", .str "Name")]]),
        ("type", .str "ORDER_STRICT")]]
    let value : Json := .obj [("note", note), ("children", children), ("type", .str "AND")]
    Revised (.all [.has "A", .sequence .strict steps]) value
        (.all [.unknown, .sequence .strict steps]) ∧
      value.isLegible = true ∧ value.depth ≤ maxDepth ∧
      ofText value.render = .ok (.all [.unknown, .sequence .strict steps]) := by
  intro steps note children value
  have hreplaced : Revised (.has "A") (.obj [("spell", .int 3), ("type", .str "FUTURE")])
      .unknown :=
    @Revised.replaced _ "FUTURE" [("spell", .int 3)] _ (by decide) (by simp)
      (List.Perm.swap _ _ _)
  have hstep : RevisedStep (.dynamic { field := "Name", value := "x" })
      (.obj [("type", .null), ("value", .str "x"), ("operator", .str ""),
        ("attribute", .str "Name")]) :=
    .dynamic ⟨[("type", .null)], List.reverse_perm [("attribute", Json.str "Name"),
      ("operator", Json.str ""), ("value", Json.str "x"), ("type", Json.null)], by simp⟩
  have hsequence := @Revised.sequence .strict steps _ _ (.cons hstep .nil)
    ⟨[], List.Perm.swap _ _ _, by simp⟩
  have hrevised : Revised (.all [.has "A", .sequence .strict steps]) value
      (.all [.unknown, .sequence .strict steps]) :=
    .all (.cons hreplaced (.cons hsequence .nil)) ⟨[("note", note)],
      List.reverse_perm [("type", Json.str "AND"), ("children", children), ("note", note)], by simp⟩
  have hlegible : value.isLegible = true := by decide +kernel
  have hdepth : value.depth ≤ maxDepth := by decide +kernel
  exact ⟨hrevised, hlegible, hdepth, (ofText_revised hrevised hlegible hdepth).1⟩

end Filter

end Strata
