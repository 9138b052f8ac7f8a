import Strata.Proofs.Revisions

/-!
# Filters come back as they were written

A text that was not touched is the least of revisions, so a filter is read back from its own text
if the text is not nested too deep. If it is, some part of it cannot be read, and that is noticed
before anything but the tag of the outermost filter is looked at.
-/

namespace Strata.Filter

open Json (Rearranged)

theorem Rearranged.refl (declared : List String) (own : List (String × Json)) :
    Rearranged declared own own :=
  ⟨[], by simp, by simp⟩

/-! ## An untouched text -/

theorem revisedStep_encode (step : Step) : RevisedStep step step.encode := by
  cases step with
  | literal solution => exact .literal solution
  | choice solutions => exact .choice solutions
  | dynamic raw => exact .dynamic (Rearranged.refl _ _)

theorem revisedSteps_encode (steps : List Step) :
    List.Forall₂ RevisedStep steps (steps.map Step.encode) := by
  rw [List.forall₂_map_right_iff, List.forall₂_same]
  exact fun step _ => revisedStep_encode step

mutual

theorem revised_encode (filter : Filter) : Revised filter filter.encode filter := by
  match filter with
  | .component test =>
      obtain ⟨tag, fields, hencode, -, -⟩ := encode_eq_obj (.component test)
      rw [hencode]
      exact .leaf rfl hencode (Rearranged.refl _ _)
  | .layer test =>
      obtain ⟨tag, fields, hencode, -, -⟩ := encode_eq_obj (.layer test)
      rw [hencode]
      exact .leaf rfl hencode (Rearranged.refl _ _)
  | .solutions quantifier names =>
      obtain ⟨tag, fields, hencode, -, -⟩ := encode_eq_obj (.solutions quantifier names)
      rw [hencode]
      exact .leaf rfl hencode (Rearranged.refl _ _)
  | .unknown =>
      rw [encode]
      exact .leaf rfl (by rw [encode]) (Rearranged.refl _ _)
  | .sequence .strict steps =>
      rw [encode]
      exact .sequence (revisedSteps_encode steps) (Rearranged.refl _ _)
  | .sequence .flexible steps =>
      rw [encode]
      exact .sequence (revisedSteps_encode steps) (Rearranged.refl _ _)
  | .anyLayer none =>
      rw [encode]
      exact .anyLayer .none (Rearranged.refl _ _)
  | .anyLayer (some child) =>
      rw [encode]
      exact .anyLayer (.some (revised_encode child)) (Rearranged.refl _ _)
  | .layerOf solution none =>
      rw [encode]
      exact .layerOf .none (Rearranged.refl _ _)
  | .layerOf solution (some child) =>
      rw [encode]
      exact .layerOf (.some (revised_encode child)) (Rearranged.refl _ _)
  | .not none =>
      rw [encode]
      exact .not .none (Rearranged.refl _ _)
  | .not (some child) =>
      rw [encode]
      exact .not (.some (revised_encode child)) (Rearranged.refl _ _)
  | .all children =>
      rw [encode]
      exact .all (revisedEach_encode children) (Rearranged.refl _ _)
  | .any children =>
      rw [encode]
      exact .any (revisedEach_encode children) (Rearranged.refl _ _)

theorem revisedEach_encode (children : List Filter) :
    RevisedEach children (encodeEach children) children := by
  match children with
  | [] => exact .nil
  | child :: rest =>
      rw [encodeEach]
      exact .cons (revised_encode child) (revisedEach_encode rest)

end

/-! ## No numeral is written -/

theorem isLegible_strings (texts : List String) : (Json.list .str texts).isLegible = true := by
  rw [Json.list, Json.isLegible, Json.legibleItems_iff]
  intro item hitem
  obtain ⟨text, -, rfl⟩ := List.mem_map.1 hitem
  rfl

theorem isLegible_step (step : Step) : step.encode.isLegible = true := by
  cases step with
  | literal solution => rfl
  | choice solutions => exact isLegible_strings solutions
  | dynamic raw => rfl

theorem isLegible_steps (steps : List Step) : (Json.list Step.encode steps).isLegible = true := by
  rw [Json.list, Json.isLegible, Json.legibleItems_iff]
  intro item hitem
  obtain ⟨step, -, rfl⟩ := List.mem_map.1 hitem
  exact isLegible_step step

mutual

theorem isLegible_encode (filter : Filter) : filter.encode.isLegible = true := by
  match filter with
  | .component (.field ..) => simp [encode, Json.isLegible, Json.legibleMembers, Wire.Tag.encode]
  | .component (.type _) => simp [encode, Json.isLegible, Json.legibleMembers]
  | .layer test =>
      cases test with
      | holdsAttribute name operator value type =>
          cases type <;> simp [encode, Json.isLegible, Json.legibleMembers, Wire.Tag.encode]
      | changes solution =>
          cases solution <;> simp [encode, Json.isLegible, Json.legibleMembers]
      | condition condition =>
          simp [encode, Json.isLegible, Json.legibleMembers, LayerCondition.members,
            Wire.Tag.encode]
      | differs diff =>
          simp [encode, Json.isLegible, Json.legibleMembers, AttributeDiff.members,
            Wire.Tag.encode, isLegible_strings]
      | _ => simp [encode, Json.isLegible, Json.legibleMembers, Wire.Tag.encode]
  | .solutions quantifier names =>
      cases quantifier <;> simp [encode, Json.isLegible, Json.legibleMembers, isLegible_strings]
  | .unknown => simp [encode, Json.isLegible, Json.legibleMembers]
  | .sequence mode steps =>
      cases mode <;> simp [encode, Json.isLegible, Json.legibleMembers, isLegible_steps]
  | .anyLayer none => simp [encode, Json.isLegible, Json.legibleMembers]
  | .anyLayer (some child) =>
      simp [encode, Json.isLegible, Json.legibleMembers, isLegible_encode child]
  | .layerOf solution none => simp [encode, Json.isLegible, Json.legibleMembers]
  | .layerOf solution (some child) =>
      simp [encode, Json.isLegible, Json.legibleMembers, isLegible_encode child]
  | .not none => simp [encode, Json.isLegible, Json.legibleMembers]
  | .not (some child) =>
      simp [encode, Json.isLegible, Json.legibleMembers, isLegible_encode child]
  | .all children =>
      simp [encode, Json.isLegible, Json.legibleMembers, legibleItems_encodeEach children]
  | .any children =>
      simp [encode, Json.isLegible, Json.legibleMembers, legibleItems_encodeEach children]

theorem legibleItems_encodeEach (children : List Filter) :
    Json.legibleItems (encodeEach children) = true := by
  match children with
  | [] => rfl
  | child :: rest =>
      rw [encodeEach, Json.legibleItems, isLegible_encode child, legibleItems_encodeEach rest]
      rfl

end

/-! ## A text that is nested too deep -/

theorem tagMember_of_unreadable {τ : Type} {field : String} {tag : Source → Wire.Decoded τ}
    {found : Option τ} {members : List (String × Source)}
    (hnames : ∀ member ∈ members, member.1 ≠ field)
    (h : Source.readableMembers members = false) :
    Wire.tagMember field .streamed tag found members = .error .malformed := by
  induction members with
  | nil => cases h
  | cons member members ih =>
      obtain ⟨name, value⟩ := member
      rw [Source.readableMembers, Bool.and_eq_false_iff] at h
      rw [Wire.tagMember.eq_def]
      dsimp only
      rw [if_neg (hnames _ List.mem_cons_self)]
      by_cases hvalue : value.isReadable = true
      · rw [if_pos (.inr hvalue)]
        refine ih (fun other hother => hnames other (List.mem_cons_of_mem _ hother)) ?_
        exact h.resolve_left (by simp [hvalue])
      · rw [if_neg (by simp [hvalue])]

theorem decode_of_unreadable {tag : String} {members : List (String × Source)}
    (hnames : ∀ member ∈ members, member.1 ≠ "type")
    (h : Source.readableMembers members = false) :
    decode .streamed (.obj (("type", .str tag) :: members) .closed) = .error .malformed := by
  have hmember : Wire.tagMember "type" .streamed (decodeKind .streamed) none
      (("type", .str tag) :: members) = .error .malformed := by
    rw [Wire.tagMember, if_pos rfl]
    exact tagMember_of_unreadable hnames h
  rw [decode, Wire.tagged, hmember]
  rfl

theorem names_withinMembers {room : Nat} {members : List (String × Json)} {field : String}
    (h : ∀ member ∈ members, member.1 ≠ field) :
    ∀ member ∈ Source.withinMembers room members, member.1 ≠ field := by
  induction members with
  | nil => simp [Source.withinMembers]
  | cons member members ih =>
      obtain ⟨name, value⟩ := member
      rw [Source.withinMembers]
      intro other hother
      rcases List.mem_cons.1 hother with rfl | hother
      · exact h _ List.mem_cons_self
      · exact ih (fun another hin => h another (List.mem_cons_of_mem _ hin)) other hother

/-! ## The round trip -/

theorem ofText_wire_of_depth_le {filter : Filter} (h : filter.encode.depth ≤ maxDepth) :
    ofText filter.wire = .ok filter := by
  have hlegible := isLegible_encode filter
  rw [wire, ofText_render hlegible h]
  exact decode_revised .streamed (revised_encode filter) hlegible

theorem ofText_wire_of_maxDepth_lt {filter : Filter} (h : maxDepth < filter.encode.depth) :
    ofText filter.wire = .error .malformed := by
  have hlegible := isLegible_encode filter
  have hrender := Document.ofText_render filter.encode hlegible
  obtain ⟨tag, fields, hencode, -, hfields⟩ := encode_eq_obj filter
  rw [hencode] at hlegible h
  rw [Json.isLegible, Json.legibleMembers, Bool.and_eq_true] at hlegible
  -- The outermost object takes one level, so that 126 are left for its fields.
  have hunreadable : Source.readableMembers (Source.withinMembers 126 fields) = false := by
    rw [Source.readableMembers_within 126 fields hlegible.2, decide_eq_false_iff_not]
    simp only [Json.depth, Json.depthMembers, maxDepth] at h
    omega
  rw [wire, ofText_eq hrender, hencode]
  exact decode_of_unreadable (names_withinMembers hfields) hunreadable

/-- A filter is read back from its text if the text is not nested too deep, and not read at all if
it is. -/
theorem ofText_wire (filter : Filter) :
    ofText filter.wire
      = if filter.encode.depth ≤ maxDepth then .ok filter else .error .malformed := by
  split
  · next hdepth => exact ofText_wire_of_depth_le hdepth
  · next hdepth => exact ofText_wire_of_maxDepth_lt (Nat.lt_of_not_le hdepth)

end Strata.Filter
