import Strata.Proofs.Nesting
import Strata.Proofs.RoundTrip

/-!
# What was read can be written and read again

A filter that was read is not written as it stood: a list that was left out is written as an empty
one. That is the only thing that may nest it deeper, by one level and only where such a filter
stands at the last level that can be read. `holdsListAt` says when that is so.

The bound is proved by induction on the levels that are left. What a filter was read from is a
container, its parts have one level less, and a draft that was entered from such parts makes a
filter that keeps the bound.
-/

namespace Strata

namespace Filter

open Wire (Layout Decoded Access)

/-- Whether a filter is written with a list. -/
def isListed : Filter → Bool
  | .layer (.differs _) => true
  | .solutions .. => true
  | .sequence .. => true
  | .all _ => true
  | .any _ => true
  | _ => false

mutual

/-- Whether some filter that is written with a list stands at the last of so many levels. The
outermost filter takes one level, a child of a filter one more and a filter in a list two more. -/
def holdsListAt : Nat → Filter → Bool
  | 1, filter => filter.isListed
  | level + 2, .anyLayer (some child) => holdsListAt (level + 1) child
  | level + 2, .layerOf _ (some child) => holdsListAt (level + 1) child
  | level + 2, .not (some child) => holdsListAt (level + 1) child
  | level + 2, .all children => holdsListIn level children
  | level + 2, .any children => holdsListIn level children
  | _, _ => false

/-- Whether one of some filters holds a list at the last of so many levels. -/
def holdsListIn : Nat → List Filter → Bool
  | _, [] => false
  | level, child :: rest => holdsListAt level child || holdsListIn level rest

end

theorem holdsListAt_one (filter : Filter) : filter.holdsListAt 1 = filter.isListed := by
  rw [holdsListAt]

/-! ## How deep a filter is nested when it is written -/

theorem depthItems_strings (texts : List String) : Json.depthItems (texts.map .str) = 0 := by
  induction texts with
  | nil => rfl
  | cons text texts ih => simp [Json.depthItems, Json.depth, ih]

theorem depth_of_isLeaf {filter : Filter} (h : filter.isLeaf = true) :
    filter.encode.depth = if filter.isListed then 2 else 1 := by
  cases filter with
  | component test =>
      cases test <;> simp [encode, isListed, Json.depth, Json.depthMembers, Wire.Tag.encode]
  | layer test =>
      cases test with
      | condition condition =>
          simp [encode, isListed, LayerCondition.members, Json.depth, Json.depthMembers,
            Wire.Tag.encode]
      | holdsAttribute name operator value type =>
          cases type <;> simp [encode, isListed, Json.depth, Json.depthMembers, Wire.Tag.encode]
      | changes solution =>
          cases solution <;> simp [encode, isListed, Json.depth, Json.depthMembers]
      | differs diff =>
          simp [encode, isListed, AttributeDiff.members, Json.list, depthItems_strings, Json.depth,
            Json.depthMembers, Wire.Tag.encode]
      | _ => simp [encode, isListed, Json.depth, Json.depthMembers, Wire.Tag.encode]
  | solutions quantifier names =>
      cases quantifier <;>
        simp [encode, isListed, Json.list, depthItems_strings, Json.depth, Json.depthMembers]
  | unknown => simp [encode, isListed, Json.depth, Json.depthMembers]
  | _ => cases h

theorem depth_sequence (mode : SequenceMode) (steps : List Step) :
    (Filter.sequence mode steps).encode.depth = Json.depthItems (steps.map Step.encode) + 2 := by
  cases mode <;> simp [encode, Json.list, Json.depth, Json.depthMembers]

theorem depth_anyLayer (child : Filter) :
    (Filter.anyLayer (some child)).encode.depth = child.encode.depth + 1 := by
  simp [encode, Json.depth, Json.depthMembers]

theorem depth_layerOf (solution : String) (child : Filter) :
    (Filter.layerOf solution (some child)).encode.depth = child.encode.depth + 1 := by
  simp [encode, Json.depth, Json.depthMembers]

theorem depth_not (child : Filter) :
    (Filter.not (some child)).encode.depth = child.encode.depth + 1 := by
  simp [encode, Json.depth, Json.depthMembers]

theorem depth_all (children : List Filter) :
    (Filter.all children).encode.depth = Json.depthItems (encodeEach children) + 2 := by
  simp [encode, Json.depth, Json.depthMembers]

theorem depth_any (children : List Filter) :
    (Filter.any children).encode.depth = Json.depthItems (encodeEach children) + 2 := by
  simp [encode, Json.depth, Json.depthMembers]

theorem two_le_depth_of_isListed {filter : Filter} (h : filter.isListed = true) :
    2 ≤ filter.encode.depth := by
  by_cases hleaf : filter.isLeaf = true
  · have hdepth := depth_of_isLeaf hleaf
    rw [if_pos h] at hdepth
    omega
  · cases filter with
    | sequence mode steps => rw [depth_sequence]; omega
    | all children => rw [depth_all]; omega
    | any children => rw [depth_any]; omega
    | component test => exact absurd rfl hleaf
    | layer test => exact absurd rfl hleaf
    | solutions quantifier names => exact absurd rfl hleaf
    | _ => cases h

mutual

/-- Where a list is held at the last level, its brackets are beyond. -/
theorem lt_depth_of_holdsListAt {level : Nat} (filter : Filter)
    (h : filter.holdsListAt level = true) : level < filter.encode.depth := by
  match level, filter with
  | 0, _ => simp [holdsListAt] at h
  | 1, filter =>
      rw [holdsListAt] at h
      exact two_le_depth_of_isListed h
  | level + 2, .anyLayer (some child) =>
      rw [holdsListAt] at h
      have hchild := lt_depth_of_holdsListAt child h
      rw [depth_anyLayer]
      omega
  | level + 2, .layerOf solution (some child) =>
      rw [holdsListAt] at h
      have hchild := lt_depth_of_holdsListAt child h
      rw [depth_layerOf]
      omega
  | level + 2, .not (some child) =>
      rw [holdsListAt] at h
      have hchild := lt_depth_of_holdsListAt child h
      rw [depth_not]
      omega
  | level + 2, .all children =>
      rw [holdsListAt] at h
      have hchildren := lt_depth_of_holdsListIn children h
      rw [depth_all]
      omega
  | level + 2, .any children =>
      rw [holdsListAt] at h
      have hchildren := lt_depth_of_holdsListIn children h
      rw [depth_any]
      omega
  | level + 2, .anyLayer none | level + 2, .layerOf _ none | level + 2, .not none
  | level + 2, .component _ | level + 2, .layer _ | level + 2, .solutions ..
  | level + 2, .sequence .. | level + 2, .unknown => simp [holdsListAt] at h

theorem lt_depth_of_holdsListIn {level : Nat} (children : List Filter)
    (h : holdsListIn level children = true) : level < Json.depthItems (encodeEach children) := by
  match children with
  | [] => cases h
  | child :: rest =>
      rw [holdsListIn, Bool.or_eq_true] at h
      rw [encodeEach, Json.depthItems]
      rcases h with h | h
      · have hchild := lt_depth_of_holdsListAt child h
        omega
      · have hrest := lt_depth_of_holdsListIn rest h
        omega

end

/-! ## The bound -/

/-- Written, a filter is nested no deeper than so many levels, or one level deeper because of a list
that it holds at the last of them. -/
def FitsButForLists (level : Nat) (filter : Filter) : Prop :=
  filter.encode.depth ≤ level ∨
    filter.encode.depth = level + 1 ∧ filter.holdsListAt level = true

theorem fits_of_isLeaf {filter : Filter} {room : Nat} (h : filter.isLeaf = true) :
    filter.FitsButForLists (room + 1) := by
  have hdepth := depth_of_isLeaf h
  cases hlisted : filter.isListed with
  | false =>
      rw [hlisted, if_neg Bool.false_ne_true] at hdepth
      exact .inl (by omega)
  | true =>
      rw [hlisted, if_pos rfl] at hdepth
      cases room with
      | zero => exact .inr ⟨hdepth, (holdsListAt_one filter).trans hlisted⟩
      | succ room => exact .inl (by omega)

theorem fits_sequence {mode : SequenceMode} {steps : List Step} {room : Nat}
    (h : steps = [] ∨ Json.depthItems (steps.map Step.encode) < room) :
    (Filter.sequence mode steps).FitsButForLists (room + 1) := by
  have hdepth := depth_sequence mode steps
  rcases h with rfl | h
  · rw [List.map_nil, Json.depthItems] at hdepth
    cases room with
    | zero => exact .inr ⟨hdepth, holdsListAt_one _⟩
    | succ room => exact .inl (by omega)
  · exact .inl (by omega)

/-- A filter with one child is a level above the child. -/
theorem fits_of_child {filter child : Filter} {room : Nat}
    (hdepth : filter.encode.depth = child.encode.depth + 1)
    (hholds : ∀ level, filter.holdsListAt (level + 2) = child.holdsListAt (level + 1))
    (h : child.FitsButForLists room) : filter.FitsButForLists (room + 1) := by
  rcases h with h | ⟨h, hlist⟩
  · exact .inl (by omega)
  · cases room with
    | zero => simp [holdsListAt] at hlist
    | succ room => exact .inr ⟨by omega, (hholds room).trans hlist⟩

theorem fits_children {children : List Filter} {room : Nat}
    (h : ∀ child ∈ children, child.FitsButForLists room) :
    Json.depthItems (encodeEach children) ≤ room ∨
      Json.depthItems (encodeEach children) = room + 1 ∧ holdsListIn room children = true := by
  induction children with
  | nil => exact .inl (Nat.zero_le room)
  | cons child children ih =>
      obtain ⟨hchild, hchildren⟩ := List.forall_mem_cons.1 h
      rw [encodeEach, Json.depthItems, holdsListIn, Bool.or_eq_true]
      rcases hchild with hchild | ⟨hchild, hlist⟩ <;>
        rcases ih hchildren with hrest | ⟨hrest, hlists⟩
      · exact .inl (by omega)
      · exact .inr ⟨by omega, .inr hlists⟩
      · exact .inr ⟨by omega, .inl hlist⟩
      · exact .inr ⟨by omega, .inl hlist⟩

/-- A filter with a list of others is two levels above them, and has its list if there are none. -/
theorem fits_of_children {filter : Filter} {children : List Filter} {room : Nat}
    (hlisted : filter.isListed = true)
    (hdepth : filter.encode.depth = Json.depthItems (encodeEach children) + 2)
    (hholds : ∀ level, filter.holdsListAt (level + 2) = holdsListIn level children)
    (h : children = [] ∨ ∃ less, room = less + 1 ∧ ∀ child ∈ children, child.FitsButForLists less) :
    filter.FitsButForLists (room + 1) := by
  rcases h with rfl | ⟨less, rfl, h⟩
  · rw [encodeEach, Json.depthItems] at hdepth
    cases room with
    | zero => exact .inr ⟨hdepth, (holdsListAt_one filter).trans hlisted⟩
    | succ room => exact .inl (by omega)
  · rcases fits_children h with h | ⟨h, hlists⟩
    · exact .inl (by omega)
    · exact .inr ⟨by omega, (hholds less).trans hlists⟩

/-! ## Filters that hold no others -/

theorem depth_pos_of_decode {δ α : Type} {layout : Layout δ α} {access : Access}
    {source : Source} {a : α} (h : layout.decode access source = .ok a) : 0 < source.depth := by
  cases source with
  | obj members stop =>
      rw [Source.depth]
      omega
  | arr items stop =>
      rw [Source.depth]
      omega
  | _ => cases h

theorem depth_step_le {source : Source} {step : Step} (h : Step.decode source = .ok step) :
    step.encode.depth ≤ source.depth := by
  rw [Step.decode] at h
  split at h
  · cases h
  · split at h
    · cases h
      exact Nat.zero_le _
    · next solutions hlist _ =>
        cases h
        obtain ⟨items, rfl, -⟩ := Wire.list_eq_ok_iff.1 hlist
        simp [Step.encode, Json.list, Json.depth, depthItems_strings, Source.depth]
    · next raw hraw _ _ =>
        cases h
        have hpos := depth_pos_of_decode hraw
        have hdepth : (Step.dynamic raw).encode.depth = 1 := by
          simp [Step.encode, RawCondition.encode, Json.depth, Json.depthMembers]
        omega
    · cases h

theorem depth_steps_lt {source : Source} {steps : List Step}
    (h : Wire.list Step.decode source = .ok steps) :
    Json.depthItems (steps.map Step.encode) < source.depth := by
  obtain ⟨items, rfl, hsteps⟩ := Wire.list_eq_ok_iff.1 h
  rw [Source.depth, Nat.lt_succ_iff]
  induction hsteps with
  | nil => exact Nat.le_refl 0
  | @cons item step items steps hstep _ ih =>
      have hhead := depth_step_le hstep
      have htail := ih (Wire.list_eq_ok_iff.2 ⟨items, rfl, ‹_›⟩)
      rw [List.map_cons, Json.depthItems, Source.depthItems]
      omega

theorem isLeaf_of_oneField {β : Type} {title name : String} {decodeValue : Source → Decoded β}
    {absent : Option β} {make : β → Filter} {access : Access} {body : Source} {filter : Filter}
    (hmake : ∀ b, (make b).isLeaf = true)
    (h : (oneField title name decodeValue absent make).decode access body = .ok filter) :
    filter.isLeaf = true := by
  obtain ⟨draft, hbuild⟩ := Layout.exists_build h
  cases draft with
  | none => cases hbuild
  | some b =>
      cases hbuild
      exact hmake b

theorem isLeaf_of_decodeLeaf {kind : Kind} {body : Source} {filter : Filter}
    (hstrict : kind ≠ .orderStrict) (hflexible : kind ≠ .orderFlexible)
    (h : decodeLeaf kind body = .ok filter) : filter.isLeaf = true := by
  cases kind with
  | field =>
      obtain ⟨draft, hbuild⟩ := Layout.exists_build h
      obtain ⟨field, -, hbuild⟩ := Wire.bind_eq_ok_iff.1 hbuild
      obtain ⟨value, -, hbuild⟩ := Wire.bind_eq_ok_iff.1 hbuild
      cases hbuild
      rfl
  | publisher =>
      obtain ⟨draft, hbuild⟩ := Layout.exists_build h
      obtain ⟨value, -, hbuild⟩ := Wire.bind_eq_ok_iff.1 hbuild
      cases hbuild
      rfl
  | holdsAttribute =>
      obtain ⟨draft, hbuild⟩ := Layout.exists_build h
      obtain ⟨name, -, hbuild⟩ := Wire.bind_eq_ok_iff.1 hbuild
      obtain ⟨value, -, hbuild⟩ := Wire.bind_eq_ok_iff.1 hbuild
      cases hbuild
      rfl
  | condition =>
      obtain ⟨condition, -, rfl⟩ := Wire.map_eq_ok_iff.1 h
      rfl
  | differs =>
      obtain ⟨diff, -, rfl⟩ := Wire.map_eq_ok_iff.1 h
      rfl
  | componentType | managed | changes | has | hasAny | hasAll | hasNone =>
      exact isLeaf_of_oneField (fun _ => rfl) h
  | orderStrict => exact absurd rfl hstrict
  | orderFlexible => exact absurd rfl hflexible
  | anyLayer | layerOf | all | any | not | unknown =>
      obtain ⟨draft, hbuild⟩ := Layout.exists_build h
      cases hbuild
      rfl

theorem fits_of_stepsLayout {title : String} {mode : SequenceMode} {body : Source} {room : Nat}
    {filter : Filter} (hparts : ∀ part ∈ body.parts, part.depth ≤ room)
    (h : (stepsLayout title mode).decode .buffered body = .ok filter) :
    filter.FitsButForLists (room + 1) := by
  have hstart : ∀ steps, (stepsLayout title mode).draft = some steps →
      steps = [] ∨ Json.depthItems (steps.map Step.encode) < room := by
    rintro steps ⟨⟩
    exact .inl rfl
  obtain ⟨draft, hdraft, hbuild⟩ := Layout.exists_draft (P := fun draft => ∀ steps,
    draft = some steps → steps = [] ∨ Json.depthItems (steps.map Step.encode) < room) hstart (by
      intro _ next _ value hvalue _ hnext steps hsteps
      obtain ⟨entered, hentered, rfl⟩ := Wire.map_eq_ok_iff.1 hnext
      cases hsteps
      have hlt := depth_steps_lt hentered
      have hle := hparts value hvalue
      exact .inr (by omega)) h
  cases draft with
  | none => cases hbuild
  | some steps =>
      cases hbuild
      exact fits_sequence (hdraft steps rfl)

theorem fits_of_decodeLeaf {kind : Kind} {body : Source} {room : Nat} {filter : Filter}
    (hparts : ∀ part ∈ body.parts, part.depth ≤ room) (h : decodeLeaf kind body = .ok filter) :
    filter.FitsButForLists (room + 1) := by
  by_cases hstrict : kind = .orderStrict
  · subst hstrict
    exact fits_of_stepsLayout hparts h
  · by_cases hflexible : kind = .orderFlexible
    · subst hflexible
      exact fits_of_stepsLayout hparts h
    · exact fits_of_isLeaf (isLeaf_of_decodeLeaf hstrict hflexible h)

/-! ## Filters that hold others -/

/-- What a filter holds so far keeps the bound. -/
structure Branch.FitsIn (room : Nat) (draft : Branch) : Prop where
  child : ∀ child, draft.child = some (some child) → child.FitsButForLists room
  children : ∀ children, draft.children = some children →
    ∃ less, room = less + 1 ∧ ∀ child ∈ children, child.FitsButForLists less

/-- What is read from a source keeps the bound that the depth of the source sets. -/
def ReadsWithin (room : Nat) : Prop :=
  ∀ level ≤ room, ∀ source filter, source.isReadable = true → source.depth ≤ level →
    decode .buffered source = .ok filter → filter.FitsButForLists level

theorem forall_of_decodeEach {items : List Source} {filters : List Filter} {P : Filter → Prop}
    (hitems : ∀ item ∈ items, ∀ filter, decode .buffered item = .ok filter → P filter)
    (h : decodeEach items = .ok filters) : ∀ filter ∈ filters, P filter := by
  induction items generalizing filters with
  | nil =>
      cases h
      simp
  | cons item items ih =>
      rw [decodeEach, Wire.bind_eq_ok_iff] at h
      obtain ⟨filter, hfilter, h⟩ := h
      obtain ⟨more, hmore, h⟩ := Wire.bind_eq_ok_iff.1 h
      cases h
      obtain ⟨hitem, hrest⟩ := List.forall_mem_cons.1 hitems
      exact List.forall_mem_cons.2 ⟨hitem filter hfilter, ih hrest hmore⟩

theorem Branch.FitsIn.take {room : Nat} {draft next : Branch} {field : BranchField}
    {value : Source} (hdraft : draft.FitsIn room) (hread : ReadsWithin room)
    (hreadable : value.isReadable = true) (hdepth : value.depth ≤ room)
    (h : draft.take field value = .ok next) : next.FitsIn room := by
  rw [Branch.take_eq_ok_iff] at h
  cases field with
  | solution =>
      obtain ⟨s, -, rfl⟩ := h
      exact ⟨hdraft.child, hdraft.children⟩
  | child =>
      obtain ⟨-, rfl⟩ | ⟨filter, -, hfilter, rfl⟩ := h
      · exact ⟨by rintro child ⟨⟩, hdraft.children⟩
      · refine ⟨?_, hdraft.children⟩
        rintro child ⟨⟩
        exact hread room (Nat.le_refl room) value filter hreadable hdepth hfilter
  | children =>
      obtain ⟨filters, hfilters, rfl⟩ := h
      refine ⟨hdraft.child, ?_⟩
      rintro children ⟨⟩
      cases value with
      | arr items stop =>
          rw [Source.isReadable, Bool.and_eq_true, Source.readableItems_iff] at hreadable
          rw [Source.depth] at hdepth
          obtain ⟨less, rfl⟩ : ∃ less, room = less + 1 := ⟨room - 1, by omega⟩
          have hitems := Source.depthItems_le_iff.1 (Nat.le_of_succ_le_succ hdepth)
          refine ⟨less, rfl, forall_of_decodeEach (fun item hitem filter hfilter => ?_) hfilters⟩
          exact hread less (Nat.le_succ less) item filter (hreadable.1 item hitem)
            (hitems item hitem) hfilter
      | _ => cases hfilters

theorem Branch.FitsIn.enter {room : Nat} {layout : BranchLayout} {draft next : Branch}
    {name : String} {value : Source} (hdraft : draft.FitsIn room) (hread : ReadsWithin room)
    (hreadable : value.isReadable = true) (hdepth : value.depth ≤ room)
    (h : layout.asLayout.enter draft name value = .ok next) : next.FitsIn room := by
  rw [BranchLayout.asLayout] at h
  dsimp only at h
  split at h
  · cases h
    exact hdraft
  · exact hdraft.take hread hreadable hdepth h

theorem Branch.FitsIn.fits_of_child {room : Nat} {draft : Branch} (hdraft : draft.FitsIn room)
    {make : Option Filter → Filter} (hnone : (make none).encode.depth = 1)
    (hdepth : ∀ child, (make (some child)).encode.depth = child.encode.depth + 1)
    (hholds : ∀ child level,
      (make (some child)).holdsListAt (level + 2) = child.holdsListAt (level + 1)) :
    (make (draft.child.getD none)).FitsButForLists (room + 1) := by
  cases hchild : draft.child with
  | none => exact .inl (hnone ▸ Nat.le_add_left 1 room)
  | some child =>
      cases child with
      | none => exact .inl (hnone ▸ Nat.le_add_left 1 room)
      | some child =>
          exact Filter.fits_of_child (hdepth child) (hholds child) (hdraft.child child hchild)

theorem Branch.FitsIn.fits_of_children {room : Nat} {draft : Branch} (hdraft : draft.FitsIn room)
    {make : List Filter → Filter} (hlisted : ∀ children, (make children).isListed = true)
    (hdepth : ∀ children,
      (make children).encode.depth = Json.depthItems (encodeEach children) + 2)
    (hholds : ∀ children level,
      (make children).holdsListAt (level + 2) = holdsListIn level children) :
    (make (draft.children.getD [])).FitsButForLists (room + 1) := by
  refine Filter.fits_of_children (hlisted _) (hdepth _) (hholds _) ?_
  cases hchildren : draft.children with
  | none => exact .inl rfl
  | some children => exact .inr (hdraft.children children hchildren)

theorem fits_of_build {kind : Kind} {layout : BranchLayout} {room : Nat} {draft : Branch}
    {filter : Filter} (hbranch : kind.branch? = some layout) (hdraft : draft.FitsIn room)
    (h : layout.build draft = .ok filter) : filter.FitsButForLists (room + 1) := by
  cases kind <;> cases hbranch
  case anyLayer =>
    cases h
    exact hdraft.fits_of_child (by simp [encode, Json.depth, Json.depthMembers]) depth_anyLayer
      fun child level => by rw [holdsListAt]
  case layerOf =>
    obtain ⟨solution, -, h⟩ := Wire.bind_eq_ok_iff.1 h
    cases h
    exact hdraft.fits_of_child (by simp [encode, Json.depth, Json.depthMembers])
      (depth_layerOf solution) fun child level => by rw [holdsListAt]
  case all =>
    cases h
    exact hdraft.fits_of_children (fun _ => rfl) depth_all fun children level => by
      rw [holdsListAt]
  case any =>
    cases h
    exact hdraft.fits_of_children (fun _ => rfl) depth_any fun children level => by
      rw [holdsListAt]
  case not =>
    cases h
    exact hdraft.fits_of_child (by simp [encode, Json.depth, Json.depthMembers]) depth_not
      fun child level => by rw [holdsListAt]

/-! ## Filters that were read -/

theorem fits_of_decodeFields {kind : Kind} {body : Source} {room : Nat} {filter : Filter}
    (hread : ReadsWithin room)
    (hparts : ∀ part ∈ body.parts, part.isReadable = true ∧ part.depth ≤ room)
    (h : kind.decodeFields body = .ok filter) : filter.FitsButForLists (room + 1) := by
  rw [Kind.decodeFields] at h
  cases hbranch : kind.branch? with
  | none =>
      rw [hbranch] at h
      exact fits_of_decodeLeaf (fun part hpart => (hparts part hpart).2) h
  | some layout =>
      rw [hbranch] at h
      have hstart : Branch.FitsIn room {} := ⟨by rintro _ ⟨⟩, by rintro _ ⟨⟩⟩
      obtain ⟨draft, hdraft, hbuild⟩ := Layout.exists_draft hstart
        (fun draft next name value hvalue hdraft hnext =>
          hdraft.enter hread (hparts value hvalue).1 (hparts value hvalue).2 hnext) h
      exact fits_of_build hbranch hdraft hbuild

theorem parts_of_readable {source : Source} {room : Nat} (hreadable : source.isReadable = true)
    (hdepth : source.depth ≤ room + 1) :
    ∀ part ∈ source.parts, part.isReadable = true ∧ part.depth ≤ room := by
  cases source with
  | arr items stop =>
      rw [Source.isReadable, Bool.and_eq_true, Source.readableItems_iff] at hreadable
      have hitems := Source.depthItems_le_iff.1 (Nat.le_of_succ_le_succ hdepth)
      exact fun part hpart => ⟨hreadable.1 part hpart, hitems part hpart⟩
  | obj members stop =>
      rw [Source.isReadable, Bool.and_eq_true, Source.readableMembers_iff] at hreadable
      have hmembers := Source.depthMembers_le_iff.1 (Nat.le_of_succ_le_succ hdepth)
      intro part hpart
      obtain ⟨member, hmember, rfl⟩ := List.mem_map.1 hpart
      exact ⟨hreadable.1 member hmember, hmembers member hmember⟩
  | _ => simp [Source.parts]

/-- Reading does not nest a filter deeper than its source was, but for lists that were left out. -/
theorem fits_of_decode {level : Nat} {access : Access} {source : Source} {filter : Filter}
    (hreadable : source.isReadable = true) (hdepth : source.depth ≤ level)
    (h : decode access source = .ok filter) : filter.FitsButForLists level := by
  induction level using Nat.strongRecOn generalizing access source filter with
  | ind level ih =>
      -- A child has one level less, a filter in a list two: hence all levels below.
      obtain ⟨kind, body, hfields, hform⟩ := exists_decodeFields hreadable h
      have hpos : 0 < source.depth := by
        obtain ⟨members, rfl, -⟩ | ⟨head, rest, rfl, -⟩ := hform <;> rw [Source.depth] <;> omega
      obtain ⟨room, rfl⟩ : ∃ room, level = room + 1 := ⟨level - 1, by omega⟩
      have hparts := parts_of_readable hreadable hdepth
      have hbody : ∀ part ∈ body.parts, part.isReadable = true ∧ part.depth ≤ room := by
        obtain ⟨members, -, rfl⟩ | ⟨head, rest, rfl, rfl⟩ := hform
        · exact hparts
        · exact fun part hpart => hparts part (List.mem_cons_of_mem head hpart)
      refine fits_of_decodeFields ?_ hbody hfields
      intro below hbelow source filter hreadable hdepth h
      exact ih below (Nat.lt_succ_of_le hbelow) hreadable hdepth h

theorem isReadable_of_decodeKind {value : Source} {kind : Kind}
    (h : decodeKind .streamed value = .ok kind) : value.isReadable = true := by
  cases value with
  | null | bool | num | str => rfl
  | _ => cases h

/-- Before a filter is read from a text, all that stands in the text is looked at. -/
theorem isReadable_of_decode {source : Source} {filter : Filter}
    (h : decode .streamed source = .ok filter) : source.isReadable = true := by
  cases source with
  | obj members stop =>
      rw [decode, Wire.bind_eq_ok_iff] at h
      obtain ⟨tagged, htagged, -⟩ := h
      obtain ⟨found, hfound, htagged⟩ := Wire.bind_eq_ok_iff.1 htagged
      obtain ⟨rfl, -⟩ := Wire.atEnd_eq_ok_iff.1 htagged
      have hmembers := Wire.readable_of_tagMember (fun _ _ => isReadable_of_decodeKind) hfound
      rw [Source.isReadable, hmembers]
      rfl
  | arr items stop =>
      cases items with
      | nil =>
          cases stop <;> cases h
      | cons head rest =>
          rw [decode, Wire.bind_eq_ok_iff] at h
          obtain ⟨tagged, htagged, -⟩ := h
          obtain ⟨kind, hkind, htagged⟩ := Wire.bind_eq_ok_iff.1 htagged
          split at htagged
          · next hrest =>
              obtain ⟨rfl, -⟩ := Wire.atEnd_eq_ok_iff.1 htagged
              rw [Source.isReadable, Source.readableItems, isReadable_of_decodeKind hkind,
                hrest.resolve_left (by decide)]
              rfl
          · cases htagged
  | _ => cases h

theorem fits_of_ofText {text : String} {filter : Filter} (h : ofText text = .ok filter) :
    filter.FitsButForLists maxDepth := by
  obtain ⟨filter, hdecode, hclean⟩ := Wire.bind_eq_ok_iff.1 h
  split at hclean
  · cases hclean
    have hreadable := isReadable_of_decode hdecode
    exact fits_of_decode hreadable (Document.depth_le_of_isReadable hreadable) hdecode
  · cases hclean

/-! ## A list at the last level -/

/-- A value in so many negations. -/
def negatedJson : Nat → Json → Json
  | 0, value => value
  | n + 1, value => .obj [("type", .str "NOT"), ("child", negatedJson n value)]

/-- A filter under so many negations. -/
def negated : Nat → Filter → Filter
  | 0, filter => filter
  | n + 1, filter => .not (some (negated n filter))

theorem isLegible_negatedJson (n : Nat) {value : Json} (h : value.isLegible = true) :
    (negatedJson n value).isLegible = true := by
  induction n with
  | zero => exact h
  | succ n ih => simp [negatedJson, Json.isLegible, Json.legibleMembers, ih]

theorem depth_negatedJson (n : Nat) (value : Json) :
    (negatedJson n value).depth = value.depth + n := by
  induction n with
  | zero => rfl
  | succ n ih =>
      simp only [negatedJson, Json.depth, Json.depthMembers, ih]
      omega

theorem depth_negated (n : Nat) (filter : Filter) :
    (negated n filter).encode.depth = filter.encode.depth + n := by
  induction n with
  | zero => rfl
  | succ n ih =>
      rw [negated, depth_not, ih]
      omega

theorem decode_not {access : Access} {value : Json} {filter : Filter}
    (hlegible : value.isLegible = true) (h : decode .buffered (.ofJson value) = .ok filter) :
    decode access (.ofJson (.obj [("type", .str "NOT"), ("child", value)]))
      = .ok (.not (some filter)) := by
  have hmembers := Rearranged.refl ["type", "child"] [("type", .str "NOT"), ("child", value)]
  have hobject : Json.isLegible (.obj [("type", .str "NOT"), ("child", value)]) = true := by
    simp [Json.isLegible, Json.legibleMembers, hlegible]
  exact decode_child rfl rfl (fun _ => Branch.take_child h) rfl hmembers hobject

theorem decode_negated (n : Nat) {value : Json} {filter : Filter}
    (hlegible : value.isLegible = true)
    (h : ∀ access, decode access (.ofJson value) = .ok filter) (access : Access) :
    decode access (.ofJson (negatedJson n value)) = .ok (negated n filter) := by
  induction n generalizing access with
  | zero => exact h access
  | succ n ih => exact decode_not (isLegible_negatedJson n hlegible) (ih .buffered)

theorem ofText_negated {n : Nat} (h : n < maxDepth) :
    ofText (negatedJson n (.obj [("type", .str "AND")])).render = .ok (negated n (.all [])) := by
  have hdepth : (negatedJson n (.obj [("type", .str "AND")])).depth ≤ maxDepth := by
    rw [depth_negatedJson]
    simp only [Json.depth, Json.depthMembers]
    omega
  rw [ofText_render (isLegible_negatedJson n rfl) hdepth]
  exact decode_negated n rfl (fun access => by cases access <;> rfl) .streamed

/-! ## Writing what was read -/

/-- A filter that was read from a text is read back from its own text, unless a filter that is
written with a list stands at the last level that can be read: the brackets of that list are one
level too many, and the text is refused. -/
theorem ofText_wire_of_ofText {text : String} {filter : Filter} (h : ofText text = .ok filter) :
    ofText filter.wire
      = if filter.holdsListAt maxDepth then .error .malformed else .ok filter := by
  by_cases hlist : filter.holdsListAt maxDepth = true
  · rw [if_pos hlist]
    exact ofText_wire_of_maxDepth_lt (lt_depth_of_holdsListAt filter hlist)
  · rw [if_neg hlist]
    rcases fits_of_ofText h with hdepth | ⟨-, hholds⟩
    · exact ofText_wire_of_depth_le hdepth
    · exact absurd hholds hlist

/-- The text names the kinds in lists, and leaves out the list of solutions. -/
theorem ofText_wire_of_bare_lists :
    ofText (Json.arr [.str "NOT", .arr [.str "HAS_ANY"]]).render
        = .ok (.not (some (.solutions .any []))) ∧
      ofText (Filter.not (some (.solutions .any []))).wire
        = .ok (.not (some (.solutions .any []))) := by
  have h : ofText (Json.arr [.str "NOT", .arr [.str "HAS_ANY"]]).render
      = .ok (.not (some (.solutions .any []))) := by
    rw [ofText_render (by rfl) (by decide)]
    rfl
  exact ⟨h, (ofText_wire_of_ofText h).trans (if_neg (by decide))⟩

/-- A conjunction of nothing, written without its list of filters and under 126 negations, is read.
Written with the list it is not. -/
theorem ofText_wire_of_126_negations :
    ofText (negatedJson 126 (.obj [("type", .str "AND")])).render = .ok (negated 126 (.all [])) ∧
      ofText (negated 126 (.all [])).wire = .error .malformed := by
  refine ⟨ofText_negated (by decide), ofText_wire_of_maxDepth_lt ?_⟩
  rw [depth_negated, depth_all, encodeEach]
  decide

end Filter

end Strata
