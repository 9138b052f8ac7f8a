import Strata.Proofs.Records
import Strata.Proofs.Standing

/-!
# A filter is read like a record

Filters that hold others are read by a recursion of their own, because their fields are read as
filters. Member by member it does what the reading of a record does: it enters what is a field,
refuses a field that was entered before and passes over the rest. So each kind has one layout, and
what is known of records holds of all of them.
-/

namespace Strata.Filter

open Wire (Layout Decoded Access)

/-! ## Layouts of filters that hold others -/

theorem BranchField.name_inj {a b : BranchField} : a.name = b.name ↔ a = b := by
  cases a <;> cases b <;> decide

/-- A list of filters. -/
def decodeList (value : Source) : Decoded (List Filter) :=
  match value with
  | .arr items _ => decodeEach items
  | _ => Wire.mismatch value .list

/-- Enters the value of a field. -/
def Branch.take (draft : Branch) (field : BranchField) (value : Source) : Decoded Branch :=
  draft.enter field value (fun _ => decode .buffered value) fun _ => decodeList value

/-- The layout of a kind that holds others, as that of a record. -/
def BranchLayout.asLayout (layout : BranchLayout) : Layout Branch Filter where
  title := layout.title
  fields := layout.fields.map BranchField.name
  draft := {}
  enter draft name value :=
    match layout.fields.find? fun field => field.name = name with
    | none => .ok draft
    | some field => draft.take field value
  build := layout.build

theorem BranchLayout.buildNamed_asLayout (layout : BranchLayout) (draft : Branch) :
    layout.asLayout.buildNamed draft = layout.buildNamed draft := by
  have hbuild : layout.asLayout.build draft = layout.build draft := rfl
  rw [Layout.buildNamed, buildNamed, hbuild]
  cases layout.build draft <;> rfl

theorem BranchLayout.buildPlaced_asLayout (layout : BranchLayout) (draft : Branch) :
    layout.asLayout.buildPlaced draft = layout.buildPlaced draft := by
  have hbuild : layout.asLayout.build draft = layout.build draft := rfl
  rw [Layout.buildPlaced, buildPlaced, hbuild]
  cases layout.build draft <;> simp [asLayout]

theorem decodeMembers_cons (fields : List BranchField) (draft : Branch) (name : String)
    (value : Source) (rest : List (String × Source)) :
    decodeMembers fields draft ((name, value) :: rest)
      = match fields.find? fun field => field.name = name with
        | none => decodeMembers fields draft rest
        | some field =>
          if draft.knows field then .error (.duplicateField name)
          else draft.take field value >>= fun draft => decodeMembers fields draft rest := by
  rw [decodeMembers.eq_def]
  rfl

/-- What entering a field comes to, field by field. -/
theorem Branch.take_eq_ok_iff {draft next : Branch} {field : BranchField} {value : Source} :
    draft.take field value = .ok next ↔
      match field with
      | .solution => ∃ s, value = .str s ∧ next = { draft with solution := some s }
      | .child =>
        (value = .null ∧ next = { draft with child := some none }) ∨
          ∃ filter, value ≠ .null ∧ decode .buffered value = .ok filter
            ∧ next = { draft with child := some (some filter) }
      | .children => ∃ filters, decodeList value = .ok filters
          ∧ next = { draft with children := some filters } := by
  cases field with
  | solution =>
      rw [take, enter, Wire.bind_eq_ok_iff]
      simp only [Wire.text_eq_ok_iff, pure, Except.pure, Except.ok.injEq, @eq_comm _ _ next]
  | children =>
      rw [take, enter, Wire.bind_eq_ok_iff]
      simp only [pure, Except.pure, Except.ok.injEq, eq_comm]
  | child =>
      dsimp only
      by_cases hnull : value = .null
      · subst hnull
        simp [take, enter, eq_comm]
      · have henter : draft.take .child value
            = (decode .buffered value >>= fun filter =>
                .ok { draft with child := some (some filter) }) := by
          cases value with
          | null => exact absurd rfl hnull
          | _ => rfl
        rw [henter, Wire.bind_eq_ok_iff]
        simp [hnull, eq_comm]

theorem Branch.take_child {draft : Branch} {value : Source} {filter : Filter}
    (h : decode .buffered value = .ok filter) :
    draft.take .child value = .ok { draft with child := some (some filter) } := by
  have hnull : value ≠ .null := by
    rintro rfl
    cases h
  exact Branch.take_eq_ok_iff.2 (.inr ⟨filter, hnull, h, rfl⟩)

theorem Branch.knows_of_take {draft next : Branch} {field : BranchField} {value : Source}
    (h : draft.take field value = .ok next) (other : BranchField) :
    next.knows other = (other == field || draft.knows other) := by
  rw [Branch.take_eq_ok_iff] at h
  cases field with
  | solution =>
      obtain ⟨s, -, rfl⟩ := h
      cases other <;> rfl
  | child =>
      obtain ⟨-, rfl⟩ | ⟨filter, -, -, rfl⟩ := h <;> cases other <;> rfl
  | children =>
      obtain ⟨filters, -, rfl⟩ := h
      cases other <;> rfl

theorem BranchLayout.enter_asLayout {layout : BranchLayout} {field : BranchField}
    (hfield : field ∈ layout.fields) (draft : Branch) (value : Source) :
    layout.asLayout.enter draft field.name value = draft.take field value := by
  have hfind : layout.fields.find? (fun other => other.name = field.name) = some field := by
    cases h : layout.fields.find? (fun other => other.name = field.name) with
    | none => exact absurd (decide_eq_true rfl) (List.find?_eq_none.1 h field hfield)
    | some other =>
        have hname : other.name = field.name := by simpa using List.find?_some h
        rw [BranchField.name_inj.1 hname]
  rw [asLayout]
  dsimp only
  rw [hfind]

theorem decodeMembers_eq (layout : BranchLayout) {members : List (String × Source)}
    (hwell : ∀ member ∈ members, member.2.isWellFormed = true) {draft : Branch}
    {seen : List String}
    (hseen : ∀ field, draft.knows field = seen.contains field.name) :
    decodeMembers layout.fields draft members = layout.asLayout.members seen draft members := by
  induction members generalizing draft seen with
  | nil => rw [decodeMembers, Layout.members]
  | cons member members ih =>
      obtain ⟨name, value⟩ := member
      have hrest := fun other (h : other ∈ members) => hwell other (List.mem_cons_of_mem _ h)
      rw [decodeMembers_cons, Layout.members]
      cases hfind : layout.fields.find? (fun field => field.name = name) with
      | none =>
          have hfield : layout.asLayout.fields.contains name = false := by
            rw [List.find?_eq_none] at hfind
            rw [← Bool.not_eq_true, List.contains_iff_mem]
            intro h
            obtain ⟨field, hf, hname⟩ := List.mem_map.1 h
            exact hfind field hf (decide_eq_true hname)
          rw [hfield, if_neg Bool.false_ne_true, if_pos (hwell _ List.mem_cons_self)]
          exact ih hrest hseen
      | some field =>
          have hname : field.name = name := by
            simpa using List.find?_some hfind
          have hfield : layout.asLayout.fields.contains name = true :=
            List.contains_iff_mem.2 (List.mem_map.2 ⟨field, List.mem_of_find?_eq_some hfind, hname⟩)
          have henter : layout.asLayout.enter draft name value = draft.take field value :=
            hname ▸ BranchLayout.enter_asLayout (List.mem_of_find?_eq_some hfind) draft value
          rw [hfield, if_pos rfl, henter]
          dsimp only
          rw [hseen field, hname]
          split
          · rfl
          · cases hnext : draft.take field value with
            | error fault => rfl
            | ok next =>
                refine ih hrest fun other => ?_
                rw [Branch.knows_of_take hnext, hseen, List.contains_cons, ← hname, Bool.eq_iff_iff,
                  Bool.or_eq_true, Bool.or_eq_true, beq_iff_eq, beq_iff_eq, BranchField.name_inj]

/-! ## Reading an object -/

/-- Reads the fields of a filter whose kind is known from an object or what is left of a list. -/
def Kind.decodeFields (kind : Kind) (body : Source) : Decoded Filter :=
  match kind.branch? with
  | none => decodeLeaf kind body
  | some layout => layout.asLayout.decode .buffered body

theorem decode_obj {access : Access} {kind : Kind} {members : List (String × Source)}
    (hwell : ∀ member ∈ members, member.2.isWellFormed = true)
    (hkind : Wire.tagMember "type" access (decodeKind access) none members = .ok (some kind)) :
    decode access (.obj members .closed) = kind.decodeFields (.obj members .closed) := by
  have htagged : Wire.tagged "FilterNode" "type" access (decodeKind access) (.obj members .closed)
      = .ok (kind, .obj members .closed) := by
    rw [Wire.tagged, hkind]
    rfl
  rw [decode, htagged, Kind.decodeFields]
  show (match kind.branch? with
    | none => decodeLeaf kind (.obj members .closed)
    | some layout => decodeMembers layout.fields {} members >>= layout.buildNamed) = _
  cases kind.branch? with
  | none => rfl
  | some layout =>
      dsimp only
      have hseen : ∀ field, ({} : Branch).knows field = [].contains field.name := by
        intro field
        cases field <;> rfl
      rw [decodeMembers_eq layout hwell hseen, ← funext layout.buildNamed_asLayout]
      rfl

/-! ## Reading a list -/

theorem decodeElements_cons (field : BranchField) (fields : List BranchField) (draft : Branch)
    (value : Source) (rest : List Source) :
    decodeElements (field :: fields) draft (value :: rest)
      = draft.take field value >>= fun draft => decodeElements fields draft rest := by
  rw [decodeElements.eq_def]
  rfl

theorem elements_asLayout (layout : BranchLayout) {fields : List BranchField}
    (hfields : ∀ field ∈ fields, field ∈ layout.fields) (draft : Branch) (items : List Source) :
    layout.asLayout.elements draft (fields.map BranchField.name) items
      = decodeElements fields draft items >>= fun next => .ok (next, items.drop fields.length) := by
  induction fields generalizing draft items with
  | nil => cases items <;> simp [Layout.elements, decodeElements, bind, Except.bind]
  | cons field fields ih =>
      cases items with
      | nil => simp [Layout.elements, decodeElements, bind, Except.bind]
      | cons item items =>
          rw [List.map_cons, Layout.elements, decodeElements_cons,
            BranchLayout.enter_asLayout (hfields field List.mem_cons_self), bind_assoc]
          exact bind_congr fun next =>
            ih (fun other hother => hfields other (List.mem_cons_of_mem _ hother)) next items

theorem decode_arr {access : Access} {kind : Kind} {head : Source} {items : List Source}
    (hitems : access = .buffered ∨ Source.readableItems items = true)
    (hkind : decodeKind access head = .ok kind) :
    decode access (.arr (head :: items) .closed) = kind.decodeFields (.arr items .closed) := by
  have htagged : Wire.tagged "FilterNode" "type" access (decodeKind access)
      (.arr (head :: items) .closed) = .ok (kind, .arr items .closed) := by
    rw [Wire.tagged, hkind]
    exact if_pos hitems
  rw [decode, htagged, Kind.decodeFields]
  show (match kind.branch? with
    | none => decodeLeaf kind (.arr items .closed)
    | some layout => decodeElements layout.fields {} items >>= fun draft =>
        if layout.fields.length < items.length then
          .error (.invalidLength items.length (.exactly layout.fields.length))
        else layout.buildPlaced draft) = _
  cases kind.branch? with
  | none => rfl
  | some layout =>
      dsimp only
      have helements : layout.asLayout.elements layout.asLayout.draft layout.asLayout.fields items
          = decodeElements layout.fields {} items >>= fun next =>
              .ok (next, items.drop layout.fields.length) :=
        elements_asLayout layout (fun _ h => h) {} items
      rw [Layout.decode, helements, bind_assoc]
      refine bind_congr fun next => ?_
      show _ = if (items.drop layout.fields.length).isEmpty then layout.asLayout.buildPlaced next
        else .error (layout.asLayout.surplus .buffered (items.drop layout.fields.length))
      by_cases hmore : layout.fields.length < items.length
      · have hleft : (items.drop layout.fields.length).isEmpty = false := by
          simpa [List.isEmpty_eq_false_iff, List.drop_eq_nil_iff] using hmore
        have hlength : layout.fields.length + (items.length - layout.fields.length)
            = items.length := by omega
        rw [if_pos hmore, hleft, Layout.surplus]
        simp [BranchLayout.asLayout, hlength]
      · have hleft : (items.drop layout.fields.length).isEmpty = true := by
          simpa [List.isEmpty_iff, List.drop_eq_nil_iff] using hmore
        rw [if_neg hmore, hleft, if_pos rfl, BranchLayout.buildPlaced_asLayout]

/-! ## What a filter was read from -/

theorem exists_decodeFields_obj {access : Access} {members : List (String × Source)}
    {filter : Filter} (hreadable : Source.readableMembers members = true)
    (h : decode access (.obj members .closed) = .ok filter) :
    ∃ kind : Kind, kind.decodeFields (.obj members .closed) = .ok filter := by
  have hwell : ∀ member ∈ members, member.2.isWellFormed = true := fun member hmember =>
    Source.isWellFormed_of_isReadable (Source.readableMembers_iff.1 hreadable member hmember)
  have htagged := h
  rw [decode, Wire.bind_eq_ok_iff] at htagged
  obtain ⟨tagged, htagged, -⟩ := htagged
  rw [Wire.tagged, Wire.bind_eq_ok_iff] at htagged
  obtain ⟨found, hfound, htagged⟩ := htagged
  cases found with
  | none => cases htagged
  | some kind =>
      rw [decode_obj hwell hfound] at h
      exact ⟨kind, h⟩

theorem exists_decodeFields_arr {access : Access} {items : List Source} {filter : Filter}
    (hreadable : Source.readableItems items = true)
    (h : decode access (.arr items .closed) = .ok filter) :
    ∃ (kind : Kind) (head : Source) (rest : List Source),
      items = head :: rest ∧ kind.decodeFields (.arr rest .closed) = .ok filter := by
  cases items with
  | nil =>
      rw [decode] at h
      · cases h
      · simp
      · simp
  | cons head rest =>
      rw [Source.readableItems, Bool.and_eq_true] at hreadable
      have htagged := h
      rw [decode, Wire.bind_eq_ok_iff] at htagged
      obtain ⟨tagged, htagged, -⟩ := htagged
      obtain ⟨kind, hkind, -⟩ := Wire.bind_eq_ok_iff.1 htagged
      rw [decode_arr (.inr hreadable.2) hkind] at h
      exact ⟨kind, head, rest, rfl, h⟩

/-- A filter is read from the parts of a container that is closed, in one of two forms. -/
theorem exists_decodeFields {access : Access} {source : Source} {filter : Filter}
    (hreadable : source.isReadable = true) (h : decode access source = .ok filter) :
    ∃ (kind : Kind) (body : Source), kind.decodeFields body = .ok filter ∧
      ((∃ members, source = .obj members .closed ∧ body = source) ∨
        ∃ head rest, source = .arr (head :: rest) .closed ∧ body = .arr rest .closed) := by
  cases source with
  | obj members stop =>
      rw [Source.isReadable, Bool.and_eq_true, beq_iff_eq] at hreadable
      obtain ⟨hmembers, rfl⟩ := hreadable
      obtain ⟨kind, hkind⟩ := exists_decodeFields_obj hmembers h
      exact ⟨kind, _, hkind, .inl ⟨members, rfl, rfl⟩⟩
  | arr items stop =>
      rw [Source.isReadable, Bool.and_eq_true, beq_iff_eq] at hreadable
      obtain ⟨hitems, rfl⟩ := hreadable
      obtain ⟨kind, head, rest, rfl, hkind⟩ := exists_decodeFields_arr hitems h
      exact ⟨kind, _, hkind, .inr ⟨head, rest, rfl, rfl⟩⟩
  | _ => cases h

end Strata.Filter
