import Strata.Proofs.Numerals
import Strata.Proofs.Records

/-!
# What was written is read back

Much is read while its text is: predicates, components, configurations. Whoever reads in this way
meets the values in a text only as far down as contents are kept. So what it is for a value to be
read back is said of every place it may stand at. `Recovers decode value a` means that `value` is
read as `a` wherever there is room for all its levels, and refused as malformed wherever there is
not.

Decoders are put together from those of plain values in a few ways: lists, records, unions that are
told apart by the name of their only member. Each of these hands recovery on from the parts to the
whole, so that for a type of values it is shown along the structure of the type. For a whole text it
comes to `Recovers.decodeText_render`.
-/

namespace Strata

/-! ## How deep values are nested -/

namespace Json

variable {α : Type} {encode : α → Json}

theorem depth_list_le {n : Nat} (h : ∀ a, (encode a).depth ≤ n) (items : List α) :
    (Json.list encode items).depth ≤ n + 1 := by
  rw [Json.list, depth, Nat.add_le_add_iff_right]
  induction items with
  | nil => exact Nat.zero_le n
  | cons a items ih => exact Nat.max_le.2 ⟨h a, ih⟩

theorem depth_option (h : ∀ a, (encode a).depth = 0) (found : Option α) :
    (Json.option encode found).depth = 0 := by
  cases found with
  | none => rfl
  | some a => exact h a

end Json

namespace Wire

variable {α β δ : Type}

/-- What comes of reading a value of a depth where there is room for so many levels. -/
def kept (depth room : Nat) (a : α) : Decoded α :=
  if depth ≤ room then .ok a else .error .malformed

theorem kept_of_le {depth room : Nat} (h : depth ≤ room) (a : α) : kept depth room a = .ok a :=
  if_pos h

theorem kept_succ (depth room : Nat) (a : α) :
    kept (depth + 1) (room + 1) a = kept depth room a := by
  simp only [kept, Nat.succ_le_succ_iff]

/-- The first of two parts that there is no room for is what the whole is refused for. -/
theorem kept_bind {f : α → Decoded β} {first more room : Nat} {a : α} {b : β}
    (h : f a = kept more room b) : (kept first room a >>= f) = kept (max first more) room b := by
  by_cases hfirst : first ≤ room
  · rw [kept_of_le hfirst]
    show f a = _
    simp only [h, kept, Nat.max_le, hfirst, true_and]
  · have hmax : ¬ max first more ≤ room := fun hmax => hfirst (Nat.max_le.1 hmax).1
    rw [kept, if_neg hfirst, kept, if_neg hmax]
    rfl

theorem kept_bind_ok {f : α → Decoded β} {depth room : Nat} {a : α} {b : β} (h : f a = .ok b) :
    (kept depth room a >>= f) = kept depth room b := by
  rw [← kept_of_le (Nat.zero_le room) b] at h
  rw [kept_bind h, Nat.max_zero]

theorem map_kept (f : α → β) (depth room : Nat) (a : α) :
    f <$> kept depth room a = kept depth room (f a) := by
  rw [kept, kept]
  split <;> rfl

/-- Whether a value is read as `a` wherever there is room for it, and as nothing elsewhere. -/
structure Recovers (decode : Source → Decoded α) (value : Json) (a : α) : Prop where
  legible : value.isLegible = true
  within : ∀ room, decode (.within room value) = kept value.depth room a

namespace Recovers

variable {decode : Source → Decoded α} {value : Json} {a : α}

/-! ## Whole texts -/

theorem decodeText_render (h : Recovers decode value a) :
    decodeText decode value.render = kept value.depth maxDepth a := by
  rw [decodeText, Document.ofText_render value h.legible]
  show (decode (.within maxDepth value) >>= fun a => .ok a) = _
  rw [h.within]
  exact kept_bind_ok rfl

theorem decodeText_render_of_le (h : Recovers decode value a) (hdepth : value.depth ≤ maxDepth) :
    decodeText decode value.render = .ok a :=
  h.decodeText_render.trans (kept_of_le hdepth a)

/-! ## Plain values -/

/-- A value that is no container is met alike everywhere. -/
theorem of_depth_eq_zero (hlegible : value.isLegible = true) (hdepth : value.depth = 0)
    (h : decode (.ofJson value) = .ok a) : Recovers decode value a where
  legible := hlegible
  within room := by
    have hle : value.depth ≤ room := hdepth ▸ Nat.zero_le room
    rw [Source.within_of_depth_le value hle, h, kept_of_le hle]

theorem str (s : String) : Recovers text (.str s) s := of_depth_eq_zero rfl rfl rfl

theorem bool (b : Bool) : Recovers boolean (.bool b) b := of_depth_eq_zero rfl rfl rfl

theorem ordinal (bound : Ordinal) : Recovers integer64 (Ordinal.encode bound) bound :=
  of_depth_eq_zero (Ordinal.isLegible_encode bound) rfl (Ordinal.integer64_ofJson_encode bound)

theorem tag [Tag α] [LawfulTag α] (a : α) : Recovers Tag.decode (Tag.encode a) a :=
  of_depth_eq_zero rfl rfl (Tag.decode_encode a)

/-! ## What is made of a value -/

theorem map (f : α → β) (h : Recovers decode value a) :
    Recovers (fun source => f <$> decode source) value (f a) where
  legible := h.legible
  within room := by rw [h.within, map_kept]

theorem bind_pure (f : α → β) (h : Recovers decode value a) :
    Recovers (fun source => do return f (← decode source)) value (f a) := by
  have hmap : (fun source => do return f (← decode source)) = fun source => f <$> decode source :=
    funext fun source => by cases decode source <;> rfl
  rw [hmap]
  exact h.map f

theorem optional_none : Recovers (optional decode) .null none := of_depth_eq_zero rfl rfl rfl

theorem optional_some (hnull : value ≠ .null) (h : Recovers decode value a) :
    Recovers (optional decode) value (some a) where
  legible := h.legible
  within room := by
    have hsource : Source.within room value ≠ .null := by
      cases value with
      | null => exact absurd rfl hnull
      | bool _ | str _ => simp [Source.within]
      | num n =>
          rw [Source.within]
          split <;> simp
      | arr _ | obj _ => cases room <;> simp [Source.within]
    have hoptional : Wire.optional decode (.within room value)
        = some <$> decode (.within room value) := by
      cases hvalue : Source.within room value with
      | null => exact absurd hvalue hsource
      | _ => rfl
    rw [hoptional, h.within, map_kept]

theorem option {encode : α → Json} {found : Option α} (hnull : ∀ a, encode a ≠ .null)
    (h : ∀ a ∈ found, Recovers decode (encode a) a) :
    Recovers (optional decode) (.option encode found) found := by
  cases found with
  | none => exact optional_none
  | some a => exact (h a rfl).optional_some (hnull a)

theorem optionalTexts (found : Option String) :
    Recovers (optional text) (.option .str found) found :=
  option (fun _ => by simp) fun s _ => str s

/-! ## Lists -/

theorem each_withinItems {items : List Json} {values : List α}
    (h : List.Forall₂ (Recovers decode) items values) (room : Nat) :
    each decode (Source.withinItems room items) = kept (Json.depthItems items) room values := by
  induction h with
  | nil => exact (kept_of_le (Nat.zero_le room) []).symm
  | @cons item a items values hitem _ ih =>
      rw [Source.withinItems, each, hitem.within, Json.depthItems]
      refine kept_bind ?_
      rw [ih]
      exact kept_bind_ok rfl

theorem legibleItems {items : List Json} {values : List α}
    (h : List.Forall₂ (Recovers decode) items values) : Json.legibleItems items = true := by
  induction h with
  | nil => rfl
  | cons hitem _ ih => rw [Json.legibleItems, hitem.legible, ih]; rfl

theorem arr {items : List Json} {values : List α}
    (h : List.Forall₂ (Recovers decode) items values) :
    Recovers (list decode) (.arr items) values where
  legible := legibleItems h
  within room := by
    cases room with
    | zero => rfl
    | succ room =>
        rw [Source.within, Wire.list, each_withinItems h, Json.depth, kept_succ]
        exact kept_bind_ok rfl

theorem list {encode : α → Json} {values : List α}
    (h : ∀ a ∈ values, Recovers decode (encode a) a) :
    Recovers (list decode) (.list encode values) values :=
  arr (List.forall₂_map_left_iff.2 (List.forall₂_same.2 h))

theorem strings (texts : List String) : Recovers (Wire.list text) (.list .str texts) texts :=
  list fun s _ => str s

end Recovers

/-! ## Unions that are told apart by the name of their only member -/

theorem alone_closed (result : Decoded α) : alone [] .closed result = result := by
  cases result <;> rfl

/-- A union is read as the value of its member is. -/
theorem Recovers.single {decode inner : Source → Decoded α} {name : String} {value : Json} {a : α}
    (hclosed : ∀ source, decode (.obj [(name, source)] .closed) = alone [] .closed (inner source))
    (hunreadable : decode (.obj [] .unreadable) = .error .malformed)
    (h : Recovers inner value a) : Recovers decode (.obj [(name, value)]) a where
  legible := by rw [Json.isLegible, Json.legibleMembers, h.legible]; rfl
  within room := by
    cases room with
    | zero => exact hunreadable
    | succ room =>
        rw [Source.within, Source.withinMembers, Source.withinMembers, hclosed, alone_closed,
          h.within, Json.depth, kept_succ, Json.depthMembers, Json.depthMembers, Nat.max_zero]

/-! ## Records -/

namespace Layout

variable (layout : Layout δ α)

/-- Whether a draft takes in members one after another and becomes another draft by it. -/
inductive Takes : δ → List (String × Json) → δ → Prop where
  | nil (draft : δ) : Takes draft [] draft
  | cons {draft next last : δ} {name : String} {value : Json} {rest : List (String × Json)}
      (hvalue : Recovers (layout.enter draft name) value next) (hrest : Takes next rest last) :
      Takes draft ((name, value) :: rest) last

variable {layout}

theorem Takes.legibleMembers {draft last : δ} {members : List (String × Json)}
    (h : layout.Takes draft members last) : Json.legibleMembers members = true := by
  induction h with
  | nil draft => rfl
  | cons hvalue hrest ih => rw [Json.legibleMembers, hvalue.legible, ih]; rfl

theorem Takes.members_withinMembers {draft last : δ} {members : List (String × Json)}
    (h : layout.Takes draft members last) (hfields : ∀ member ∈ members, member.1 ∈ layout.fields)
    (hnodup : (members.map Prod.fst).Nodup) {seen : List String}
    (hseen : ∀ member ∈ members, member.1 ∉ seen) (room : Nat) :
    layout.members seen draft (Source.withinMembers room members)
      = kept (Json.depthMembers members) room last := by
  induction h generalizing seen with
  | nil draft => exact (kept_of_le (Nat.zero_le room) draft).symm
  | @cons draft next last name value rest hvalue hrest ih =>
      obtain ⟨hfield, hfields⟩ := List.forall_mem_cons.1 hfields
      obtain ⟨hnew, hseen⟩ := List.forall_mem_cons.1 hseen
      obtain ⟨hname, hnodup⟩ := List.nodup_cons.1 hnodup
      have hseen' : ∀ member ∈ rest, member.1 ∉ name :: seen := by
        intro member hmember hin
        rcases List.mem_cons.1 hin with hsame | hin
        · exact hname (List.mem_map.2 ⟨member, hmember, hsame⟩)
        · exact hseen member hmember hin
      rw [Source.withinMembers, Layout.members, if_pos (List.contains_iff_mem.2 hfield),
        if_neg (mt List.contains_iff_mem.1 hnew), hvalue.within, Json.depthMembers]
      exact kept_bind (ih hfields hnodup hseen')

end Layout

/-- A record is read back if it is written with all its fields, and their values lead from the first
draft to one that it is built of. -/
theorem Recovers.record {layout : Layout δ α} {members : List (String × Json)} {last : δ} {a : α}
    (h : layout.Takes layout.draft members last) (hnames : members.map Prod.fst = layout.fields)
    (hnodup : layout.fields.Nodup) (hbuild : layout.build last = .ok a) :
    Recovers (layout.decode .streamed) (.obj members) a where
  legible := h.legibleMembers
  within room := by
    cases room with
    | zero => rfl
    | succ room =>
        have hfields : ∀ member ∈ members, member.1 ∈ layout.fields := fun member hmember =>
          hnames ▸ List.mem_map_of_mem hmember
        have hseen : ∀ member ∈ members, member.1 ∉ [] := fun _ _ => List.not_mem_nil
        have hmembers := h.members_withinMembers hfields (hnames ▸ hnodup) hseen room
        rw [Source.within, Layout.decode, hmembers, Json.depth, kept_succ]
        refine kept_bind_ok ?_
        rw [atEnd, Layout.buildNamed, hbuild]

end Wire

end Strata
