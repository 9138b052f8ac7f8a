import Strata.Proofs.Standing

/-!
# What can be read is not nested too deep

While a text is being looked through, the contents of a container are kept if there is room for it,
and a container whose contents were not kept cannot be read. So whatever can be read whole is not
nested deeper than there was room for. A value that cannot be read may be nested as it likes, and
therefore the invariant of the building is about readable contents only.
-/

namespace Strata

namespace Source

mutual

/-- How many containers are nested in each other at most. -/
def depth : Source → Nat
  | .arr items _ => depthItems items + 1
  | .obj members _ => depthMembers members + 1
  | _ => 0

/-- The depth of the deepest item. -/
def depthItems : List Source → Nat
  | [] => 0
  | item :: rest => max item.depth (depthItems rest)

/-- The depth of the deepest member. -/
def depthMembers : List (String × Source) → Nat
  | [] => 0
  | (_, value) :: rest => max value.depth (depthMembers rest)

end

theorem depthItems_le_iff {items : List Source} {n : Nat} :
    depthItems items ≤ n ↔ ∀ item ∈ items, item.depth ≤ n := by
  induction items with
  | nil => simp [depthItems]
  | cons item items ih => rw [depthItems, Nat.max_le, ih, List.forall_mem_cons]

theorem depthMembers_le_iff {members : List (String × Source)} {n : Nat} :
    depthMembers members ≤ n ↔ ∀ member ∈ members, member.2.depth ≤ n := by
  induction members with
  | nil => simp [depthMembers]
  | cons member members ih => rw [depthMembers, Nat.max_le, ih, List.forall_mem_cons]

/-- What stands there is not nested deeper than there is room for, if it can be read at all. -/
def Fits (room : Nat) (source : Source) : Prop := source.isReadable = true → source.depth ≤ room

theorem fits_of_not_readable {source : Source} (h : source.isReadable = false) (room : Nat) :
    source.Fits room := by
  intro hreadable
  rw [h] at hreadable
  cases hreadable

end Source

/-! ## Open containers -/

namespace Frame

/-- What is kept in a container fits into it. -/
def Fits (room : Nat) : Frame → Prop
  | .arr items kept => kept = true → 0 < room ∧ ∀ item ∈ items, item.Fits (room - 1)
  | .obj members _ kept => kept = true → 0 < room ∧ ∀ member ∈ members, member.2.Fits (room - 1)

theorem Fits.place {frame : Frame} {value : Source} {room : Nat} (h : frame.Fits room)
    (hvalue : value.Fits (room - 1)) : (frame.place value).Fits room := by
  cases frame with
  | arr items kept =>
      intro hkept
      obtain ⟨hroom, hitems⟩ := h hkept
      rw [if_pos hkept]
      exact ⟨hroom, List.forall_mem_cons.2 ⟨hvalue, hitems⟩⟩
  | obj members name kept =>
      intro hkept
      obtain ⟨hroom, hmembers⟩ := h hkept
      rw [if_pos hkept]
      exact ⟨hroom, List.forall_mem_cons.2 ⟨hvalue, hmembers⟩⟩

theorem kept_of_closedStop {kept : Bool} (h : (closedStop kept == .closed) = true) :
    kept = true := by
  cases kept with
  | true => rfl
  | false => cases h

theorem Fits.close {frame : Frame} {room : Nat} (h : frame.Fits room) :
    frame.close.Fits room := by
  intro hreadable
  cases frame with
  | arr items kept =>
      rw [Frame.close, Source.isReadable, Bool.and_eq_true, Source.readableItems_iff] at hreadable
      obtain ⟨hroom, hitems⟩ := h (kept_of_closedStop hreadable.2)
      have hdepth : Source.depthItems items.reverse ≤ room - 1 := by
        rw [Source.depthItems_le_iff]
        intro item hitem
        exact hitems item (List.mem_reverse.1 hitem) (hreadable.1 item hitem)
      rw [Frame.close, Source.depth]
      omega
  | obj members name kept =>
      rw [Frame.close, Source.isReadable, Bool.and_eq_true, Source.readableMembers_iff] at hreadable
      obtain ⟨hroom, hmembers⟩ := h (kept_of_closedStop hreadable.2)
      have hdepth : Source.depthMembers members.reverse ≤ room - 1 := by
        rw [Source.depthMembers_le_iff]
        intro member hmember
        exact hmembers member (List.mem_reverse.1 hmember) (hreadable.1 member hmember)
      rw [Frame.close, Source.depth]
      omega

theorem isReadable_cut (frame : Frame) : frame.cut.isReadable = false := by
  cases frame <;> exact Bool.and_false _

end Frame

/-! ## Building -/

namespace Builder

/-- What is kept in open containers fits into them. -/
def Fit : List Frame → Prop
  | [] => True
  | frame :: outer => frame.Fits (room outer) ∧ Fit outer

/-- What was built so far is not nested deeper than there is room for. -/
def Fits : Builder → Prop
  | .building frames _ => Fit frames
  | .finished root _ => root.Fits maxDepth

theorem fits_place {frames : List Frame} {value : Source} (h : Fit frames)
    (hvalue : value.Fits (room frames)) : (place frames value).Fits := by
  cases frames with
  | nil => exact hvalue
  | cons frame outer =>
      rw [room_cons] at hvalue
      exact ⟨h.1.place hvalue, h.2⟩

theorem fits_close {frame : Frame} {outer : List Frame} (h : Fit (frame :: outer)) :
    (place outer frame.close).Fits := fits_place h.2 h.1.close

theorem isReadable_cut (frames : List Frame) {inner : Source} (h : inner.isReadable = false) :
    (cut frames inner).isReadable = false := by
  induction frames generalizing inner with
  | nil => exact h
  | cons frame frames ih => exact ih (Frame.isReadable_cut (frame.place inner))

/-- Where the text stops being JSON, nothing comes of it that could be read. -/
theorem stray_eq (frames : List Frame) (slot : Slot) :
    ∃ root, stray frames slot = .finished root false ∧ root.isReadable = false := by
  have hvalue : (cut frames .broken).isReadable = false := isReadable_cut frames rfl
  cases frames with
  | nil => cases slot <;> exact ⟨_, rfl, hvalue⟩
  | cons frame outer =>
      have hcontainer : (cut outer frame.cut).isReadable = false :=
        isReadable_cut outer frame.isReadable_cut
      cases slot <;> first | exact ⟨_, rfl, hvalue⟩ | exact ⟨_, rfl, hcontainer⟩

theorem fits_stray (frames : List Frame) (slot : Slot) : (stray frames slot).Fits := by
  obtain ⟨root, hstray, hreadable⟩ := stray_eq frames slot
  rw [hstray]
  exact Source.fits_of_not_readable hreadable maxDepth

theorem room_pos_of_keeps {frames : List Frame} (h : keeps frames = true) : 0 < room frames :=
  of_decide_eq_true ((keeps_eq frames).symm.trans h)

theorem fits_scalar {token : Token} {value : Source} (h : scalar? token = some value)
    (room : Nat) : value.Fits room := by
  have hdepth : value.depth = 0 := by
    cases token with
    | num n =>
        cases h
        split <;> rfl
    | str text => cases text <;> cases h <;> rfl
    | _ => cases h <;> rfl
  intro _
  omega

theorem fits_acceptValue {frames : List Frame} (slot : Slot) (token : Token) (h : Fit frames) :
    (acceptValue frames slot token).Fits := by
  rw [acceptValue.eq_def]
  split
  · exact ⟨fun hkept => ⟨room_pos_of_keeps hkept, by simp⟩, h⟩
  · exact ⟨fun hkept => ⟨room_pos_of_keeps hkept, by simp⟩, h⟩
  · split
    · next value hvalue => exact fits_place h (fits_scalar hvalue _)
    · exact fits_stray frames slot

theorem fits_acceptName {frames : List Frame} (slot : Slot) (token : Token) (h : Fit frames) :
    (acceptName frames slot token).Fits := by
  rw [acceptName.eq_def]
  split
  · exact h
  · -- After a name that cannot be read the object counts as one whose contents were not kept.
    exact ⟨by rintro ⟨⟩, h.2⟩
  · exact fits_stray _ _

/-- One more token leaves what was built within bounds. -/
theorem fits_accept {builder : Builder} (h : builder.Fits) (token : Token) :
    (builder.accept token).Fits := by
  cases builder with
  | finished root clean => exact h
  | building frames slot =>
      rw [accept.eq_def]
      dsimp only
      cases slot with
      | value => exact fits_acceptValue .value token h
      | item =>
          dsimp only
          split
          · exact fits_close h
          · exact fits_acceptValue .item _ h
      | name => exact fits_acceptName .name token h
      | member =>
          dsimp only
          split
          · exact fits_close h
          · exact fits_acceptName .member _ h
      | colon =>
          dsimp only
          split
          · exact h
          · exact fits_stray _ _
      | separator =>
          dsimp only
          split
          · exact h
          · exact h
          · exact fits_close h
          · exact fits_close h
          · exact fits_stray _ _

theorem fits_foldl_accept {builder : Builder} (h : builder.Fits) (tokens : List Token) :
    (tokens.foldl accept builder).Fits := by
  induction tokens generalizing builder with
  | nil => exact h
  | cons token tokens ih => exact ih (fits_accept h token)

theorem fits_document {builder : Builder} (h : builder.Fits) :
    builder.document.root.Fits maxDepth := by
  cases builder with
  | finished root clean => exact h
  | building frames slot =>
      obtain ⟨root, hstray, hreadable⟩ := stray_eq frames slot
      rw [document, hstray]
      exact Source.fits_of_not_readable hreadable maxDepth

end Builder

/-- A text that can be read is not nested deeper than `maxDepth`. -/
theorem Document.depth_le_of_isReadable {text : String}
    (h : (ofText text).root.isReadable = true) : (ofText text).root.depth ≤ maxDepth := by
  have hinitial : Builder.Fits .initial := trivial
  rw [ofText_eq] at h ⊢
  exact Builder.fits_document (Builder.fits_foldl_accept hinitial _) h

end Strata
