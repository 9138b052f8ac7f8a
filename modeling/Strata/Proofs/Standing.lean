import Strata.Proofs.Scanning

/-!
# What stands in a written text

A value that is written out and looked at again is found as it was, as far down as contents are
kept: a container beyond `maxDepth` is met as one that cannot be read. `Source.within` is that view
of a value, `Document.ofText_render` says that the text of a value offers it, and by
`Source.isReadable_within` it can be read whole if and only if the value is not nested too deep.

The builder holds the open containers as frames. What the tokens of a value do to it does not depend
on what the frames hold, only on how many there are: they place one finished value.
-/

namespace Strata

/-! ## Legible values -/

/-- Whether a numeral can be written in decimal digits and read again. -/
def Numeral.isLegible (n : Numeral) : Bool := n.fraction.all (· < 10) && n.readable

namespace Json

mutual

/-- Whether every numeral of a value can be written and read again. -/
def isLegible : Json → Bool
  | .num n => n.isLegible
  | .arr items => legibleItems items
  | .obj members => legibleMembers members
  | _ => true

/-- Whether every item is legible. -/
def legibleItems : List Json → Bool
  | [] => true
  | item :: rest => item.isLegible && legibleItems rest

/-- Whether the value of every member is legible. -/
def legibleMembers : List (String × Json) → Bool
  | [] => true
  | (_, value) :: rest => value.isLegible && legibleMembers rest

end

theorem legibleItems_iff {items : List Json} :
    legibleItems items = true ↔ ∀ item ∈ items, item.isLegible = true := by
  induction items with
  | nil => simp [legibleItems]
  | cons item items ih => simp [legibleItems, ih]

theorem legibleMembers_iff {members : List (String × Json)} :
    legibleMembers members = true ↔ ∀ member ∈ members, member.2.isLegible = true := by
  induction members with
  | nil => simp [legibleMembers]
  | cons member members ih => simp [legibleMembers, ih]

end Json

/-! ## The words of a value

A numeral needs to know what comes next, and what comes next in the text of a value always ends
it. -/

namespace Lexeme

open Json

theorem scan_spell {token : Token} (rest : List Char)
    (h : (∃ b, token = .bool b) ∨ (∃ s, token = .str (some s)) ∨
      token ∈ [.beginArray, .endArray, .beginObject, .endObject, .comma, .colon, .null]) :
    scan .blank (token.spell ++ rest) = token :: scan .blank rest := by
  rcases h with ⟨b, rfl⟩ | ⟨s, rfl⟩ | h
  · cases b <;> rfl
  · exact scan_spellStr s rest
  · simp only [List.mem_cons, List.not_mem_nil, or_false] at h
    rcases h with rfl | rfl | rfl | rfl | rfl | rfl | rfl <;> rfl

theorem endsNumeral_moreItems (items : List Json) {rest : List Char} (hend : EndsNumeral rest) :
    EndsNumeral ((tokensMoreItems items).flatMap Token.spell ++ rest) := by
  cases items with
  | nil => exact hend
  | cons item items => exact endsNumeral_cons _ (by decide)

theorem endsNumeral_moreMembers (members : List (String × Json)) {rest : List Char}
    (hend : EndsNumeral rest) :
    EndsNumeral ((tokensMoreMembers members).flatMap Token.spell ++ rest) := by
  cases members with
  | nil => exact hend
  | cons member members => exact endsNumeral_cons _ (by decide)

theorem endsNumeral_endArray (rest : List Char) :
    EndsNumeral (Token.spell .endArray ++ rest) := endsNumeral_cons _ (by decide)

theorem endsNumeral_endObject (rest : List Char) :
    EndsNumeral (Token.spell .endObject ++ rest) := endsNumeral_cons _ (by decide)

/-- A word in front of a text that is known to be recognised. -/
theorem scan_flatMap_cons {token : Token} {tokens : List Token} {rest : List Char}
    (htoken : ∀ text, scan .blank (token.spell ++ text) = token :: scan .blank text)
    (hrest : scan .blank (tokens.flatMap Token.spell ++ rest) = tokens ++ scan .blank rest) :
    scan .blank ((token :: tokens).flatMap Token.spell ++ rest)
      = token :: tokens ++ scan .blank rest := by
  rw [List.flatMap_cons, List.append_assoc, htoken, hrest]
  rfl

/-- Words in front of a text that is known to be recognised. -/
theorem scan_flatMap_append {first more : List Token} {rest : List Char}
    (hfirst : scan .blank (first.flatMap Token.spell ++ (more.flatMap Token.spell ++ rest))
      = first ++ scan .blank (more.flatMap Token.spell ++ rest))
    (hmore : scan .blank (more.flatMap Token.spell ++ rest) = more ++ scan .blank rest) :
    scan .blank ((first ++ more).flatMap Token.spell ++ rest)
      = first ++ more ++ scan .blank rest := by
  rw [List.flatMap_append, List.append_assoc, hfirst, hmore, List.append_assoc]

theorem scan_spell_comma (rest : List Char) :
    scan .blank (Token.spell .comma ++ rest) = .comma :: scan .blank rest := rfl

theorem scan_spell_colon (rest : List Char) :
    scan .blank (Token.spell .colon ++ rest) = .colon :: scan .blank rest := rfl

mutual

theorem scan_tokens (value : Json) (h : value.isLegible = true) {rest : List Char}
    (hend : EndsNumeral rest) :
    scan .blank (value.tokens.flatMap Token.spell ++ rest) = value.tokens ++ scan .blank rest := by
  match value with
  | .null => rfl
  | .bool b => exact scan_flatMap_cons (fun text => scan_spell text (.inl ⟨b, rfl⟩)) rfl
  | .str s => exact scan_flatMap_cons (scan_spellStr s) rfl
  | .num n =>
      have hdigits : ∀ d ∈ n.fraction, d < 10 := by
        rw [isLegible, Numeral.isLegible, Bool.and_eq_true, List.all_eq_true] at h
        exact fun d hd => of_decide_eq_true (h.1 d hd)
      have hn := scan_spellNumeral n hdigits hend
      rw [Json.tokens, List.flatMap_singleton]
      exact hn
  | .arr items =>
      rw [isLegible] at h
      refine scan_flatMap_cons (fun text => rfl) (scan_flatMap_append ?_ rfl)
      exact scan_tokensItems items h (endsNumeral_endArray rest)
  | .obj members =>
      rw [isLegible] at h
      refine scan_flatMap_cons (fun text => rfl) (scan_flatMap_append ?_ rfl)
      exact scan_tokensMembers members h (endsNumeral_endObject rest)

theorem scan_tokensItems (items : List Json) (h : legibleItems items = true) {rest : List Char}
    (hend : EndsNumeral rest) :
    scan .blank ((tokensItems items).flatMap Token.spell ++ rest)
      = tokensItems items ++ scan .blank rest := by
  match items with
  | [] => rfl
  | item :: more =>
      rw [legibleItems, Bool.and_eq_true] at h
      exact scan_flatMap_append (scan_tokens item h.1 (endsNumeral_moreItems more hend))
        (scan_tokensMoreItems more h.2 hend)

theorem scan_tokensMoreItems (items : List Json) (h : legibleItems items = true)
    {rest : List Char} (hend : EndsNumeral rest) :
    scan .blank ((tokensMoreItems items).flatMap Token.spell ++ rest)
      = tokensMoreItems items ++ scan .blank rest := by
  match items with
  | [] => rfl
  | item :: more =>
      rw [legibleItems, Bool.and_eq_true] at h
      refine scan_flatMap_cons scan_spell_comma (scan_flatMap_append ?_ ?_)
      · exact scan_tokens item h.1 (endsNumeral_moreItems more hend)
      · exact scan_tokensMoreItems more h.2 hend

theorem scan_tokensMembers (members : List (String × Json)) (h : legibleMembers members = true)
    {rest : List Char} (hend : EndsNumeral rest) :
    scan .blank ((tokensMembers members).flatMap Token.spell ++ rest)
      = tokensMembers members ++ scan .blank rest := by
  match members with
  | [] => rfl
  | (name, value) :: more =>
      rw [legibleMembers, Bool.and_eq_true] at h
      refine scan_flatMap_cons (scan_spellStr name)
        (scan_flatMap_cons scan_spell_colon (scan_flatMap_append ?_ ?_))
      · exact scan_tokens value h.1 (endsNumeral_moreMembers more hend)
      · exact scan_tokensMoreMembers more h.2 hend

theorem scan_tokensMoreMembers (members : List (String × Json))
    (h : legibleMembers members = true) {rest : List Char} (hend : EndsNumeral rest) :
    scan .blank ((tokensMoreMembers members).flatMap Token.spell ++ rest)
      = tokensMoreMembers members ++ scan .blank rest := by
  match members with
  | [] => rfl
  | (name, value) :: more =>
      rw [legibleMembers, Bool.and_eq_true] at h
      refine scan_flatMap_cons scan_spell_comma (scan_flatMap_cons (scan_spellStr name)
        (scan_flatMap_cons scan_spell_colon (scan_flatMap_append ?_ ?_)))
      · exact scan_tokens value h.1 (endsNumeral_moreMembers more hend)
      · exact scan_tokensMoreMembers more h.2 hend

end

theorem scan_render (value : Json) (h : value.isLegible = true) :
    scan .blank value.render.toList = value.tokens := by
  rw [Json.render, String.toList_ofList, ← List.append_nil (value.tokens.flatMap Token.spell),
    scan_tokens value h endsNumeral_nil]
  exact List.append_nil value.tokens

end Lexeme

/-! ## The view of a value -/

namespace Source

theorem readableItems_iff {items : List Source} :
    readableItems items = true ↔ ∀ item ∈ items, item.isReadable = true := by
  induction items with
  | nil => simp [readableItems]
  | cons item items ih => simp [readableItems, ih]

theorem readableMembers_iff {members : List (String × Source)} :
    readableMembers members = true ↔ ∀ member ∈ members, member.2.isReadable = true := by
  induction members with
  | nil => simp [readableMembers]
  | cons member members ih => simp [readableMembers, ih]

theorem isWellFormed_of_isReadable {source : Source} (h : source.isReadable = true) :
    source.isWellFormed = true := by
  cases source with
  | arr items stop => cases stop <;> simp_all [isReadable, isWellFormed]
  | obj members stop => cases stop <;> simp_all [isReadable, isWellFormed]
  | broken => cases h
  | _ => rfl

mutual

/-- A value as it stands in a text where so many more levels of containers are kept. -/
def within : Nat → Json → Source
  | _, .null => .null
  | _, .bool b => .bool b
  | _, .num n => if n.readable then .num n else .unreadable
  | _, .str s => .str s
  | 0, .arr _ => .arr [] .unreadable
  | 0, .obj _ => .obj [] .unreadable
  | room + 1, .arr items => .arr (withinItems room items) .closed
  | room + 1, .obj members => .obj (withinMembers room members) .closed

/-- Items as they stand where so many more levels are kept. -/
def withinItems : Nat → List Json → List Source
  | _, [] => []
  | room, item :: rest => within room item :: withinItems room rest

/-- Members as they stand where so many more levels are kept. -/
def withinMembers : Nat → List (String × Json) → List (String × Source)
  | _, [] => []
  | room, (name, value) :: rest => (name, within room value) :: withinMembers room rest

end

mutual

theorem within_of_depth_le {room : Nat} (value : Json) (h : value.depth ≤ room) :
    within room value = ofJson value := by
  match value with
  | .null => rw [within, ofJson]
  | .bool b => rw [within, ofJson]
  | .num n => rw [within, ofJson]
  | .str s => rw [within, ofJson]
  | .arr items =>
      rw [Json.depth] at h
      obtain ⟨room, rfl⟩ : ∃ r, room = r + 1 := ⟨room - 1, by omega⟩
      rw [within, ofJson, withinItems_of_depth_le items (by omega)]
  | .obj members =>
      rw [Json.depth] at h
      obtain ⟨room, rfl⟩ : ∃ r, room = r + 1 := ⟨room - 1, by omega⟩
      rw [within, ofJson, withinMembers_of_depth_le members (by omega)]

theorem withinItems_of_depth_le {room : Nat} (items : List Json)
    (h : Json.depthItems items ≤ room) : withinItems room items = ofItems items := by
  match items with
  | [] => rw [withinItems, ofItems]
  | item :: rest =>
      rw [Json.depthItems] at h
      rw [withinItems, ofItems, within_of_depth_le item (by omega),
        withinItems_of_depth_le rest (by omega)]

theorem withinMembers_of_depth_le {room : Nat} (members : List (String × Json))
    (h : Json.depthMembers members ≤ room) : withinMembers room members = ofMembers members := by
  match members with
  | [] => rw [withinMembers, ofMembers]
  | (name, value) :: rest =>
      rw [Json.depthMembers] at h
      rw [withinMembers, ofMembers, within_of_depth_le value (by omega),
        withinMembers_of_depth_le rest (by omega)]

end

mutual

theorem isReadable_within (room : Nat) (value : Json) (h : value.isLegible = true) :
    (within room value).isReadable = decide (value.depth ≤ room) := by
  match value with
  | .null => simp [within, isReadable, Json.depth]
  | .bool b => simp [within, isReadable, Json.depth]
  | .str s => simp [within, isReadable, Json.depth]
  | .num n =>
      rw [Json.isLegible, Numeral.isLegible, Bool.and_eq_true] at h
      simp [within, h.2, isReadable, Json.depth]
  | .arr items =>
      rw [Json.isLegible] at h
      cases room with
      | zero => simp [within, isReadable, Json.depth]
      | succ room => simp [within, isReadable, Json.depth, readableItems_within room items h]
  | .obj members =>
      rw [Json.isLegible] at h
      cases room with
      | zero => simp [within, isReadable, Json.depth]
      | succ room => simp [within, isReadable, Json.depth, readableMembers_within room members h]

theorem readableItems_within (room : Nat) (items : List Json)
    (h : Json.legibleItems items = true) :
    readableItems (withinItems room items) = decide (Json.depthItems items ≤ room) := by
  match items with
  | [] => simp [withinItems, readableItems, Json.depthItems]
  | item :: rest =>
      rw [Json.legibleItems, Bool.and_eq_true] at h
      rw [withinItems, readableItems, isReadable_within room item h.1,
        readableItems_within room rest h.2, Json.depthItems, ← Bool.decide_and,
        decide_eq_decide, Nat.max_le]

theorem readableMembers_within (room : Nat) (members : List (String × Json))
    (h : Json.legibleMembers members = true) :
    readableMembers (withinMembers room members)
      = decide (Json.depthMembers members ≤ room) := by
  match members with
  | [] => simp [withinMembers, readableMembers, Json.depthMembers]
  | (name, value) :: rest =>
      rw [Json.legibleMembers, Bool.and_eq_true] at h
      rw [withinMembers, readableMembers, isReadable_within room value h.1,
        readableMembers_within room rest h.2, Json.depthMembers, ← Bool.decide_and,
        decide_eq_decide, Nat.max_le]

end

theorem isReadable_ofJson {value : Json} (h : value.isLegible = true) :
    (ofJson value).isReadable = true := by
  rw [← within_of_depth_le value (Nat.le_refl _), isReadable_within _ value h]
  exact decide_eq_true (Nat.le_refl _)

end Source

/-! ## Building -/

namespace Builder

open Source Json

/-- How many more levels of containers are kept inside of these. -/
def room (frames : List Frame) : Nat := maxDepth - frames.length

/-- The contents of a container are kept exactly where there is room for another level. -/
theorem keeps_eq (frames : List Frame) : keeps frames = decide (0 < room frames) := by
  rw [Bool.eq_iff_iff, keeps, Option.isNone_iff_eq_none, List.getElem?_eq_none_iff,
    decide_eq_true_eq, room, maxDepth]
  omega

theorem room_cons (frame : Frame) (frames : List Frame) :
    room (frame :: frames) = room frames - 1 := by
  rw [room, room, List.length_cons]
  omega

/-- What the items of an open array are when it is closed. -/
theorem within_arr (frames : List Frame) (items : List Json) :
    within (room frames) (.arr items)
      = .arr (if keeps frames then withinItems (room frames - 1) items else [])
          (Frame.closedStop (keeps frames)) := by
  rw [keeps_eq]
  cases room frames <;> rfl

/-- What the members of an open object are when it is closed. -/
theorem within_obj (frames : List Frame) (members : List (String × Json)) :
    within (room frames) (.obj members)
      = .obj (if keeps frames then withinMembers (room frames - 1) members else [])
          (Frame.closedStop (keeps frames)) := by
  rw [keeps_eq]
  cases room frames <;> rfl

theorem place_arr (items : List Source) (kept : Bool) (frames : List Frame) (value : Source) :
    place (.arr items kept :: frames) value
      = .building (.arr (if kept then value :: items else items) kept :: frames) .separator := rfl

theorem place_obj (members : List (String × Source)) (name : String) (kept : Bool)
    (frames : List Frame) (value : Source) :
    place (.obj members name kept :: frames) value
      = .building (.obj (if kept then (name, value) :: members else members) name kept :: frames)
          .separator := rfl

mutual

/-- The tokens of a value place what stands for it, be it in want of a value or of an item. -/
theorem accept_tokens (value : Json) (frames : List Frame) {slot : Slot}
    (hslot : slot = .value ∨ slot = .item) :
    value.tokens.foldl accept (.building frames slot)
      = place frames (within (room frames) value) := by
  match value with
  | .null => rcases hslot with rfl | rfl <;> rw [within] <;> rfl
  | .bool b => rcases hslot with rfl | rfl <;> rw [within] <;> rfl
  | .num n => rcases hslot with rfl | rfl <;> rw [within] <;> rfl
  | .str s => rcases hslot with rfl | rfl <;> rw [within] <;> rfl
  | .arr items =>
      have hopen : accept (.building frames slot) .beginArray
          = .building (.arr [] (keeps frames) :: frames) .item := by
        rcases hslot with rfl | rfl <;> rfl
      rw [Json.tokens, List.cons_append, List.foldl_cons, hopen, within_arr]
      exact accept_tokensItems items (keeps frames) frames
  | .obj members =>
      have hopen : accept (.building frames slot) .beginObject
          = .building (.obj [] "" (keeps frames) :: frames) .member := by
        rcases hslot with rfl | rfl <;> rfl
      rw [Json.tokens, List.cons_append, List.foldl_cons, hopen, within_obj]
      exact accept_tokensMembers members "" (keeps frames) frames

theorem accept_tokensItems (items : List Json) (kept : Bool) (frames : List Frame) :
    (tokensItems items ++ [Token.endArray]).foldl accept (.building (.arr [] kept :: frames) .item)
      = place frames
          (.arr (if kept then withinItems (room frames - 1) items else [])
            (Frame.closedStop kept)) := by
  match items with
  | [] => cases kept <;> rfl
  | item :: rest =>
      have hitem := accept_tokens item (.arr [] kept :: frames) (.inr rfl)
      rw [tokensItems, List.append_assoc, List.foldl_append, hitem, place_arr, room_cons,
        accept_tokensMoreItems rest _ kept frames, withinItems]
      cases kept <;> rfl

theorem accept_tokensMoreItems (items : List Json) (before : List Source) (kept : Bool)
    (frames : List Frame) :
    (tokensMoreItems items ++ [Token.endArray]).foldl accept
        (.building (.arr before kept :: frames) .separator)
      = place frames
          (.arr (before.reverse ++ if kept then withinItems (room frames - 1) items else [])
            (Frame.closedStop kept)) := by
  match items with
  | [] =>
      cases kept <;> simp only [withinItems, ite_self, List.append_nil] <;> rfl
  | item :: rest =>
      have hcomma : accept (.building (.arr before kept :: frames) .separator) .comma
          = .building (.arr before kept :: frames) .value := rfl
      have hitem := accept_tokens item (.arr before kept :: frames) (.inl rfl)
      rw [tokensMoreItems, List.cons_append, List.cons_append, List.foldl_cons, hcomma,
        List.append_assoc, List.foldl_append, hitem, place_arr, room_cons,
        accept_tokensMoreItems rest _ kept frames, withinItems]
      cases kept with
      | true => simp
      | false => simp

theorem accept_tokensMembers (members : List (String × Json)) (last : String) (kept : Bool)
    (frames : List Frame) :
    (tokensMembers members ++ [Token.endObject]).foldl accept
        (.building (.obj [] last kept :: frames) .member)
      = place frames
          (.obj (if kept then withinMembers (room frames - 1) members else [])
            (Frame.closedStop kept)) := by
  match members with
  | [] => cases kept <;> rfl
  | (name, value) :: rest =>
      have hname : [Token.str (some name), .colon].foldl accept
          (.building (.obj [] last kept :: frames) .member)
          = .building (.obj [] name kept :: frames) .value := rfl
      have hvalue := accept_tokens value (.obj [] name kept :: frames) (.inl rfl)
      have hsplit : tokensMembers ((name, value) :: rest) ++ [Token.endObject]
          = [.str (some name), .colon]
            ++ (value.tokens ++ (tokensMoreMembers rest ++ [Token.endObject])) := by
        simp [tokensMembers]
      rw [hsplit, List.foldl_append, hname, List.foldl_append, hvalue, place_obj, room_cons,
        accept_tokensMoreMembers rest _ name kept frames, withinMembers]
      cases kept <;> rfl

theorem accept_tokensMoreMembers (members : List (String × Json))
    (before : List (String × Source)) (last : String) (kept : Bool) (frames : List Frame) :
    (tokensMoreMembers members ++ [Token.endObject]).foldl accept
        (.building (.obj before last kept :: frames) .separator)
      = place frames
          (.obj (before.reverse ++ if kept then withinMembers (room frames - 1) members else [])
            (Frame.closedStop kept)) := by
  match members with
  | [] =>
      cases kept <;> simp only [withinMembers, ite_self, List.append_nil] <;> rfl
  | (name, value) :: rest =>
      have hname : [Token.comma, .str (some name), .colon].foldl accept
          (.building (.obj before last kept :: frames) .separator)
          = .building (.obj before name kept :: frames) .value := rfl
      have hvalue := accept_tokens value (.obj before name kept :: frames) (.inl rfl)
      have hsplit : tokensMoreMembers ((name, value) :: rest) ++ [Token.endObject]
          = [.comma, .str (some name), .colon]
            ++ (value.tokens ++ (tokensMoreMembers rest ++ [Token.endObject])) := by
        simp [tokensMoreMembers]
      rw [hsplit, List.foldl_append, hname, List.foldl_append, hvalue, place_obj, room_cons,
        accept_tokensMoreMembers rest _ name kept frames, withinMembers]
      cases kept with
      | true => simp
      | false => simp

end

/-- What was built when the tokens end. -/
def document (builder : Builder) : Document :=
  match builder with
  | .finished root clean => ⟨root, clean⟩
  | .building frames slot =>
    match stray frames slot with
    | .finished root _ => ⟨root, false⟩
    | .building _ _ => ⟨.broken, false⟩

end Builder

namespace Document

theorem finish_foldl_step (reader : Reader) (text : List Char) :
    (text.foldl Reader.step reader).finish
      = ((reader.lexeme.scan text).foldl Builder.accept reader.builder).document := by
  induction text generalizing reader with
  | nil => rfl
  | cons c text ih => rw [List.foldl_cons, ih, Lexeme.scan, List.foldl_append, Reader.step]

theorem ofText_eq (text : String) :
    ofText text = ((Lexeme.scan .blank text.toList).foldl Builder.accept .initial).document :=
  finish_foldl_step .initial text.toList

/-- The text of a value holds the value, down to the level where contents are no longer kept, and
nothing else. -/
theorem ofText_render (value : Json) (h : value.isLegible = true) :
    ofText value.render = ⟨Source.within maxDepth value, true⟩ := by
  rw [ofText_eq, Lexeme.scan_render value h]
  have hbuilt := Builder.accept_tokens value [] (.inl rfl)
  rw [Builder.initial, hbuilt]
  rfl

end Document

end Strata
